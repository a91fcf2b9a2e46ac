import RobotAdmin.Proofs.Json.Count
import RobotAdmin.Proofs.Json.Skipping
import RobotAdmin.Proofs.Settings.Grammar
import RobotAdmin.Proofs.Settings.Keeping
import RobotAdmin.Proofs.Text.Decoding

namespace RobotAdmin.Settings

open Json Json.Grammar

section

variable {input rest : List UInt8}

theorem reads_readServer_iff {server : String} :
    Reads readServer input server rest ↔
      ∃ start, Space input ('"'.toUInt8 :: start) ∧ Text start server.toList rest := by
  rw [← reads_readOpening_text_iff]
  constructor
  · rintro ⟨_, hread⟩
    rw [readServer, readTextAs] at hread
    split at hread
    · cases hread
    rename_i opening hopening
    split at hread
    · rename_i text htext
      obtain ⟨rfl, rfl⟩ := Taken.mk.inj (Except.ok.inj hread)
      exact ⟨opening.shorter, by rw [hopening, ← htext]⟩
    · cases hread
    · cases hread
    · cases hread
  · rintro ⟨shorter, hopening⟩
    refine ⟨shorter, ?_⟩
    rw [readServer, readTextAs, hopening]
    rfl

theorem digits_of_readTimeout {secs : UInt64} (hread : Reads readTimeout input secs rest) :
    Space input (digits secs ++ rest) := by
  obtain ⟨_, hread⟩ := hread
  rw [readTimeout, readWordAs] at hread
  split at hread
  · cases hread
  rename_i opening hopening
  split at hread
  · rename_i n hn
    split at hread
    · cases hread
    rename_i hsign
    obtain ⟨rfl, rfl⟩ := Taken.mk.inj (Except.ok.inj hread)
    obtain ⟨start, hspace, hnumber⟩ := number_of_readOpening ⟨opening.shorter, by rw [hopening, ← hn]⟩
    obtain ⟨m, hm, rfl, rfl, _⟩ := digits_of_readNumber hnumber (by omega)
    have hword : (UInt64.ofNat (m : Int).toNat).toNat = m := UInt64.toNat_ofNat_of_lt hm
    dsimp only
    rw [digits, hword]
    exact hspace
  · cases hread
  · cases hread
  · cases hread

/-- A timeout that a number could not go on behind is read from its digits. -/
theorem reads_readTimeout_of_digits {secs : UInt64} (hspace : Space input (digits secs ++ rest))
    (hrest : EndsInteger rest) : Reads readTimeout input secs rest :=
  reads_readTimeout hrest (skipSpace_of_space hspace)

end

/-- A draft with one more entry, unless it has that setting already. -/
def Draft.add? (draft : Draft) : Entry → Option Draft
  | .server server => if draft.server.isSome then none else some { draft with server := some server }
  | .timeoutSecs secs => if draft.timeoutSecs.isSome then none else some { draft with timeoutSecs := some secs }
  | .other => some draft

/-- Each setting is added at most once. -/
theorem foldlM_add?_eq_some_iff (entries : List Entry) (draft final : Draft) :
    entries.foldlM Draft.add? draft = some final ↔
      draft.server.toList ++ entries.filterMap Entry.server? = final.server.toList ∧
        draft.timeoutSecs.toList ++ entries.filterMap Entry.timeoutSecs? = final.timeoutSecs.toList := by
  -- A setting that comes again makes a list of two, which is that of no option.
  have htwice {α : Type} {a b : α} {more : List α} {found : Option α} : a :: b :: more ≠ found.toList := by
    cases found <;> simp
  induction entries generalizing draft with
  | nil =>
    obtain ⟨server, secs⟩ := draft
    obtain ⟨server', secs'⟩ := final
    cases server <;> cases server' <;> cases secs <;> cases secs' <;> simp
  | cons entry entries ih =>
    rw [List.foldlM_cons, List.filterMap_cons, List.filterMap_cons]
    cases entry with
    | server s =>
      cases hserver : draft.server with
      | none => simp [Draft.add?, hserver, ih, Entry.server?, Entry.timeoutSecs?]
      | some met => simp [Draft.add?, hserver, Entry.server?, htwice]
    | timeoutSecs secs =>
      cases hsecs : draft.timeoutSecs with
      | none => simp [Draft.add?, hsecs, ih, Entry.server?, Entry.timeoutSecs?]
      | some met => simp [Draft.add?, hsecs, Entry.timeoutSecs?, htwice]
    | other => simp [Draft.add?, ih, Entry.server?, Entry.timeoutSecs?]

section

variable {input start behind rest : List UInt8} {name : String} {draft next : Draft}

theorem takeMember_server (hfresh : ¬ draft.server.isSome = true) :
    takeMember draft "server" input =
      (readMember readServer input).map (·.map fun server => { draft with server := some server }) := by
  rw [takeMember, if_pos rfl, if_neg hfresh]

theorem takeMember_timeoutSecs (hfresh : ¬ draft.timeoutSecs.isSome = true) :
    takeMember draft "timeout_secs" input =
      (readMember readTimeout input).map (·.map fun secs => { draft with timeoutSecs := some secs }) := by
  rw [takeMember, if_neg (by decide), if_pos rfl, if_neg hfresh]

theorem takeMember_other (hserver : name ≠ "server") (htimeout : name ≠ "timeout_secs") :
    takeMember draft name input = (readMember skipValue input).map (·.map fun _ => draft) := by
  rw [takeMember, if_neg hserver, if_neg htimeout]

theorem reads_takeMember_iff {α : Type} {read : Reader α} {add : α → Draft}
    (hstep : takeMember draft name input = (readMember read input).map (·.map add)) :
    Reads (takeMember draft name) input next rest ↔
      ∃ colon value, Space input (':'.toUInt8 :: colon) ∧ Reads read colon value rest ∧ add value = next := by
  simp only [reads_map_iff hstep, reads_readMember_iff, reads_readColon_iff]
  constructor
  · rintro ⟨value, ⟨colon, hcolon, hread⟩, hvalue⟩
    exact ⟨colon, value, hcolon, hread, hvalue⟩
  · rintro ⟨colon, value, hcolon, hread, hvalue⟩
    exact ⟨value, ⟨colon, hcolon, hread⟩, hvalue⟩

/-- A setting that is met again is not taken. -/
theorem fresh_of_takeMember (hread : Reads (takeMember draft name) input next rest) :
    (name = "server" → ¬ draft.server.isSome = true) ∧ (name = "timeout_secs" → ¬ draft.timeoutSecs.isSome = true) := by
  obtain ⟨_, hread⟩ := hread
  constructor
  · rintro rfl hmet
    rw [takeMember, if_pos rfl, if_pos hmet] at hread
    cases hread
  · rintro rfl hmet
    rw [takeMember, if_neg (by decide), if_pos rfl, if_pos hmet] at hread
    cases hread

/-- A member that is taken is one of the grammar, and its entry is added to the draft. -/
theorem member_of_takeMember (hquote : Space input ('"'.toUInt8 :: start)) (hname : Text start name.toList behind)
    (hread : Reads (takeMember draft name) behind next rest) :
    ∃ entry, Member input entry rest ∧ draft.add? entry = some next := by
  obtain ⟨hserver, htimeout⟩ := fresh_of_takeMember hread
  by_cases hs : name = "server"
  · subst hs
    have hfresh := hserver rfl
    obtain ⟨colon, server, hcolon, hvalue, rfl⟩ := (reads_takeMember_iff (takeMember_server hfresh)).mp hread
    obtain ⟨body, hspace, htext⟩ := reads_readServer_iff.mp hvalue
    exact ⟨.server server, .server ⟨start, behind, colon, hquote, hname, hcolon, hspace⟩ htext, if_neg hfresh⟩
  by_cases ht : name = "timeout_secs"
  · subst ht
    have hfresh := htimeout rfl
    obtain ⟨colon, secs, hcolon, hvalue, rfl⟩ := (reads_takeMember_iff (takeMember_timeoutSecs hfresh)).mp hread
    exact ⟨.timeoutSecs secs, .timeoutSecs ⟨start, behind, colon, hquote, hname, hcolon, digits_of_readTimeout hvalue⟩,
      if_neg hfresh⟩
  · obtain ⟨colon, _, hcolon, hskip, rfl⟩ := (reads_takeMember_iff (takeMember_other hs ht)).mp hread
    obtain ⟨value, hspace, hvalue⟩ := value_of_skipValue hskip
    exact ⟨.other, .other ⟨start, behind, colon, hquote, hname, hcolon, hspace⟩ hs ht hvalue, rfl⟩

/-- A member of the grammar is taken if its entry can be added. -/
theorem takeMember_of_member {entry : Entry} (hmember : Member input entry rest) (hrest : EndsInteger rest)
    (hadd : draft.add? entry = some next) :
    ∃ start name behind, Space input ('"'.toUInt8 :: start) ∧ Text start name.toList behind ∧
      Reads (takeMember draft name) behind next rest := by
  cases hmember with
  | server hname hserver =>
    obtain ⟨start, behind, colon, hquote, htext, hcolon, hvalue⟩ := hname
    rw [Draft.add?] at hadd
    split at hadd
    · cases hadd
    rename_i hfresh
    obtain rfl := Option.some.inj hadd
    have hread := reads_readServer_iff.mpr ⟨_, hvalue, hserver⟩
    exact ⟨start, _, behind, hquote, htext,
      (reads_takeMember_iff (takeMember_server hfresh)).mpr ⟨colon, _, hcolon, hread, rfl⟩⟩
  | timeoutSecs hname =>
    obtain ⟨start, behind, colon, hquote, htext, hcolon, hvalue⟩ := hname
    rw [Draft.add?] at hadd
    split at hadd
    · cases hadd
    rename_i hfresh
    obtain rfl := Option.some.inj hadd
    have hread := reads_readTimeout_of_digits hvalue hrest
    exact ⟨start, _, behind, hquote, htext,
      (reads_takeMember_iff (takeMember_timeoutSecs hfresh)).mpr ⟨colon, _, hcolon, hread, rfl⟩⟩
  | other hname hserver htimeout hvalue =>
    obtain ⟨start, behind, colon, hquote, htext, hcolon, hspace⟩ := hname
    obtain rfl := Option.some.inj hadd
    have hread := reads_skipValue hspace hvalue hrest
    exact ⟨start, _, behind, hquote, htext,
      (reads_takeMember_iff (takeMember_other hserver htimeout)).mpr ⟨colon, (), hcolon, hread, rfl⟩⟩

end

section

variable {whole input rest : List UInt8} {first : Bool} {draft final : Draft}

/-- Members that are taken one after the other make up the grammar's as soon as the object closes. -/
theorem members_of_foldMembers {hinput : input.length ≤ whole.length} {last : Rest whole}
    (hfold : foldMembers takeMember whole draft first input hinput = .ok (final, last)) :
    ∃ entries, (∀ rest, Space last.val ('\x7d'.toUInt8 :: rest) → Members first input entries rest) ∧
      entries.foldlM Draft.add? draft = some final := by
  -- The closing brace is left for later, so what stands behind it is open until the end.
  fun_induction foldMembers takeMember whole draft first input hinput with
  | case1 => cases hfold
  | case2 =>
    obtain ⟨rfl, rfl⟩ := Prod.mk.inj (Except.ok.inj hfold)
    exact ⟨[], fun _ hclose => .close hclose, rfl⟩
  | case3 => cases hfold
  | case4 draft first input hinput name hname member hmember _ ih =>
    obtain ⟨start, body, hcomma, hquote, htext⟩ := comma_of_nextName hname
    obtain ⟨entry, hentry, hadd⟩ := member_of_takeMember hquote htext ⟨member.shorter, hmember⟩
    obtain ⟨entries, hmembers, hfinal⟩ := ih hfold
    exact ⟨entry :: entries, fun rest hclose => .next hcomma hentry (hmembers rest hclose), by simp [hadd, hfinal]⟩

theorem endsInteger_of_members {entries : List Entry} (hmembers : Members false input entries rest) :
    EndsInteger input := by
  cases hmembers with
  | close hclose => exact endsInteger_of_space (by decide) hclose
  | next hcomma => exact endsInteger_of_space (by decide) hcomma

theorem foldMembers_of_members {entries : List Entry} (hmembers : Members first input entries rest)
    (hfinal : entries.foldlM Draft.add? draft = some final) (hinput : input.length ≤ whole.length) :
    ∃ last : Rest whole, foldMembers takeMember whole draft first input hinput = .ok (final, last) ∧
      Space last.val ('\x7d'.toUInt8 :: rest) := by
  induction hmembers generalizing draft with
  | @close first input rest hclose =>
    obtain rfl := Option.some.inj hfinal
    exact ⟨⟨input, hinput⟩, foldMembers_end ((space_cons_iff (by decide)).mp hclose) hinput, hclose⟩
  | next hcomma hmember hmore ih =>
    rw [List.foldlM_cons] at hfinal
    obtain ⟨next, hadd, hfinal⟩ := Option.bind_eq_some_iff.mp hfinal
    obtain ⟨body, name, behind, hquote, htext, hread⟩ :=
      takeMember_of_member hmember (endsInteger_of_members hmore) hadd
    obtain ⟨hrest, hstep⟩ := foldMembers_next (nextName_of_comma hcomma hquote htext) hread hinput
    rw [hstep]
    exact ih hfinal hrest

end

section

variable {input rest : List UInt8}

theorem reads_readObject_iff_members {settings : Settings} :
    Reads (readObject {} takeMember fun draft => .ok (ofDraft draft)) input settings rest ↔
      ∃ entries draft, Members true input entries rest ∧ entries.foldlM Draft.add? {} = some draft ∧
        ofDraft draft = settings := by
  constructor
  · rintro ⟨_, hread⟩
    rw [readObject] at hread
    split at hread
    · cases hread
    rename_i draft last hfold
    obtain ⟨entries, hmembers, hdraft⟩ := members_of_foldMembers hfold
    obtain ⟨closed, hclosed, hsame⟩ := exists_of_map_eq_ok hread
    obtain ⟨hvalue, rfl⟩ := Taken.mk.inj hsame
    have hclose := reads_closeObject_iff.mp ⟨closed.shorter, hclosed⟩
    exact ⟨entries, draft, hmembers _ hclose, hdraft, hvalue⟩
  · rintro ⟨entries, draft, hmembers, hdraft, rfl⟩
    obtain ⟨last, hfold, hclose⟩ := foldMembers_of_members hmembers hdraft (Nat.le_refl input.length)
    obtain ⟨shorter, hclosed⟩ := reads_closeObject_iff.mpr hclose
    refine ⟨Nat.lt_of_lt_of_le shorter last.property, ?_⟩
    rw [readObject, hfold]
    simp only [hclosed]
    rfl

theorem space_of_finishItems {whole : List UInt8} {draft : Draft} {hinput : input.length ≤ whole.length}
    {taken : Taken Draft whole} (hread : finishItems whole draft input hinput = .ok taken) :
    taken.value = draft ∧ Space input (']'.toUInt8 :: taken.rest) := by
  obtain ⟨closed, hclosed, rfl⟩ := exists_of_map_eq_ok hread
  exact ⟨rfl, reads_closeArray_iff.mp ⟨closed.shorter, hclosed⟩⟩

theorem finishItems_of_space {whole : List UInt8} (draft : Draft) (hclose : Space input (']'.toUInt8 :: rest))
    (hinput : input.length ≤ whole.length) :
    ∃ shorter, finishItems whole draft input hinput = .ok ⟨draft, rest, shorter⟩ := by
  obtain ⟨shorter, hclosed⟩ := reads_closeArray_iff.mpr hclose
  refine ⟨Nat.lt_of_lt_of_le shorter hinput, ?_⟩
  rw [finishItems, hclosed]
  rfl

theorem items_of_readItemsDraft {draft : Draft} (hread : Reads readItemsDraft input draft rest) :
    Items input draft.server draft.timeoutSecs rest := by
  obtain ⟨_, hread⟩ := hread
  rw [readItemsDraft] at hread
  split at hread
  · cases hread
  · obtain ⟨rfl, hclose⟩ := space_of_finishItems hread
    exact .neither hclose
  rename_i start hstart
  obtain ⟨before, hbefore, hspace⟩ := comma_of_nextItem hstart
  obtain rfl : input = before := hbefore
  split at hread
  · cases hread
  rename_i server hserver
  obtain ⟨body, hquote, htext⟩ := reads_readServer_iff.mp ⟨server.shorter, hserver⟩
  dsimp only at hread
  split at hread
  · cases hread
  · obtain ⟨rfl, hclose⟩ := space_of_finishItems hread
    exact .server (hspace.trans hquote) htext hclose
  rename_i next hnext
  obtain ⟨behind, hcomma, hbehind⟩ := comma_of_nextItem hnext
  split at hread
  · cases hread
  rename_i secs hsecs
  obtain ⟨rfl, hclose⟩ := space_of_finishItems hread
  have hdigits := digits_of_readTimeout ⟨secs.shorter, hsecs⟩
  exact .both (hspace.trans hquote) htext hcomma (hbehind.trans hdigits) hclose

theorem readItemsDraft_of_items {server : Option String} {secs : Option UInt64} (hitems : Items input server secs rest) :
    Reads readItemsDraft input ⟨server, secs⟩ rest := by
  have hfirst {start : List UInt8} (hquote : Space input ('"'.toUInt8 :: start)) :=
    @nextItem_of_comma input true input start '"'.toUInt8 rfl ((space_cons_iff (by decide)).mp hquote) (by decide)
  cases hitems with
  | neither hclose =>
    obtain ⟨shorter, hfinish⟩ := finishItems_of_space {} hclose (Nat.le_refl input.length)
    refine ⟨shorter, ?_⟩
    rw [readItemsDraft, nextItem_bracket true ((space_cons_iff (by decide)).mp hclose)]
    exact hfinish
  | @server start behind _ server hquote hserver hclose =>
    obtain ⟨hstart, hitem⟩ := hfirst hquote
    obtain ⟨hbehind, hread⟩ := reads_readServer_iff.mpr ⟨start, Space.refl _, hserver⟩
    obtain ⟨shorter, hfinish⟩ :=
      finishItems_of_space ⟨some server, none⟩ hclose (Nat.le_trans (Nat.le_of_lt hbehind) hstart)
    refine ⟨shorter, ?_⟩
    rw [readItemsDraft, hitem]
    simp only [hread, nextItem_bracket false ((space_cons_iff (by decide)).mp hclose)]
    exact hfinish
  | @both start behind next last _ server secs hquote hserver hcomma hsecs hclose =>
    obtain ⟨hstart, hitem⟩ := hfirst hquote
    obtain ⟨hbehind, hread⟩ := reads_readServer_iff.mpr ⟨start, Space.refl _, hserver⟩
    have hends : EndsInteger last := endsInteger_of_space (by decide) hclose
    -- The reader looks at the first digit to see that there is a second item.
    obtain ⟨b, more, hdigits, hdigit, _⟩ := growCount_literal secs.toNat_lt hends
    have hsame : digits secs ++ last = b :: more := hdigits
    have hword : Space (b :: more) (digits secs ++ last) := by
      rw [hsame]
      exact Space.refl _
    rw [hsame] at hsecs
    have hbyte := (space_cons_iff (isSpace_of_isDigit hdigit)).mp hsecs
    have hbracket : b ≠ ']'.toUInt8 := by
      rintro rfl
      cases hdigit
    obtain ⟨hnext, hsecond⟩ := @nextItem_of_comma behind false next more b hcomma hbyte hbracket
    obtain ⟨hlast, htimeout⟩ := reads_readTimeout_of_digits hword hends
    obtain ⟨shorter, hfinish⟩ := finishItems_of_space ⟨some server, some secs⟩ hclose
      (Nat.le_trans (Nat.le_of_lt hlast) (Nat.le_trans hnext (Nat.le_trans (Nat.le_of_lt hbehind) hstart)))
    refine ⟨shorter, ?_⟩
    rw [readItemsDraft, hitem]
    simp only [hread, hsecond, htimeout]
    exact hfinish

theorem body_of_read {settings : Settings} (hread : Reads read input settings rest) :
    ∃ server secs, Body input server secs rest ∧ settings = ofDraft ⟨server, secs⟩ := by
  obtain ⟨_, hread⟩ := hread
  rw [read] at hread
  split at hread
  · cases hread
  rename_i opening hopening
  split at hread
  · cases hread
  · rename_i harray
    have hbracket : Reads readOpening input .array opening.rest := ⟨opening.shorter, by rw [hopening, ← harray]⟩
    obtain ⟨taken, htaken, hsame⟩ := exists_of_map_eq_ok hread
    obtain ⟨rfl, rfl⟩ := Taken.mk.inj hsame
    have hitems := items_of_readItemsDraft ⟨taken.shorter, htaken⟩
    exact ⟨_, _, .array (reads_readOpening_array_iff.mp hbracket) hitems, rfl⟩
  · rename_i hobject
    have hbrace : Reads readOpening input .object opening.rest := ⟨opening.shorter, by rw [hopening, ← hobject]⟩
    obtain ⟨taken, htaken, hsame⟩ := exists_of_map_eq_ok hread
    obtain ⟨rfl, rfl⟩ := Taken.mk.inj hsame
    obtain ⟨entries, draft, hmembers, hdraft, hvalue⟩ := reads_readObject_iff_members.mp ⟨taken.shorter, htaken⟩
    obtain ⟨hserver, hsecs⟩ := (foldlM_add?_eq_some_iff entries {} draft).mp hdraft
    exact ⟨_, _, .object (reads_readOpening_object_iff.mp hbrace) hmembers hserver hsecs, hvalue.symm⟩

theorem read_of_body {server : Option String} {secs : Option UInt64} (hbody : Body input server secs rest) :
    Reads read input (ofDraft ⟨server, secs⟩) rest := by
  cases hbody with
  | object hopen hmembers hserver hsecs =>
    obtain ⟨hbehind, hbrace⟩ := reads_readOpening_object_iff.mpr hopen
    have hdraft := (foldlM_add?_eq_some_iff _ {} ⟨server, secs⟩).mpr ⟨hserver, hsecs⟩
    obtain ⟨shorter, hread⟩ := reads_readObject_iff_members.mpr ⟨_, _, hmembers, hdraft, rfl⟩
    refine ⟨Nat.lt_trans shorter hbehind, ?_⟩
    rw [read, hbrace]
    simp only [hread]
    rfl
  | array hopen hitems =>
    obtain ⟨hbehind, hbracket⟩ := reads_readOpening_array_iff.mpr hopen
    obtain ⟨shorter, hread⟩ := readItemsDraft_of_items hitems
    refine ⟨Nat.lt_trans shorter hbehind, ?_⟩
    rw [read, hbracket]
    simp only [hread]
    rfl

/-- A text is decoded exactly if it describes settings. -/
theorem decode_eq_ok_iff {text : List UInt8} {settings : Settings} :
    decode text = .ok settings ↔ ∃ server secs, Describes text server secs ∧ settings = ofDraft ⟨server, secs⟩ := by
  rw [decode, readAll_eq_ok_iff]
  constructor
  · rintro ⟨rest, hread, hend⟩
    obtain ⟨server, secs, hbody, hsettings⟩ := body_of_read hread
    exact ⟨server, secs, ⟨rest, hbody, space_nil_iff.mpr hend⟩, hsettings⟩
  · rintro ⟨server, secs, ⟨rest, hbody, hend⟩, rfl⟩
    exact ⟨rest, read_of_body hbody, space_nil_iff.mp hend⟩

end

section

variable {files : FileSystem} {path : Path}

theorem find_of_read {bytes : List UInt8} (hread : files.read path = .ok bytes) :
    files.find path = .ok (.file bytes) := by
  rw [FileSystem.read] at hread
  split at hread
  · cases hread
  · cases hread
  · rename_i found hfind
    obtain rfl := Except.ok.inj hread
    exact hfind

theorem readFile_eq_ok_iff {bytes : List UInt8} :
    readFile files path = .ok bytes ↔ ∃ text, bytes = Utf8.encode text ∧ files.find path = .ok (.file bytes) := by
  constructor
  · intro hfile
    rw [readFile] at hfile
    split at hfile
    · cases hfile
    rename_i found hread
    split at hfile
    · rename_i htext
      obtain rfl := Except.ok.inj hfile
      obtain ⟨text, htext⟩ := Option.isSome_iff_exists.mp htext
      exact ⟨text, Utf8.decode?_eq_some_iff.mp htext, find_of_read hread⟩
    · cases hfile
  · rintro ⟨text, rfl, hfind⟩
    rw [readFile, FileSystem.read, hfind]
    simp only [Utf8.decode?_encode, Option.isSome_some, ↓reduceIte]

theorem load_eq_ok_iff (hpath : files.contains path = true) {settings : Settings} :
    load files path = .ok settings ↔
      ∃ bytes stored, readFile files path = .ok bytes ∧ decode bytes = .ok stored ∧ stored.reread = settings := by
  rw [load, if_pos hpath]
  constructor
  · intro hload
    split at hload
    · cases hload
    rename_i bytes hread
    split at hload
    · cases hload
    rename_i stored hdecode
    exact ⟨bytes, stored, hread, hdecode, Except.ok.inj hload⟩
  · rintro ⟨bytes, stored, hread, hdecode, rfl⟩
    simp only [hread, hdecode, reread]

/-- What is wrong with the file at a path is told with the path. -/
theorem message_of_load {fault : Fault} (hload : load files path = .error fault) :
    fault.message = "Failed to read config file " ++ path.text ∨ fault.message = "Invalid config file " ++ path.text := by
  unfold load at hload
  split at hload
  · split at hload
    · obtain rfl := Except.error.inj hload
      exact .inl rfl
    split at hload
    · obtain rfl := Except.error.inj hload
      exact .inr rfl
    · cases hload
  · cases hload

end

/-- A file that is there is loaded exactly if it is a text that describes settings. All that is loaded is what the text
    says, with the default where it says nothing and the server in normal form. Everything else is a fault that tells
    the path. -/
theorem load_reads_exactly (files : FileSystem) (path : Path) (hpath : files.contains path = true) :
    (∀ settings, load files path = .ok settings ↔ ∃ text server secs,
      files.find path = .ok (.file (Utf8.encode text)) ∧ Describes (Utf8.encode text) server secs ∧
        settings = ⟨normalizeServer (server.getD defaultServer), secs.getD defaultTimeoutSecs⟩) ∧
    ∀ fault, load files path = .error fault →
      fault.message = "Failed to read config file " ++ path.text ∨
        fault.message = "Invalid config file " ++ path.text := by
  refine ⟨fun settings => ?_, fun fault => message_of_load⟩
  rw [load_eq_ok_iff hpath]
  constructor
  · rintro ⟨bytes, stored, hread, hdecode, rfl⟩
    obtain ⟨text, rfl, hfind⟩ := readFile_eq_ok_iff.mp hread
    obtain ⟨server, secs, hdescribes, rfl⟩ := decode_eq_ok_iff.mp hdecode
    exact ⟨text, server, secs, hfind, hdescribes, rfl⟩
  · rintro ⟨text, server, secs, hfind, hdescribes, rfl⟩
    exact ⟨_, _, readFile_eq_ok_iff.mpr ⟨text, rfl, hfind⟩, decode_eq_ok_iff.mpr ⟨server, secs, hdescribes, rfl⟩, rfl⟩

/-- A member that is no setting may hold half a surrogate pair and a number that is too large. -/
theorem load_past_odd_member :
    let text := "\x7b\"x\": [1e999, \"\\ud800\"], \"server\": \" http://h/ \"\x7d\n"
    let files : FileSystem := { entries := [([Utf8.encode "config.json"], .file (Utf8.encode text))] }
    let path := Path.ofText "/config.json"
    files.contains path = true ∧ load files path = .ok ⟨"http://h", 10⟩ := by
  intro text files path
  have hpath : files.contains path = true := by decide +kernel
  have hfind : files.find path = .ok (.file (Utf8.encode text)) := by decide +kernel
  have hdecode : decode (Utf8.encode text) = .ok ⟨" http://h/ ", 10⟩ := by decide +kernel
  obtain ⟨server, secs, hdescribes, hstored⟩ := decode_eq_ok_iff.mp hdecode
  obtain ⟨hserver, hsecs⟩ := Settings.mk.inj hstored
  refine ⟨hpath, ((load_reads_exactly files path hpath).1 _).mpr ⟨text, server, secs, hfind, hdescribes, ?_⟩⟩
  rw [← hserver, ← hsecs]
  decide +kernel

end RobotAdmin.Settings
