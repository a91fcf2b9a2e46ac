import Mathlib
import RobotAdmin.Proofs.Json.Narrowing
import RobotAdmin.Reply.Decode

namespace RobotAdmin.Reply

open Json

/-- The names of the members that a reply keeps by themselves. -/
def knownNames : List String := ["rc", "message", "cause"]

/-- The text of a member that may be missing or null, by all the values it has. -/
inductive OptionalText : List Json → Option String → Prop where
  | absent : OptionalText [] none
  | null : OptionalText [.null] none
  | given (s : String) : OptionalText [.text s] (some s)

/-- The members are those of a reply: the result code once and as a string, the message and the cause at most
    once and as a string or null. -/
structure IsReply (members : List (String × Json)) : Prop where
  rc : ∃ s, valuesOf "rc" members = [.text s]
  message : ∃ s, OptionalText (valuesOf "message" members) s
  cause : ∃ s, OptionalText (valuesOf "cause" members) s

/-- A reply has all that the members say: the values of the known names, and under every other name the last
    of its values in normal form. -/
structure Describes (members : List (String × Json)) (reply : Reply) : Prop where
  rc : valuesOf "rc" members = [.text reply.rc]
  message : OptionalText (valuesOf "message" members) reply.message
  cause : OptionalText (valuesOf "cause" members) reply.cause
  sorted : IsSorted reply.extra
  known : ∀ name ∈ knownNames, reply.extra.lookup name = none
  others : ∀ name, name ∉ knownNames → reply.extra.lookup name = (valuesOf name members).getLast?.map normal

/-- The string or the nothing that a value is. -/
def textOrNull? : Json → Option (Option String)
  | .null => some none
  | .text s => some (some s)
  | _ => none

theorem narrows_readOptionalText (expected : String) (room : Nat) :
    Narrows (readOptionalText expected) (readValue room) textOrNull? := by
  refine narrows_of_readOpening room ?_ ?_ ?_
  · intro value _ haccept
    cases value with
    | null => trivial
    | text s => trivial
    | _ => cases haccept
  · intro input failure hfound
    rw [readOptionalText, hfound]
    rfl
  · intro input opening hfound
    rw [readOptionalText, hfound]
    obtain ⟨value | _ | _, rest, shorter⟩ := opening
    · cases value <;> rfl
    · rfl
    · rfl

/-- Takes the next member with its value. -/
def Draft.take? (draft : Draft) (member : String × Json) : Option Draft :=
  if member.1 = "rc" then (takeOnce text? draft.rc member.2).map fun rc => { draft with rc }
  else if member.1 = "message" then
    (takeOnce textOrNull? draft.message member.2).map fun message => { draft with message }
  else if member.1 = "cause" then (takeOnce textOrNull? draft.cause member.2).map fun cause => { draft with cause }
  else some { draft with others := member :: draft.others }

theorem stepsBy_takeMember (room : Nat) : StepsBy (readValue room) (takeMember (readValue room)) Draft.take? := by
  intro draft name
  unfold takeMember Draft.take?
  by_cases hrc : name = "rc"
  · simp only [hrc, if_true]
    exact narrows_once (narrows_readTextAs "a string" room) draft.rc (fun rc => { draft with rc }) _
  by_cases hmessage : name = "message"
  · simp only [hmessage, if_true]
    exact narrows_once (narrows_readOptionalText "a string" room) draft.message
      (fun message => { draft with message }) _
  by_cases hcause : name = "cause"
  · simp only [hcause, if_true]
    exact narrows_once (narrows_readOptionalText "a string" room) draft.cause (fun cause => { draft with cause }) _
  · simp only [hrc, hmessage, hcause, if_false]
    exact (Narrows.all _).map fun _ => rfl

/-- The members that a reply does not know. -/
def unknownMembers (members : List (String × Json)) : List (String × Json) :=
  members.filter fun member => member.1 ∉ knownNames

theorem unknownMembers_cons (member : String × Json) (members : List (String × Json)) :
    unknownMembers (member :: members) =
      if member.1 ∈ knownNames then unknownMembers members else member :: unknownMembers members := by
  by_cases hname : member.1 ∈ knownNames <;> simp [unknownMembers, hname]

/-- Taking members one after the other takes the values of each known name and collects the others. -/
theorem foldlM_take?_eq_some_iff (members : List (String × Json)) (draft final : Draft) :
    members.foldlM Draft.take? draft = some final ↔
      (valuesOf "rc" members).foldlM (takeOnce text?) draft.rc = some final.rc ∧
      (valuesOf "message" members).foldlM (takeOnce textOrNull?) draft.message = some final.message ∧
      (valuesOf "cause" members).foldlM (takeOnce textOrNull?) draft.cause = some final.cause ∧
      (unknownMembers members).reverse ++ draft.others = final.others := by
  -- A member moves on one of the four parts of the draft and leaves the values of all other names as they are.
  induction members generalizing draft with
  | nil =>
    obtain ⟨rc, message, cause, others⟩ := draft
    obtain ⟨rc', message', cause', others'⟩ := final
    simp [valuesOf_nil, unknownMembers]
  | cons member members ih =>
    obtain ⟨name, value⟩ := member
    rw [List.foldlM_cons, Draft.take?, unknownMembers_cons]
    simp only [valuesOf_cons]
    by_cases hrc : name = "rc"
    · subst hrc
      cases htake : takeOnce text? draft.rc value <;> simp [knownNames, htake, ih]
    by_cases hmessage : name = "message"
    · subst hmessage
      cases htake : takeOnce textOrNull? draft.message value <;> simp [knownNames, htake, ih]
    by_cases hcause : name = "cause"
    · subst hcause
      cases htake : takeOnce textOrNull? draft.cause value <;> simp [knownNames, htake, ih]
    · simp [knownNames, hrc, hmessage, hcause, ih]

theorem valuesOf_unknownMembers (name : String) (members : List (String × Json)) :
    valuesOf name (unknownMembers members) = if name ∈ knownNames then [] else valuesOf name members := by
  induction members with
  | nil => simp [unknownMembers, valuesOf_nil]
  | cons member members ih =>
    rw [unknownMembers_cons, valuesOf_cons]
    by_cases hname : member.1 = name
    · subst hname
      split <;> simp [*, valuesOf_cons]
    · split <;> simp [*, valuesOf_cons]

theorem optionalText_of_foldlM {values : List Json} {met : Option (Option String)}
    (hfold : values.foldlM (takeOnce textOrNull?) none = some met) : OptionalText values met.join := by
  obtain ⟨rfl, rfl⟩ | ⟨value, found, rfl, haccept, rfl⟩ := (foldlM_takeOnce_eq_some_iff ..).mp hfold
  · exact .absent
  · cases value with
    | null =>
      obtain rfl := Option.some.inj haccept
      exact .null
    | text s =>
      obtain rfl := Option.some.inj haccept
      exact .given s
    | _ => cases haccept

theorem exists_foldlM_of_optionalText {values : List Json} {found : Option String} (htext : OptionalText values found) :
    ∃ met : Option (Option String), values.foldlM (takeOnce textOrNull?) none = some met ∧ met.join = found := by
  cases htext with
  | absent => exact ⟨none, rfl, rfl⟩
  | null => exact ⟨some none, rfl, rfl⟩
  | given s => exact ⟨some (some s), rfl, rfl⟩

theorem lookup_unknownMembers (name : String) (members : List (String × Json)) :
    (sortMembers (normalMembers (unknownMembers members))).lookup name =
      if name ∈ knownNames then none else (valuesOf name members).getLast?.map normal := by
  rw [lookup_sortMembers_normalMembers, valuesOf_unknownMembers]
  split <;> rfl

theorem describes_of_valuesOf {members : List (String × Json)} {rc : String} {message cause : Option String}
    (hrc : valuesOf "rc" members = [.text rc]) (hmessage : OptionalText (valuesOf "message" members) message)
    (hcause : OptionalText (valuesOf "cause" members) cause) :
    Describes members ⟨rc, message, cause, sortMembers (normalMembers (unknownMembers members))⟩ where
  rc := hrc
  message := hmessage
  cause := hcause
  sorted := isSorted_sortMembers _
  known name hname := (lookup_unknownMembers name members).trans (if_pos hname)
  others name hname := (lookup_unknownMembers name members).trans (if_neg hname)

/-- What a reply keeps of the other members is determined by them. -/
theorem Describes.extra_eq {members : List (String × Json)} {reply : Reply} (hdescribes : Describes members reply) :
    reply.extra = sortMembers (normalMembers (unknownMembers members)) := by
  refine hdescribes.sorted.ext (isSorted_sortMembers _) fun name => ?_
  rw [lookup_unknownMembers]
  split
  · rename_i hname
    exact hdescribes.known name hname
  · rename_i hname
    exact hdescribes.others name hname

/-- The members of an object make up a reply exactly if it has all that they say. -/
theorem exists_draft_iff (members : List (String × Json)) (reply : Reply) :
    (∃ draft, members.foldlM Draft.take? {} = some draft ∧ ofDraft draft = .ok reply) ↔ Describes members reply := by
  constructor
  · rintro ⟨draft, hfold, hreply⟩
    obtain ⟨hrc, hmessage, hcause, hothers⟩ := (foldlM_take?_eq_some_iff members {} draft).mp hfold
    rw [List.append_nil] at hothers
    unfold ofDraft at hreply
    split at hreply
    · cases hreply
    · rename_i rc hsome
      obtain rfl := Except.ok.inj hreply
      rw [hsome, foldlM_text?_eq_some_iff] at hrc
      rw [← hothers, List.reverse_reverse]
      exact describes_of_valuesOf hrc (optionalText_of_foldlM hmessage) (optionalText_of_foldlM hcause)
  · intro hdescribes
    obtain ⟨message, hmessage, hjoinMessage⟩ := exists_foldlM_of_optionalText hdescribes.message
    obtain ⟨cause, hcause, hjoinCause⟩ := exists_foldlM_of_optionalText hdescribes.cause
    have hrc := (foldlM_text?_eq_some_iff ..).mpr hdescribes.rc
    refine ⟨⟨some reply.rc, message, cause, (unknownMembers members).reverse⟩, ?_, ?_⟩
    · exact (foldlM_take?_eq_some_iff ..).mpr ⟨hrc, hmessage, hcause, List.append_nil _⟩
    · simp only [ofDraft, List.reverse_reverse, hjoinMessage, hjoinCause, ← hdescribes.extra_eq]

theorem reads_read_iff_readObject {input rest : List UInt8} {reply : Reply} :
    Reads read input reply rest ↔ ∃ behind, Reads readOpening input .object behind ∧
      Reads (readObject {} (takeMember (readValue (maxDepth - 1))) ofDraft) behind reply rest := by
  constructor
  · rintro ⟨_, hread⟩
    rw [read] at hread
    split at hread
    · cases hread
    rename_i opening hopening
    split at hread
    · cases hread
    · cases hread
    · rename_i hvalue
      obtain ⟨taken, htaken, hsame⟩ := exists_of_map_eq_ok hread
      obtain ⟨rfl, rfl⟩ := Taken.mk.inj hsame
      exact ⟨opening.rest, ⟨opening.shorter, by rw [hopening, ← hvalue]⟩, taken.shorter, htaken⟩
  · rintro ⟨behind, ⟨hbehind, hopening⟩, shorter, hread⟩
    refine ⟨Nat.lt_trans shorter hbehind, ?_⟩
    rw [read, hopening]
    dsimp only
    rw [hread]
    rfl

/-- A reply is read wherever an object is whose members it describes. -/
theorem reads_read_iff {input rest : List UInt8} {reply : Reply} :
    Reads read input reply rest ↔
      ∃ members, Reads (readValue maxDepth) input (.object members) rest ∧ Describes members reply := by
  have hobject (members : List (String × Json)) : Reads (readValue maxDepth) input (.object members) rest ↔
      ∃ behind, Reads readOpening input .object behind ∧
        ReadsObject (readValue (maxDepth - 1)) behind members rest := reads_readValue_object_iff
  simp only [reads_read_iff_readObject, hobject, reads_readObject_iff (stepsBy_takeMember _), exists_draft_iff]
  constructor
  · rintro ⟨behind, hopening, members, hmembers, hdescribes⟩
    exact ⟨members, ⟨behind, hopening, hmembers⟩, hdescribes⟩
  · rintro ⟨members, ⟨behind, hopening, hmembers⟩, hdescribes⟩
    exact ⟨behind, hopening, members, hmembers, hdescribes⟩

theorem decode_eq_ok_iff {text : List UInt8} {reply : Reply} :
    decode text = .ok reply ↔ ∃ members, Json.decode text = .ok (.object members) ∧ Describes members reply := by
  simp only [decode, Json.decode, readAll_eq_ok_iff, reads_read_iff]
  constructor
  · rintro ⟨rest, ⟨members, hread, hdescribes⟩, hrest⟩
    exact ⟨members, ⟨rest, hread, hrest⟩, hdescribes⟩
  · rintro ⟨members, ⟨rest, hread, hrest⟩, hdescribes⟩
    exact ⟨rest, ⟨members, hread, hdescribes⟩, hrest⟩

theorem OptionalText.isScalar {values : List Json} {found : Option String} (htext : OptionalText values found) :
    ∀ value ∈ values, value.IsScalar := by
  cases htext with
  | absent => simp
  | null => simp [IsScalar]
  | given s => simp [IsScalar]

/-- What members say is a matter of the normal forms of their values. -/
theorem Describes.of_map_normal_eq {members others : List (String × Json)} {reply : Reply}
    (hvalues : ∀ name, (valuesOf name members).map normal = (valuesOf name others).map normal)
    (hdescribes : Describes members reply) : Describes others reply where
  rc := (eq_of_map_normal_eq (by simp [hdescribes.rc, IsScalar]) (hvalues "rc")).symm.trans hdescribes.rc
  message := eq_of_map_normal_eq hdescribes.message.isScalar (hvalues "message") ▸ hdescribes.message
  cause := eq_of_map_normal_eq hdescribes.cause.isScalar (hvalues "cause") ▸ hdescribes.cause
  sorted := hdescribes.sorted
  known := hdescribes.known
  others name hname := by
    rw [hdescribes.others name hname, ← List.getLast?_map, ← List.getLast?_map, hvalues]

theorem decode_of_reorders {text other : List UInt8} {value reordered : Json} {reply : Reply}
    (htext : Json.decode text = .ok value) (hother : Json.decode other = .ok reordered)
    (hreorders : value.Reorders reordered) (hreply : decode text = .ok reply) : decode other = .ok reply := by
  obtain ⟨members, hmembers, hdescribes⟩ := decode_eq_ok_iff.mp hreply
  obtain rfl := Except.ok.inj (htext.symm.trans hmembers)
  obtain ⟨others, rfl, hvalues⟩ := hreorders.normal_eq.2 members rfl
  exact decode_eq_ok_iff.mpr ⟨others, hother, hdescribes.of_map_normal_eq hvalues⟩

theorem exists_describes_iff (members : List (String × Json)) :
    (∃ reply, Describes members reply) ↔ IsReply members := by
  constructor
  · rintro ⟨reply, hdescribes⟩
    exact ⟨⟨_, hdescribes.rc⟩, ⟨_, hdescribes.message⟩, ⟨_, hdescribes.cause⟩⟩
  · rintro ⟨⟨rc, hrc⟩, ⟨message, hmessage⟩, ⟨cause, hcause⟩⟩
    exact ⟨_, describes_of_valuesOf hrc hmessage hcause⟩

/-- A text is decoded as a reply exactly if it is an object with the members of one, and the reply then has all
    that they say. Under each name but the known ones the last value counts, in objects inside it too. So
    members of different names can change places anywhere in a text without a change of the reply, or of what
    is written of it. -/
theorem decode_keeps_members (text : List UInt8) :
    ((∃ reply, decode text = .ok reply) ↔
      ∃ members, Json.decode text = .ok (.object members) ∧ IsReply members) ∧
    (∀ members reply, Json.decode text = .ok (.object members) → decode text = .ok reply →
      Describes members reply) ∧
    (∀ members : List (String × Json), ∃ sorted, (object members).normal = .object sorted ∧ IsSorted sorted ∧
      ∀ name, sorted.lookup name = (valuesOf name members).getLast?.map normal) ∧
    (∀ items : List Json, (array items).normal = .array (items.map normal)) ∧
    (∀ value : Json, value.IsScalar → value.normal = value) ∧
    ∀ other value reordered, Json.decode text = .ok value → Json.decode other = .ok reordered →
      value.Reorders reordered → ∀ reply, decode text = .ok reply ↔ decode other = .ok reply := by
  refine ⟨?_, ?_, fun members => ?_, normal_array, fun _ => normal_of_isScalar, ?_⟩
  · simp only [decode_eq_ok_iff, ← exists_describes_iff]
    constructor
    · rintro ⟨reply, members, hmembers, hdescribes⟩
      exact ⟨members, hmembers, reply, hdescribes⟩
    · rintro ⟨members, hmembers, reply, hdescribes⟩
      exact ⟨reply, members, hmembers, hdescribes⟩
  · intro members reply hmembers hreply
    obtain ⟨found, hfound, hdescribes⟩ := decode_eq_ok_iff.mp hreply
    obtain rfl := object.inj (Except.ok.inj (hfound.symm.trans hmembers))
    exact hdescribes
  · exact ⟨_, by rw [normal], isSorted_sortMembers _, fun name => lookup_sortMembers_normalMembers name members⟩
  · intro other value reordered htext hother hreorders reply
    exact ⟨decode_of_reorders htext hother hreorders, decode_of_reorders hother htext hreorders.symm⟩

/-- Members change places, at the top and in an object inside. -/
theorem decode_of_swapped_members :
    decode (Utf8.encode "\x7b\"x\": \x7b\"b\": 1, \"a\": 2\x7d, \"rc\": \"ok\"\x7d") =
        .ok { rc := "ok", extra := [("x", .object [("a", .number (.integer 2)), ("b", .number (.integer 1))])] } ∧
      decode (Utf8.encode "\x7b\"rc\": \"ok\", \"x\": \x7b\"a\": 2, \"b\": 1\x7d\x7d") =
        .ok { rc := "ok", extra := [("x", .object [("a", .number (.integer 2)), ("b", .number (.integer 1))])] } := by
  have htext : Json.decode (Utf8.encode "\x7b\"x\": \x7b\"b\": 1, \"a\": 2\x7d, \"rc\": \"ok\"\x7d") =
      .ok (.object
        [("x", .object [("b", .number (.integer 1)), ("a", .number (.integer 2))]), ("rc", .text "ok")]) := by
    cbv
  have hother : Json.decode (Utf8.encode "\x7b\"rc\": \"ok\", \"x\": \x7b\"a\": 2, \"b\": 1\x7d\x7d") =
      .ok (.object
        [("rc", .text "ok"), ("x", .object [("a", .number (.integer 2)), ("b", .number (.integer 1))])]) := by
    cbv
  have hswapped (a b : Json) : (object [("x", .object [("b", b), ("a", a)]), ("rc", .text "ok")]).Reorders
      (.object [("rc", .text "ok"), ("x", .object [("a", a), ("b", b)])]) :=
    .trans (.swap [] [] (by decide : "x" ≠ "rc"))
      (.member [("rc", .text "ok")] [] "x" (.swap [] [] (by decide : "b" ≠ "a")))
  have hreply : decode (Utf8.encode "\x7b\"x\": \x7b\"b\": 1, \"a\": 2\x7d, \"rc\": \"ok\"\x7d") =
      .ok { rc := "ok", extra := [("x", .object [("a", .number (.integer 2)), ("b", .number (.integer 1))])] } := by
    cbv
  exact ⟨hreply, ((decode_keeps_members _).2.2.2.2.2 _ _ _ htext hother (hswapped _ _) _).mp hreply⟩

end RobotAdmin.Reply
