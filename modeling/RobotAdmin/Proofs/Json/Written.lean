import RobotAdmin.Proofs.Json.Containers

namespace RobotAdmin.Json

mutual

/-- The numbers in a value, wherever they stand. -/
def numbers : Json → List Number
  | .number n => [n]
  | .array items => numbersOfItems items
  | .object members => numbersOfMembers members
  | .null | .bool _ | .text _ => []

def numbersOfItems : List Json → List Number
  | [] => []
  | item :: rest => numbers item ++ numbersOfItems rest

def numbersOfMembers : List (String × Json) → List Number
  | [] => []
  | (_, value) :: rest => numbers value ++ numbersOfMembers rest

end

theorem mem_numbers_array {n : Number} {items : List Json} :
    n ∈ (array items).numbers ↔ ∃ item ∈ items, n ∈ item.numbers := by
  rw [numbers]
  induction items with
  | nil => simp [numbersOfItems]
  | cons item items ih => simp [numbersOfItems, ih]

theorem mem_numbers_object {n : Number} {members : List (String × Json)} :
    n ∈ (object members).numbers ↔ ∃ member ∈ members, n ∈ member.2.numbers := by
  rw [numbers]
  induction members with
  | nil => simp [numbersOfMembers]
  | cons member members ih => simp only [numbersOfMembers, List.mem_append, ih, List.mem_cons, exists_eq_or_imp]

/-- The containers of a value stand in one another up to a depth. -/
def Fits : (room : Nat) → Json → Prop
  | room + 1, .array items => ∀ item ∈ items, Fits room item
  | room + 1, .object members => ∀ member ∈ members, Fits room member.2
  | _, value => value.IsScalar

theorem fits_of_isScalar {value : Json} (hscalar : value.IsScalar) (room : Nat) : Fits room value := by
  cases value with
  | array items => exact hscalar.elim
  | object members => exact hscalar.elim
  | _ => cases room <;> trivial

theorem ReadsItems.forall {α : Type} {read : Reader α} {P : α → Prop}
    (hread : ∀ input value rest, Reads read input value rest → P value) {first : Bool} {input last : List UInt8}
    {items : List α} (hitems : ReadsItems read first input items last) : ∀ item ∈ items, P item := by
  induction hitems with
  | stop => simp
  | next _ hitem _ ih => exact List.forall_mem_cons.mpr ⟨hread _ _ _ hitem, ih⟩

theorem ReadsMembers.forall {α : Type} {read : Reader α} {P : α → Prop}
    (hread : ∀ input value rest, Reads read input value rest → P value) {first : Bool} {input last : List UInt8}
    {members : List (String × α)} (hmembers : ReadsMembers read first input members last) :
    ∀ member ∈ members, P member.2 := by
  induction hmembers with
  | stop => simp
  | next _ hvalue _ ih =>
    obtain ⟨_, _, hvalue⟩ := reads_readMember_iff.mp hvalue
    exact List.forall_mem_cons.mpr ⟨hread _ _ _ hvalue, ih⟩

/-- A value that was read fits where it was read. -/
theorem fits_of_reads {room : Nat} {input rest : List UInt8} {value : Json}
    (hread : Reads (readValue room) input value rest) : Fits room value := by
  induction room generalizing input rest value with
  | zero =>
    obtain hscalar | ⟨_, _, hroom, _⟩ := reads_readValue_iff.mp hread
    · exact fits_of_isScalar (isScalar_of_readOpening hscalar) 0
    · cases hroom
  | succ room ih =>
    obtain hscalar | ⟨_, _, hroom, ⟨items, rfl, _, _, hitems, _⟩ | ⟨members, rfl, _, _, hmembers, _⟩⟩ :=
      reads_readValue_iff.mp hread
    · exact fits_of_isScalar (isScalar_of_readOpening hscalar) _
    · obtain rfl := Nat.succ.inj hroom
      exact hitems.forall fun _ _ _ => ih
    · obtain rfl := Nat.succ.inj hroom
      exact hmembers.forall fun _ _ _ => ih

theorem Fits.normal {room : Nat} {value : Json} (hfits : Fits room value) : Fits room value.normal := by
  induction room generalizing value with
  | zero =>
    have hscalar : value.IsScalar := by cases value <;> exact hfits
    rwa [normal_of_isScalar hscalar]
  | succ room ih =>
    cases value with
    | array items =>
      rw [normal_array]
      exact List.forall_mem_map.mpr fun item hmem => ih (hfits item hmem)
    | object members =>
      rw [Json.normal]
      intro member hmem
      obtain ⟨before, hbefore, rfl⟩ := exists_of_mem_sortMembers_normalMembers hmem
      exact ih (hfits before hbefore)
    | _ => exact hfits

theorem endsInteger_cons {b : UInt8} (hb : isDigit b = false ∧ b ≠ '.'.toUInt8 ∧ isExponentLetter b = false)
    (rest : List UInt8) : EndsInteger (b :: rest) := by
  intro c hc
  rwa [← Option.some.inj hc]

theorem endsInteger_of_skipSpace_eq_nil {rest : List UInt8} (hrest : skipSpace rest = []) : EndsInteger rest := by
  cases rest with
  | nil => simp [EndsInteger]
  | cons b rest =>
    refine endsInteger_cons ?_ rest
    have hspace : isSpace b = true := by
      by_contra hnot
      rw [skipSpace_of_not_isSpace (Bool.eq_false_iff.mpr hnot)] at hrest
      cases hrest
    simp only [isSpace, Bool.or_eq_true, beq_iff_eq] at hspace
    obtain ((rfl | rfl) | rfl) | rfl := hspace <;> decide

/-- What stands behind a last part, in a line of its own or not. -/
theorem endsInteger_line {b : UInt8} (hb : isDigit b = false ∧ b ≠ '.'.toUInt8 ∧ isExponentLetter b = false)
    (layout : Layout) (depth : Nat) (rest : List UInt8) :
    EndsInteger (Utf8.encodeChars (layout.line depth) ++ b :: rest) := by
  cases layout with
  | compact => exact endsInteger_cons hb rest
  | pretty => exact endsInteger_cons (by decide) _

section

variable (layout : Layout) (depth : Nat) (rest : List UInt8)

theorem encodeChars_write_array_nil :
    Utf8.encodeChars (write layout depth (.array [])) ++ rest = '['.toUInt8 :: ']'.toUInt8 :: rest := rfl

theorem encodeChars_write_array_cons (item : Json) (items : List Json) :
    Utf8.encodeChars (write layout depth (.array (item :: items))) ++ rest =
      '['.toUInt8 :: (Utf8.encodeChars (layout.line (depth + 1)) ++
        (Utf8.encodeChars (write layout (depth + 1) item) ++
          (Utf8.encodeChars (writeItems layout (depth + 1) items) ++
            (Utf8.encodeChars (layout.line depth) ++ ']'.toUInt8 :: rest)))) := by
  have hbracket : String.utf8EncodeChar '[' = ['['.toUInt8] ∧ String.utf8EncodeChar ']' = [']'.toUInt8] := by decide
  simp only [write, Utf8.encodeChars_append, Utf8.encodeChars_cons, Utf8.encodeChars_nil, List.append_assoc,
    List.cons_append, List.nil_append, hbracket]

theorem encodeChars_writeItems_cons (item : Json) (items : List Json) :
    Utf8.encodeChars (writeItems layout depth (item :: items)) ++ rest =
      ','.toUInt8 :: (Utf8.encodeChars (layout.line depth) ++ (Utf8.encodeChars (write layout depth item) ++
        (Utf8.encodeChars (writeItems layout depth items) ++ rest))) := by
  have hcomma : String.utf8EncodeChar ',' = [','.toUInt8] := by decide
  simp only [writeItems, Utf8.encodeChars_append, Utf8.encodeChars_cons, List.append_assoc,
    List.cons_append, List.nil_append, hcomma]

theorem encodeChars_write_object_nil :
    Utf8.encodeChars (write layout depth (.object [])) ++ rest = '\x7b'.toUInt8 :: '\x7d'.toUInt8 :: rest := rfl

theorem encodeChars_write_object_cons (name : String) (value : Json) (members : List (String × Json)) :
    Utf8.encodeChars (write layout depth (.object ((name, value) :: members))) ++ rest =
      '\x7b'.toUInt8 :: (Utf8.encodeChars (layout.line (depth + 1)) ++ (Utf8.encodeChars (textChars name) ++
        (Utf8.encodeChars layout.colon ++ (Utf8.encodeChars (write layout (depth + 1) value) ++
          (Utf8.encodeChars (writeMembers layout (depth + 1) members) ++
            (Utf8.encodeChars (layout.line depth) ++ '\x7d'.toUInt8 :: rest)))))) := by
  have hbrace : String.utf8EncodeChar '\x7b' = ['\x7b'.toUInt8] ∧ String.utf8EncodeChar '\x7d' = ['\x7d'.toUInt8] := by
    decide
  simp only [write, Utf8.encodeChars_append, Utf8.encodeChars_cons, Utf8.encodeChars_nil, List.append_assoc,
    List.cons_append, List.nil_append, hbrace]

theorem encodeChars_writeMembers_cons (name : String) (value : Json) (members : List (String × Json)) :
    Utf8.encodeChars (writeMembers layout depth ((name, value) :: members)) ++ rest =
      ','.toUInt8 :: (Utf8.encodeChars (layout.line depth) ++ (Utf8.encodeChars (textChars name) ++
        (Utf8.encodeChars layout.colon ++ (Utf8.encodeChars (write layout depth value) ++
          (Utf8.encodeChars (writeMembers layout depth members) ++ rest))))) := by
  have hcomma : String.utf8EncodeChar ',' = [','.toUInt8] := by decide
  simp only [writeMembers, Utf8.encodeChars_append, Utf8.encodeChars_cons, List.append_assoc,
    List.cons_append, List.nil_append, hcomma]

theorem encodeChars_write_keyword (b : Bool) :
    Utf8.encodeChars (write layout depth .null) ++ rest = 'n'.toUInt8 :: (ull ++ rest) ∧
      Utf8.encodeChars (write layout depth (.bool b)) ++ rest =
        if b then 't'.toUInt8 :: (rue ++ rest) else 'f'.toUInt8 :: (alse ++ rest) := by
  cases b <;> exact ⟨rfl, rfl⟩

end

/-- A written value begins with a byte that is neither white space nor the end of an array. -/
theorem exists_cons_write {value : Json} (hwords : ∀ n ∈ value.numbers, n.IsWord) (layout : Layout) (depth : Nat)
    {rest : List UInt8} (hrest : EndsInteger rest) :
    ∃ b input, Utf8.encodeChars (write layout depth value) ++ rest = b :: input ∧ isSpace b = false ∧
      b ≠ ']'.toUInt8 := by
  cases value with
  | null => exact ⟨_, _, (encodeChars_write_keyword layout depth rest true).1, by decide, by decide⟩
  | bool b =>
    rw [(encodeChars_write_keyword layout depth rest b).2]
    cases b
    · exact ⟨_, _, rfl, by decide, by decide⟩
    · exact ⟨_, _, rfl, by decide, by decide⟩
  | number n =>
    have hword : n.IsWord := hwords n (by simp [numbers])
    cases n with
    | float x => exact hword.elim
    | integer n =>
      obtain ⟨b, input, hinput, hb⟩ := exists_cons_integerText hword hrest
      refine ⟨b, input, hinput, ?_⟩
      rcases hb with rfl | hdigit
      · exact ⟨by decide, by decide⟩
      · refine ⟨isSpace_of_isDigit hdigit, ?_⟩
        rintro rfl
        revert hdigit
        decide
  | text s => exact ⟨_, _, encodeChars_textChars s rest, by decide, by decide⟩
  | array items =>
    cases items with
    | nil => exact ⟨_, _, encodeChars_write_array_nil .., by decide, by decide⟩
    | cons item items => exact ⟨_, _, encodeChars_write_array_cons .., by decide, by decide⟩
  | object members =>
    cases members with
    | nil => exact ⟨_, _, encodeChars_write_object_nil .., by decide, by decide⟩
    | cons member members => exact ⟨_, _, encodeChars_write_object_cons .., by decide, by decide⟩

theorem skipSpace_write {value : Json} (hwords : ∀ n ∈ value.numbers, n.IsWord) (layout : Layout) (depth : Nat)
    {rest : List UInt8} (hrest : EndsInteger rest) :
    skipSpace (Utf8.encodeChars (write layout depth value) ++ rest) =
      Utf8.encodeChars (write layout depth value) ++ rest := by
  obtain ⟨b, input, hinput, hspace, _⟩ := exists_cons_write hwords layout depth hrest
  rw [hinput, skipSpace_of_not_isSpace hspace]

/-- A reader takes a value wherever it is written. -/
def ReadsWritten (read : Reader Json) (layout : Layout) (value : Json) : Prop :=
  ∀ (depth : Nat) (input rest : List UInt8), EndsInteger rest →
    skipSpace input = Utf8.encodeChars (write layout depth value) ++ rest → Reads read input value rest

theorem readsWritten_of_isScalar {value : Json} (hscalar : value.IsScalar) (hwords : ∀ n ∈ value.numbers, n.IsWord)
    (room : Nat) (layout : Layout) : ReadsWritten (readValue room) layout value := by
  intro depth input rest hrest hinput
  refine (reads_readValue_iff_of_isScalar hscalar).mpr ?_
  cases value with
  | null =>
    rw [(encodeChars_write_keyword layout depth rest true).1] at hinput
    exact reads_readOpening_keyword (by simp) hinput
  | bool b =>
    rw [(encodeChars_write_keyword layout depth rest b).2] at hinput
    cases b
    · exact reads_readOpening_keyword (by simp) hinput
    · exact reads_readOpening_keyword (by simp) hinput
  | number n =>
    have hword : n.IsWord := hwords n (by simp [numbers])
    cases n with
    | float x => exact hword.elim
    | integer n =>
      obtain ⟨b, behind, hbehind, hb⟩ := exists_cons_integerText hword hrest
      have hnumber := reads_readNumber_integerText hword hrest
      rw [hbehind] at hnumber
      exact reads_readOpening_number (hinput.trans hbehind) hb hnumber
  | text s => exact reads_readOpening_text (hinput.trans (encodeChars_textChars s rest)) (reads_readText s rest)
  | array items => exact hscalar.elim
  | object members => exact hscalar.elim

section

variable {read : Reader Json} {last : List UInt8} (layout : Layout) (depth : Nat)

theorem endsInteger_writeItems (items : List Json) (hlast : EndsInteger last) :
    EndsInteger (Utf8.encodeChars (writeItems layout depth items) ++ last) := by
  cases items with
  | nil => exact hlast
  | cons item items =>
    rw [encodeChars_writeItems_cons]
    exact endsInteger_cons (by decide) _

/-- The items behind the first are read one by one up to where the array closes. -/
theorem readsItems_writeItems {items : List Json} (hread : ∀ item ∈ items, ReadsWritten read layout item)
    (hwords : ∀ item ∈ items, ∀ n ∈ item.numbers, n.IsWord) (hlast : EndsInteger last)
    (hclose : nextItem false last = .ok none) :
    ReadsItems read false (Utf8.encodeChars (writeItems layout depth items) ++ last) items last := by
  induction items with
  | nil => exact .stop hclose
  | cons item items ih =>
    obtain ⟨hitem, hitems⟩ := List.forall_mem_cons.mp hread
    obtain ⟨hwordsItem, hwordsItems⟩ := List.forall_mem_cons.mp hwords
    have hends := endsInteger_writeItems layout depth items hlast
    obtain ⟨b, behind, hbehind, hspace, hb⟩ := exists_cons_write hwordsItem layout depth hends
    have hskip := skipSpace_of_not_isSpace hspace behind
    rw [encodeChars_writeItems_cons, hbehind]
    obtain ⟨_, hstart⟩ := nextItem_comma (skipSpace_of_not_isSpace (by decide) _)
      ((skipSpace_encodeChars_line layout depth (b :: behind)).trans hskip) hb
    exact .next hstart (hitem depth _ _ hends (hskip.trans hbehind.symm)) (ih hitems hwordsItems)

theorem endsInteger_writeMembers (members : List (String × Json)) (hlast : EndsInteger last) :
    EndsInteger (Utf8.encodeChars (writeMembers layout depth members) ++ last) := by
  cases members with
  | nil => exact hlast
  | cons member members =>
    rw [encodeChars_writeMembers_cons]
    exact endsInteger_cons (by decide) _

theorem reads_readMember_written {value : Json} (hread : ReadsWritten read layout value)
    (hwords : ∀ n ∈ value.numbers, n.IsWord) (hlast : EndsInteger last) :
    Reads (readMember read)
      (Utf8.encodeChars layout.colon ++ (Utf8.encodeChars (write layout depth value) ++ last)) value last := by
  obtain ⟨behind, hcolon, hbehind⟩ :=
    exists_skipSpace_colon layout (Utf8.encodeChars (write layout depth value) ++ last)
  exact reads_readMember hcolon (hread depth _ _ hlast (hbehind.trans (skipSpace_write hwords layout depth hlast)))

/-- The members behind the first are read one by one up to where the object closes. -/
theorem readsMembers_writeMembers {members : List (String × Json)}
    (hread : ∀ member ∈ members, ReadsWritten read layout member.2)
    (hwords : ∀ member ∈ members, ∀ n ∈ member.2.numbers, n.IsWord) (hlast : EndsInteger last)
    (hclose : nextName false last = .ok none) :
    ReadsMembers read false (Utf8.encodeChars (writeMembers layout depth members) ++ last) members last := by
  induction members with
  | nil => exact .stop hclose
  | cons member members ih =>
    obtain ⟨name, value⟩ := member
    obtain ⟨hvalue, hmembers⟩ := List.forall_mem_cons.mp hread
    obtain ⟨hwordsValue, hwordsMembers⟩ := List.forall_mem_cons.mp hwords
    have hends := endsInteger_writeMembers layout depth members hlast
    rw [encodeChars_writeMembers_cons]
    obtain ⟨_, hname⟩ := nextName_comma_line layout depth name (Utf8.encodeChars layout.colon ++
      (Utf8.encodeChars (write layout depth value) ++
        (Utf8.encodeChars (writeMembers layout depth members) ++ last)))
    exact .next hname (reads_readMember_written layout depth hvalue hwordsValue hends) (ih hmembers hwordsMembers)

end

theorem readsArray_write {read : Reader Json} {layout : Layout} {items : List Json}
    (hread : ∀ item ∈ items, ReadsWritten read layout item) (hwords : ∀ item ∈ items, ∀ n ∈ item.numbers, n.IsWord)
    (depth : Nat) (rest : List UInt8) :
    ∃ behind, Utf8.encodeChars (write layout depth (.array items)) ++ rest = '['.toUInt8 :: behind ∧
      ReadsArray read behind items rest := by
  cases items with
  | nil =>
    have hbracket : skipSpace (']'.toUInt8 :: rest) = ']'.toUInt8 :: rest := skipSpace_of_not_isSpace (by decide) rest
    exact ⟨_, encodeChars_write_array_nil .., _, .stop (nextItem_bracket true hbracket), reads_closeArray hbracket⟩
  | cons item items =>
    obtain ⟨hitem, hitems⟩ := List.forall_mem_cons.mp hread
    obtain ⟨hwordsItem, hwordsItems⟩ := List.forall_mem_cons.mp hwords
    have hbracket : skipSpace (Utf8.encodeChars (layout.line depth) ++ ']'.toUInt8 :: rest) = ']'.toUInt8 :: rest :=
      (skipSpace_encodeChars_line ..).trans (skipSpace_of_not_isSpace (by decide) rest)
    have hlast := endsInteger_line (b := ']'.toUInt8) (by decide) layout depth rest
    have hends := endsInteger_writeItems layout (depth + 1) items hlast
    obtain ⟨b, behind, hbehind, hspace, hb⟩ := exists_cons_write hwordsItem layout (depth + 1) hends
    have hskip := skipSpace_of_not_isSpace hspace behind
    refine ⟨_, encodeChars_write_array_cons .., _, ?_, reads_closeArray hbracket⟩
    rw [hbehind]
    obtain ⟨_, hstart⟩ :=
      nextItem_first ((skipSpace_encodeChars_line layout (depth + 1) (b :: behind)).trans hskip) hb
    exact .next hstart (hitem (depth + 1) _ _ hends (hskip.trans hbehind.symm))
      (readsItems_writeItems layout (depth + 1) hitems hwordsItems hlast (nextItem_bracket false hbracket))

theorem readsObject_write {read : Reader Json} {layout : Layout} {members : List (String × Json)}
    (hread : ∀ member ∈ members, ReadsWritten read layout member.2)
    (hwords : ∀ member ∈ members, ∀ n ∈ member.2.numbers, n.IsWord) (depth : Nat) (rest : List UInt8) :
    ∃ behind, Utf8.encodeChars (write layout depth (.object members)) ++ rest = '\x7b'.toUInt8 :: behind ∧
      ReadsObject read behind members rest := by
  cases members with
  | nil =>
    have hbrace : skipSpace ('\x7d'.toUInt8 :: rest) = '\x7d'.toUInt8 :: rest :=
      skipSpace_of_not_isSpace (by decide) rest
    exact ⟨_, encodeChars_write_object_nil .., _, .stop (nextName_brace true hbrace), reads_closeObject hbrace⟩
  | cons member members =>
    obtain ⟨name, value⟩ := member
    obtain ⟨hvalue, hmembers⟩ := List.forall_mem_cons.mp hread
    obtain ⟨hwordsValue, hwordsMembers⟩ := List.forall_mem_cons.mp hwords
    have hbrace : skipSpace (Utf8.encodeChars (layout.line depth) ++ '\x7d'.toUInt8 :: rest) = '\x7d'.toUInt8 :: rest :=
      (skipSpace_encodeChars_line ..).trans (skipSpace_of_not_isSpace (by decide) rest)
    have hlast := endsInteger_line (b := '\x7d'.toUInt8) (by decide) layout depth rest
    have hends := endsInteger_writeMembers layout (depth + 1) members hlast
    refine ⟨_, encodeChars_write_object_cons .., _, ?_, reads_closeObject hbrace⟩
    obtain ⟨_, hname⟩ := nextName_line layout (depth + 1) name (Utf8.encodeChars layout.colon ++
      (Utf8.encodeChars (write layout (depth + 1) value) ++
        (Utf8.encodeChars (writeMembers layout (depth + 1) members) ++
          (Utf8.encodeChars (layout.line depth) ++ '\x7d'.toUInt8 :: rest))))
    exact .next hname (reads_readMember_written layout (depth + 1) hvalue hwordsValue hends)
      (readsMembers_writeMembers layout (depth + 1) hmembers hwordsMembers hlast (nextName_brace false hbrace))

/-- A value whose numbers are integers of 64 bits is read back as it was, in either layout. -/
theorem readsWritten_readValue {value : Json} (hwords : ∀ n ∈ value.numbers, n.IsWord) {room : Nat}
    (hfits : Fits room value) (layout : Layout) : ReadsWritten (readValue room) layout value := by
  -- The room is left open because the parts of a container have one less.
  induction value using inductionOn generalizing room with
  | scalar value hscalar => exact readsWritten_of_isScalar hscalar hwords room layout
  | array items ih =>
    intro depth input rest _ hinput
    have hparts : ∀ item ∈ items, ∀ n ∈ item.numbers, n.IsWord := fun item hmem n hn =>
      hwords n (mem_numbers_array.mpr ⟨item, hmem, hn⟩)
    cases room with
    | zero => exact hfits.elim
    | succ room =>
      obtain ⟨behind, hbehind, hitems⟩ :=
        readsArray_write (fun item hmem => ih item hmem (hparts item hmem) (hfits item hmem)) hparts depth rest
      exact reads_readValue_array_iff.mpr ⟨behind, reads_readOpening_array (hinput.trans hbehind), hitems⟩
  | object members ih =>
    intro depth input rest _ hinput
    have hparts : ∀ member ∈ members, ∀ n ∈ member.2.numbers, n.IsWord := fun member hmem n hn =>
      hwords n (mem_numbers_object.mpr ⟨member, hmem, hn⟩)
    cases room with
    | zero => exact hfits.elim
    | succ room =>
      obtain ⟨behind, hbehind, hmembers⟩ :=
        readsObject_write (fun member hmem => ih member hmem (hparts member hmem) (hfits member hmem)) hparts depth rest
      exact reads_readValue_object_iff.mpr ⟨behind, reads_readOpening_object (hinput.trans hbehind), hmembers⟩

/-- A written text is decoded as the value it was written from, also with white space behind it. -/
theorem decode_write {value : Json} (hwords : ∀ n ∈ value.numbers, n.IsWord) (hfits : Fits maxDepth value)
    (layout : Layout) {blank : List UInt8} (hblank : skipSpace blank = []) :
    decode (Utf8.encodeChars (write layout 0 value) ++ blank) = .ok value := by
  have hends := endsInteger_of_skipSpace_eq_nil hblank
  exact readAll_eq_ok_iff.mpr
    ⟨blank, readsWritten_readValue hwords hfits layout 0 _ _ hends (skipSpace_write hwords layout 0 hends), hblank⟩

end RobotAdmin.Json
