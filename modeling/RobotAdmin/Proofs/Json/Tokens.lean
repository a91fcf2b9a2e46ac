import RobotAdmin.Proofs.Json.Spelling

namespace RobotAdmin.Json

open Grammar

section

variable {input rest : List UInt8}

theorem eq_append_of_readKeyword {letters : List UInt8} {behind : Rest input}
    (hread : readKeyword letters input = .ok behind) : input = letters ++ behind.val := by
  induction letters generalizing input with
  | nil =>
    rw [readKeyword] at hread
    obtain rfl := Except.ok.inj hread
    rfl
  | cons letter letters ih =>
    cases input with
    | nil => cases hread
    | cons b input =>
      rw [readKeyword] at hread
      split at hread
      · rename_i hb
        obtain ⟨found, hfound, rfl⟩ := exists_of_map_eq_ok hread
        exact congrArg₂ List.cons hb (ih hfound)
      · cases hread

/-- What an opening is, by the byte it begins with. -/
inductive Opens (input : List UInt8) : Opening → List UInt8 → Prop where
  | null {rest : List UInt8} (hspace : skipSpace input = 'n'.toUInt8 :: ull ++ rest) : Opens input (.scalar .null) rest
  | true {rest : List UInt8} (hspace : skipSpace input = 't'.toUInt8 :: rue ++ rest) :
      Opens input (.scalar (.bool true)) rest
  | false {rest : List UInt8} (hspace : skipSpace input = 'f'.toUInt8 :: alse ++ rest) :
      Opens input (.scalar (.bool false)) rest
  | number {b : UInt8} {behind rest : List UInt8} {number : Number} (hspace : skipSpace input = b :: behind)
      (hb : b = '-'.toUInt8 ∨ isDigit b = true) (hnumber : Reads readNumber (b :: behind) number rest) :
      Opens input (.scalar (.number number)) rest
  | text {behind rest : List UInt8} {text : String} (hspace : skipSpace input = '"'.toUInt8 :: behind)
      (htext : Reads readText behind text rest) : Opens input (.scalar (.text text)) rest
  | array {rest : List UInt8} (hspace : skipSpace input = '['.toUInt8 :: rest) : Opens input .array rest
  | object {rest : List UInt8} (hspace : skipSpace input = '\x7b'.toUInt8 :: rest) : Opens input .object rest

theorem opens_of_readOpening {opening : Opening} (hread : Reads readOpening input opening rest) :
    Opens input opening rest := by
  obtain ⟨shorter, hread⟩ := hread
  have hkeyword {letters : List UInt8} {b : UInt8} {behind : List UInt8} {value : Json}
      {hstart : (b :: behind).length ≤ input.length} (hspace : skipSpace input = b :: behind)
      (hfound : (keyword letters value b behind).map (·.from hstart) = .ok ⟨opening, rest, shorter⟩) :
      opening = .scalar value ∧ skipSpace input = b :: letters ++ rest := by
    obtain ⟨_, hfound, hsame⟩ := exists_of_map_eq_ok hfound
    obtain ⟨⟨after, _⟩, hafter, rfl⟩ := exists_of_map_eq_ok hfound
    obtain ⟨rfl, rfl⟩ := Taken.mk.inj hsame
    exact ⟨rfl, hspace.trans (congrArg (b :: ·) (eq_append_of_readKeyword hafter))⟩
  unfold readOpening at hread
  split at hread
  · cases hread
  rename_i b behind hspace
  dsimp only at hread
  split at hread
  · rename_i hb
    subst hb
    obtain ⟨rfl, hstart⟩ := hkeyword hspace hread
    exact .null hstart
  split at hread
  · rename_i hb
    subst hb
    obtain ⟨rfl, hstart⟩ := hkeyword hspace hread
    exact .true hstart
  split at hread
  · rename_i hb
    subst hb
    obtain ⟨rfl, hstart⟩ := hkeyword hspace hread
    exact .false hstart
  split at hread
  · rename_i hb
    obtain ⟨taken, htaken, hsame⟩ := exists_of_map_eq_ok hread
    obtain ⟨rfl, rfl⟩ := Taken.mk.inj hsame
    exact .number hspace hb ⟨taken.shorter, htaken⟩
  split at hread
  · rename_i hb
    subst hb
    obtain ⟨taken, htaken, hsame⟩ := exists_of_map_eq_ok hread
    obtain ⟨rfl, rfl⟩ := Taken.mk.inj hsame
    exact .text hspace ⟨taken.shorter, htaken⟩
  split at hread
  · rename_i hb
    subst hb
    obtain ⟨rfl, rfl⟩ := Taken.mk.inj (Except.ok.inj hread)
    exact .array hspace
  split at hread
  · rename_i hb
    subst hb
    obtain ⟨rfl, rfl⟩ := Taken.mk.inj (Except.ok.inj hread)
    exact .object hspace
  · cases hread

theorem reads_readOpening_text_iff {text : String} :
    Reads readOpening input (.scalar (.text text)) rest ↔
      ∃ start, Space input ('"'.toUInt8 :: start) ∧ Text start text.toList rest := by
  constructor
  · intro hread
    cases opens_of_readOpening hread with
    | text hspace htext => exact ⟨_, space_of_skipSpace hspace, reads_readText_iff.mp htext⟩
  · rintro ⟨start, hspace, htext⟩
    exact reads_readOpening_text ((space_cons_iff (by decide)).mp hspace) (reads_readText_iff.mpr htext)

theorem number_of_readOpening {number : Number} (hread : Reads readOpening input (.scalar (.number number)) rest) :
    ∃ start, Space input start ∧ Reads readNumber start number rest := by
  cases opens_of_readOpening hread with
  | number hspace _ hnumber => exact ⟨_, space_of_skipSpace hspace, hnumber⟩

theorem reads_readOpening_array_iff : Reads readOpening input .array rest ↔ Space input ('['.toUInt8 :: rest) := by
  rw [space_cons_iff (by decide)]
  refine ⟨fun hread => ?_, reads_readOpening_array⟩
  cases opens_of_readOpening hread with
  | array hspace => exact hspace

theorem reads_readOpening_object_iff :
    Reads readOpening input .object rest ↔ Space input ('\x7b'.toUInt8 :: rest) := by
  rw [space_cons_iff (by decide)]
  refine ⟨fun hread => ?_, reads_readOpening_object⟩
  cases opens_of_readOpening hread with
  | object hspace => exact hspace

theorem reads_readColon_iff : Reads readColon input () rest ↔ Space input (':'.toUInt8 :: rest) := by
  rw [space_cons_iff (by decide)]
  refine ⟨?_, reads_readColon⟩
  rintro ⟨_, hread⟩
  unfold readColon at hread
  split at hread
  · cases hread
  rename_i b behind hspace
  split at hread
  · rename_i hb
    obtain ⟨_, rfl⟩ := Taken.mk.inj (Except.ok.inj hread)
    rw [hspace, hb]
  · cases hread

theorem reads_closeObject_iff : Reads closeObject input () rest ↔ Space input ('\x7d'.toUInt8 :: rest) := by
  rw [space_cons_iff (by decide)]
  refine ⟨?_, reads_closeObject⟩
  rintro ⟨_, hread⟩
  unfold closeObject at hread
  split at hread
  · cases hread
  rename_i b behind hspace
  split at hread
  · rename_i hb
    obtain ⟨_, rfl⟩ := Taken.mk.inj (Except.ok.inj hread)
    rw [hspace, hb]
  · split at hread <;> cases hread

theorem reads_closeArray_iff : Reads closeArray input () rest ↔ Space input (']'.toUInt8 :: rest) := by
  rw [space_cons_iff (by decide)]
  refine ⟨?_, reads_closeArray⟩
  rintro ⟨_, hread⟩
  unfold closeArray at hread
  split at hread
  · cases hread
  rename_i b behind hspace
  split at hread
  · rename_i hb
    obtain ⟨_, rfl⟩ := Taken.mk.inj (Except.ok.inj hread)
    rw [hspace, hb]
  split at hread
  · split at hread
    · split at hread <;> cases hread
    · cases hread
  · cases hread

/-- Where a name is found, it stands behind what divides it from the member before it. -/
theorem comma_of_nextName {first : Bool} {name : Taken String input} (hname : nextName first input = .ok (some name)) :
    ∃ start body, Comma first input start ∧ Space start ('"'.toUInt8 :: body) ∧
      Text body name.value.toList name.rest := by
  have htext {behind : List UInt8} {hlonger : behind.length ≤ input.length}
      (hread : (readText behind).map (some <| Taken.from · hlonger) = .ok (some name)) :
      Text behind name.value.toList name.rest := by
    obtain ⟨taken, htaken, hsame⟩ := exists_of_map_eq_ok hread
    obtain rfl := Option.some.inj hsame
    exact reads_readText_iff.mp ⟨taken.shorter, htaken⟩
  unfold nextName at hname
  split at hname
  · cases hname
  rename_i b behind hspace
  dsimp only at hname
  split at hname
  · cases hname
  split at hname
  · rename_i hfirst
    subst hfirst
    split at hname
    · rename_i hquote
      subst hquote
      exact ⟨input, behind, rfl, (space_cons_iff (by decide)).mpr hspace, htext hname⟩
    · cases hname
  rename_i hfirst
  obtain rfl := eq_false_of_ne_true hfirst
  split at hname
  · rename_i hcomma
    subst hcomma
    split at hname
    · cases hname
    rename_i c body hstart
    split at hname
    · rename_i hquote
      subst hquote
      exact ⟨behind, body, (space_cons_iff (by decide)).mpr hspace, (space_cons_iff (by decide)).mpr hstart,
        htext hname⟩
    · split at hname <;> cases hname
  · cases hname

theorem nextName_of_comma {first : Bool} {start body : List UInt8} {name : String} (hcomma : Comma first input start)
    (hquote : Space start ('"'.toUInt8 :: body)) (htext : Text body name.toList rest) :
    ∃ shorter, nextName first input = .ok (some ⟨name, rest, shorter⟩) := by
  have hstart := (space_cons_iff (by decide)).mp hquote
  have hread := reads_readText_iff.mpr htext
  cases first with
  | true =>
    obtain rfl : input = start := hcomma
    exact nextName_first hstart hread
  | false => exact nextName_comma ((space_cons_iff (by decide)).mp hcomma) hstart hread

/-- An item that is found begins behind what divides it from the one before it. -/
theorem comma_of_nextItem {first : Bool} {item : Rest input} (hitem : nextItem first input = .ok (some item)) :
    ∃ start, Comma first input start ∧ Space start item.val := by
  unfold nextItem at hitem
  split at hitem
  · cases hitem
  rename_i b behind hspace
  split at hitem
  · cases hitem
  split at hitem
  · rename_i hfirst
    subst hfirst
    obtain rfl := Option.some.inj (Except.ok.inj hitem)
    exact ⟨input, rfl, space_of_skipSpace hspace⟩
  rename_i hfirst
  obtain rfl := eq_false_of_ne_true hfirst
  split at hitem
  · rename_i hcomma
    subst hcomma
    split at hitem
    · cases hitem
    rename_i c more hstart
    split at hitem
    · cases hitem
    · obtain rfl := Option.some.inj (Except.ok.inj hitem)
      exact ⟨behind, (space_cons_iff (by decide)).mpr hspace, space_of_skipSpace hstart⟩
  · cases hitem

theorem nextItem_of_comma {first : Bool} {start behind : List UInt8} {b : UInt8} (hcomma : Comma first input start)
    (hstart : skipSpace start = b :: behind) (hb : b ≠ ']'.toUInt8) :
    ∃ notLonger, nextItem first input = .ok (some ⟨b :: behind, notLonger⟩) := by
  cases first with
  | true =>
    obtain rfl : input = start := hcomma
    exact nextItem_first hstart hb
  | false => exact nextItem_comma ((space_cons_iff (by decide)).mp hcomma) hstart hb

end

end RobotAdmin.Json
