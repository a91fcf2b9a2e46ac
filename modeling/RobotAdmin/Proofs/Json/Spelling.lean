import RobotAdmin.Proofs.Json.Grammar
import RobotAdmin.Proofs.Text.Decoding

namespace RobotAdmin.Json

open Grammar

section

variable {input rest : List UInt8}

theorem reads_readHex_iff {n : Nat} :
    Reads readHex input n rest ↔ ∃ a b c d, input = a :: b :: c :: d :: rest ∧ hexNumber? a b c d = some n := by
  constructor
  · rintro ⟨_, hread⟩
    unfold readHex at hread
    split at hread
    · rename_i a b c d behind _
      split at hread
      · rename_i found hfound
        obtain ⟨rfl, rfl⟩ := Taken.mk.inj (Except.ok.inj hread)
        exact ⟨a, b, c, d, rfl, hfound⟩
      · cases hread
    · cases hread
  · rintro ⟨a, b, c, d, rfl, hhex⟩
    refine ⟨by simp only [List.length_cons]; omega, ?_⟩
    unfold readHex
    simp only [hhex]

theorem reads_readPairing_iff {wanted : UInt8} :
    Reads (readPairing wanted) input () rest ↔ input = wanted :: rest := by
  constructor
  · rintro ⟨_, hread⟩
    unfold readPairing at hread
    split at hread
    · cases hread
    · split at hread
      · rename_i hb
        obtain ⟨_, rfl⟩ := Taken.mk.inj (Except.ok.inj hread)
        rw [hb]
      · cases hread
  · rintro rfl
    exact ⟨Nat.lt_succ_self _, by rw [readPairing, if_pos rfl]; rfl⟩

theorem isLowSurrogate_iff {n : Nat} : isLowSurrogate n = true ↔ 0xDC00 ≤ n ∧ n ≤ 0xDFFF := by
  simp [isLowSurrogate]

theorem isHighSurrogate_iff {n : Nat} : isHighSurrogate n = true ↔ 0xD800 ≤ n ∧ n ≤ 0xDBFF := by
  simp [isHighSurrogate]

theorem escape_of_readCodeUnits {c : Char} (hread : Reads readCodeUnits input c rest) :
    Escape ('u'.toUInt8 :: input) c rest := by
  obtain ⟨_, hread⟩ := hread
  unfold readCodeUnits at hread
  split at hread
  · cases hread
  rename_i first hfirst
  obtain ⟨high, behind, shorter⟩ := first
  obtain ⟨a, b, c, d, rfl, hhex⟩ := reads_readHex_iff.mp ⟨shorter, hfirst⟩
  dsimp only at hread
  split at hread
  · cases hread
  rename_i hlow
  rw [isLowSurrogate_iff] at hlow
  split at hread
  · rename_i hhigh
    rw [Bool.not_eq_true', ← Bool.not_eq_true, isHighSurrogate_iff] at hhigh
    obtain ⟨rfl, rfl⟩ := Taken.mk.inj (Except.ok.inj hread)
    exact .unit (n := high) hhex (by omega)
  rename_i hhigh
  rw [Bool.not_eq_true', Bool.not_eq_false, isHighSurrogate_iff] at hhigh
  split at hread
  · cases hread
  rename_i slash hslash
  split at hread
  · cases hread
  rename_i letter hletter
  split at hread
  · cases hread
  rename_i second hsecond
  have hslash := reads_readPairing_iff.mp ⟨slash.shorter, hslash⟩
  have hletter := reads_readPairing_iff.mp ⟨letter.shorter, hletter⟩
  obtain ⟨e, f, g, h, hbehind, hhex'⟩ := reads_readHex_iff.mp ⟨second.shorter, hsecond⟩
  split at hread
  · rename_i hlow'
    obtain ⟨rfl, rfl⟩ := Taken.mk.inj (Except.ok.inj hread)
    rw [isLowSurrogate_iff] at hlow'
    have hpair : Escape ('u'.toUInt8 :: a :: b :: c :: d :: '\\'.toUInt8 :: 'u'.toUInt8 :: e :: f :: g :: h ::
        second.rest) (pairedChar high second.value) second.rest := .pair hhex hhigh hhex' hlow'
    rwa [← hbehind, ← hletter, ← hslash] at hpair
  · cases hread

theorem reads_readCodeUnits_of_pair {a b c d e f g h : UInt8} {high low : Nat} (hhex : hexNumber? a b c d = some high)
    (hhigh : 0xD800 ≤ high ∧ high ≤ 0xDBFF) (hhex' : hexNumber? e f g h = some low)
    (hlow : 0xDC00 ≤ low ∧ low ≤ 0xDFFF) (rest : List UInt8) :
    Reads readCodeUnits
      (a :: b :: c :: d :: '\\'.toUInt8 :: 'u'.toUInt8 :: e :: f :: g :: h :: rest) (pairedChar high low) rest := by
  have hnotLow : isLowSurrogate high = false := by
    rw [← Bool.not_eq_true, isLowSurrogate_iff]
    omega
  refine ⟨by simp only [List.length_cons]; omega, ?_⟩
  unfold readCodeUnits
  simp only [readHex, readPairing, hhex, hnotLow, isHighSurrogate_iff.mpr hhigh, Bool.false_eq_true, Bool.not_true,
    ↓reduceIte, Taken.one, hhex', isLowSurrogate_iff.mpr hlow]

/-- An escape is read as the character it stands for. -/
theorem reads_readEscape_iff {c : Char} : Reads readEscape input c rest ↔ Escape input c rest := by
  constructor
  · rintro ⟨_, hread⟩
    unfold readEscape at hread
    split at hread
    · cases hread
    split at hread
    · rename_i hletter
      obtain ⟨taken, htaken, hsame⟩ := exists_of_map_eq_ok hread
      obtain ⟨rfl, rfl⟩ := Taken.mk.inj hsame
      rw [hletter]
      exact escape_of_readCodeUnits ⟨taken.shorter, htaken⟩
    split at hread
    · rename_i found hsimple
      obtain ⟨rfl, rfl⟩ := Taken.mk.inj (Except.ok.inj hread)
      exact .letter hsimple
    · cases hread
  · intro hescape
    cases hescape with
    | letter hletter =>
      refine reads_readEscape_of_simple ?_ hletter rest
      rintro rfl
      cases hletter
    | @unit a b c d n _ hhex hunit =>
      obtain ⟨_, hfirst⟩ := reads_readHex_iff.mpr ⟨a, b, c, d, rfl, hhex⟩
      have hlow : isLowSurrogate n = false := by
        rw [← Bool.not_eq_true, isLowSurrogate_iff]
        omega
      have hhigh : isHighSurrogate n = false := by
        rw [← Bool.not_eq_true, isHighSurrogate_iff]
        omega
      refine ⟨by simp only [List.length_cons]; omega, ?_⟩
      rw [readEscape, if_pos rfl, readCodeUnits, hfirst]
      dsimp only
      rw [hlow, hhigh]
      rfl
    | pair hhex hhigh hhex' hlow =>
      obtain ⟨shorter, hread⟩ := reads_readCodeUnits_of_pair hhex hhigh hhex' hlow rest
      refine ⟨Nat.lt_succ_of_lt shorter, ?_⟩
      rw [readEscape, if_pos rfl, hread]
      simp only [Except.map, Taken.past]

/-- A character whose first byte has no meaning of its own in a string has none itself. -/
theorem plain_of_byte {c : Char} {b : UInt8} {bytes : List UInt8} (hbytes : String.utf8EncodeChar c = b :: bytes)
    (hquote : b ≠ '"'.toUInt8) (hbackslash : b ≠ '\\'.toUInt8) (hcontrol : ¬ b < 0x20) :
    c ≠ '"' ∧ c ≠ '\\' ∧ 0x20 ≤ c.toNat := by
  refine ⟨?_, ?_, Nat.le_of_not_lt fun hsmall => ?_⟩
  · rintro rfl
    exact hquote (List.cons.inj hbytes).1.symm
  · rintro rfl
    exact hbackslash (List.cons.inj hbytes).1.symm
  · have hnat : c.val.toNat = c.toNat := rfl
    rw [String.utf8EncodeChar] at hbytes
    simp only [hnat] at hbytes
    rw [if_pos (by omega)] at hbytes
    refine hcontrol (UInt8.lt_iff_toNat_lt.mpr ?_)
    rw [← (List.cons.inj hbytes).1, UInt8.toNat_ofNat']
    simp only [UInt8.reduceToNat]
    omega

/-- Only a string without stray bytes is read to its end. -/
theorem text_of_readTextFrom {whole : List UInt8} {before : List Char} {stray : Option (List UInt8 × Nat)}
    {hinput : input.length ≤ whole.length} {taken : Taken String whole}
    (hread : readTextFrom whole before stray input hinput = .ok taken) :
    stray = none ∧ ∃ chars, Text input chars taken.rest ∧ taken.value = String.ofList (before.reverse ++ chars) := by
  fun_induction readTextFrom whole before stray input hinput with
  | case1 => cases hread
  | case2 => cases hread
  | case3 before rest =>
    obtain rfl := Except.ok.inj hread
    exact ⟨rfl, [], .close, by rw [List.append_nil]⟩
  | case4 => cases hread
  | case5 before stray rest escape hescape _ _ _ _ ih =>
    obtain ⟨hstray, chars, hchars, hvalue⟩ := ih hread
    refine ⟨Option.map_eq_none_iff.mp hstray, escape.value :: chars, ?_, by simpa using hvalue⟩
    exact .escape (reads_readEscape_iff.mp ⟨escape.shorter, hescape⟩) hchars
  | case6 => cases hread
  | case7 before stray b rest _ hquote hbackslash hcontrol c behind hlead _ _ ih =>
    obtain ⟨hstray, chars, hchars, hvalue⟩ := ih hread
    refine ⟨hstray, c :: chars, ?_, by simpa using hvalue⟩
    have hbytes := Utf8.eq_append_of_lead_eq_char hlead
    obtain ⟨d, bytes, hc⟩ := Utf8.exists_cons_utf8EncodeChar c
    rw [hc] at hbytes
    obtain rfl := (List.cons.inj hbytes).1
    obtain ⟨hquote, hbackslash, hcontrol⟩ := plain_of_byte hc hquote hbackslash hcontrol
    rw [hbytes, ← hc]
    exact .plain hquote hbackslash hcontrol hchars
  | case8 before stray b rest _ hquote hbackslash hcontrol behind hlead _ _ ih =>
    obtain ⟨hstray, _⟩ := ih hread
    cases stray <;> cases hstray

theorem readTextFrom_of_text {whole : List UInt8} {chars : List Char} (htext : Text input chars rest) :
    ∀ (before : List Char) (hinput : input.length ≤ whole.length), ∃ shorter,
      readTextFrom whole before none input hinput = .ok ⟨String.ofList (before.reverse ++ chars), rest, shorter⟩ := by
  induction htext with
  | close =>
    intro before hinput
    obtain ⟨shorter, hread⟩ := readTextFrom_quote before hinput
    exact ⟨shorter, by rw [hread, List.append_nil]⟩
  | @escape input behind rest c chars hescape _ ih =>
    intro before hinput
    obtain ⟨hbehind, hstep⟩ := readTextFrom_escape before (reads_readEscape_iff.mpr hescape) hinput
    obtain ⟨shorter, hread⟩ := ih (c :: before) hbehind
    exact ⟨shorter, by rw [hstep, hread, List.reverse_cons, List.append_assoc, List.singleton_append]⟩
  | @plain behind rest c chars hquote hbackslash hcontrol _ ih =>
    intro before hinput
    obtain ⟨hbehind, hstep⟩ := readTextFrom_plain before hquote hbackslash hcontrol hinput
    obtain ⟨shorter, hread⟩ := ih (c :: before) hbehind
    exact ⟨shorter, by rw [hstep, hread, List.reverse_cons, List.append_assoc, List.singleton_append]⟩

/-- Strings are read as the grammar has them. -/
theorem reads_readText_iff {text : String} : Reads readText input text rest ↔ Text input text.toList rest := by
  constructor
  · rintro ⟨_, hread⟩
    obtain ⟨_, chars, hchars, hvalue⟩ := text_of_readTextFrom hread
    obtain rfl : text = String.ofList chars := hvalue
    rwa [String.toList_ofList]
  · intro htext
    obtain ⟨shorter, hread⟩ := readTextFrom_of_text htext [] (Nat.le_refl input.length)
    exact ⟨shorter, by rw [readText, hread, List.reverse_nil, List.nil_append, String.ofList_toList]⟩

end

end RobotAdmin.Json
