import Mathlib.Data.List.TakeWhile
import RobotAdmin.Text.Numeral

namespace RobotAdmin.Numeral

/-- The characters behind a plus sign, or all of them if there is none. -/
def withoutPlus : List Char → List Char
  | '+' :: rest => rest
  | text => text

/-- A text that spells a number: at least one digit, behind a plus sign or none. Zeros may come first. -/
def Spells (text : String) (n : Nat) : Prop :=
  ∃ sign digits, text.toList = sign ++ digits ∧ (sign = [] ∨ sign = ['+']) ∧ digits ≠ [] ∧
    (∀ c ∈ digits, c.isDigit = true) ∧ Nat.ofDigitChars 10 digits 0 = n

/-- The number that is told by the digits before the first other character. -/
def leadingCount (text : String) : Nat :=
  Nat.ofDigitChars 10 ((withoutPlus text.toList).takeWhile Char.isDigit) 0

/-- Why a text that spells no number below the bound is refused. -/
def refusal (text : String) : NumeralFault :=
  if text = "" then .empty else if wordBound ≤ leadingCount text then .tooLarge else .invalidDigit

theorem le_ofDigitChars (digits : List Char) (count : Nat) : count ≤ Nat.ofDigitChars 10 digits count := by
  induction digits generalizing count with
  | nil => exact Nat.le_of_eq Nat.ofDigitChars_nil.symm
  | cons c digits ih =>
    rw [Nat.ofDigitChars_cons]
    have hle := ih (10 * count + (c.toNat - '0'.toNat))
    omega

theorem toList_toString (secs : UInt64) : (toString secs).toList = Nat.toDigits 10 secs.toNat := by
  show (Nat.repr secs.toNat).toList = Nat.toDigits 10 secs.toNat
  exact Nat.toList_repr

theorem digit?_eq (c : Char) : digit? c = if c.isDigit then some (c.toNat - '0'.toNat) else none := by
  have hbounds : ('0' ≤ c ∧ c ≤ '9') ↔ c.isDigit = true := Char.isDigit_iff_toNat.symm
  simp only [digit?, hbounds]

/-- The digits before the first other character decide whether a count grows too large, and only then does it matter
    whether there is one. -/
theorem digits_eq (text : List Char) : ∀ count, count < wordBound →
    digits count text =
      if wordBound ≤ Nat.ofDigitChars 10 (text.takeWhile Char.isDigit) count then .error .tooLarge
      else if text.all Char.isDigit then .ok (Nat.ofDigitChars 10 text count)
      else .error .invalidDigit := by
  induction text with
  | nil =>
    intro count hcount
    rw [List.takeWhile_nil, Nat.ofDigitChars_nil, if_neg (by omega)]
    rfl
  | cons c text ih =>
    intro count hcount
    rw [digits, digit?_eq]
    by_cases hdigit : c.isDigit = true
    · rw [if_pos hdigit, List.takeWhile_cons_of_pos hdigit, List.all_cons, hdigit, Bool.true_and,
        Nat.ofDigitChars_cons, Nat.ofDigitChars_cons, Nat.mul_comm 10 count]
      dsimp only
      split
      · rename_i hnext
        exact ih _ hnext
      · rename_i hnext
        have hle := le_ofDigitChars (text.takeWhile Char.isDigit) (count * 10 + (c.toNat - '0'.toNat))
        rw [if_pos (by omega)]
    · have hother : c.isDigit = false := Bool.eq_false_iff.mpr hdigit
      rw [if_neg hdigit, List.takeWhile_cons_of_neg hdigit, Nat.ofDigitChars_nil, if_neg (by omega), List.all_cons,
        hother, Bool.false_and, if_neg Bool.false_ne_true]

theorem ofChars?_eq (text : List Char) :
    ofChars? text =
      if text = [] then .error .empty
      else if withoutPlus text = [] then .error .invalidDigit
      else digits 0 (withoutPlus text) := by
  unfold ofChars? withoutPlus
  split <;> simp_all

/-- Before the characters behind the sign stands the sign at most. -/
theorem exists_sign_append_withoutPlus (text : List Char) :
    ∃ sign, text = sign ++ withoutPlus text ∧ (sign = [] ∨ sign = ['+']) := by
  unfold withoutPlus
  split
  · exact ⟨['+'], rfl, .inr rfl⟩
  · exact ⟨[], rfl, .inl rfl⟩

theorem withoutPlus_sign_append {sign digits : List Char} (hsign : sign = [] ∨ sign = ['+'])
    (hdigits : ∀ c ∈ digits, c.isDigit = true) : withoutPlus (sign ++ digits) = digits := by
  obtain rfl | rfl := hsign
  · -- A digit is no plus sign.
    cases digits with
    | nil => rfl
    | cons c digits =>
      have hplus : c ≠ '+' := by
        rintro rfl
        exact absurd (hdigits '+' List.mem_cons_self) (by decide)
      simp [withoutPlus, hplus]
  · rfl

theorem spells_iff {text : String} {n : Nat} :
    Spells text n ↔ withoutPlus text.toList ≠ [] ∧ (withoutPlus text.toList).all Char.isDigit = true ∧
      Nat.ofDigitChars 10 (withoutPlus text.toList) 0 = n := by
  constructor
  · rintro ⟨sign, digits, htext, hsign, hne, hdigits, hvalue⟩
    rw [htext, withoutPlus_sign_append hsign hdigits]
    exact ⟨hne, List.all_eq_true.mpr hdigits, hvalue⟩
  · rintro ⟨hne, hdigits, hvalue⟩
    obtain ⟨sign, htext, hsign⟩ := exists_sign_append_withoutPlus text.toList
    exact ⟨sign, _, htext, hsign, hne, List.all_eq_true.mp hdigits, hvalue⟩

/-- A text is read as the number that it spells. -/
theorem ofText?_of_spells {text : String} {count : UInt64} (hspells : Spells text count.toNat) :
    ofText? text = .ok count := by
  obtain ⟨hne, hdigits, hvalue⟩ := spells_iff.mp hspells
  have htext : text.toList ≠ [] := by
    intro hnil
    rw [hnil] at hne
    exact hne rfl
  have hcount : count.toNat < wordBound := count.toNat_lt
  rw [ofText?, ofChars?_eq, if_neg htext, if_neg hne, digits_eq _ 0 (by decide),
    List.takeWhile_eq_self_iff.mpr (List.all_eq_true.mp hdigits), hvalue, if_neg (by omega), if_pos hdigits, Except.map,
    UInt64.ofNat_toNat]

theorem ofText?_of_not_spells {text : String} (hspells : ∀ count : UInt64, ¬ Spells text count.toNat) :
    ofText? text = .error (refusal text) := by
  rw [ofText?, ofChars?_eq, refusal, leadingCount]
  by_cases htext : text = ""
  · subst htext
    rfl
  rw [if_neg (fun hnil => htext (String.toList_eq_nil_iff.mp hnil)), if_neg htext]
  by_cases hbehind : withoutPlus text.toList = []
  · rw [if_pos hbehind, hbehind]
    rfl
  rw [if_neg hbehind, digits_eq _ 0 (by decide)]
  split
  · rfl
  · rename_i hsmall
    split
    · rename_i hdigits
      -- Digits alone, of a value below the bound, would spell a number after all.
      rw [List.takeWhile_eq_self_iff.mpr (List.all_eq_true.mp hdigits)] at hsmall
      have hspelled : Spells text (Nat.ofDigitChars 10 (withoutPlus text.toList) 0) :=
        spells_iff.mpr ⟨hbehind, hdigits, rfl⟩
      have hcount := hspells (UInt64.ofNat (Nat.ofDigitChars 10 (withoutPlus text.toList) 0))
      rw [UInt64.toNat_ofNat_of_lt' (Nat.lt_of_not_le hsmall)] at hcount
      exact absurd hspelled hcount
    · rfl

theorem ofText?_eq_ok_iff {text : String} {count : UInt64} : ofText? text = .ok count ↔ Spells text count.toNat := by
  refine ⟨fun hread => ?_, ofText?_of_spells⟩
  by_contra hspells
  have hnone (other : UInt64) : ¬ Spells text other.toNat := by
    intro hother
    obtain rfl := Except.ok.inj ((ofText?_of_spells hother).symm.trans hread)
    exact hspells hother
  rw [ofText?_of_not_spells hnone] at hread
  cases hread

/-- The usual spelling of a number: its digits. -/
theorem spells_toString (count : UInt64) : Spells (toString count) count.toNat :=
  ⟨[], Nat.toDigits 10 count.toNat, toList_toString count, .inl rfl, Nat.toDigits_ne_nil,
    fun _ hc => Nat.isDigit_of_mem_toDigits (by decide) (by decide) hc, Nat.ofDigitChars_ten_toDigits⟩

end RobotAdmin.Numeral
