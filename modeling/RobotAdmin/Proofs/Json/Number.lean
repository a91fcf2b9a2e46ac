import RobotAdmin.Json.Reader.Number
import RobotAdmin.Proofs.Json.Text
import RobotAdmin.Proofs.Text.Numeral

namespace RobotAdmin.Json

/-- What can follow an integer. -/
def EndsInteger (rest : List UInt8) : Prop :=
  ∀ b ∈ rest.head?, isDigit b = false ∧ b ≠ '.'.toUInt8 ∧ isExponentLetter b = false

theorem utf8EncodeChar_of_isDigit {c : Char} (hc : c.isDigit = true) :
    ∃ b, String.utf8EncodeChar c = [b] ∧ isDigit b = true ∧ digitValue b = c.toNat - '0'.toNat ∧
      (b = '0'.toUInt8 → c = '0') := by
  have hdigits : ∀ n < 10, ∃ b, String.utf8EncodeChar (Nat.digitChar n) = [b] ∧ isDigit b = true ∧
      digitValue b = (Nat.digitChar n).toNat - '0'.toNat ∧ (b = '0'.toUInt8 → Nat.digitChar n = '0') := by
    intro n hn
    refine ⟨(Nat.digitChar n).toUInt8, ?_⟩
    revert n
    decide
  obtain ⟨hlow, hhigh⟩ : 48 ≤ c.toNat ∧ c.toNat ≤ 57 := Char.isDigit_iff_toNat.mp hc
  have hchar : Nat.digitChar (c.toNat - 48) = c := by
    apply Char.toNat_inj.mp
    rw [Nat.toNat_digitChar_of_lt_ten (by omega)]
    omega
  rw [← hchar]
  exact hdigits (c.toNat - 48) (by omega)

theorem growCount_of_endsInteger {rest : List UInt8} (hrest : EndsInteger rest) (bound count : Nat) :
    growCount bound count rest = (count, rest) := by
  cases rest with
  | nil => rfl
  | cons b rest => rw [growCount, if_neg (by simp [(hrest b rfl).1])]

/-- Digits whose count stays below the bound are all taken. -/
theorem growCount_digits {bound : Nat} {rest : List UInt8} (hrest : EndsInteger rest) (digits : List Char) :
    ∀ count, (∀ c ∈ digits, c.isDigit = true) → Nat.ofDigitChars 10 digits count < bound →
      growCount bound count (Utf8.encodeChars digits ++ rest) = (Nat.ofDigitChars 10 digits count, rest) := by
  induction digits with
  | nil =>
    intro count _ _
    rw [Utf8.encodeChars_nil, List.nil_append, Nat.ofDigitChars_nil, growCount_of_endsInteger hrest]
  | cons c digits ih =>
    intro count hdigits hbound
    obtain ⟨b, hb, hdigit, hvalue, _⟩ := utf8EncodeChar_of_isDigit (hdigits c List.mem_cons_self)
    have hnext : count * 10 + digitValue b = 10 * count + (c.toNat - '0'.toNat) := by omega
    have hle := Numeral.le_ofDigitChars digits (10 * count + (c.toNat - '0'.toNat))
    rw [Nat.ofDigitChars_cons] at hbound ⊢
    rw [Utf8.encodeChars_cons, hb, List.append_assoc, List.singleton_append, growCount,
      if_pos ⟨hdigit, by omega⟩, hnext]
    exact ih _ (fun d hd => hdigits d (List.mem_cons_of_mem c hd)) hbound

/-- No number but zero begins with a zero. -/
theorem head_toDigits {n : Nat} (hn : 0 < n) : ∃ c digits, Nat.toDigits 10 n = c :: digits ∧ c ≠ '0' := by
  induction n using Nat.base_induction 10 (by decide) with
  | single n hsmall =>
    refine ⟨n.digitChar, [], Nat.toDigits_of_lt_base hsmall, ?_⟩
    intro hzero
    have hvalue := Nat.toNat_digitChar_of_lt_ten hsmall
    rw [hzero] at hvalue
    simp at hvalue
    omega
  | digit n d hd hpos ih =>
    obtain ⟨c, digits, hdigits, hc⟩ := ih hpos
    refine ⟨c, digits ++ Nat.toDigits 10 d, ?_, hc⟩
    rw [← Nat.toDigits_append_toDigits (by decide) hpos hd, hdigits, List.cons_append]

theorem readEnding_of_endsInteger {rest : List UInt8} (hrest : EndsInteger rest) (n : Nat) :
    ∃ notLonger, readEnding n 0 true rest = .ok ⟨n, 0, true, rest, notLonger⟩ := by
  cases rest with
  | nil => exact ⟨_, rfl⟩
  | cons b rest =>
    obtain ⟨_, hpoint, hexponent⟩ := hrest b rfl
    exact ⟨_, by rw [readEnding, if_neg (by simpa using hpoint), if_neg (by simp [hexponent])]⟩

/-- Digits behind the first, which is not a zero unless it is the only one, as they are taken by a literal. -/
theorem growCount_literal {n : Nat} (hn : n < wordBound) {rest : List UInt8} (hrest : EndsInteger rest) :
    ∃ b input, Utf8.encodeChars (Nat.toDigits 10 n) ++ rest = b :: input ∧ isDigit b = true ∧
      ¬ (b == '0'.toUInt8 ∧ input.head?.any isDigit = true) ∧
      (if b == '0'.toUInt8 then (0, input) else growCount wordBound (digitValue b) input) = (n, rest) := by
  obtain rfl | hpos := Nat.eq_zero_or_pos n
  · refine ⟨'0'.toUInt8, rest, by rw [Nat.toDigits_zero]; rfl, by decide, ?_, rfl⟩
    rintro ⟨_, hdigit⟩
    cases rest with
    | nil => cases hdigit
    | cons b rest => simp [(hrest b rfl).1] at hdigit
  · obtain ⟨c, digits, htext, hc⟩ := head_toDigits hpos
    have hdigits : ∀ d ∈ c :: digits, d.isDigit = true := fun d hd =>
      Nat.isDigit_of_mem_toDigits (by decide) (by decide) (htext ▸ hd)
    obtain ⟨b, hb, hdigit, hvalue, hzero⟩ := utf8EncodeChar_of_isDigit (hdigits c List.mem_cons_self)
    have hcount : Nat.ofDigitChars 10 digits (digitValue b) = n := by
      have hall := Nat.ofDigitChars_ten_toDigits (n := n)
      rwa [htext, Nat.ofDigitChars_cons, Nat.mul_zero, Nat.zero_add, ← hvalue] at hall
    have hne : (b == '0'.toUInt8) = false := by simpa using fun h => hc (hzero h)
    refine ⟨b, Utf8.encodeChars digits ++ rest, ?_, hdigit, by simp [hne], ?_⟩
    · rw [htext, Utf8.encodeChars_cons, hb, List.append_assoc, List.singleton_append]
    · rw [hne, if_neg Bool.false_ne_true, growCount_digits hrest digits _
        (fun d hd => hdigits d (List.mem_cons_of_mem c hd)) (by rwa [hcount]), hcount]

/-- The digits of a number below the bound are read back as an integer. -/
theorem readLiteral_toDigits {n : Nat} (hn : n < wordBound) {rest : List UInt8} (hrest : EndsInteger rest) :
    ∃ shorter, readLiteral (Utf8.encodeChars (Nat.toDigits 10 n) ++ rest) = .ok ⟨(n, 0, true), rest, shorter⟩ := by
  obtain ⟨b, input, hinput, hdigit, hzero, hgrown⟩ := growCount_literal hn hrest
  rw [hinput]
  have hskip : skipDigits rest = rest := by
    cases rest with
    | nil => rfl
    | cons c rest => rw [skipDigits, List.dropWhile_cons_of_neg (by simp [(hrest c rfl).1])]
  have hcount : digitCount rest = 0 := by
    cases rest with
    | nil => rfl
    | cons c rest => rw [digitCount, List.takeWhile_cons_of_neg (by simp [(hrest c rfl).1])]; rfl
  -- The ending is read behind digits that are known only by an equation, so they are put in there first.
  have hending : ∀ grown : Nat × List UInt8, grown = (n, rest) → ∃ notLonger,
      readEnding grown.1 (digitCount grown.2) (digitCount grown.2 == 0) (skipDigits grown.2) =
        .ok ⟨n, 0, true, rest, notLonger⟩ := by
    rintro _ rfl
    dsimp only
    rw [hskip, hcount]
    exact readEnding_of_endsInteger hrest n
  have hle : rest.length ≤ input.length := by
    split at hgrown
    · obtain ⟨_, rfl⟩ := Prod.mk.inj hgrown
      exact Nat.le_refl _
    · have hgrow := length_growCount_le wordBound (digitValue b) input
      rwa [hgrown] at hgrow
  obtain ⟨notLonger, hending⟩ := hending _ hgrown
  refine ⟨Nat.lt_succ_of_le hle, ?_⟩
  rw [readLiteral, if_neg (by simp [hdigit]), if_neg hzero]
  dsimp only
  rw [hending]
  rfl

/-- The digits of a number of 64 bits are read back as it. -/
theorem reads_readNumber {n : Nat} (hn : n < wordBound) {rest : List UInt8} (hrest : EndsInteger rest) :
    Reads readNumber (Utf8.encodeChars (Nat.toDigits 10 n) ++ rest) (.integer n) rest := by
  have hliteral := readLiteral_toDigits hn hrest
  obtain ⟨b, input, hinput, hdigit, _⟩ := growCount_literal hn hrest
  have hminus : (b == '-'.toUInt8) = false := by
    apply Bool.eq_false_iff.mpr
    intro hb
    rw [beq_iff_eq.mp hb] at hdigit
    revert hdigit
    decide
  rw [hinput] at hliteral ⊢
  obtain ⟨shorter, hliteral⟩ := hliteral
  refine ⟨shorter, ?_⟩
  rw [readNumber, if_neg (by simp [hminus]), readMagnitude]
  simp only [hliteral, numberOf?]
  rfl

theorem isSpace_of_isDigit {b : UInt8} (hb : isDigit b = true) : isSpace b = false := by
  apply Bool.eq_false_iff.mpr
  intro hspace
  simp only [isSpace, Bool.or_eq_true, beq_iff_eq] at hspace
  obtain ((rfl | rfl) | rfl) | rfl := hspace <;> revert hb <;> decide

/-- An integer of 64 bits, with or without a sign. -/
def Number.IsWord : Number → Prop
  | .integer n => -9223372036854775808 ≤ n ∧ n < 18446744073709551616
  | .float _ => False

theorem integerText_natCast (n : Nat) : integerText n = Nat.toDigits 10 n := by
  rw [integerText, if_neg (by omega), Int.natAbs_natCast, List.nil_append]

theorem integerText_neg {n : Nat} (hn : 0 < n) : integerText (-n) = '-' :: Nat.toDigits 10 n := by
  rw [integerText, if_pos (by omega), Int.natAbs_neg, Int.natAbs_natCast, List.singleton_append]

theorem exists_cons_integerText {n : Int} (hn : (Number.integer n).IsWord) {rest : List UInt8}
    (hrest : EndsInteger rest) :
    ∃ b input, Utf8.encodeChars (integerText n) ++ rest = b :: input ∧ (b = '-'.toUInt8 ∨ isDigit b = true) := by
  obtain ⟨hlow, hhigh⟩ := hn
  by_cases hsign : n < 0
  · obtain ⟨m, rfl⟩ : ∃ m : Nat, n = -m := ⟨n.natAbs, by omega⟩
    rw [integerText_neg (by omega), Utf8.encodeChars_cons]
    exact ⟨'-'.toUInt8, _, rfl, .inl rfl⟩
  · obtain ⟨m, rfl⟩ := Int.eq_ofNat_of_zero_le (Int.not_lt.mp hsign)
    obtain ⟨b, input, hinput, hdigit, _⟩ := growCount_literal (n := m) (by unfold wordBound; omega) hrest
    exact ⟨b, input, by rw [integerText_natCast, hinput], .inr hdigit⟩

/-- A written integer of 64 bits is read back. -/
theorem reads_readNumber_integerText {n : Int} (hn : (Number.integer n).IsWord) {rest : List UInt8}
    (hrest : EndsInteger rest) :
    Reads readNumber (Utf8.encodeChars (integerText n) ++ rest) (.integer n) rest := by
  obtain ⟨hlow, hhigh⟩ := hn
  by_cases hsign : n < 0
  · obtain ⟨m, rfl⟩ : ∃ m : Nat, n = -m := ⟨n.natAbs, by omega⟩
    obtain ⟨shorter, hliteral⟩ := readLiteral_toDigits (n := m) (by unfold wordBound; omega) hrest
    rw [integerText_neg (by omega), Utf8.encodeChars_cons, show String.utf8EncodeChar '-' = ['-'.toUInt8] by decide,
      List.singleton_append, List.cons_append]
    refine ⟨Nat.lt_succ_of_lt shorter, ?_⟩
    have hnumber : numberOf? true (m, 0, true) = some (.integer (-m)) := by
      rw [numberOf?, if_neg (by simp), if_pos ⟨rfl, by omega, by omega⟩]
    rw [readNumber, if_pos (by decide), readMagnitude]
    simp only [hliteral, hnumber]
    rfl
  · obtain ⟨m, rfl⟩ := Int.eq_ofNat_of_zero_le (Int.not_lt.mp hsign)
    rw [integerText_natCast]
    exact reads_readNumber (by unfold wordBound; omega) hrest

end RobotAdmin.Json
