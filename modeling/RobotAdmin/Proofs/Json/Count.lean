import RobotAdmin.Proofs.Json.Number
import RobotAdmin.Proofs.Json.Magnitude

namespace RobotAdmin.Json

section

variable {input : List UInt8}

theorem encodeChars_toDigits_digitValue {b : UInt8} (hb : isDigit b = true) :
    Utf8.encodeChars (Nat.toDigits 10 (digitValue b)) = [b] := by
  have hdigits : ∀ k < 10, Utf8.encodeChars (Nat.toDigits 10 k) = [UInt8.ofNat (k + 48)] := by decide
  simp only [isDigit, Bool.and_eq_true, decide_eq_true_eq, UInt8.le_iff_toNat_le] at hb
  obtain ⟨hlow, hhigh⟩ : 48 ≤ b.toNat ∧ b.toNat ≤ 57 := hb
  have hvalue : digitValue b = b.toNat - 48 := rfl
  rw [hdigits _ (by omega), hvalue, Nat.sub_add_cancel hlow, UInt8.ofNat_toNat]

theorem digitValue_lt {b : UInt8} (hb : isDigit b = true) : digitValue b < 10 := by
  simp only [isDigit, Bool.and_eq_true, decide_eq_true_eq, UInt8.le_iff_toNat_le] at hb
  obtain ⟨hlow, hhigh⟩ : 48 ≤ b.toNat ∧ b.toNat ≤ 57 := hb
  have hvalue : digitValue b = b.toNat - 48 := rfl
  omega

/-- The digits that a positive count grows by are those that its own digits lack. -/
theorem digits_of_growCount {bound count : Nat} (hpos : 0 < count) (hbound : count < bound) :
    (growCount bound count input).1 < bound ∧
      Utf8.encodeChars (Nat.toDigits 10 count) ++ input =
        Utf8.encodeChars (Nat.toDigits 10 (growCount bound count input).1) ++ (growCount bound count input).2 := by
  induction input generalizing count with
  | nil => exact ⟨hbound, rfl⟩
  | cons b input ih =>
    rw [growCount]
    split
    · rename_i hfits
      obtain ⟨hlt, hsame⟩ := @ih (count * 10 + digitValue b) (by omega) hfits.2
      refine ⟨hlt, ?_⟩
      rw [← hsame, Nat.mul_comm, ← Nat.toDigits_append_toDigits (by decide) hpos (digitValue_lt hfits.1),
        Utf8.encodeChars_append, encodeChars_toDigits_digitValue hfits.1, List.append_assoc, List.singleton_append]
    · exact ⟨hbound, rfl⟩

theorem integral_of_readExponent {significand : Nat} {scale : Int} {literal : Literal input}
    (hread : readExponent significand scale input = .ok literal) : literal.integral = false := by
  unfold readExponent at hread
  split at hread
  · cases hread
  dsimp only at hread
  split at hread
  · split at hread
    · cases hread
    · split at hread
      · obtain rfl := Except.ok.inj hread
        rfl
      · obtain rfl := Except.ok.inj hread
        rfl
  · cases hread

theorem integral_of_readFraction {significand : Nat} {scale : Int} {literal : Literal input}
    (hread : readFraction significand scale input = .ok literal) : literal.integral = false := by
  unfold readFraction at hread
  dsimp only at hread
  split at hread
  · split at hread
    · cases hread
    · cases hread
  · split at hread
    · obtain rfl := Except.ok.inj hread
      rfl
    · split at hread
      · obtain ⟨found, hfound, rfl⟩ := exists_of_map_eq_ok hread
        have hnot := integral_of_readExponent hfound
        exact hnot
      · obtain rfl := Except.ok.inj hread
        rfl

/-- A literal that is integral to its end has no more than its digits. -/
theorem ending_of_integral {significand : Nat} {scale : Int} {integral : Bool} {literal : Literal input}
    (hread : readEnding significand scale integral input = .ok literal) (hintegral : literal.integral = true) :
    integral = true ∧ literal.significand = significand ∧ literal.rest = input ∧
      ∀ b ∈ input.head?, b ≠ '.'.toUInt8 ∧ isExponentLetter b = false := by
  unfold readEnding at hread
  split at hread
  · obtain rfl := Except.ok.inj hread
    exact ⟨hintegral, rfl, rfl, by simp⟩
  · split at hread
    · obtain ⟨found, hfound, rfl⟩ := exists_of_map_eq_ok hread
      have hnot := integral_of_readFraction hfound
      rw [Literal.from] at hintegral
      rw [hnot] at hintegral
      cases hintegral
    · rename_i hpoint
      split at hread
      · obtain ⟨found, hfound, rfl⟩ := exists_of_map_eq_ok hread
        have hnot := integral_of_readExponent hfound
        rw [Literal.from] at hintegral
        rw [hnot] at hintegral
        cases hintegral
      · rename_i hletter
        obtain rfl := Except.ok.inj hread
        refine ⟨hintegral, rfl, rfl, fun c hc => ?_⟩
        obtain rfl := Option.some.inj hc
        exact ⟨by simpa using hpoint, by simpa using hletter⟩

theorem endsDigits_of_digitCount (hcount : digitCount input = 0) : EndsDigits input ∧ skipDigits input = input := by
  cases input with
  | nil => exact ⟨endsDigits_nil, rfl⟩
  | cons b input =>
    have hb : isDigit b = false := by
      cases hb : isDigit b with
      | false => rfl
      | true => simp [digitCount, hb] at hcount
    refine ⟨fun c hc => Option.some.inj hc ▸ hb, ?_⟩
    rw [skipDigits, List.dropWhile_cons_of_neg (by simp [hb])]

/-- The digits that a literal begins with, as far as they fit into a word. -/
theorem digits_of_grown {b : UInt8} (hb : isDigit b = true) (input : List UInt8) :
    let grown := if b == '0'.toUInt8 then (0, input) else growCount wordBound (digitValue b) input
    grown.1 < wordBound ∧ b :: input = Utf8.encodeChars (Nat.toDigits 10 grown.1) ++ grown.2 := by
  have hsmall := digitValue_lt hb
  have hdigit := encodeChars_toDigits_digitValue hb
  intro grown
  by_cases hzero : b = '0'.toUInt8
  · subst hzero
    have hgrown : grown = (0, input) := if_pos (by decide)
    rw [hgrown, Nat.toDigits_zero]
    exact ⟨(by decide : 0 < wordBound), rfl⟩
  · have hpos : 0 < digitValue b := by
      refine Nat.pos_of_ne_zero fun hvalue => hzero ?_
      rw [hvalue] at hdigit
      exact (List.cons.inj hdigit).1.symm
    obtain ⟨hlt, hsame⟩ := @digits_of_growCount input wordBound _ hpos (by unfold wordBound; omega)
    rw [hdigit, List.singleton_append] at hsame
    have hgrown : grown = growCount wordBound (digitValue b) input := if_neg (by simpa using hzero)
    rw [hgrown]
    exact ⟨hlt, hsame⟩

/-- An integral literal is the digits of its number, which is a word, with nothing behind them that a number could go
    on with. -/
theorem digits_of_readLiteral {n : Nat} {scale : Int} {rest : List UInt8} {shorter : rest.length < input.length}
    (hread : readLiteral input = .ok ⟨(n, scale, true), rest, shorter⟩) :
    n < wordBound ∧ input = Utf8.encodeChars (Nat.toDigits 10 n) ++ rest ∧ EndsInteger rest := by
  unfold readLiteral at hread
  split at hread
  · cases hread
  rename_i b more
  split at hread
  · cases hread
  rename_i hb
  rw [Bool.not_eq_true', Bool.not_eq_false] at hb
  split at hread
  · cases hread
  dsimp only at hread
  obtain ⟨literal, hliteral, hsame⟩ := exists_of_map_eq_ok hread
  obtain ⟨hvalue, hrest⟩ := Taken.mk.inj hsame
  obtain ⟨hn, hvalue⟩ := Prod.mk.inj hvalue
  obtain ⟨hexcess, hsignificand, hbehind, hends⟩ := ending_of_integral hliteral (Prod.mk.inj hvalue).2
  obtain ⟨hdigits, hskip⟩ := endsDigits_of_digitCount (beq_iff_eq.mp hexcess)
  obtain ⟨hlt, hinput⟩ := digits_of_grown hb more
  rw [hskip] at hends
  rw [← hn, hsignificand, ← hrest, hbehind.trans hskip]
  exact ⟨hlt, hinput, fun c hc => ⟨hdigits c hc, hends c hc⟩⟩

/-- A number that is read as an integer and not negative is written with its digits alone. -/
theorem digits_of_readNumber {n : Int} {rest : List UInt8} (hread : Reads readNumber input (.integer n) rest)
    (hn : 0 ≤ n) : ∃ m < wordBound, n = m ∧ input = Utf8.encodeChars (Nat.toDigits 10 m) ++ rest ∧ EndsInteger rest := by
  have hmagnitude {negative : Bool} {input : List UInt8} {taken : Taken Number input}
      (hread : readMagnitude negative input = .ok taken) : ∃ m scale integral shorter,
      readLiteral input = .ok ⟨(m, scale, integral), taken.rest, shorter⟩ ∧
        numberOf? negative (m, scale, integral) = some taken.value := by
    unfold readMagnitude at hread
    split at hread
    · cases hread
    rename_i literal hliteral
    split at hread
    · cases hread
    rename_i value hvalue
    obtain rfl := Except.ok.inj hread
    exact ⟨_, _, _, literal.shorter, hliteral, hvalue⟩
  obtain ⟨shorter, hread⟩ := hread
  unfold readNumber at hread
  split at hread
  · cases hread
  rename_i b more
  split at hread
  · obtain ⟨taken, htaken, hsame⟩ := exists_of_map_eq_ok hread
    obtain ⟨m, scale, integral, _, _, hvalue⟩ := hmagnitude htaken
    rw [show taken.value = .integer n from congrArg Taken.value hsame, numberOf?, if_neg (by simp)] at hvalue
    split at hvalue
    · have hsign := Number.integer.inj (Option.some.inj hvalue)
      omega
    · simp at hvalue
  · obtain ⟨m, scale, integral, _, hliteral, hvalue⟩ := hmagnitude hread
    cases integral with
    | false => simp [numberOf?] at hvalue
    | true =>
      obtain ⟨hlt, hinput, hends⟩ := digits_of_readLiteral hliteral
      exact ⟨m, hlt, (Number.integer.inj (Option.some.inj hvalue)).symm, hinput, hends⟩

end

end RobotAdmin.Json
