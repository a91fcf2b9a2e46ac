import RobotAdmin.Proofs.Json.Grammar

namespace RobotAdmin.Json

open Grammar

/-- A step that takes nothing but the beginning of an input leaves the rest. -/
def Skips {input : List UInt8} (result : Except Failure (Rest input)) (rest : List UInt8) : Prop :=
  result.map Subtype.val = .ok rest

/-- What no digit stands at the beginning of. -/
def EndsDigits (rest : List UInt8) : Prop := ∀ b ∈ rest.head?, isDigit b = false

theorem endsDigits_nil : EndsDigits [] := by
  intro b hb
  cases hb

theorem EndsInteger.endsDigits {rest : List UInt8} (hrest : EndsInteger rest) : EndsDigits rest :=
  fun b hb => (hrest b hb).1

section

variable {input longer rest : List UInt8}

theorem skips_iff {result : Except Failure (Rest input)} :
    Skips result rest ↔ ∃ notLonger, result = .ok ⟨rest, notLonger⟩ := by
  cases result with
  | error failure => simp [Skips, Except.map]
  | ok behind =>
    obtain ⟨behind, notLonger⟩ := behind
    constructor
    · intro hskip
      obtain rfl := Except.ok.inj hskip
      exact ⟨notLonger, rfl⟩
    · rintro ⟨_, hsame⟩
      exact congrArg (Except.map Subtype.val) hsame

@[simp]
theorem skips_ok {behind : Rest input} : Skips (.ok behind) rest ↔ behind.val = rest :=
  ⟨Except.ok.inj, congrArg Except.ok⟩

@[simp]
theorem not_skips_error {failure : Failure} : ¬ Skips (.error failure : Except Failure (Rest input)) rest := nofun

@[simp]
theorem not_skips_failAt {problem : Problem} {unread : List UInt8} :
    ¬ Skips (failAt problem unread : Except Failure (Rest input)) rest := nofun

theorem skips_map {f : Rest input → Rest longer} (hf : ∀ behind, (f behind).val = behind.val)
    {result : Except Failure (Rest input)} : Skips (result.map f) rest ↔ Skips result rest := by
  cases result with
  | error failure => exact Iff.rfl
  | ok behind => rw [skips_ok, Except.map, skips_ok, hf]

theorem exists_map_eq_ok_iff_skips {f : Rest input → Taken Unit longer} (hf : ∀ behind, (f behind).rest = behind.val)
    {result : Except Failure (Rest input)} :
    (∃ shorter, result.map f = .ok ⟨(), rest, shorter⟩) ↔ Skips result rest := by
  cases result with
  | error failure => simp [Except.map]
  | ok behind =>
    rw [skips_ok, ← hf]
    constructor
    · rintro ⟨_, hsame⟩
      exact congrArg Taken.rest (Except.ok.inj hsame)
    · rintro rfl
      exact ⟨(f behind).shorter, rfl⟩

end

section

variable {input rest word : List UInt8}

theorem skipDigits_append (hword : ∀ b ∈ word, isDigit b = true) (hrest : EndsDigits rest) :
    skipDigits (word ++ rest) = rest := by
  rw [skipDigits, List.dropWhile_append_of_pos hword]
  cases rest with
  | nil => rfl
  | cons b rest => exact List.dropWhile_cons_of_neg (by simp [hrest b rfl])

theorem skips_skipExponent_iff :
    Skips (skipExponent input) rest ↔
      ∃ b more, withoutSign input = b :: more ∧ isDigit b = true ∧ skipDigits more = rest := by
  unfold skipExponent
  split
  · rename_i hnil
    simp [hnil]
  · rename_i b more hfirst
    simp only [hfirst, List.cons.injEq]
    constructor
    · intro hskip
      split at hskip
      · rename_i hb
        exact ⟨b, more, ⟨rfl, rfl⟩, hb, skips_ok.mp hskip⟩
      · exact absurd hskip not_skips_failAt
    · rintro ⟨_, _, ⟨rfl, rfl⟩, hb, hrest⟩
      rw [if_pos hb]
      exact skips_ok.mpr hrest

theorem skips_skipOptionalExponent_of_letter {b : UInt8} (hb : isExponentLetter b = true) :
    Skips (skipOptionalExponent (b :: input)) rest ↔ Skips (skipExponent input) rest := by
  rw [skipOptionalExponent, if_pos hb, skips_map (by simp [Rest.past])]

theorem skips_skipOptionalExponent_of_none (hnone : ∀ b ∈ input.head?, isExponentLetter b = false) :
    Skips (skipOptionalExponent input) rest ↔ input = rest := by
  cases input with
  | nil => rw [skipOptionalExponent, skips_ok, Rest.all]
  | cons b input => rw [skipOptionalExponent, if_neg (by simp [hnone b rfl]), skips_ok, Rest.all]

theorem skips_skipFraction_iff :
    Skips (skipFraction input) rest ↔ digitCount input ≠ 0 ∧ Skips (skipOptionalExponent (skipDigits input)) rest := by
  unfold skipFraction
  dsimp only
  split
  · rename_i hcount
    simp [hcount, failPast]
  · rename_i hcount
    simp [skips_map, Rest.from, hcount]

/-- The end of a number behind the digits at its beginning. -/
def SkipsEnding (input rest : List UInt8) : Prop :=
  match input with
  | [] => rest = []
  | b :: behind =>
    if b = '.'.toUInt8 then Skips (skipFraction behind) rest else Skips (skipOptionalExponent (b :: behind)) rest

/-- A zero at the beginning of a number is the only digit before the point. -/
theorem first_of_skipLiteral (hread : Reads skipLiteral input () rest) :
    ∃ b more, input = b :: more ∧ isDigit b = true ∧ (b = '0'.toUInt8 → EndsDigits more) := by
  obtain ⟨_, hread⟩ := hread
  cases input with
  | nil => cases hread
  | cons b more =>
    rw [skipLiteral] at hread
    split at hread
    · cases hread
    rename_i hb
    split at hread
    · cases hread
    rename_i hzero
    refine ⟨b, more, rfl, by simpa using hb, ?_⟩
    rintro rfl
    cases more with
    | nil => exact endsDigits_nil
    | cons c more => simpa [EndsDigits] using hzero

theorem reads_skipLiteral_iff {b : UInt8} {more : List UInt8} (hb : isDigit b = true)
    (hzero : b = '0'.toUInt8 → EndsDigits more) :
    Reads skipLiteral (b :: more) () rest ↔ SkipsEnding (skipDigits more) rest := by
  have hguard : ¬ (b == '0'.toUInt8 ∧ more.head?.any isDigit = true) := by
    rintro ⟨hb0, hmore⟩
    have hends := hzero (beq_iff_eq.mp hb0)
    cases more with
    | nil => cases hmore
    | cons c more => simp [hends c rfl] at hmore
  have hbehind : (if b == '0'.toUInt8 then more else skipDigits more) = skipDigits more := by
    split
    · rename_i hb0
      exact (@skipDigits_append _ [] nofun (hzero (beq_iff_eq.mp hb0))).symm
    · rfl
  rw [← hbehind]
  unfold Reads
  rw [skipLiteral, if_neg (by simp [hb]), if_neg hguard]
  dsimp only
  split
  · rename_i hnil _
    rw [hnil]
    constructor
    · rintro ⟨_, hsame⟩
      exact (congrArg Taken.rest (Except.ok.inj hsame)).symm
    · intro hrest
      obtain rfl : rest = [] := hrest
      exact ⟨Nat.succ_pos _, rfl⟩
  · rename_i _ _ _ hcons _
    rw [hcons, SkipsEnding]
    split
    · rename_i hpoint
      rw [if_pos (beq_iff_eq.mp hpoint)]
      exact exists_map_eq_ok_iff_skips fun _ => rfl
    · rename_i hpoint
      rw [if_neg (by simpa using hpoint)]
      exact exists_map_eq_ok_iff_skips fun _ => rfl

theorem takeWhile_append_skipDigits (input : List UInt8) : input.takeWhile isDigit ++ skipDigits input = input :=
  List.takeWhile_append_dropWhile

theorem digits_takeWhile (hcount : digitCount input ≠ 0) : Digits (input.takeWhile isDigit) :=
  ⟨fun hnil => hcount (by rw [digitCount, hnil, List.length_nil]), fun _ hb => List.mem_takeWhile_imp hb⟩

theorem digits_cons_takeWhile {b : UInt8} (hb : isDigit b = true) (input : List UInt8) :
    Digits (b :: input.takeWhile isDigit) := by
  refine ⟨List.cons_ne_nil _ _, fun c hc => ?_⟩
  obtain rfl | hc := List.mem_cons.mp hc
  · exact hb
  · exact List.mem_takeWhile_imp hc

theorem digitCount_append_ne (hword : Digits word) (rest : List UInt8) : digitCount (word ++ rest) ≠ 0 := by
  obtain ⟨hne, hdigits⟩ := hword
  cases word with
  | nil => exact absurd rfl hne
  | cons b word =>
    rw [digitCount, List.cons_append, List.takeWhile_cons_of_pos (hdigits b List.mem_cons_self)]
    exact Nat.succ_ne_zero _

theorem exists_withoutSign (input : List UInt8) :
    ∃ sign ∈ [[], ['+'.toUInt8], ['-'.toUInt8]], input = sign ++ withoutSign input := by
  unfold withoutSign
  split
  · rename_i hsign
    cases input with
    | nil => cases hsign
    | cons b input =>
      simp only [List.head?_cons, Bool.or_eq_true, beq_iff_eq, Option.some.injEq] at hsign
      obtain rfl | rfl := hsign
      · exact ⟨['-'.toUInt8], by simp, rfl⟩
      · exact ⟨['+'.toUInt8], by simp, rfl⟩
  · exact ⟨[], by simp, rfl⟩

theorem withoutSign_append {sign : List UInt8} (hsign : sign ∈ [[], ['+'.toUInt8], ['-'.toUInt8]]) {b : UInt8}
    (hb : isDigit b = true) (rest : List UInt8) : withoutSign (sign ++ b :: rest) = b :: rest := by
  have hplus : b ≠ '+'.toUInt8 := by
    rintro rfl
    cases hb
  have hminus : b ≠ '-'.toUInt8 := by
    rintro rfl
    cases hb
  simp only [List.mem_cons, List.not_mem_nil, or_false] at hsign
  obtain rfl | rfl | rfl := hsign
  · simp [withoutSign, hplus, hminus]
  · rfl
  · rfl

theorem exponent_of_skips (hskip : Skips (skipOptionalExponent input) rest) :
    ∃ word, (word = [] ∨ Exponent word) ∧ input = word ++ rest := by
  by_cases hletter : ∀ b ∈ input.head?, isExponentLetter b = false
  · exact ⟨[], .inl rfl, (skips_skipOptionalExponent_of_none hletter).mp hskip⟩
  · cases input with
    | nil => exact absurd nofun hletter
    | cons b input =>
      have hb : isExponentLetter b = true := by simpa using hletter
      obtain ⟨c, more, hfirst, hc, hrest⟩ := skips_skipExponent_iff.mp ((skips_skipOptionalExponent_of_letter hb).mp hskip)
      obtain ⟨sign, hsign, hinput⟩ := exists_withoutSign input
      refine ⟨b :: (sign ++ c :: more.takeWhile isDigit),
        .inr ⟨b, sign, _, rfl, hb, hsign, digits_cons_takeWhile hc more⟩, ?_⟩
      rw [List.cons_append, List.append_assoc, List.cons_append, ← hrest, takeWhile_append_skipDigits, ← hfirst, ← hinput]

theorem skips_of_exponent (hword : word = [] ∨ Exponent word) (hrest : EndsInteger rest) :
    Skips (skipOptionalExponent (word ++ rest)) rest := by
  obtain rfl | ⟨letter, sign, digits, rfl, hletter, hsign, hne, hdigits⟩ := hword
  · exact (skips_skipOptionalExponent_of_none fun b hb => (hrest b hb).2.2).mpr rfl
  · cases digits with
    | nil => exact absurd rfl hne
    | cons b digits =>
      have hb := hdigits b List.mem_cons_self
      rw [List.cons_append, List.append_assoc, List.cons_append, skips_skipOptionalExponent_of_letter hletter,
        skips_skipExponent_iff]
      exact ⟨b, digits ++ rest, withoutSign_append hsign hb _, hb,
        skipDigits_append (fun c hc => hdigits c (List.mem_cons_of_mem b hc)) hrest.endsDigits⟩

/-- What may follow the digits before an exponent begins with no digit. -/
theorem endsDigits_append {exponent : List UInt8} (hexponent : exponent = [] ∨ Exponent exponent)
    (hrest : EndsInteger rest) : EndsDigits (exponent ++ rest) := by
  obtain rfl | ⟨letter, sign, digits, rfl, hletter, _⟩ := hexponent
  · exact hrest.endsDigits
  · intro b hb
    obtain rfl := Option.some.inj hb
    simp only [isExponentLetter, Bool.or_eq_true, beq_iff_eq] at hletter
    obtain rfl | rfl := hletter <;> rfl

theorem endsDigits_ending {fraction exponent : List UInt8} (hfraction : fraction = [] ∨ Fraction fraction)
    (hexponent : exponent = [] ∨ Exponent exponent) (hrest : EndsInteger rest) :
    EndsDigits (fraction ++ (exponent ++ rest)) := by
  obtain rfl | ⟨digits, rfl, _⟩ := hfraction
  · rw [List.nil_append]
    exact endsDigits_append hexponent hrest
  · intro b hb
    obtain rfl := Option.some.inj hb
    rfl

theorem ending_of_skips (hskip : SkipsEnding input rest) :
    ∃ fraction exponent, (fraction = [] ∨ Fraction fraction) ∧ (exponent = [] ∨ Exponent exponent) ∧
      input = fraction ++ (exponent ++ rest) := by
  cases input with
  | nil =>
    obtain rfl : rest = [] := hskip
    exact ⟨[], [], .inl rfl, .inl rfl, rfl⟩
  | cons b input =>
    rw [SkipsEnding] at hskip
    split at hskip
    · rename_i hb
      obtain ⟨hcount, hskip⟩ := skips_skipFraction_iff.mp hskip
      obtain ⟨exponent, hexponent, hbehind⟩ := exponent_of_skips hskip
      refine ⟨b :: input.takeWhile isDigit, exponent, .inr ⟨_, by rw [hb], digits_takeWhile hcount⟩, hexponent, ?_⟩
      rw [List.cons_append, ← hbehind, takeWhile_append_skipDigits]
    · obtain ⟨exponent, hexponent, hinput⟩ := exponent_of_skips hskip
      exact ⟨[], exponent, .inl rfl, hexponent, hinput⟩

theorem skips_of_ending {fraction exponent : List UInt8} (hfraction : fraction = [] ∨ Fraction fraction)
    (hexponent : exponent = [] ∨ Exponent exponent) (hrest : EndsInteger rest) :
    SkipsEnding (fraction ++ (exponent ++ rest)) rest := by
  have hskip := skips_of_exponent hexponent hrest
  obtain rfl | ⟨digits, rfl, hdigits⟩ := hfraction
  · rw [List.nil_append]
    cases hbehind : exponent ++ rest with
    | nil => exact (List.append_eq_nil_iff.mp hbehind).2
    | cons b behind =>
      have hb : b ≠ '.'.toUInt8 := by
        obtain rfl | ⟨letter, sign, digits, rfl, hletter, _⟩ := hexponent
        · exact (hrest b (by rw [← List.nil_append rest, hbehind]; rfl)).2.1
        · obtain rfl := (List.cons.inj hbehind).1
          rintro rfl
          cases hletter
      rw [SkipsEnding, if_neg hb, ← hbehind]
      exact hskip
  · rw [List.cons_append, SkipsEnding, if_pos rfl, skips_skipFraction_iff]
    refine ⟨digitCount_append_ne hdigits _, ?_⟩
    rwa [skipDigits_append hdigits.2 (endsDigits_append hexponent hrest)]

theorem magnitude_of_skipLiteral (hread : Reads skipLiteral input () rest) :
    ∃ word, Magnitude word ∧ input = word ++ rest := by
  obtain ⟨b, more, rfl, hb, hzero⟩ := first_of_skipLiteral hread
  obtain ⟨fraction, exponent, hfraction, hexponent, hmore⟩ :=
    ending_of_skips ((reads_skipLiteral_iff hb hzero).mp hread)
  refine ⟨b :: more.takeWhile isDigit ++ (fraction ++ exponent),
    ⟨_, fraction, exponent, rfl, digits_cons_takeWhile hb more, fun hfirst => ?_, hfraction, hexponent⟩, ?_⟩
  · obtain rfl := Option.some.inj hfirst
    cases more with
    | nil => rfl
    | cons c more => rw [List.takeWhile_cons_of_neg (by simp [hzero rfl c rfl])]
  · rw [List.append_assoc, List.append_assoc, ← hmore, List.cons_append, takeWhile_append_skipDigits]

/-- A number is skipped to its end where nothing follows that it could go on with. -/
theorem reads_skipLiteral_of_magnitude (hword : Magnitude word) (hrest : EndsInteger rest) :
    Reads skipLiteral (word ++ rest) () rest := by
  obtain ⟨whole, fraction, exponent, rfl, ⟨hne, hdigits⟩, hzero, hfraction, hexponent⟩ := hword
  have hending := skips_of_ending hfraction hexponent hrest
  have hends := endsDigits_ending hfraction hexponent hrest
  cases whole with
  | nil => exact absurd rfl hne
  | cons b whole =>
    have hb := hdigits b List.mem_cons_self
    have hskip := skipDigits_append (fun c hc => hdigits c (List.mem_cons_of_mem b hc)) hends
    rw [List.append_assoc, List.append_assoc, List.cons_append, reads_skipLiteral_iff hb, hskip]
    · exact hending
    · rintro rfl
      obtain rfl := (List.cons.inj (hzero rfl)).2
      exact hends

end

end RobotAdmin.Json
