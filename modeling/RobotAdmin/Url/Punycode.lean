namespace RobotAdmin.Url.Punycode

/-- The digits of base 36: letters first, then figures. -/
def digit (d : Nat) : Char :=
  if d < 26 then Char.ofNat ('a'.toNat + d) else Char.ofNat ('0'.toNat + (d - 26))

/-- The largest digit at a position that may end a number, for a bias. -/
def threshold (position bias : Nat) : Nat := max 1 (min 26 (position - bias))

theorem threshold_bounds (position bias : Nat) :
    1 ≤ threshold position bias ∧ threshold position bias ≤ 26 := by
  unfold threshold; omega

/-- A distance as digits of which only the last lies below its threshold. -/
def digits (bias position distance : Nat) : List Char :=
  let t := threshold position bias
  if distance < t then [digit distance]
  else digit (t + (distance - t) % (36 - t)) :: digits bias (position + 36) ((distance - t) / (36 - t))
termination_by distance
decreasing_by
  have h := threshold_bounds position bias
  exact Nat.lt_of_le_of_lt (Nat.div_le_self _ _) (by omega)

private def settle (distance bias : Nat) : Nat :=
  if 455 < distance then settle (distance / 35) (bias + 36)
  else bias + 36 * distance / (distance + 38)
termination_by distance
decreasing_by exact Nat.div_lt_self (by omega) (by omega)

/-- The bias for the next distance, after a distance and the number of characters placed so far. -/
def adapt (distance count : Nat) (first : Bool) : Nat :=
  let damped := if first then distance / 700 else distance / 2
  settle (damped + damped / count) 0

/-- What has been written so far, with the distance to the next place and the count of characters
    placed. -/
structure Progress where
  written : List Char
  distance : Nat := 0
  bias : Nat := 72
  placed : Nat

/-- Places one character of the text in the round for a code point. -/
private def visit (basic code : Nat) (progress : Progress) (c : Char) : Progress :=
  if c.toNat < code then { progress with distance := progress.distance + 1 }
  else if c.toNat = code then
    { written := progress.written ++ digits progress.bias 36 progress.distance
      distance := 0
      bias := adapt progress.distance (progress.placed + 1) (progress.placed == basic)
      placed := progress.placed + 1 }
  else progress

/-- One round for each code point that occurs beyond ASCII, in ascending order. -/
private def rounds (text : List Char) (basic : Nat) : List Nat → (start : Nat) → Progress → Progress
  | [], _, progress => progress
  | code :: codes, start, progress =>
    let moved := { progress with distance := progress.distance + (code - start) * (progress.placed + 1) }
    let done := text.foldl (visit basic code) moved
    rounds text basic codes (code + 1) { done with distance := done.distance + 1 }

/-- The value of a digit in small letters. -/
def digitValue? (c : Char) : Option Nat :=
  if 'a' ≤ c ∧ c ≤ 'z' then some (c.toNat - 'a'.toNat)
  else if '0' ≤ c ∧ c ≤ '9' then some (c.toNat - '0'.toNat + 26)
  else none

/-- Reads a distance up to its last digit, each digit of which counts a weight. -/
def distance? (bias position weight : Nat) : List Char → Option (Nat × List Char)
  | [] => none
  | c :: rest =>
    (digitValue? c).bind fun d =>
      let t := threshold position bias
      if d < t then some (d * weight, rest)
      else (distance? bias (position + 36) (weight * (36 - t)) rest).map fun (n, left) => (d * weight + n, left)

theorem length_lt_of_distance? {bias position weight n : Nat} {text rest : List Char}
    (hread : distance? bias position weight text = some (n, rest)) : rest.length < text.length := by
  induction text generalizing position weight n with
  | nil => simp [distance?] at hread
  | cons c tail ih =>
    obtain ⟨d, -, hd⟩ := Option.bind_eq_some_iff.1 hread
    dsimp only at hd
    split at hd
    · simp only [Option.some.injEq, Prod.mk.injEq] at hd
      simp [← hd.2]
    · obtain ⟨⟨m, left⟩, hleft, heq⟩ := Option.map_eq_some_iff.1 hd
      simp only [Prod.mk.injEq] at heq
      obtain ⟨-, rfl⟩ := heq
      exact Nat.lt_succ_of_lt (ih hleft)

/-- Puts the characters in their places that the distances tell, from a code point and a place on. -/
def place? (code index bias : Nat) (placed text : List Char) : Option (List Char) :=
  if text.isEmpty then some placed
  else
    match hread : distance? bias 36 1 text with
    | none => none
    | some (distance, rest) =>
      let count := placed.length + 1
      let code := code + (index + distance) / count
      let spot := (index + distance) % count
      if code.isValidChar then
        place? code (spot + 1) (adapt distance count (index == 0)) (placed.insertIdx spot (Char.ofNat code))
          rest
      else none
termination_by text.length
decreasing_by exact length_lt_of_distance? hread

/-- The text that an ASCII form stands for: its ASCII characters are those before the last hyphen, and the
    places of the others stand behind it. Without ASCII characters there is no hyphen. -/
def decode? (ascii : List Char) : Option (List Char) :=
  let basic := (ascii.reverse.dropWhile (· != '-')).tail.reverse
  place? 128 0 72 basic (if basic.isEmpty then ascii else ascii.drop (basic.length + 1))

/-- A text in the ASCII form of domain labels: its ASCII characters, then the places of the others. -/
def encode (text : List Char) : List Char :=
  let basic := text.filter (·.toNat < 128)
  let codes := ((text.filter (128 ≤ ·.toNat)).map Char.toNat).mergeSort.eraseDups
  let start := if basic.isEmpty then [] else basic ++ ['-']
  (rounds text basic.length codes 128 { written := start, placed := basic.length }).written

end RobotAdmin.Url.Punycode
