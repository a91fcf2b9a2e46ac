import RobotAdmin.Decimal.Scaled
import RobotAdmin.Json.Reader
import RobotAdmin.Text.Numeral

namespace RobotAdmin.Json

def isDigit (b : UInt8) : Bool := '0'.toUInt8 ≤ b && b ≤ '9'.toUInt8

def digitValue (b : UInt8) : Nat := b.toNat - '0'.toNat

/-- Reads digits into a count as long as it stays below a bound. The bytes that are left begin with a
    digit exactly if that digit did not fit. -/
def growCount (bound count : Nat) : List UInt8 → Nat × List UInt8
  | [] => (count, [])
  | b :: rest =>
    if isDigit b ∧ count * 10 + digitValue b < bound then growCount bound (count * 10 + digitValue b) rest
    else (count, b :: rest)

theorem length_growCount_le (bound count : Nat) (input : List UInt8) :
    (growCount bound count input).2.length ≤ input.length := by
  induction input generalizing count with
  | nil => simp [growCount]
  | cons b rest ih =>
    rw [growCount]
    split
    · exact Nat.le_trans (ih _) (Nat.le_succ _)
    · simp

/-- The number of digits that the bytes begin with. -/
def digitCount (input : List UInt8) : Nat := (input.takeWhile isDigit).length

def skipDigits (input : List UInt8) : List UInt8 := input.dropWhile isDigit

theorem length_skipDigits_le (input : List UInt8) : (skipDigits input).length ≤ input.length :=
  List.Sublist.length_le (List.dropWhile_sublist _)

/-- The number `significand * 10 ^ scale` and the bytes after its literal. An integral literal has
    neither a fraction nor an exponent nor digits that did not fit. -/
structure Literal (input : List UInt8) where
  significand : Nat
  scale : Int
  integral : Bool
  rest : List UInt8
  notLonger : rest.length ≤ input.length

def Literal.from {input longer : List UInt8} (literal : Literal input) (h : input.length ≤ longer.length) :
    Literal longer :=
  { literal with notLonger := Nat.le_trans literal.notLonger h }

/-- The bytes behind a sign, if there is one. -/
def withoutSign (input : List UInt8) : List UInt8 :=
  if input.head? == some '-'.toUInt8 || input.head? == some '+'.toUInt8 then input.tail else input

theorem length_withoutSign_le (input : List UInt8) : (withoutSign input).length ≤ input.length := by
  unfold withoutSign; split <;> simp

theorem length_lt_of_withoutSign {input rest : List UInt8} {b : UInt8} (h : withoutSign input = b :: rest) :
    rest.length < input.length := by
  have := length_withoutSign_le input
  rw [h] at this
  exact this

/-- Exponents above this bound end the reading at once, as no finite double but zero has one. -/
def exponentBound : Nat := 2147483648

/-- Reads an exponent after its letter. A positive one that is too large is out of range unless the
    number is zero; a negative one gives zero. -/
def readExponent (significand : Nat) (scale : Int) (input : List UInt8) : Except Failure (Literal input) :=
  let negative := input.head? == some '-'.toUInt8
  match hfirst : withoutSign input with
  | [] => failAt .unfinishedValue []
  | b :: rest =>
    have hrest := length_lt_of_withoutSign hfirst
    if isDigit b then
      let grown := growCount exponentBound (digitValue b) rest
      have hgrown : grown.2.length ≤ input.length :=
        Nat.le_trans (length_growCount_le ..) (Nat.le_of_lt hrest)
      let excess := grown.2.head?.any isDigit
      if excess && !negative && significand != 0 then failAt .numberOutOfRange grown.2.tail
      else if excess then
        .ok ⟨0, 0, false, skipDigits grown.2, Nat.le_trans (length_skipDigits_le _) hgrown⟩
      else
        .ok ⟨significand, if negative then scale - grown.1 else scale + grown.1, false, grown.2, hgrown⟩
    else failAt .invalidNumber rest

def isExponentLetter (b : UInt8) : Bool := b == 'e'.toUInt8 || b == 'E'.toUInt8

/-- Reads a fraction after its point. Digits that do not fit are passed over. -/
def readFraction (significand : Nat) (scale : Int) (input : List UInt8) : Except Failure (Literal input) :=
  let grown := growCount wordBound significand input
  let rest := skipDigits grown.2
  have hrest : rest.length ≤ input.length :=
    Nat.le_trans (length_skipDigits_le _) (length_growCount_le ..)
  if digitCount input = 0 then
    if input.isEmpty then failAt .unfinishedValue [] else failPast .invalidNumber input
  else
    let scale := scale - (digitCount input - digitCount grown.2 : Nat)
    match _hnext : rest with
    | [] => .ok ⟨grown.1, scale, false, [], Nat.zero_le _⟩
    | b :: behind =>
      if isExponentLetter b then
        (readExponent grown.1 scale behind).map (·.from (length_le_of_cons_le hrest))
      else .ok ⟨grown.1, scale, false, b :: behind, hrest⟩

/-- Reads what may follow the digits before the point. -/
def readEnding (significand : Nat) (scale : Int) (integral : Bool) (input : List UInt8) :
    Except Failure (Literal input) :=
  match input with
  | [] => .ok ⟨significand, scale, integral, [], Nat.le_refl _⟩
  | b :: rest =>
    if b == '.'.toUInt8 then (readFraction significand scale rest).map (·.from (Nat.le_succ _))
    else if isExponentLetter b then (readExponent significand scale rest).map (·.from (Nat.le_succ _))
    else .ok ⟨significand, scale, integral, b :: rest, Nat.le_refl _⟩

/-- Reads the digits of a literal, of which a zero may only be the first if it is the only one. -/
def readLiteral (input : List UInt8) : Except Failure (Taken (Nat × Int × Bool) input) :=
  match input with
  | [] => failAt .unfinishedValue []
  | b :: rest =>
    if !isDigit b then failAt .invalidNumber rest
    else if b == '0'.toUInt8 ∧ rest.head?.any isDigit then failPast .invalidNumber rest
    else
      let grown := if b == '0'.toUInt8 then (0, rest) else growCount wordBound (digitValue b) rest
      have hgrown : grown.2.length ≤ rest.length := by
        unfold grown; split
        · exact Nat.le_refl _
        · exact length_growCount_le ..
      let excess := digitCount grown.2
      have hexcess : (skipDigits grown.2).length ≤ rest.length :=
        Nat.le_trans (length_skipDigits_le _) hgrown
      (readEnding grown.1 excess (excess == 0) (skipDigits grown.2)).map fun l =>
        ⟨(l.significand, l.scale, l.integral), l.rest,
          Nat.lt_succ_of_le (Nat.le_trans l.notLonger hexcess)⟩

/-- The value of a literal. A negative zero and integers outside 64 bits become doubles. -/
def numberOf? (negative : Bool) : Nat × Int × Bool → Option Number
  | (n, scale, integral) =>
    if integral ∧ !negative then some (.integer n)
    else if integral ∧ 0 < n ∧ n ≤ 9223372036854775808 then some (.integer (-n))
    else (Decimal.scaled? n scale).map fun x => .float (x.withSign negative)

/-- Reads an unsigned literal as the magnitude of a number. -/
def readMagnitude (negative : Bool) : Reader Number := fun input =>
  match readLiteral input with
  | .error failure => .error failure
  | .ok taken =>
    match numberOf? negative taken.value with
    | none => failAt .numberOutOfRange taken.rest
    | some value => .ok (taken.map fun _ => value)

/-- Reads a number that begins with a minus sign or a digit. -/
def readNumber : Reader Number := fun input =>
  match input with
  | [] => failAt .unfinishedValue []
  | b :: rest =>
    if b == '-'.toUInt8 then (readMagnitude true rest).map (·.from (Nat.le_succ _))
    else readMagnitude false (b :: rest)

end RobotAdmin.Json
