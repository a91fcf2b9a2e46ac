namespace RobotAdmin

/-- The values of a 64-bit count are those below this bound. -/
def wordBound : Nat := 18446744073709551616

/-- Why a text is not a count below 2^64. -/
inductive NumeralFault where
  | empty
  | invalidDigit
  | tooLarge
  deriving DecidableEq, Repr

def NumeralFault.message : NumeralFault → String
  | .empty => "cannot parse integer from empty string"
  | .invalidDigit => "invalid digit found in string"
  | .tooLarge => "number too large to fit in target type"

namespace Numeral

def digit? (c : Char) : Option Nat :=
  if '0' ≤ c ∧ c ≤ '9' then some (c.toNat - '0'.toNat) else none

/-- Continues a count with the digits of a text. The characters are met in order, so a text with an
    excess digit and a foreign character is refused for the one that stands first. -/
def digits (count : Nat) : List Char → Except NumeralFault Nat
  | [] => .ok count
  | c :: rest =>
    match digit? c with
    | none => .error .invalidDigit
    | some d => if count * 10 + d < wordBound then digits (count * 10 + d) rest else .error .tooLarge

/-- Reads an optional plus sign and at least one ASCII digit. -/
def ofChars? : List Char → Except NumeralFault Nat
  | [] => .error .empty
  | ['+'] => .error .invalidDigit
  | '+' :: rest => digits 0 rest
  | chars => digits 0 chars

def ofText? (text : String) : Except NumeralFault UInt64 :=
  (ofChars? text.toList).map UInt64.ofNat

end Numeral

end RobotAdmin
