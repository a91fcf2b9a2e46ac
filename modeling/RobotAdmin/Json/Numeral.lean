import RobotAdmin.Decimal.Shortest
import RobotAdmin.Json.Basic

namespace RobotAdmin.Json

private def zeros (n : Int) : List Char := List.replicate n.toNat '0'

/-- The decimal places at which a number is written without an exponent: its first digit stands from
    five places behind the point to sixteen before it. -/
def positional (point : Int) : Bool := -4 ≤ point && point ≤ 16

/-- A positive decimal number as a JSON float. There is always a fraction or an exponent, and the
    exponent always has a sign. -/
def digitsText : Decimal.Digits → List Char
  | ⟨digits, point⟩ =>
    if positional point then
      if point ≤ 0 then '0' :: '.' :: zeros (-point) ++ digits
      else if digits.length ≤ point.toNat then digits ++ zeros (point - digits.length) ++ ['.', '0']
      else digits.take point.toNat ++ '.' :: digits.drop point.toNat
    else
      let mantissa := match digits with
        | first :: second :: rest => first :: '.' :: second :: rest
        | short => short
      let exponent := point - 1
      mantissa ++ 'e' :: (if exponent < 0 then '-' else '+') :: Nat.toDigits 10 exponent.natAbs

/-- A double as a JSON float, with the fewest digits that read back. -/
def floatText (x : Binary64) : List Char :=
  (if x.negative then ['-'] else []) ++
    (if x.isZero then ['0', '.', '0'] else digitsText (Decimal.shortest x))

def integerText (n : Int) : List Char :=
  (if n < 0 then ['-'] else []) ++ Nat.toDigits 10 n.natAbs

def Number.text : Number → List Char
  | .integer n => integerText n
  | .float x => floatText x

end RobotAdmin.Json
