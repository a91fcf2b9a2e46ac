namespace RobotAdmin.Base64

/-- The sixty-four digits in ascending order. -/
def alphabet : List Char :=
  "ABCDEFGHIJKLMNOPQRSTUVWXYZabcdefghijklmnopqrstuvwxyz0123456789+/".toList

def digit (value : Nat) : Char := alphabet.getD (value % 64) '='

/-- Writes every three bytes as four digits. Equals signs stand for the digits that a shorter last group
    does not need. -/
def encode : List UInt8 → List Char
  | a :: b :: c :: rest =>
    let group := a.toNat * 65536 + b.toNat * 256 + c.toNat
    digit (group / 262144) :: digit (group / 4096) :: digit (group / 64) :: digit group :: encode rest
  | [a, b] =>
    let group := a.toNat * 1024 + b.toNat * 4
    [digit (group / 4096), digit (group / 64), digit group, '=']
  | [a] =>
    let group := a.toNat * 16
    [digit (group / 64), digit group, '=', '=']
  | [] => []

end RobotAdmin.Base64
