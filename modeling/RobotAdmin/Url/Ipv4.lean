namespace RobotAdmin.Url

private def digitIn? (base : Nat) (c : Char) : Option Nat :=
  let value :=
    if c.isDigit then c.toNat - '0'.toNat
    else if 'a' ≤ c ∧ c ≤ 'f' then c.toNat - 'a'.toNat + 10
    else if 'A' ≤ c ∧ c ≤ 'F' then c.toNat - 'A'.toNat + 10
    else 16
  if value < base then some value else none

def numberIn? (base : Nat) (digits : List Char) : Option Nat :=
  digits.foldlM (fun n c => (digitIn? base c).map (n * base + ·)) 0

/-- One part of an IPv4 address. A leading `0x` marks a hexadecimal number and a leading zero an octal
    one; either may end there. -/
def ipv4Number? : List Char → Option Nat
  | [] => none
  | '0' :: 'x' :: digits | '0' :: 'X' :: digits => numberIn? 16 digits
  | '0' :: c :: digits => numberIn? 8 (c :: digits)
  | digits => numberIn? 10 digits

private def dropEmptyEnd (parts : List (List Char)) : List (List Char) :=
  if parts.getLast? = some [] then parts.dropLast else parts

/-- Whether a host is meant as an IPv4 address: its last part, a final dot aside, is a number or has
    digits only. -/
def endsInNumber (host : List Char) : Bool :=
  match List.splitOn '.' host with
  | [] | [[]] => false
  | parts =>
    let last := ((dropEmptyEnd parts).getLast?).getD []
    (!last.isEmpty && last.all Char.isDigit) || (ipv4Number? last).isSome

/-- What a byte of an address counts with so many bytes behind it. -/
def placeValue (behind : Nat) : Nat := Nat.pow 256 behind

/-- The address that the parts of a host stand for. The last part fills all the bytes that the others
    leave. -/
def ipv4Address? (host : List Char) : Option Nat := do
  let numbers ← (dropEmptyEnd (List.splitOn '.' host)).mapM ipv4Number?
  let last ← numbers.getLast?
  let front := numbers.dropLast
  if 3 < front.length || front.any (255 < ·) || placeValue (4 - front.length) ≤ last then none
  else some (front.zipIdx.foldl (fun sum (n, i) => sum + n * placeValue (3 - i)) last)

def ipv4Text (address : Nat) : List Char :=
  let byte (i : Nat) := Nat.toDigits 10 (address / placeValue i % 256)
  byte 3 ++ '.' :: byte 2 ++ '.' :: byte 1 ++ '.' :: byte 0

end RobotAdmin.Url
