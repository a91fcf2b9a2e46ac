import RobotAdmin.Url.Ipv4

namespace RobotAdmin.Url

private def piece? (digits : List Char) : Option Nat :=
  if digits.isEmpty || 4 < digits.length then none else numberIn? 16 digits

private def strictByte? (digits : List Char) : Option Nat :=
  if digits.isEmpty || 3 < digits.length || (1 < digits.length && digits.head? == some '0') then none
  else (numberIn? 10 digits).bind fun n => if n ≤ 255 then some n else none

/-- An IPv4 address in dotted decimals as two pieces. -/
private def dotted? (digits : List Char) : Option (List Nat) :=
  match (List.splitOn '.' digits).mapM strictByte? with
  | some [a, b, c, d] => some [a * 256 + b, c * 256 + d]
  | _ => none

/-- The pieces between colons. Only the last of an address may be dotted. -/
private def pieces? (atEnd : Bool) : List (List Char) → Option (List Nat)
  | [] => some []
  | [last] =>
    if atEnd && last.contains '.' then dotted? last else (piece? last).map fun n => [n]
  | digits :: rest => do return (← piece? digits) :: (← pieces? atEnd rest)

private def side? (atEnd : Bool) (text : List Char) : Option (List Nat) :=
  if text.isEmpty then some [] else pieces? atEnd (List.splitOn ':' text)

/-- Splits a text at its first double colon. -/
private def splitDouble : List Char → Option (List Char × List Char)
  | ':' :: ':' :: rest => some ([], rest)
  | c :: rest => (splitDouble rest).map fun (before, after) => (c :: before, after)
  | [] => none

/-- The eight pieces of an IPv6 address. A double colon stands for at least one zero piece. -/
def ipv6Pieces? (text : List Char) : Option (List Nat) :=
  match splitDouble text with
  | none => do
    let all ← side? true text
    if all.length = 8 then some all else none
  | some (before, after) => do
    let front ← side? false before
    let back ← side? true after
    if 7 < front.length + back.length then none
    else some (front ++ List.replicate (8 - front.length - back.length) 0 ++ back)

/-- Start and length of the longest run of zeros, the first of the longest, from a position on. -/
private def longestRun (start : Nat) (best : Nat × Nat) (current : Nat) : List Nat → Nat × Nat
  | [] => best
  | n :: rest =>
    let current := if n = 0 then current + 1 else 0
    let best := if best.2 < current then (start + 1 - current, current) else best
    longestRun (start + 1) best current rest

private def joinPieces (pieces : List Nat) : List Char :=
  [':'].intercalate (pieces.map (Nat.toDigits 16))

/-- An IPv6 address with its longest run of at least two zero pieces left out. -/
def ipv6Text (pieces : List Nat) : List Char :=
  let (start, length) := longestRun 0 (0, 1) 0 pieces
  if length < 2 then joinPieces pieces
  else joinPieces (pieces.take start) ++ ':' :: ':' :: joinPieces (pieces.drop (start + length))

end RobotAdmin.Url
