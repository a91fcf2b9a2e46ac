import RobotAdmin.Url.Domain
import RobotAdmin.Url.Ipv6
import RobotAdmin.Url.Percent

namespace RobotAdmin.Url

/-- The text between the brackets of an IPv6 host. -/
private def unbracket? (text : List Char) : Option (List Char) :=
  match text, text.getLast? with
  | '[' :: inner, some ']' => some inner.dropLast
  | _, _ => none

private def ipv6Host? (text : List Char) : Option (List Char) := do
  let pieces ← ipv6Pieces? (← unbracket? text)
  return '[' :: ipv6Text pieces ++ [']']

/-- The host of a scheme that knows domains, in normal form. A host that ends in a number has to be an
    IPv4 address. -/
def domainHost? (text : List Char) : Option (List Char) :=
  if text.head? = some '[' then ipv6Host? text
  else do
    let decoded ← Utf8.decode? (percentDecode (Utf8.encodeChars text))
    let domain ← asciiDomain? decoded.toList
    if endsInNumber domain then (ipv4Address? domain).map ipv4Text else some domain

/-- The host of any other scheme, which is taken as it is. -/
def plainHost? (text : List Char) : Option (List Char) :=
  if text.head? = some '[' then ipv6Host? text
  else if text.any fun c => c == '\x00' || " #/:<>?@[\\]^|".toList.contains c then none
  else some (percentEncode isControl text)

/-- A port below 2^16. No digits at all mean the port of the scheme. -/
def port? (text : List Char) : Option (Option Nat) :=
  if text.isEmpty then some none
  else if text.all Char.isDigit then
    (numberIn? 10 text).bind fun n => if n < 65536 then some (some n) else none
  else none

/-- Host and port, apart. A colon between brackets belongs to the host. -/
def cutPort : (bracketed : Bool) → List Char → List Char × Option (List Char)
  | _, [] => ([], none)
  | bracketed, c :: rest =>
    if c = ':' ∧ !bracketed then ([], some rest)
    else
      let inside := if c = '[' then true else if c = ']' then false else bracketed
      let (host, port) := cutPort inside rest
      (c :: host, port)

end RobotAdmin.Url
