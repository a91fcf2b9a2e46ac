import RobotAdmin.Json.Numeral

namespace RobotAdmin.Json

def hexDigit (n : Nat) : Char := Nat.digitChar n

/-- One character of a written string. Only quotes, backslashes and controls below U+0020 are escaped. -/
def escapeChar (c : Char) : List Char :=
  if c = '"' then ['\\', '"']
  else if c = '\\' then ['\\', '\\']
  else if c = '\x08' then ['\\', 'b']
  else if c = '\x0c' then ['\\', 'f']
  else if c = '\n' then ['\\', 'n']
  else if c = '\r' then ['\\', 'r']
  else if c = '\t' then ['\\', 't']
  else if c.toNat < 0x20 then ['\\', 'u', '0', '0', hexDigit (c.toNat / 16), hexDigit (c.toNat % 16)]
  else [c]

def textChars (s : String) : List Char :=
  '"' :: s.toList.flatMap escapeChar ++ ['"']

/-- How the parts of a value are set apart. -/
inductive Layout where
  | compact
  | pretty
  deriving DecidableEq, Repr

/-- What stands before an item or a closing bracket at a depth: nothing, or a new line that is
    indented by two spaces a level. -/
def Layout.line (layout : Layout) (depth : Nat) : List Char :=
  match layout with
  | .compact => []
  | .pretty => '\n' :: List.replicate (2 * depth) ' '

def Layout.colon : Layout → List Char
  | .compact => [':']
  | .pretty => [':', ' ']

def keywordChars : Json → List Char
  | .bool true => ['t', 'r', 'u', 'e']
  | .bool false => ['f', 'a', 'l', 's', 'e']
  | _ => ['n', 'u', 'l', 'l']

mutual

/-- Writes a value that stands at a depth. Empty containers are written without a line of their own. -/
def write (layout : Layout) (depth : Nat) : Json → List Char
  | .null => keywordChars .null
  | .bool b => keywordChars (.bool b)
  | .number n => n.text
  | .text s => textChars s
  | .array [] => ['[', ']']
  | .array (item :: rest) =>
    '[' :: layout.line (depth + 1) ++ write layout (depth + 1) item ++
      writeItems layout (depth + 1) rest ++ layout.line depth ++ [']']
  | .object [] => ['\x7b', '\x7d']
  | .object ((name, value) :: rest) =>
    '\x7b' :: layout.line (depth + 1) ++ textChars name ++ layout.colon ++ write layout (depth + 1) value ++
      writeMembers layout (depth + 1) rest ++ layout.line depth ++ ['\x7d']

def writeItems (layout : Layout) (depth : Nat) : List Json → List Char
  | [] => []
  | item :: rest => ',' :: layout.line depth ++ write layout depth item ++ writeItems layout depth rest

def writeMembers (layout : Layout) (depth : Nat) : List (String × Json) → List Char
  | [] => []
  | (name, value) :: rest =>
    ',' :: layout.line depth ++ textChars name ++ layout.colon ++ write layout depth value ++
      writeMembers layout depth rest

end

def compact (value : Json) : String := String.ofList (write .compact 0 value)

def pretty (value : Json) : String := String.ofList (write .pretty 0 value)

end RobotAdmin.Json
