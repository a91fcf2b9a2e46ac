import RobotAdmin.Reply
import RobotAdmin.Text.Quoted

namespace RobotAdmin

open Text (quoted)

mutual

/-- A value as it is shown in the log, with the kind of each value that has parts or a sign of its own. -/
def Json.shown : Json → String
  | .null => "Null"
  | .bool true => "Bool(true)"
  | .bool false => "Bool(false)"
  | .number n => "Number(" ++ String.ofList n.text ++ ")"
  | .text s => "String(" ++ quoted s ++ ")"
  | .array items => "Array [" ++ ", ".intercalate (shownItems items) ++ "]"
  | .object members => "Object \x7b" ++ ", ".intercalate (shownMembers members) ++ "\x7d"

def Json.shownItems : List Json → List String
  | [] => []
  | item :: rest => item.shown :: shownItems rest

def Json.shownMembers : List (String × Json) → List String
  | [] => []
  | (name, value) :: rest => (quoted name ++ ": " ++ value.shown) :: shownMembers rest

end

private def shownOptional : Option String → String
  | none => "None"
  | some s => "Some(" ++ quoted s ++ ")"

/-- A reply as it is shown in the log. -/
def Reply.shown (reply : Reply) : String :=
  "AdminResponse \x7b rc: " ++ quoted reply.rc ++ ", message: " ++ shownOptional reply.message ++
    ", cause: " ++ shownOptional reply.cause ++ ", extra: \x7b" ++
    ", ".intercalate (Json.shownMembers reply.extra) ++ "\x7d \x7d"

end RobotAdmin
