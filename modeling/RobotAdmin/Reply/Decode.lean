import RobotAdmin.Json.Reader.Value
import RobotAdmin.Reply

namespace RobotAdmin.Reply

open Json

/-- The members of a reply met so far, the unknown ones with the latest first. -/
structure Draft where
  rc : Option String := none
  message : Option (Option String) := none
  cause : Option (Option String) := none
  others : List (String × Json) := []

/-- Takes the next member. The known ones must not come twice; a null message or cause counts as one. -/
def takeMember (read : Reader Json) (draft : Draft) (name : String) : Reader Draft := fun input =>
  if name = "rc" then
    if draft.rc.isSome then failAt (.repeatedMember "rc") (behindObject input)
    else (readMember (readTextAs "a string") input).map (·.map fun s => { draft with rc := some s })
  else if name = "message" then
    if draft.message.isSome then failAt (.repeatedMember "message") (behindObject input)
    else (readMember (readOptionalText "a string") input).map (·.map fun s => { draft with message := some s })
  else if name = "cause" then
    if draft.cause.isSome then failAt (.repeatedMember "cause") (behindObject input)
    else (readMember (readOptionalText "a string") input).map (·.map fun s => { draft with cause := some s })
  else
    (readMember read input).map (·.map fun value => { draft with others := (name, value) :: draft.others })

/-- The reply that the members make up, if the result code is among them. -/
def ofDraft (draft : Draft) : Except Problem Reply :=
  match draft.rc with
  | none => .error (.missingMember "rc")
  | some rc =>
    .ok
      { rc
        message := draft.message.join
        cause := draft.cause.join
        extra := sortMembers (normalMembers draft.others.reverse) }

/-- Reads a reply, which is an object. -/
def read : Reader Reply := fun input =>
  match readOpening input with
  | .error failure => .error failure
  | .ok opening =>
    match opening.value with
    | .scalar value => failAt (.wrongType (found value) "struct AdminResponse") opening.rest
    | .array => failAt (.wrongType .array "struct AdminResponse") (skipSpace input)
    | .object =>
      (readObject {} (takeMember (readValue (maxDepth - 1))) ofDraft opening.rest).map opening.followedBy

/-- Decodes the text of a reply. -/
def decode (text : List UInt8) : Except Refusal Reply :=
  readAll read text

end RobotAdmin.Reply
