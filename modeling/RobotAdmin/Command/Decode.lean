import RobotAdmin.Command
import RobotAdmin.Json.Reader.Value

namespace RobotAdmin.Command

open Json

/-- What a command consists of before its name has given the other parts a meaning: the name, and the
    members or items that come with it. -/
structure Draft where
  name : String
  parts : List (String × Json) ⊕ List Json

/-- Reads the name of a command. -/
def readName : Reader String := fun input =>
  match readTextAs "variant identifier" input with
  | .error failure => .error failure
  | .ok taken =>
    if taken.value ∈ names then .ok taken else failAt (.unknownName taken.value names) taken.rest

/-- The name if it has been met, and the other members met so far, the latest first. -/
structure Members where
  name : Option String := none
  others : List (String × Json) := []

/-- Takes the next member. Only the name of the command is looked at, which must not come twice. -/
def takeMember (read : Reader Json) (members : Members) (name : String) : Reader Members := fun input =>
  if name = "cmd" then
    if members.name.isSome then failAt (.repeatedMember "cmd") (behindObject input)
    else (readMember readName input).map (·.map fun found => { members with name := some found })
  else
    (readMember read input).map (·.map fun value => { members with others := (name, value) :: members.others })

def draftOfMembers (members : Members) : Except Problem Draft :=
  match members.name with
  | none => .error (.missingMember "cmd")
  | some name => .ok ⟨name, .inl members.others.reverse⟩

/-- Reads a draft in array form behind the bracket: the name first, then any values. -/
def readDraftItems (read : Reader Json) : Reader Draft := fun input =>
  match nextItem true input with
  | .error failure => .error failure
  | .ok none => failAt (.missingMember "cmd") (behindArray input)
  | .ok (some start) =>
    match readName start.val with
    | .error failure => .error failure
    | .ok name =>
      have hname := Nat.lt_of_lt_of_le name.shorter start.property
      (readItemsFrom read name.rest [] false name.rest (length_le_self name.rest)).map fun items =>
        (items.map fun parts => ⟨name.value, .inr parts⟩).from (Nat.le_of_lt hname)

/-- Reads the draft of a command, an object or an array. -/
def readDraft : Reader Draft := fun input =>
  match readOpening input with
  | .error failure => .error failure
  | .ok opening =>
    match opening.value with
    | .scalar value => failAt (.wrongType (found value) "internally tagged enum AdminCommand") opening.rest
    | .array => (readDraftItems (readValue (maxDepth - 1)) opening.rest).map opening.followedBy
    | .object =>
      (readObject {} (takeMember (readValue (maxDepth - 1))) draftOfMembers opening.rest).map opening.followedBy

/-- The text of a value. -/
def textOf : Json → Except Problem String
  | .text s => .ok s
  | value => .error (.wrongType (found value) "a string")

/-- Looks up a member that must be there once and be a string; the first fault on the way counts. -/
def textMember (name : String) (met : Option String) : List (String × Json) → Except Problem String
  | [] => met.elim (.error (.missingMember name)) .ok
  | (other, value) :: rest =>
    if other = name then
      if met.isSome then .error (.repeatedMember name)
      else
        match textOf value with
        | .error problem => .error problem
        | .ok s => textMember name (some s) rest
    else textMember name met rest

/-- The single item of a command in array form. -/
def textItem (kind : String) : List Json → Except Problem String
  | [] => .error (.wrongLength 0 ("struct variant AdminCommand::" ++ kind ++ " with 1 element"))
  | item :: rest =>
    match textOf item with
    | .error problem => .error problem
    | .ok s =>
      if rest.isEmpty then .ok s
      else .error (.wrongLength (1 + rest.length) "1 element in sequence")

/-- The operand of a command from its parts, by the name of its member or by its place. -/
def operandOf (member kind : String) : List (String × Json) ⊕ List Json → Except Problem String
  | .inl members => textMember member none members
  | .inr items => textItem kind items

/-- A command without operand ignores members but has no room for items. -/
def noOperand : List (String × Json) ⊕ List Json → Except Problem Unit
  | .inl _ => .ok ()
  | .inr items =>
    if items.isEmpty then .ok () else .error (.wrongLength items.length "0 elements in sequence")

/-- Gives the parts of a draft their meaning. -/
def ofDraft (draft : Draft) : Except Problem Command :=
  if draft.name = "updateFirmware" then (noOperand draft.parts).map fun _ => .updateFirmware
  else if draft.name = "setToken" then (operandOf "token" "SetToken" draft.parts).map .setToken
  else (operandOf "robot" "SetRobot" draft.parts).map .setRobot

/-- Reads a command. Faults in the parts of a draft have no place. -/
def read : Reader Command := fun input =>
  match readDraft input with
  | .error failure => .error failure
  | .ok draft =>
    match ofDraft draft.value with
    | .error problem => .error ⟨problem, none⟩
    | .ok command => .ok (draft.map fun _ => command)

/-- Decodes the text of a command. -/
def decode (text : List UInt8) : Except Refusal Command :=
  readAll read text

end RobotAdmin.Command
