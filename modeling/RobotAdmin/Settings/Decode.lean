import RobotAdmin.Json.Reader.Skip
import RobotAdmin.Settings

namespace RobotAdmin.Settings

open Json

/-- The settings met so far in a stored text. -/
structure Draft where
  server : Option String := none
  timeoutSecs : Option UInt64 := none

/-- The settings of a draft, by default where nothing was met. -/
def ofDraft (draft : Draft) : Settings :=
  ⟨draft.server.getD defaultServer, draft.timeoutSecs.getD defaultTimeoutSecs⟩

def readServer : Reader String := readTextAs "a string"

def readTimeout : Reader UInt64 := readWordAs "u64"

/-- Takes the next member. A setting must not come twice; all other members are passed over. -/
def takeMember (draft : Draft) (name : String) : Reader Draft := fun input =>
  if name = "server" then
    if draft.server.isSome then failAt (.repeatedMember "server") (behindObject input)
    else (readMember readServer input).map (·.map fun server => { draft with server := some server })
  else if name = "timeout_secs" then
    if draft.timeoutSecs.isSome then failAt (.repeatedMember "timeout_secs") (behindObject input)
    else (readMember readTimeout input).map (·.map fun secs => { draft with timeoutSecs := some secs })
  else (readMember skipValue input).map (·.map fun _ => draft)

/-- Reads the end of an array in which nothing more is expected. -/
def finishItems (whole : List UInt8) (draft : Draft) (input : List UInt8)
    (hinput : input.length ≤ whole.length) : Except Failure (Taken Draft whole) :=
  (closeArray input).map fun closed => (closed.map fun _ => draft).from hinput

/-- Reads settings in array form behind the bracket: the server, then the timeout. The last or both may
    be missing. -/
def readItemsDraft : Reader Draft := fun input =>
  match nextItem true input with
  | .error failure => .error failure
  | .ok none => finishItems input {} input (length_le_self input)
  | .ok (some start) =>
    match readServer start.val with
    | .error failure => .error failure
    | .ok server =>
      have hserver := Nat.le_trans (Nat.le_of_lt server.shorter) start.property
      match nextItem false server.rest with
      | .error failure => .error failure
      | .ok none => finishItems input { server := some server.value } server.rest hserver
      | .ok (some next) =>
        match readTimeout next.val with
        | .error failure => .error failure
        | .ok secs =>
          finishItems input ⟨some server.value, some secs.value⟩ secs.rest
            (Nat.le_trans (Nat.le_of_lt secs.shorter) (Nat.le_trans next.property hserver))

/-- Reads settings, an object or an array. -/
def read : Reader Settings := fun input =>
  match readOpening input with
  | .error failure => .error failure
  | .ok opening =>
    match opening.value with
    | .scalar value => failAt (.wrongType (found value) "struct Config") opening.rest
    | .array => (readItemsDraft opening.rest).map fun taken => opening.followedBy (taken.map ofDraft)
    | .object =>
      (readObject {} takeMember (fun draft => .ok (ofDraft draft)) opening.rest).map opening.followedBy

/-- Decodes stored settings. -/
def decode (text : List UInt8) : Except Refusal Settings :=
  readAll read text

/-- The stored form of settings. -/
def toJson (settings : Settings) : Json :=
  .object [("server", .text settings.server), ("timeout_secs", .number (.integer settings.timeoutSecs.toNat))]

def stored (settings : Settings) : String := settings.toJson.pretty

end RobotAdmin.Settings
