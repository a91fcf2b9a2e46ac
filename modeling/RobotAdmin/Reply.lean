import RobotAdmin.Json.Writer

namespace RobotAdmin

/-- A decoded reply of the server: its result code, a message and a cause if they are given, and all
    other members sorted by name. -/
structure Reply where
  rc : String
  message : Option String := none
  cause : Option String := none
  extra : List (String × Json) := []
  deriving Repr

namespace Reply

/-- The result code of success. -/
def okCode : String := "ok"

def isOk (reply : Reply) : Bool := reply.rc == okCode

private def optional (name : String) (value : Option String) : List (String × Json) :=
  (value.map fun s => (name, Json.text s)).toList

/-- The members of a reply, the known ones first and absent ones left out. -/
def members (reply : Reply) : List (String × Json) :=
  ("rc", .text reply.rc) :: optional "message" reply.message ++ optional "cause" reply.cause ++ reply.extra

def toJson (reply : Reply) : Json := .object reply.members

def compact (reply : Reply) : String := reply.toJson.compact

def pretty (reply : Reply) : String := reply.toJson.pretty

end Reply

end RobotAdmin
