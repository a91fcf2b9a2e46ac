import RobotAdmin.Url

namespace RobotAdmin.Http

inductive Method where
  | get
  | post
  deriving DecidableEq, Repr

def Method.name : Method → String
  | .get => "GET"
  | .post => "POST"

/-- A request. A body is always JSON. -/
structure Request where
  method : Method
  url : Url
  authorization : Option String := none
  body : Option String := none
  deriving DecidableEq, Repr

/-- The name under which the program presents itself. -/
def userAgent : String := "roberta-admin/0.0.1"

def optionalHeader (name : String) (value : Option String) : List (String × String) :=
  (value.map (name, ·)).toList

def Request.headers (request : Request) : List (String × String) :=
  [("accept", "*/*"), ("user-agent", userAgent)] ++
    optionalHeader "content-type" (request.body.map fun _ => "application/json") ++
    optionalHeader "authorization" request.authorization

/-- A response. It is not complete if the connection closed before all of the body had come. -/
structure Response where
  status : Nat
  headers : List (String × String) := []
  body : List UInt8 := []
  complete : Bool := true
  deriving DecidableEq, Repr

/-- The value of a header, whose name has no case. -/
def Response.header? (response : Response) (name : String) : Option String :=
  (response.headers.find? fun header => header.1.toLower == name).map (·.2)

def Response.isSuccess (response : Response) : Bool := 200 ≤ response.status && response.status < 300

end RobotAdmin.Http
