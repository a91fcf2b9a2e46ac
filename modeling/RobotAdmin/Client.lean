import RobotAdmin.Dispatch
import RobotAdmin.Http.Redirect
import RobotAdmin.Reply.Decode
import RobotAdmin.Text.Base64
import RobotAdmin.Text.Blank

namespace RobotAdmin

/-- A client of the server: the URL that routes are appended to, the seconds that a post may take with the
    redirects it follows, and the number of orders that failed. Whether an answer comes in time is up to the
    `Http.Network`. -/
structure Client where
  base : String
  timeoutSecs : UInt64
  failures : Nat := 0
  deriving DecidableEq, Repr

/-- Why a command was not confirmed. -/
inductive PostFault where
  | network (cause : Http.NetworkFault)
  | status (code : Nat) (body : String)
  | undecodable (cause : Json.Refusal)
  | rejected (rc : String) (message : Option String)
  deriving DecidableEq, Repr

def PostFault.message : PostFault → String
  | .network cause => "network error: " ++ cause.message
  | .status code body => "server returned HTTP " ++ toString code ++ ": " ++ body
  | .undecodable cause => "invalid response: " ++ cause.message
  | .rejected rc message =>
    "server rejected request (rc=" ++ rc ++ ")" ++ message.elim "" fun text => ": " ++ text

namespace Client

def ofServer (server : String) (timeoutSecs : UInt64) : Client :=
  { base := Text.dropSlashes server, timeoutSecs }

/-- The text of the URL of a route. -/
def address (client : Client) (route : String) : String := client.base ++ route

/-- The user name and password in a URL, if they are text. -/
def credentials? (url : Url) : Option (String × String) :=
  let decode (s : String) : Option String := Utf8.decode? (Url.percentDecode (Utf8.encode s))
  (decode url.username).bind fun name =>
    match url.password.bind decode with
    | some password => some (name, password)
    | none => if name.isEmpty then none else some (name, "")

/-- The header for a user name and a password. -/
def basicAuthorization (name password : String) : String :=
  "Basic " ++ String.ofList (Base64.encode (Utf8.encode (name ++ ":" ++ password)))

/-- The request that sends a command. Credentials move from the URL into a header. -/
def request (client : Client) (route : String) (command : Command) :
    Except Http.NetworkFault Http.Request :=
  match Url.parse? (client.address route) with
  | none => .error .noUrl
  | some url =>
    let (authorization, target) :=
      match credentials? url with
      | some (name, password) => (some (basicAuthorization name password), url.withoutUser)
      | none => (none, url)
    if target.isHttp && target.fitsRequest then
      .ok { method := .post, url := target, authorization, body := some command.wire }
    else .error (.unsupported target)

/-- What a response says about the command. Only a complete response of success that holds a reply of
    success confirms it; of several faults the first in this order counts. -/
def confirmation (response : Http.Response) : Except PostFault Reply :=
  if !response.complete then .error (.network .truncatedBody)
  else
    let body := Utf8.decodeLossy response.body
    if !response.isSuccess then .error (.status response.status body)
    else
      match Reply.decode (Utf8.encode body) with
      | .error cause => .error (.undecodable cause)
      | .ok reply => if reply.isOk then .ok reply else .error (.rejected reply.rc reply.message)

/-- Sends a command and reads what is said about it. -/
def post (client : Client) (route : String) (command : Command) (network : Http.Network) :
    Except PostFault Reply × Http.Network :=
  match client.request route command with
  | .error cause => (.error (.network cause), network)
  | .ok request =>
    match Http.fetch request network with
    | (.error cause, network) => (.error (.network cause), network)
    | (.ok response, network) => (confirmation response, network)

end Client

end RobotAdmin
