import RobotAdmin.Http.Network
import RobotAdmin.Url.Parse

namespace RobotAdmin.Http

/-- Why a request got no response. -/
inductive NetworkFault where
  | noUrl
  | unsupported (url : Url)
  | unreachable (url : Url)
  | tooManyRedirects (url : Url)
  | truncatedBody
  deriving DecidableEq, Repr

def NetworkFault.message : NetworkFault → String
  | .noUrl => "builder error"
  | .unsupported url => "builder error for url (" ++ url.text ++ ")"
  | .unreachable url => "error sending request for url (" ++ url.text ++ ")"
  | .tooManyRedirects url => "error following redirect for url (" ++ url.text ++ ")"
  | .truncatedBody => "error decoding response body"

/-- The number of redirects that are followed. -/
def maxRedirects : Nat := 10

/-- Where a response sends a request on to. A location that is no URL, or one that cannot be requested,
    is not followed. -/
def Response.redirect? (response : Response) (url : Url) : Option Url :=
  if response.status ∈ [301, 302, 303, 307, 308] then
    (response.header? "location").bind fun location =>
      ((url.join? location).filter Url.fitsRequest).map Url.withoutUser
  else none

/-- Whether a redirect repeats the request as it was. All others only fetch what is at the new place. -/
def keepsRequest (status : Nat) : Bool := status == 307 || status == 308

/-- The request that follows a redirect. Credentials are not sent to another host or port. The Referer header, in
    which such a request names the page that led to it, is left out: no peer of a `Network` looks at it. -/
def Request.redirected (request : Request) (status : Nat) (url : Url) : Request where
  method := if keepsRequest status then request.method else .get
  url := url
  authorization :=
    if request.url.host = url.host ∧ request.url.effectivePort = url.effectivePort then request.authorization
    else none
  body := if keepsRequest status then request.body else none

/-- Sends a request and follows redirects while there is room for them. A failure on the way names the
    URL that was asked for first. -/
def fetchFrom (first : Url) : (room : Nat) → Request → Network → Except NetworkFault Response × Network
  | room, request, network =>
    match network.exchange request with
    | (none, network) => (.error (.unreachable first), network)
    | (some response, network) =>
      match response.redirect? request.url, room with
      | none, _ => (.ok response, network)
      | some url, 0 => (.error (.tooManyRedirects url), network)
      | some url, room + 1 =>
        if url.isHttp then fetchFrom first room (request.redirected response.status url) network
        else (.error (.unsupported url), network)

def fetch (request : Request) (network : Network) : Except NetworkFault Response × Network :=
  fetchFrom request.url maxRedirects request network

end RobotAdmin.Http
