import RobotAdmin.Url.Host

namespace RobotAdmin

/-- The path of a URL: segments that slashes stand before, or a text without structure. -/
inductive Url.Path where
  | segments (names : List String)
  | plain (text : String)
  deriving DecidableEq, Repr

/-- A parsed URL whose parts are in normal form. Absent and empty differ for the password, the query and
    the fragment, and for the host of a scheme that can do without. -/
structure Url where
  scheme : String
  username : String := ""
  password : Option String := none
  host : Option String := none
  port : Option Nat := none
  path : Url.Path := .segments []
  query : Option String := none
  fragment : Option String := none
  deriving DecidableEq, Repr

namespace Url

def Path.text : Path → String
  | .segments names => String.join (names.map ("/" ++ ·))
  | .plain text => text

private def userText (url : Url) : String :=
  match url.username, url.password with
  | "", none => ""
  | name, none => name ++ "@"
  | name, some password => name ++ ":" ++ password ++ "@"

/-- Host and port; nothing for a URL without host, whose path must not look like one either. -/
private def authorityText (url : Url) : String :=
  match url.host with
  | some host => "//" ++ url.userText ++ host ++ (url.port.elim "" fun port => ":" ++ toString port)
  | none =>
    match url.path with
    | .segments ("" :: _ :: _) => "/."
    | _ => ""

/-- The text of a URL without its fragment. -/
def resourceText (url : Url) : String :=
  url.scheme ++ ":" ++ url.authorityText ++ url.path.text ++ url.query.elim "" ("?" ++ ·)

def text (url : Url) : String :=
  url.resourceText ++ url.fragment.elim "" ("#" ++ ·)

def withoutUser (url : Url) : Url := { url with username := "", password := none }

/-- The port that a scheme has unless another is named, for the schemes whose URLs name a host. -/
def defaultPort? : String → Option Nat
  | "http" | "ws" => some 80
  | "https" | "wss" => some 443
  | "ftp" => some 21
  | _ => none

/-- The port a connection would go to. -/
def effectivePort (url : Url) : Option Nat := url.port.or (defaultPort? url.scheme)

/-- The most bytes that the text of a URL may have in a request. -/
def maxRequestBytes : Nat := 65534

/-- Whether a URL can be written into a request. Some signs that a host may have cannot, nor can a text that
    is too long. -/
def fitsRequest (url : Url) : Bool :=
  url.host.all (fun host => !host.toList.any "\"\x60\x7b\x7d".toList.contains) &&
    url.text.utf8ByteSize ≤ maxRequestBytes

/-- The schemes that can be requested. -/
def isHttp (url : Url) : Bool := url.scheme == "http" || url.scheme == "https"

end Url

end RobotAdmin
