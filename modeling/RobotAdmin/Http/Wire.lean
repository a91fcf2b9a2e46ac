import RobotAdmin.Http
import RobotAdmin.Text.Blank
import RobotAdmin.Text.Utf8

namespace RobotAdmin.Http

private def line (text : String) : String := text ++ "\r\n"

private def headerLine (header : String × String) : String := line (header.1 ++ ": " ++ header.2)

/-- The host of a request, with its port unless that is the usual one. -/
def Request.authority (request : Request) : String :=
  request.url.host.getD "" ++ request.url.port.elim "" fun port => ":" ++ toString port

/-- What a request asks its host for. -/
def Request.target (request : Request) : String :=
  request.url.path.text ++ request.url.query.elim "" ("?" ++ ·)

/-- The bytes of a request that uses a connection of its own. -/
def Request.wireBytes (request : Request) : List UInt8 :=
  let body := Utf8.encode (request.body.getD "")
  let headers := request.headers ++
    [("host", request.authority), ("content-length", toString body.length), ("connection", "close")]
  Utf8.encode (line (request.method.name ++ " " ++ request.target ++ " HTTP/1.1") ++
    String.join (headers.map headerLine) ++ line "") ++ body

/-- What stands before the first empty line and what stands behind it. -/
def cutHead : List UInt8 → Option (List UInt8 × List UInt8)
  | 13 :: 10 :: 13 :: 10 :: rest => some ([], rest)
  | b :: rest => (cutHead rest).map fun (head, body) => (b :: head, body)
  | [] => none

private def headerOf? (text : List Char) : Option (String × String) :=
  match text.span (· != ':') with
  | (name, _ :: value) => some (String.ofList name, Text.trim (String.ofList value))
  | _ => none

/-- The status code in the first line of a response. -/
def statusOf? (text : List Char) : Option Nat :=
  match List.splitOn ' ' text with
  | _ :: code :: _ => (String.ofList code).toNat?
  | _ => none

/-- Reads a response that has all of its body, or as much of it as came before the connection closed. -/
def Response.ofWire? (bytes : List UInt8) : Option Response := do
  let (head, body) ← cutHead bytes
  let lines := (List.splitOn '\n' (Utf8.decodeLossyChars head)).map (Text.dropEnd (· == '\r'))
  let status ← lines.head?.bind statusOf?
  let response : Response := { status, headers := lines.tail.filterMap headerOf?, body }
  match (response.header? "content-length").bind String.toNat? with
  | none => return response
  | some length => return { response with body := body.take length, complete := length ≤ body.length }

end RobotAdmin.Http
