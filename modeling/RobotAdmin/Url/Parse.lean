import RobotAdmin.Text.Blank
import RobotAdmin.Url

namespace RobotAdmin.Url

/-- How the rest of a URL is read: by the rules of schemes with hosts, of files, or of all others. -/
inductive Kind where
  | hosted
  | file
  | other
  deriving DecidableEq, Repr

def kindOf (scheme : String) : Kind :=
  if (defaultPort? scheme).isSome then .hosted else if scheme = "file" then .file else .other

/-- Whether a character separates path segments. Only schemes of the `other` kind tell the two slashes
    apart. -/
def Kind.isSlash (kind : Kind) (c : Char) : Bool := c == '/' || (c == '\\' && kind != .other)

def Kind.inQuerySet : Kind → Char → Bool
  | .other => Url.inQuerySet
  | _ => inSpecialQuerySet

/-- What stands before the first occurrence of a character and what stands behind it. -/
def cutAt (c : Char) : List Char → List Char × Option (List Char)
  | [] => ([], none)
  | d :: rest =>
    if d = c then ([], some rest)
    else
      let (before, behind) := cutAt c rest
      (d :: before, behind)

/-- Controls and the space, which have no part in a URL where they stand around it. -/
def isEdge (c : Char) : Bool := c.toNat ≤ 0x20

/-- Tabs and line breaks, which have no part in a URL anywhere. -/
def isBreak (c : Char) : Bool := c == '\t' || c == '\n' || c == '\r'

/-- The text of a URL without what has no part in it. -/
def clean (text : List Char) : List Char :=
  (Text.dropEnd isEdge (text.dropWhile isEdge)).filter fun c => !isBreak c

/-- The characters of a scheme behind its first letter. -/
def isSchemeChar (c : Char) : Bool := c.isAlphanum || c == '+' || c == '-' || c == '.'

/-- The scheme in small letters and what follows its colon. -/
def scheme? (text : List Char) : Option (String × List Char) :=
  if (text.head?.any Char.isAlpha) then
    match text.dropWhile isSchemeChar with
    | ':' :: rest => some (String.ofList ((text.takeWhile isSchemeChar).map Char.toLower), rest)
    | _ => none
  else none

def isSingleDot (segment : String) : Bool := segment.toLower == "." || segment.toLower == "%2e"

def isDoubleDot (segment : String) : Bool :=
  ["..", ".%2e", "%2e.", "%2e%2e"].contains segment.toLower

/-- A letter and a colon or bar, which stand for a drive. -/
def isDrive (segment : List Char) : Bool :=
  match segment with
  | [c, mark] => c.isAlpha && (mark == ':' || mark == '|')
  | _ => false

/-- Leaves the innermost segment of a path, which comes first. A drive is not left, whatever the scheme. -/
def leaveSegment : List String → List String
  | [] => []
  | segment :: outer => if isDrive segment.toList then segment :: outer else outer

/-- Adds a segment to a path whose innermost segment comes first. Dots move within the path, and leave an
    empty segment where they are last. -/
def addSegment (path : List String) (raw : List Char) (last : Bool) : List String :=
  let segment := String.ofList (percentEncode inPathSet raw)
  if isDoubleDot segment then if last then "" :: leaveSegment path else leaveSegment path
  else if isSingleDot segment then if last then "" :: path else path
  else segment :: path

/-- Adds the segments of a text in turn to a path whose innermost segment comes first. -/
def addSegments (path : List String) : List (List Char) → List String
  | [] => path
  | [last] => addSegment path last true
  | segment :: rest => addSegments (addSegment path segment false) rest

/-- The segments of a path, outermost first. The path of a file has no empty segments before another. -/
def Kind.settle (kind : Kind) (segments : List String) : List String :=
  if kind == .file then
    match segments.dropWhile String.isEmpty with
    | [] => [""]
    | kept => kept
  else segments

/-- The path that a text with a slash before each segment denotes. A hosted URL always has a path. -/
def absolutePath (kind : Kind) (text : List Char) : Path :=
  match text with
  | [] => if kind == .other then .segments [] else .segments [""]
  | c :: rest =>
    let raw := List.splitOnP kind.isSlash (if kind.isSlash c then rest else text)
    .segments (kind.settle (addSegments [] raw).reverse)

/-- Path, query and fragment, apart. -/
def cutEnd (kind : Kind) (text : List Char) : List Char × Option String × Option String :=
  let (resource, fragment) := cutAt '#' text
  let (path, query) := cutAt '?' resource
  (path, query.map (String.ofList ∘ percentEncode kind.inQuerySet),
    fragment.map (String.ofList ∘ percentEncode inFragmentSet))

/-- User name and password before the last at sign, and what follows it. -/
def cutUser (authority : List Char) : Option (List Char) × List Char :=
  match cutAt '@' authority.reverse with
  | (_, none) => (none, authority)
  | (host, some user) => (some user.reverse, host.reverse)

private def encodeUser (s : List Char) : String := String.ofList (percentEncode inUserSet s)

/-- Whether a character ends the part of a URL that names its host. -/
def Kind.endsAuthority (kind : Kind) (c : Char) : Bool := kind.isSlash c || c == '?' || c == '#'

/-- The part of a URL that names its host, with the user and the port. -/
structure Authority where
  username : String
  password : Option String
  host : String
  port : Option Nat

def Authority.ofText? (scheme : String) (kind : Kind) (text : List Char) : Option Authority := do
  let (user, hostPort) := cutUser text
  let (hostText, portText) := cutPort false hostPort
  if hostText.isEmpty && (kind == .hosted || user.isSome || portText.isSome) then none
  let host ← if kind == .hosted then domainHost? hostText else plainHost? hostText
  let port ← port? (portText.getD [])
  let (username, password) := cutAt ':' (user.getD [])
  return {
    username := encodeUser username
    password := (password.filter fun s => !s.isEmpty).map encodeUser
    host := String.ofList host
    port := if port == defaultPort? scheme then none else port }

/-- Reads what follows the slashes before a host: user, host, port, path, query and fragment. -/
def ofAuthority? (scheme : String) (kind : Kind) (text : List Char) : Option Url :=
  (Authority.ofText? scheme kind (text.takeWhile fun c => !kind.endsAuthority c)).map fun authority =>
    let (path, query, fragment) := cutEnd kind (text.dropWhile fun c => !kind.endsAuthority c)
    { scheme
      username := authority.username
      password := authority.password
      host := some authority.host
      port := authority.port
      path := absolutePath kind path
      query
      fragment }

/-- Reads a file's URL behind its scheme. Two slashes stand before a host, which may be empty; a drive
    is not a host but begins the path. -/
def ofFile? (text : List Char) : Option Url := do
  let slash := Kind.file.isSlash
  let (hostText, rest) :=
    match text with
    | a :: b :: rest =>
      if slash a && slash b then
        let host := rest.takeWhile fun c => !Kind.file.endsAuthority c
        if isDrive host then ([], '/' :: rest)
        else (host, rest.dropWhile fun c => !Kind.file.endsAuthority c)
      else ([], text)
    | _ => ([], text)
  let host ← if hostText.isEmpty then some [] else domainHost? hostText
  let (path, query, fragment) := cutEnd .file rest
  return {
    scheme := "file"
    host := some (if host == "localhost".toList then "" else String.ofList host)
    path := absolutePath .file path
    query
    fragment }

/-- Reads a URL without structure known from its scheme: with a host behind two slashes, with a path
    behind one, or as plain text. -/
def ofOther? (scheme : String) (text : List Char) : Option Url :=
  match text with
  | '/' :: '/' :: rest => ofAuthority? scheme .other rest
  | _ =>
    let (path, query, fragment) := cutEnd .other text
    match path with
    | '/' :: _ => some { scheme, path := absolutePath .other path, query, fragment }
    | _ => some { scheme, path := .plain (String.ofList (percentEncode isControl path)), query, fragment }

/-- Reads what follows a scheme and its colon. Any number of slashes stands before a host. -/
def ofScheme? (scheme : String) (text : List Char) : Option Url :=
  match kindOf scheme with
  | .hosted => ofAuthority? scheme .hosted (text.dropWhile Kind.hosted.isSlash)
  | .file => ofFile? text
  | .other => ofOther? scheme text

/-- Parses an absolute URL. -/
def parse? (text : String) : Option Url :=
  (scheme? (clean text.toList)).bind fun (scheme, rest) => ofScheme? scheme rest

/-- Reads a reference without scheme against the URL it was found at, whose scheme has hosts. -/
def ofRelative? (base : Url) (text : List Char) : Option Url :=
  let slash := Kind.hosted.isSlash
  match text with
  | a :: b :: rest =>
    if slash a && slash b then ofAuthority? base.scheme .hosted (rest.dropWhile slash) else below text
  | _ => below text
where
  /-- Reads a reference that keeps the host. Without a path it keeps the path too, and without a query
      that as well. -/
  below (text : List Char) : Option Url :=
    let (path, query, fragment) := cutEnd .hosted text
    let names := match base.path with
      | .segments names => names
      | .plain _ => []
    match path with
    | [] => some { base with query := query.or (if text.head? == some '?' then none else base.query), fragment }
    | c :: _ =>
      if Kind.hosted.isSlash c then some { base with path := absolutePath .hosted path, query, fragment }
      else
        let segments := addSegments names.dropLast.reverse (List.splitOnP Kind.hosted.isSlash path)
        some { base with path := .segments segments.reverse, query, fragment }

/-- Resolves a reference against the URL it was found at, whose scheme has hosts. A reference with the
    same scheme but no two slashes is relative too. -/
def join? (base : Url) (reference : String) : Option Url :=
  let text := clean reference.toList
  match scheme? text with
  | none => ofRelative? base text
  | some (scheme, rest) =>
    if scheme = base.scheme && (rest.takeWhile Kind.hosted.isSlash).length < 2 then ofRelative? base rest
    else ofScheme? scheme rest

end RobotAdmin.Url
