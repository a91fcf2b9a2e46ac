import RobotAdmin.Proofs.Json.Grammar
import RobotAdmin.Settings

namespace RobotAdmin.Settings

open Json Json.Grammar

/-- What a member of a settings text gives. -/
inductive Entry where
  | server (s : String)
  | timeoutSecs (secs : UInt64)
  | other
  deriving DecidableEq, Repr

def Entry.server? : Entry → Option String
  | .server s => some s
  | .timeoutSecs _ | .other => none

def Entry.timeoutSecs? : Entry → Option UInt64
  | .timeoutSecs secs => some secs
  | .server _ | .other => none

/-- The digits of a timeout, without sign, fraction or exponent. -/
def digits (secs : UInt64) : List UInt8 := Utf8.encodeChars (Nat.toDigits 10 secs.toNat)

/-- The name of a member, up to its value. -/
def Name (input : List UInt8) (name : String) (value : List UInt8) : Prop :=
  ∃ start behind colon, Space input ('"'.toUInt8 :: start) ∧ Text start name.toList behind ∧
    Space behind (':'.toUInt8 :: colon) ∧ Space colon value

/-- A member of a settings text. The value of one that is no setting may be anything. -/
inductive Member : List UInt8 → Entry → List UInt8 → Prop where
  | server {input start rest : List UInt8} {server : String} (hname : Name input "server" ('"'.toUInt8 :: start))
      (hserver : Text start server.toList rest) : Member input (.server server) rest
  | timeoutSecs {input rest : List UInt8} {secs : UInt64} (hname : Name input "timeout_secs" (digits secs ++ rest)) :
      Member input (.timeoutSecs secs) rest
  | other {input value rest : List UInt8} {name : String} (hname : Name input name value) (hserver : name ≠ "server")
      (htimeout : name ≠ "timeout_secs") (hvalue : Value value rest) : Member input .other rest

/-- The members of a settings text up to behind the closing brace, all of them or those behind the first one. -/
inductive Members : Bool → List UInt8 → List Entry → List UInt8 → Prop where
  | close {first : Bool} {input rest : List UInt8} (hclose : Space input ('\x7d'.toUInt8 :: rest)) :
      Members first input [] rest
  | next {first : Bool} {input start behind rest : List UInt8} {entry : Entry} {entries : List Entry}
      (hcomma : Comma first input start) (hmember : Member start entry behind)
      (hmore : Members false behind entries rest) : Members first input (entry :: entries) rest

/-- The items of a settings text up to behind the closing bracket: a server and a timeout, of which the last or both may
    be missing. -/
inductive Items : List UInt8 → Option String → Option UInt64 → List UInt8 → Prop where
  | neither {input rest : List UInt8} (hclose : Space input (']'.toUInt8 :: rest)) : Items input none none rest
  | server {input start behind rest : List UInt8} {server : String} (hquote : Space input ('"'.toUInt8 :: start))
      (hserver : Text start server.toList behind) (hclose : Space behind (']'.toUInt8 :: rest)) :
      Items input (some server) none rest
  | both {input start behind next last rest : List UInt8} {server : String} {secs : UInt64}
      (hquote : Space input ('"'.toUInt8 :: start)) (hserver : Text start server.toList behind)
      (hcomma : Space behind (','.toUInt8 :: next)) (hsecs : Space next (digits secs ++ last))
      (hclose : Space last (']'.toUInt8 :: rest)) : Items input (some server) (some secs) rest

/-- An object in which each setting occurs at most once, or an array of settings. -/
inductive Body : List UInt8 → Option String → Option UInt64 → List UInt8 → Prop where
  | object {text input rest : List UInt8} {entries : List Entry} {server : Option String} {secs : Option UInt64}
      (hopen : Space text ('\x7b'.toUInt8 :: input)) (hmembers : Members true input entries rest)
      (hserver : entries.filterMap Entry.server? = server.toList)
      (hsecs : entries.filterMap Entry.timeoutSecs? = secs.toList) : Body text server secs rest
  | array {text input rest : List UInt8} {server : Option String} {secs : Option UInt64}
      (hopen : Space text ('['.toUInt8 :: input)) (hitems : Items input server secs rest) : Body text server secs rest

/-- A text gives these settings and has nothing but white space around them. -/
def Describes (text : List UInt8) (server : Option String) (secs : Option UInt64) : Prop :=
  ∃ rest, Body text server secs rest ∧ Space rest []

end RobotAdmin.Settings
