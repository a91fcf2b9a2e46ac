import RobotAdmin.Json.Reader.Container
import RobotAdmin.Json.Reader.Number

namespace RobotAdmin.Json

/-- Passes over the rest of a keyword. -/
def readKeyword : (letters : List UInt8) → (input : List UInt8) →
    Except Failure (Rest input)
  | [], input => .ok (.all input)
  | _ :: _, [] => failAt .unfinishedValue []
  | letter :: letters, b :: rest =>
    if b = letter then (readKeyword letters rest).map Rest.past
    else failAt .expectedKeyword rest

def ull : List UInt8 := ['u'.toUInt8, 'l'.toUInt8, 'l'.toUInt8]

def rue : List UInt8 := ['r'.toUInt8, 'u'.toUInt8, 'e'.toUInt8]

def alse : List UInt8 := ['a'.toUInt8, 'l'.toUInt8, 's'.toUInt8, 'e'.toUInt8]

/-- What the first byte of a value says about it: a value without parts has been read to its end, of a
    container only the opening bracket. -/
inductive Opening where
  | scalar (value : Json)
  | array
  | object

def keyword (letters : List UInt8) (value : Json) (b : UInt8) (rest : List UInt8) :
    Except Failure (Taken Opening (b :: rest)) :=
  (readKeyword letters rest).map fun ⟨behind, h⟩ => ⟨.scalar value, behind, Nat.lt_succ_of_le h⟩

/-- Reads a value as far as its first byte allows. -/
def readOpening : Reader Opening := fun input =>
  match hspace : skipSpace input with
  | [] => failAt .unfinishedValue []
  | b :: rest =>
    have hstart : (b :: rest).length ≤ input.length := length_lt_of_skipSpace hspace
    if b = 'n'.toUInt8 then (keyword ull .null b rest).map (·.from hstart)
    else if b = 't'.toUInt8 then (keyword rue (.bool true) b rest).map (·.from hstart)
    else if b = 'f'.toUInt8 then (keyword alse (.bool false) b rest).map (·.from hstart)
    else if b = '-'.toUInt8 ∨ isDigit b then
      (readNumber (b :: rest)).map fun taken => (taken.map fun n => .scalar (.number n)).from hstart
    else if b = '"'.toUInt8 then
      (readText rest).map fun taken => (taken.map fun s => .scalar (.text s)).from (length_le_of_cons_le hstart)
    else if b = '['.toUInt8 then .ok ⟨.array, rest, hstart⟩
    else if b = '\x7b'.toUInt8 then .ok ⟨.object, rest, hstart⟩
    else failAt .expectedValue rest

/-- The number of containers that may stand in one another. -/
def maxDepth : Nat := 127

/-- Keeps every member with its name, the latest first. -/
def keepMember (read : Reader Json) (members : List (String × Json)) (name : String) :
    Reader (List (String × Json)) := fun input =>
  (readMember read input).map (·.map fun value => (name, value) :: members)

/-- Reads a value whose containers may stand in one another up to a depth. -/
def readValue : (room : Nat) → Reader Json
  | room, input =>
    match readOpening input with
    | .error failure => .error failure
    | .ok opening =>
      match opening.value, room with
      | .scalar value, _ => .ok (opening.map fun _ => value)
      | _, 0 => failAt .tooDeep opening.rest
      | .array, room + 1 =>
        (readItems (readValue room) opening.rest).map fun taken => opening.followedBy (taken.map Json.array)
      | .object, room + 1 =>
        (readObject [] (keepMember (readValue room)) (fun members => .ok (.object members.reverse))
          opening.rest).map opening.followedBy

/-- Reads a string, or tells what stands in its place. -/
def readTextAs (expected : String) : Reader String := fun input =>
  match readOpening input with
  | .error failure => .error failure
  | .ok opening =>
    match opening.value with
    | .scalar (.text s) => .ok (opening.map fun _ => s)
    | .scalar value => failAt (.wrongType (found value) expected) opening.rest
    | .array => failAt (.wrongType .array expected) (skipSpace input)
    | .object => failAt (.wrongType .object expected) (skipSpace input)

/-- Reads a string or null. -/
def readOptionalText (expected : String) : Reader (Option String) := fun input =>
  match readOpening input with
  | .error failure => .error failure
  | .ok opening =>
    match opening.value with
    | .scalar .null => .ok (opening.map fun _ => none)
    | .scalar (.text s) => .ok (opening.map fun _ => some s)
    | .scalar value => failAt (.wrongType (found value) expected) opening.rest
    | .array => failAt (.wrongType .array expected) (skipSpace input)
    | .object => failAt (.wrongType .object expected) (skipSpace input)

/-- Reads a count below 2^64. A negative integer is a number of the right kind but has no such value. -/
def readWordAs (expected : String) : Reader UInt64 := fun input =>
  match readOpening input with
  | .error failure => .error failure
  | .ok opening =>
    match opening.value with
    | .scalar (.number (.integer n)) =>
      if n < 0 then failAt (.wrongValue (.number (.integer n)) expected) opening.rest
      else .ok (opening.map fun _ => UInt64.ofNat n.toNat)
    | .scalar value => failAt (.wrongType (found value) expected) opening.rest
    | .array => failAt (.wrongType .array expected) (skipSpace input)
    | .object => failAt (.wrongType .object expected) (skipSpace input)

end RobotAdmin.Json
