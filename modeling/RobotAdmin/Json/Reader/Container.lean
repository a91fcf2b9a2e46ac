import RobotAdmin.Json.Reader.Text

namespace RobotAdmin.Json

/-- Looks for the next item of an array and moves to its first byte; there is none where the array
    closes. -/
def nextItem (first : Bool) (input : List UInt8) :
    Except Failure (Option (Rest input)) :=
  match hspace : skipSpace input with
  | [] => failAt .unfinishedArray []
  | b :: rest =>
    if b = ']'.toUInt8 then .ok none
    else if first then .ok (some ⟨b :: rest, length_lt_of_skipSpace hspace⟩)
    else if b = ','.toUInt8 then
      match hitem : skipSpace rest with
      | [] => failAt .unfinishedValue []
      | c :: behind =>
        if c = ']'.toUInt8 then failAt .trailingComma behind
        else
          .ok (some ⟨c :: behind, Nat.le_trans (hitem ▸ length_skipSpace_le rest)
            (Nat.le_of_lt (length_lt_of_skipSpace hspace))⟩)
    else failAt .expectedCommaOrBracket rest

/-- Passes over the bracket that closes an array. -/
def closeArray : Reader Unit := fun input =>
  match hspace : skipSpace input with
  | [] => failAt .unfinishedArray []
  | b :: rest =>
    if b = ']'.toUInt8 then .ok ⟨(), rest, length_lt_of_skipSpace hspace⟩
    else if b = ','.toUInt8 then
      match skipSpace rest with
      | c :: behind =>
        if c = ']'.toUInt8 then failAt .trailingComma behind else failAt .trailingCharacters behind
      | [] => failAt .trailingCharacters []
    else failAt .trailingCharacters rest

/-- Where a fault found inside an array is reported: behind the bracket if the array closes there. -/
def behindArray (input : List UInt8) : List UInt8 :=
  match skipSpace input with
  | [] => []
  | b :: rest =>
    if b = ']'.toUInt8 then rest
    else if b = ','.toUInt8 then skipSpace rest
    else b :: rest

/-- Reads the next name of an object behind its opening quote; there is none where the object closes. -/
def nextName (first : Bool) (input : List UInt8) : Except Failure (Option (Taken String input)) :=
  match hspace : skipSpace input with
  | [] => failAt .unfinishedObject []
  | b :: rest =>
    have hrest := Nat.le_of_lt (length_lt_of_skipSpace hspace)
    if b = '\x7d'.toUInt8 then .ok none
    else if first then
      if b = '"'.toUInt8 then (readText rest).map (some <| ·.from hrest)
      else failAt .keyNotText rest
    else if b = ','.toUInt8 then
      match hname : skipSpace rest with
      | [] => failAt .unfinishedValue []
      | c :: behind =>
        if c = '"'.toUInt8 then
          (readText behind).map
            (some <| ·.from (Nat.le_trans (Nat.le_of_lt (length_lt_of_skipSpace hname)) hrest))
        else if c = '\x7d'.toUInt8 then failAt .trailingComma behind
        else failAt .keyNotText behind
    else failAt .expectedCommaOrBrace rest

/-- Passes over the brace that closes an object. -/
def closeObject : Reader Unit := fun input =>
  match hspace : skipSpace input with
  | [] => failAt .unfinishedObject []
  | b :: rest =>
    if b = '\x7d'.toUInt8 then .ok ⟨(), rest, length_lt_of_skipSpace hspace⟩
    else if b = ','.toUInt8 then failAt .trailingComma rest
    else failAt .trailingCharacters rest

/-- Where a fault found inside an object is reported: behind the brace if the object closes there. -/
def behindObject (input : List UInt8) : List UInt8 :=
  match skipSpace input with
  | [] => []
  | b :: rest => if b = '\x7d'.toUInt8 then rest else b :: rest

/-- Passes over the colon between a name and its value. -/
def readColon : Reader Unit := fun input =>
  match hspace : skipSpace input with
  | [] => failAt .unfinishedObject []
  | b :: rest =>
    if b = ':'.toUInt8 then .ok ⟨(), rest, length_lt_of_skipSpace hspace⟩ else failAt .expectedColon rest

/-- Reads what stands behind a name with a reader for the value. -/
def readMember {α : Type} (read : Reader α) : Reader α := fun input =>
  match readColon input with
  | .error failure => .error failure
  | .ok colon => (read colon.rest).map colon.followedBy

/-- Reads the items of an array from behind its bracket to behind the closing one. -/
def readItemsFrom {α : Type} (read : Reader α) (whole : List UInt8) (items : List α) (first : Bool)
    (input : List UInt8) (hinput : input.length ≤ whole.length) : Except Failure (Taken (List α) whole) :=
  match nextItem first input with
  | .error failure => .error failure
  | .ok none => (closeArray input).map fun closed => (closed.map fun _ => items.reverse).from hinput
  | .ok (some start) =>
    match read start.val with
    | .error failure => .error failure
    | .ok item =>
      have hitem := Nat.lt_of_lt_of_le item.shorter start.property
      readItemsFrom read whole (item.value :: items) false item.rest (Nat.le_trans (Nat.le_of_lt hitem) hinput)
termination_by input.length
decreasing_by exact hitem

def readItems {α : Type} (read : Reader α) : Reader (List α) := fun input =>
  readItemsFrom read input [] true input (length_le_self input)

/-- Reads the members of an object from behind its brace to the closing one, which is left. Each member
    is read, from behind its name on, by a step that takes and gives a state. -/
def foldMembers {σ : Type} (step : σ → String → Reader σ) (whole : List UInt8) (state : σ) (first : Bool)
    (input : List UInt8) (hinput : input.length ≤ whole.length) :
    Except Failure (σ × Rest whole) :=
  match nextName first input with
  | .error failure => .error failure
  | .ok none => .ok (state, ⟨input, hinput⟩)
  | .ok (some name) =>
    match step state name.value name.rest with
    | .error failure => .error failure
    | .ok member =>
      have hmember := Nat.lt_trans member.shorter name.shorter
      foldMembers step whole member.value false member.rest (Nat.le_trans (Nat.le_of_lt hmember) hinput)
termination_by input.length
decreasing_by exact hmember

/-- Reads an object from behind its brace to behind the closing one. The state that the members leave
    either becomes a value or shows a fault of the object as a whole. -/
def readObject {σ α : Type} (start : σ) (step : σ → String → Reader σ) (finish : σ → Except Problem α) :
    Reader α := fun input =>
  match foldMembers step input start true input (length_le_self input) with
  | .error failure => .error failure
  | .ok (state, rest) =>
    match finish state with
    | .error problem => failAt problem (behindObject rest.val)
    | .ok value => (closeObject rest.val).map fun closed => (closed.map fun _ => value).from rest.property

end RobotAdmin.Json
