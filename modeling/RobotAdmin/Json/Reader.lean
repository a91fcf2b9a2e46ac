import RobotAdmin.Json.Problem

namespace RobotAdmin.Json

/-- A refusal: the problem and the bytes behind the place it is reported at. The place is unknown once
    a value is decoded from memory. -/
structure Failure where
  problem : Problem
  unread : Option (List UInt8)
  deriving DecidableEq, Repr

/-- What one reading step took from the input, which is always something. -/
structure Taken (α : Type) (input : List UInt8) where
  value : α
  rest : List UInt8
  shorter : rest.length < input.length

/-- A reading step. -/
abbrev Reader (α : Type) := (input : List UInt8) → Except Failure (Taken α input)

/-- Reports a problem at the place where the given bytes begin. -/
def failAt {α : Type} (problem : Problem) (unread : List UInt8) : Except Failure α :=
  .error ⟨problem, some unread⟩

/-- Reports a problem with the next byte, which counts as read if there is one. -/
def failPast {α : Type} (problem : Problem) (unread : List UInt8) : Except Failure α :=
  failAt problem unread.tail

/-- Counts a step as one on a longer input that begins with bytes already passed over. -/
def Taken.from {α : Type} {input longer : List UInt8} (taken : Taken α input)
    (h : input.length ≤ longer.length) : Taken α longer :=
  ⟨taken.value, taken.rest, Nat.lt_of_lt_of_le taken.shorter h⟩

/-- A step and another that begins where it has ended, as one with the value of the latter. -/
def Taken.followedBy {α β : Type} {input : List UInt8} (first : Taken α input) (second : Taken β first.rest) :
    Taken β input :=
  ⟨second.value, second.rest, Nat.lt_trans second.shorter first.shorter⟩

/-- Counts a step that begins behind a byte as one that begins with it. -/
def Taken.past {α : Type} {b : UInt8} {rest : List UInt8} (taken : Taken α rest) : Taken α (b :: rest) :=
  ⟨taken.value, taken.rest, Nat.lt_succ_of_lt taken.shorter⟩

/-- The step that takes one byte. -/
def Taken.one {α : Type} {b : UInt8} {rest : List UInt8} (value : α) : Taken α (b :: rest) :=
  ⟨value, rest, Nat.lt_succ_self _⟩

def Taken.map {α β : Type} {input : List UInt8} (f : α → β) (taken : Taken α input) : Taken β input :=
  ⟨f taken.value, taken.rest, taken.shorter⟩

/-- A byte sequence that is no longer than another. -/
abbrev Rest (input : List UInt8) := { rest : List UInt8 // rest.length ≤ input.length }

def Rest.from {input longer : List UInt8} (rest : Rest input) (h : input.length ≤ longer.length) :
    Rest longer :=
  ⟨rest.val, Nat.le_trans rest.property h⟩

/-- All of a byte sequence. -/
def Rest.all (input : List UInt8) : Rest input := ⟨input, Nat.le_refl _⟩

/-- The byte sequence behind a byte. -/
def Rest.past {b : UInt8} {input : List UInt8} (rest : Rest input) : Rest (b :: input) :=
  ⟨rest.val, Nat.le_succ_of_le rest.property⟩

theorem length_le_of_cons_le {input rest : List UInt8} {b : UInt8} (h : (b :: rest).length ≤ input.length) :
    rest.length ≤ input.length := Nat.le_of_succ_le h

theorem length_le_self (input : List UInt8) : input.length ≤ input.length := Nat.le_refl _

/-- The white space of JSON: space, tab, line feed and carriage return. -/
def isSpace (b : UInt8) : Bool :=
  b == ' '.toUInt8 || b == '\n'.toUInt8 || b == '\t'.toUInt8 || b == '\r'.toUInt8

def skipSpace (input : List UInt8) : List UInt8 := input.dropWhile isSpace

theorem length_skipSpace_le (input : List UInt8) : (skipSpace input).length ≤ input.length :=
  List.Sublist.length_le (List.dropWhile_sublist _)

theorem length_lt_of_skipSpace {input rest : List UInt8} {b : UInt8} (h : skipSpace input = b :: rest) :
    rest.length < input.length := by
  have := length_skipSpace_le input
  rw [h] at this
  exact this

/-- The number of the line and the bytes on it before a place, given the bytes before that place. A line
    feed ends its line. -/
def place (before : List UInt8) : Nat × Nat :=
  before.foldl (fun (line, column) b => if b == '\n'.toUInt8 then (line + 1, 0) else (line, column + 1)) (1, 0)

/-- A refusal as it is told to a user, with the line and column of its place; both are zero where there
    is none. -/
structure Refusal where
  problem : Problem
  line : Nat
  column : Nat
  deriving DecidableEq, Repr

def Failure.refusal (failure : Failure) (input : List UInt8) : Refusal :=
  match failure.unread with
  | none => ⟨failure.problem, 0, 0⟩
  | some unread =>
    let (line, column) := place (input.take (input.length - unread.length))
    ⟨failure.problem, line, column⟩

def Refusal.message (refusal : Refusal) : String :=
  if refusal.line = 0 then refusal.problem.message
  else refusal.problem.message ++ " at line " ++ toString refusal.line ++ " column " ++ toString refusal.column

/-- Reads a whole text: one value of a kind with nothing but white space after it. -/
def readAll {α : Type} (read : Reader α) (input : List UInt8) : Except Refusal α :=
  match read input with
  | .error failure => .error (failure.refusal input)
  | .ok taken =>
    match skipSpace taken.rest with
    | [] => .ok taken.value
    | _ :: past => .error (Failure.refusal ⟨.trailingCharacters, some past⟩ input)

end RobotAdmin.Json
