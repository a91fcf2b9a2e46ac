import RobotAdmin.Json.Reader.Value

namespace RobotAdmin.Json

/-- Passes over an exponent behind its letter. -/
def skipExponent (input : List UInt8) : Except Failure (Rest input) :=
  match hfirst : withoutSign input with
  | [] => failAt .invalidNumber []
  | b :: rest =>
    have hrest := length_lt_of_withoutSign hfirst
    if isDigit b then .ok ⟨skipDigits rest, Nat.le_trans (length_skipDigits_le rest) (Nat.le_of_lt hrest)⟩
    else failAt .invalidNumber rest

/-- Passes over an exponent if there is one. -/
def skipOptionalExponent (input : List UInt8) : Except Failure (Rest input) :=
  match input with
  | [] => .ok (.all [])
  | b :: rest => if isExponentLetter b then (skipExponent rest).map Rest.past else .ok (.all (b :: rest))

/-- Passes over a fraction behind its point and over what may follow it. -/
def skipFraction (input : List UInt8) : Except Failure (Rest input) :=
  let rest := skipDigits input
  if digitCount input = 0 then failPast .invalidNumber input
  else (skipOptionalExponent rest).map fun behind => Rest.from behind (length_skipDigits_le input)

/-- Passes over an unsigned number. -/
def skipLiteral : Reader Unit
  | [] => failAt .invalidNumber []
  | b :: rest =>
    if !isDigit b then failAt .invalidNumber rest
    else if b == '0'.toUInt8 ∧ rest.head?.any isDigit then failPast .invalidNumber rest
    else
      let behind := if b == '0'.toUInt8 then rest else skipDigits rest
      have hbehind : behind.length ≤ rest.length := by
        unfold behind; split
        · exact Nat.le_refl _
        · exact length_skipDigits_le rest
      match _h : behind with
      | [] => .ok ⟨(), [], Nat.zero_lt_succ _⟩
      | c :: more =>
        if c == '.'.toUInt8 then
          (skipFraction more).map fun ⟨last, h⟩ =>
            ⟨(), last, Nat.lt_succ_of_le (Nat.le_trans h (Nat.le_of_succ_le hbehind))⟩
        else
          (skipOptionalExponent (c :: more)).map fun ⟨last, h⟩ =>
            ⟨(), last, Nat.lt_succ_of_le (Nat.le_trans h hbehind)⟩

/-- Passes over an escape behind its backslash. Code units need not pair up. -/
def skipEscape : Reader Unit
  | [] => failAt .unfinishedText []
  | b :: rest =>
    if b = 'u'.toUInt8 then
      (readHex rest).map fun taken => (taken.map fun _ => ()).past
    else if (simpleEscape? b).isSome then .ok (.one ())
    else failAt .invalidEscape rest

/-- Passes over the rest of a string behind its opening quote. -/
def skipTextFrom (whole input : List UInt8) (hinput : input.length ≤ whole.length) :
    Except Failure (Taken Unit whole) :=
  match input with
  | [] => failAt .unfinishedText []
  | b :: rest =>
    if b = '"'.toUInt8 then .ok ⟨(), rest, hinput⟩
    else if b = '\\'.toUInt8 then
      match skipEscape rest with
      | .error failure => .error failure
      | .ok taken =>
        skipTextFrom whole taken.rest (Nat.le_trans (Nat.le_of_lt (Nat.lt_succ_of_lt taken.shorter)) hinput)
    else if b < 0x20 then failAt .controlCharacter (b :: rest)
    else skipTextFrom whole rest (Nat.le_of_succ_le hinput)
termination_by input.length
decreasing_by
  · exact Nat.lt_succ_of_lt taken.shorter
  · exact Nat.lt_succ_self _

def skipText : Reader Unit := fun input => skipTextFrom input input (length_le_self input)

/-- The kinds of brackets. -/
inductive Bracket where
  | square
  | curly
  deriving DecidableEq, Repr

def Bracket.closing : Bracket → UInt8
  | .square => ']'.toUInt8
  | .curly => '\x7d'.toUInt8

def Bracket.unfinished : Bracket → Problem
  | .square => .unfinishedArray
  | .curly => .unfinishedObject

def Bracket.expectedComma : Bracket → Problem
  | .square => .expectedCommaOrBracket
  | .curly => .expectedCommaOrBrace

/-- Moves to the value of the next item or member, which has to be there. -/
def skipToValue (bracket : Bracket) (input : List UInt8) : Except Failure (Rest input) :=
  match bracket with
  | .square => .ok (.all input)
  | .curly =>
    match hspace : skipSpace input with
    | [] => failAt .unfinishedObject []
    | b :: rest =>
      if b = '"'.toUInt8 then
        match skipText rest with
        | .error failure => .error failure
        | .ok name =>
          (readColon name.rest).map fun colon =>
            ⟨colon.rest, Nat.le_of_lt (Nat.lt_trans colon.shorter
              (Nat.lt_trans name.shorter (length_lt_of_skipSpace hspace)))⟩
      else failAt .keyNotText rest

/-- Passes over a value without parts, or over the bracket that opens one with parts. -/
def skipOpening : Reader (Option Bracket) := fun input =>
  match hspace : skipSpace input with
  | [] => failAt .unfinishedValue []
  | b :: rest =>
    have hrest := length_lt_of_skipSpace hspace
    have hstart : (b :: rest).length ≤ input.length := hrest
    if b = '['.toUInt8 then .ok ⟨some .square, rest, hrest⟩
    else if b = '\x7b'.toUInt8 then .ok ⟨some .curly, rest, hrest⟩
    else if b = '"'.toUInt8 then
      (skipText rest).map fun taken => (taken.map fun _ => none).from (Nat.le_of_lt hrest)
    else if b = '-'.toUInt8 then
      (skipLiteral rest).map fun taken => (taken.map fun _ => none).from (Nat.le_of_lt hrest)
    else if isDigit b then
      (skipLiteral (b :: rest)).map fun taken => (taken.map fun _ => none).from hstart
    else
      -- Keywords are as short when they are read in full.
      (readOpening (b :: rest)).map fun taken => (taken.map fun _ => none).from hstart

mutual

/-- Passes over a value that stands in the given brackets, innermost first, and over all that follows
    until these are closed. Only the syntax of the value counts, and its depth is not limited. -/
def skipValueIn (whole : List UInt8) (brackets : List Bracket) (input : List UInt8)
    (hinput : input.length ≤ whole.length) : Except Failure (Taken Unit whole) :=
  match skipOpening input with
  | .error failure => .error failure
  | .ok opening =>
    match opening.value with
    | none =>
      skipBehindValue whole brackets opening.rest (Nat.lt_of_lt_of_le opening.shorter hinput)
    | some bracket =>
      match hspace : skipSpace opening.rest with
      | [] => failAt bracket.unfinished []
      | b :: rest =>
        have hrest := Nat.lt_trans (length_lt_of_skipSpace hspace) opening.shorter
        if b = bracket.closing then
          skipBehindValue whole brackets rest (Nat.lt_of_lt_of_le hrest hinput)
        else
          match skipToValue bracket (b :: rest) with
          | .error failure => .error failure
          | .ok value =>
            have hvalue := Nat.lt_of_le_of_lt value.property
              (Nat.lt_of_le_of_lt (hspace ▸ length_skipSpace_le opening.rest) opening.shorter)
            skipValueIn whole (bracket :: brackets) value.val (Nat.le_trans (Nat.le_of_lt hvalue) hinput)
termination_by input.length
decreasing_by
  · exact opening.shorter
  · exact hrest
  · exact hvalue

/-- Passes over what follows a value until the given brackets are closed. -/
def skipBehindValue (whole : List UInt8) (brackets : List Bracket) (input : List UInt8)
    (hinput : input.length < whole.length) : Except Failure (Taken Unit whole) :=
  match brackets with
  | [] => .ok ⟨(), input, hinput⟩
  | bracket :: outer =>
    match hspace : skipSpace input with
    | [] => failAt bracket.unfinished []
    | b :: rest =>
      have hrest := length_lt_of_skipSpace hspace
      if b = ','.toUInt8 then
        match skipToValue bracket rest with
        | .error failure => .error failure
        | .ok value =>
          have hvalue := Nat.lt_of_le_of_lt value.property hrest
          skipValueIn whole (bracket :: outer) value.val (Nat.le_of_lt (Nat.lt_trans hvalue hinput))
      else if b = bracket.closing then
        skipBehindValue whole outer rest (Nat.lt_trans hrest hinput)
      else failAt bracket.expectedComma rest
termination_by input.length
decreasing_by
  · exact hvalue
  · exact hrest

end

/-- Passes over a value. -/
def skipValue : Reader Unit := fun input => skipValueIn input [] input (length_le_self input)

end RobotAdmin.Json
