import RobotAdmin.Json.Reader
import RobotAdmin.Text.Utf8

namespace RobotAdmin.Json

def hexValue? (b : UInt8) : Option Nat :=
  let n := b.toNat
  if 0x30 ≤ n ∧ n ≤ 0x39 then some (n - 0x30)
  else if 0x41 ≤ n ∧ n ≤ 0x46 then some (n - 0x37)
  else if 0x61 ≤ n ∧ n ≤ 0x66 then some (n - 0x57)
  else none

/-- The number that four hexadecimal digits stand for. -/
def hexNumber? (a b c d : UInt8) : Option Nat := do
  return (((← hexValue? a) * 16 + (← hexValue? b)) * 16 + (← hexValue? c)) * 16 + (← hexValue? d)

/-- Reads four hexadecimal digits. -/
def readHex : Reader Nat
  | a :: b :: c :: d :: rest =>
    match hexNumber? a b c d with
    | some n => .ok ⟨n, rest, by simp only [List.length_cons]; omega⟩
    | none => failAt .invalidEscape rest
  | _ => failAt .unfinishedText []

def isHighSurrogate (n : Nat) : Bool := 0xD800 ≤ n && n ≤ 0xDBFF

def isLowSurrogate (n : Nat) : Bool := 0xDC00 ≤ n && n ≤ 0xDFFF

/-- The character beyond U+FFFF that a pair of surrogates stands for. -/
def pairedChar (high low : Nat) : Char :=
  Char.ofNat (0x10000 + (high - 0xD800) * 0x400 + (low - 0xDC00))

/-- Passes over a byte that has to come next within a surrogate pair. -/
def readPairing (wanted : UInt8) : Reader Unit
  | [] => failAt .unfinishedText []
  | b :: rest => if b = wanted then .ok (.one ()) else failAt .unpairedSurrogate rest

/-- Reads an escape behind its letter `u`. A code unit that begins a surrogate pair has to be followed by
    the escape of its second half. -/
def readCodeUnits : Reader Char := fun input =>
  match readHex input with
  | .error failure => .error failure
  | .ok first =>
    if isLowSurrogate first.value then failAt .loneSurrogate first.rest
    else if !isHighSurrogate first.value then .ok (first.map Char.ofNat)
    else
      match readPairing '\\'.toUInt8 first.rest with
      | .error failure => .error failure
      | .ok slash =>
        match readPairing 'u'.toUInt8 slash.rest with
        | .error failure => .error failure
        | .ok letter =>
          match readHex letter.rest with
          | .error failure => .error failure
          | .ok second =>
            if isLowSurrogate second.value then
              .ok ⟨pairedChar first.value second.value, second.rest,
                Nat.lt_trans second.shorter
                  (Nat.lt_trans letter.shorter (Nat.lt_trans slash.shorter first.shorter))⟩
            else failAt .loneSurrogate second.rest

/-- The character an escape of one letter stands for. -/
def simpleEscape? (b : UInt8) : Option Char :=
  if b = '"'.toUInt8 then some '"'
  else if b = '\\'.toUInt8 then some '\\'
  else if b = '/'.toUInt8 then some '/'
  else if b = 'b'.toUInt8 then some '\x08'
  else if b = 'f'.toUInt8 then some '\x0c'
  else if b = 'n'.toUInt8 then some '\n'
  else if b = 'r'.toUInt8 then some '\r'
  else if b = 't'.toUInt8 then some '\t'
  else none

/-- Reads an escape behind its backslash. -/
def readEscape : Reader Char
  | [] => failAt .unfinishedText []
  | b :: rest =>
    if b = 'u'.toUInt8 then (readCodeUnits rest).map Taken.past
    else
      match simpleEscape? b with
      | some c => .ok (.one c)
      | none => failAt .invalidEscape rest

/-- The bytes by which a character is shorter than its escape, of which all but the backslash is given. -/
def savedByEscape (escape : List UInt8) (c : Char) : Nat :=
  let length := if escape.head? != some 'u'.toUInt8 then 2 else if c.toNat < 0x10000 then 6 else 12
  length - c.utf8Size

/-- Reads the rest of a string behind its opening quote, with the characters read so far in reverse.
    Bytes that are not UTF-8 are reported when the string has come to its end: past the first of them, and
    further on by what escapes behind it are longer than their characters. -/
def readTextFrom (whole : List UInt8) (chars : List Char) (stray : Option (List UInt8 × Nat))
    (input : List UInt8) (hinput : input.length ≤ whole.length) : Except Failure (Taken String whole) :=
  match input with
  | [] => failAt .unfinishedText []
  | b :: rest =>
    if b = '"'.toUInt8 then
      match stray with
      | some (bytes, saved) => failPast .invalidUtf8 (bytes.drop saved)
      | none => .ok ⟨String.ofList chars.reverse, rest, hinput⟩
    else if b = '\\'.toUInt8 then
      match readEscape rest with
      | .error failure => .error failure
      | .ok taken =>
        let stray := stray.map fun (bytes, saved) => (bytes, saved + savedByEscape rest taken.value)
        readTextFrom whole (taken.value :: chars) stray taken.rest
          (Nat.le_trans (Nat.le_of_lt (Nat.lt_succ_of_lt taken.shorter)) hinput)
    else if b < 0x20 then failAt .controlCharacter rest
    else
      match h : Utf8.lead b rest with
      | .char c behind =>
        have hbehind := Utf8.length_rest_le_of_lead_eq_char h
        readTextFrom whole (c :: chars) stray behind (Nat.le_trans (Nat.le_succ_of_le hbehind) hinput)
      | .broken behind =>
        have hbehind := Utf8.length_rest_le_of_lead_eq_broken h
        readTextFrom whole chars (stray.or (some (b :: rest, 0))) behind
          (Nat.le_trans (Nat.le_succ_of_le hbehind) hinput)
termination_by input.length
decreasing_by
  · exact Nat.lt_succ_of_lt taken.shorter
  · exact Nat.lt_succ_of_le hbehind
  · exact Nat.lt_succ_of_le hbehind

/-- Reads a string behind its opening quote. -/
def readText : Reader String := fun input => readTextFrom input [] none input (length_le_self input)

end RobotAdmin.Json
