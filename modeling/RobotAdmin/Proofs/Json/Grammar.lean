import RobotAdmin.Json.Reader.Skip
import RobotAdmin.Proofs.Json.Opening

/-! The grammar of JSON texts, apart from any reader. A relation between two byte sequences says that the first one
begins with a phrase of the grammar and that the second one is what stands behind it. -/

namespace RobotAdmin.Json.Grammar

/-- White space of any length. -/
def Space (input rest : List UInt8) : Prop :=
  ∃ blanks, input = blanks ++ rest ∧ ∀ b ∈ blanks, isSpace b = true

/-- An escape behind its backslash, and the character it stands for. Code units of surrogates come in pairs. -/
inductive Escape : List UInt8 → Char → List UInt8 → Prop where
  | letter {b : UInt8} {c : Char} {rest : List UInt8} (hletter : simpleEscape? b = some c) : Escape (b :: rest) c rest
  | unit {a b c d : UInt8} {n : Nat} {rest : List UInt8} (hhex : hexNumber? a b c d = some n)
      (hunit : n < 0xD800 ∨ 0xDFFF < n) : Escape ('u'.toUInt8 :: a :: b :: c :: d :: rest) (Char.ofNat n) rest
  | pair {a b c d e f g h : UInt8} {high low : Nat} {rest : List UInt8} (hhex : hexNumber? a b c d = some high)
      (hhigh : 0xD800 ≤ high ∧ high ≤ 0xDBFF) (hhex' : hexNumber? e f g h = some low)
      (hlow : 0xDC00 ≤ low ∧ low ≤ 0xDFFF) :
      Escape ('u'.toUInt8 :: a :: b :: c :: d :: '\\'.toUInt8 :: 'u'.toUInt8 :: e :: f :: g :: h :: rest)
        (pairedChar high low) rest

/-- A string behind its opening quote, and the characters it stands for. -/
inductive Text : List UInt8 → List Char → List UInt8 → Prop where
  | close {rest : List UInt8} : Text ('"'.toUInt8 :: rest) [] rest
  | escape {input behind rest : List UInt8} {c : Char} {chars : List Char} (hescape : Escape input c behind)
      (hmore : Text behind chars rest) : Text ('\\'.toUInt8 :: input) (c :: chars) rest
  | plain {behind rest : List UInt8} {c : Char} {chars : List Char} (hquote : c ≠ '"') (hbackslash : c ≠ '\\')
      (hcontrol : 0x20 ≤ c.toNat) (hmore : Text behind chars rest) :
      Text (String.utf8EncodeChar c ++ behind) (c :: chars) rest

/-- A string behind its opening quote of which only the syntax counts: it need not stand for any characters. -/
inductive LooseText : List UInt8 → List UInt8 → Prop where
  | close {rest : List UInt8} : LooseText ('"'.toUInt8 :: rest) rest
  | letter {b : UInt8} {c : Char} {behind rest : List UInt8} (hletter : simpleEscape? b = some c)
      (hmore : LooseText behind rest) : LooseText ('\\'.toUInt8 :: b :: behind) rest
  | unit {a b c d : UInt8} {n : Nat} {behind rest : List UInt8} (hhex : hexNumber? a b c d = some n)
      (hmore : LooseText behind rest) : LooseText ('\\'.toUInt8 :: 'u'.toUInt8 :: a :: b :: c :: d :: behind) rest
  | plain {b : UInt8} {behind rest : List UInt8} (hquote : b ≠ '"'.toUInt8) (hbackslash : b ≠ '\\'.toUInt8)
      (hcontrol : ¬ b < 0x20) (hmore : LooseText behind rest) : LooseText (b :: behind) rest

/-- One digit or more. -/
def Digits (word : List UInt8) : Prop := word ≠ [] ∧ ∀ b ∈ word, isDigit b = true

def Fraction (word : List UInt8) : Prop := ∃ digits, word = '.'.toUInt8 :: digits ∧ Digits digits

def Exponent (word : List UInt8) : Prop :=
  ∃ letter sign digits, word = letter :: (sign ++ digits) ∧ isExponentLetter letter = true ∧
    sign ∈ [[], ['+'.toUInt8], ['-'.toUInt8]] ∧ Digits digits

/-- A number without a sign. No digit follows a zero at its beginning. -/
def Magnitude (word : List UInt8) : Prop :=
  ∃ whole fraction exponent, word = whole ++ (fraction ++ exponent) ∧ Digits whole ∧
    (whole.head? = some '0'.toUInt8 → whole = ['0'.toUInt8]) ∧ (fraction = [] ∨ Fraction fraction) ∧
    (exponent = [] ∨ Exponent exponent)

def Number (word : List UInt8) : Prop :=
  Magnitude word ∨ ∃ magnitude, word = '-'.toUInt8 :: magnitude ∧ Magnitude magnitude

def keywords : List (List UInt8) := ["null", "true", "false"].map Utf8.encode

end Grammar

open Grammar

def Bracket.opening : Bracket → UInt8
  | .square => '['.toUInt8
  | .curly => '\x7b'.toUInt8

namespace Grammar

/-- What divides a part of an array or object from the one before it. -/
def Comma (first : Bool) (input rest : List UInt8) : Prop :=
  match first with
  | true => input = rest
  | false => Space input (','.toUInt8 :: rest)

/-- What stands before a value: a name and a colon in an object, and nothing in an array. -/
def Label (bracket : Bracket) (input rest : List UInt8) : Prop :=
  match bracket with
  | .square => input = rest
  | .curly => ∃ name behind, Space input ('"'.toUInt8 :: name) ∧ LooseText name behind ∧ Space behind (':'.toUInt8 :: rest)

mutual

/-- A value of which only the syntax counts, of any depth. -/
inductive Value : List UInt8 → List UInt8 → Prop where
  | word {word rest : List UInt8} (hword : word ∈ keywords ∨ Number word) : Value (word ++ rest) rest
  | text {input rest : List UInt8} (htext : LooseText input rest) : Value ('"'.toUInt8 :: input) rest
  | parts {bracket : Bracket} {input rest : List UInt8} (hparts : Parts bracket true input rest) :
      Value (bracket.opening :: input) rest

/-- The parts of an array or object up to behind its closing bracket, all of them or those behind the first one. -/
inductive Parts : Bracket → Bool → List UInt8 → List UInt8 → Prop where
  | close {bracket : Bracket} {first : Bool} {input rest : List UInt8}
      (hspace : Space input (bracket.closing :: rest)) : Parts bracket first input rest
  | next {bracket : Bracket} {first : Bool} {input start inner value behind rest : List UInt8}
      (hcomma : Comma first input start) (hlabel : Label bracket start inner) (hspace : Space inner value)
      (hvalue : Value value behind) (hmore : Parts bracket false behind rest) : Parts bracket first input rest

end

section

variable {input middle rest : List UInt8} {b : UInt8}

theorem Space.refl (input : List UInt8) : Space input input := ⟨[], rfl, nofun⟩

theorem Space.trans (hfirst : Space input middle) (hsecond : Space middle rest) : Space input rest := by
  obtain ⟨before, rfl, hbefore⟩ := hfirst
  obtain ⟨after, rfl, hafter⟩ := hsecond
  refine ⟨before ++ after, by rw [List.append_assoc], fun b hb => ?_⟩
  exact (List.mem_append.mp hb).elim (hbefore b) (hafter b)

theorem space_skipSpace (input : List UInt8) : Space input (skipSpace input) :=
  ⟨input.takeWhile isSpace, List.takeWhile_append_dropWhile.symm, fun _ hb => List.mem_takeWhile_imp hb⟩

theorem space_of_skipSpace (hskip : skipSpace input = rest) : Space input rest := by
  rw [← hskip]
  exact space_skipSpace input

theorem skipSpace_of_space (hspace : Space input rest) : skipSpace input = skipSpace rest := by
  obtain ⟨blanks, rfl, hblanks⟩ := hspace
  exact List.dropWhile_append_of_pos hblanks

/-- White space before a byte that is none is what a reader skips. -/
theorem space_cons_iff (hb : isSpace b = false) : Space input (b :: rest) ↔ skipSpace input = b :: rest := by
  constructor
  · intro hspace
    rw [skipSpace_of_space hspace, skipSpace_of_not_isSpace hb]
  · exact space_of_skipSpace

theorem space_nil_iff : Space input [] ↔ skipSpace input = [] := by
  constructor
  · exact skipSpace_of_space
  · exact space_of_skipSpace

theorem isSpace_of_skipSpace (hskip : skipSpace input = b :: rest) : isSpace b = false := by
  have hhead := List.head?_dropWhile_not isSpace input
  rw [← skipSpace, hskip] at hhead
  simpa using hhead

end

end RobotAdmin.Json.Grammar
