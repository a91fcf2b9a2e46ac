namespace RobotAdmin.Utf8

/-- What a non-empty byte sequence begins with: a character, or bytes that belong to none. Broken bytes
    are the longest start of a character that the bytes hold, so that decoding resumes at the byte
    which broke it. -/
inductive Lead where
  | char (c : Char) (rest : List UInt8)
  | broken (rest : List UInt8)

/-- The bytes after the first character or after the broken start. -/
def Lead.rest : Lead → List UInt8
  | .char _ rest => rest
  | .broken rest => rest

/-- Adds `count` continuation bytes to the code point read so far. Only the first of them has bounds
    of its own; they exclude overlong forms, surrogates and code points above U+10FFFF. -/
def assemble : (count : Nat) → (low high : UInt8) → (code : Nat) → List UInt8 → Lead
  | 0, _, _, code, rest => .char (Char.ofNat code) rest
  | _ + 1, _, _, _, [] => .broken []
  | count + 1, low, high, code, b :: rest =>
    if low ≤ b ∧ b ≤ high then
      assemble count 0x80 0xBF (code * 64 + (b.toNat - 0x80)) rest
    else
      .broken (b :: rest)

/-- Reads one character from a byte and the bytes after it. -/
def lead (b : UInt8) (rest : List UInt8) : Lead :=
  if b < 0x80 then .char (Char.ofNat b.toNat) rest
  else if b < 0xC2 then .broken rest
  else if b < 0xE0 then assemble 1 0x80 0xBF (b.toNat - 0xC0) rest
  else if b = 0xE0 then assemble 2 0xA0 0xBF 0 rest
  else if b = 0xED then assemble 2 0x80 0x9F 0xD rest
  else if b < 0xF0 then assemble 2 0x80 0xBF (b.toNat - 0xE0) rest
  else if b = 0xF0 then assemble 3 0x90 0xBF 0 rest
  else if b < 0xF4 then assemble 3 0x80 0xBF (b.toNat - 0xF0) rest
  else if b = 0xF4 then assemble 3 0x80 0x8F 4 rest
  else .broken rest

theorem length_assemble_rest_le (count : Nat) (low high : UInt8) (code : Nat) (bytes : List UInt8) :
    (assemble count low high code bytes).rest.length ≤ bytes.length := by
  induction count generalizing low high code bytes with
  | zero => simp [assemble, Lead.rest]
  | succ count ih =>
    cases bytes with
    | nil => simp [assemble, Lead.rest]
    | cons b rest =>
      rw [assemble]
      split
      · exact Nat.le_trans (ih ..) (Nat.le_succ _)
      · simp [Lead.rest]

theorem length_lead_rest_le (b : UInt8) (rest : List UInt8) : (lead b rest).rest.length ≤ rest.length := by
  unfold lead
  repeat' split
  all_goals first | exact length_assemble_rest_le .. | simp [Lead.rest]

theorem length_rest_le_of_lead_eq_char {b : UInt8} {bytes rest : List UInt8} {c : Char}
    (hlead : lead b bytes = .char c rest) : rest.length ≤ bytes.length := by
  have h := length_lead_rest_le b bytes
  rwa [hlead] at h

theorem length_rest_le_of_lead_eq_broken {b : UInt8} {bytes rest : List UInt8}
    (hlead : lead b bytes = .broken rest) : rest.length ≤ bytes.length := by
  have h := length_lead_rest_le b bytes
  rwa [hlead] at h

/-- The characters up to the first byte that belongs to none, and the bytes from there on. -/
def split : List UInt8 → List Char × List UInt8
  | [] => ([], [])
  | b :: bytes =>
    match _h : lead b bytes with
    | .char c rest => let (chars, unread) := split rest; (c :: chars, unread)
    | .broken _ => ([], b :: bytes)
termination_by bytes => bytes.length
decreasing_by exact Nat.lt_succ_of_le (length_rest_le_of_lead_eq_char _h)

/-- The text of a byte sequence that is UTF-8 throughout. -/
def decode? (bytes : List UInt8) : Option String :=
  match split bytes with
  | (chars, []) => some (String.ofList chars)
  | _ => none

/-- Decodes every byte sequence; each broken start of a character becomes one U+FFFD. -/
def decodeLossyChars : List UInt8 → List Char
  | [] => []
  | b :: bytes =>
    match _h : lead b bytes with
    | .char c rest => c :: decodeLossyChars rest
    | .broken rest => '\uFFFD' :: decodeLossyChars rest
termination_by bytes => bytes.length
decreasing_by
  · exact Nat.lt_succ_of_le (length_rest_le_of_lead_eq_char _h)
  · exact Nat.lt_succ_of_le (length_rest_le_of_lead_eq_broken _h)

def decodeLossy (bytes : List UInt8) : String :=
  String.ofList (decodeLossyChars bytes)

def encodeChars (chars : List Char) : List UInt8 :=
  chars.flatMap String.utf8EncodeChar

def encode (text : String) : List UInt8 :=
  encodeChars text.toList

@[simp]
theorem encodeChars_nil : encodeChars [] = [] := rfl

@[simp]
theorem encodeChars_cons (c : Char) (chars : List Char) :
    encodeChars (c :: chars) = String.utf8EncodeChar c ++ encodeChars chars := rfl

@[simp]
theorem encodeChars_append (a b : List Char) : encodeChars (a ++ b) = encodeChars a ++ encodeChars b := by
  simp [encodeChars]

end RobotAdmin.Utf8
