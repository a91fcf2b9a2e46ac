namespace RobotAdmin.Text

/-- What a terminal makes of the next character: text, or a part of a control sequence. Sequences that carry
    a text are a command, which a bell ends, or have a payload, which a byte of its own ends. What stands
    before the payload of a device is read in three parts. -/
inductive TerminalMode where
  | text
  | escape
  | intermediate
  | control
  | command
  | device
  | deviceParameters
  | deviceIntermediate
  | payload
  deriving DecidableEq, Repr

/-- The control characters that move to another place but do not steer a terminal otherwise. -/
def isMove (c : Char) : Bool := c == '\t' || c == '\n' || c == '\x0c' || c == '\r'

namespace TerminalMode

/-- Whether a character of ASCII has no part in a sequence that it stands in. -/
def isIdle (c : Char) : Bool := c.toNat < 0x20 || c == '\x7f'

/-- The mode behind the second character of an escape sequence. -/
def afterEscape (c : Char) : TerminalMode :=
  if isIdle c then .escape
  else if c.toNat < 0x30 then .intermediate
  else if c = '[' then .control
  else if c = ']' then .command
  else if c = 'P' then .device
  else if c = 'X' || c = '^' || c = '_' then .payload
  else .text

/-- The mode behind a character of a sequence that goes on up to a final character from a code point
    on. -/
def afterPart (mode : TerminalMode) (final : Nat) (c : Char) : TerminalMode :=
  if final ≤ c.toNat && c != '\x7f' then .text else mode

/-- The mode behind the first character of a sequence for a device. -/
def afterDevice (c : Char) : TerminalMode :=
  if isIdle c then .device
  else if c.toNat < 0x30 then .deviceIntermediate
  else if c.toNat < 0x40 && c != ':' then .deviceParameters
  else .payload

/-- The mode behind a character among the parameters for a device. -/
def afterParameter (c : Char) : TerminalMode :=
  if isIdle c then .deviceParameters
  else if c.toNat < 0x30 then .deviceIntermediate
  else if c.isDigit || c = ';' then .deviceParameters
  else .payload

/-- The mode behind a character beyond ASCII inside a sequence. It has no part in it, except that one of its
    bytes may be the one that ends a payload. -/
def afterForeign (mode : TerminalMode) (c : Char) : TerminalMode :=
  if mode = .payload && (String.utf8EncodeChar c).contains 0x9C then .text else mode

/-- The mode behind a character, or none if the character is shown. What is shown ends a sequence. -/
def next? (mode : TerminalMode) (c : Char) : Option TerminalMode :=
  if c = '\x1b' then some .escape
  else if c = '\x18' || c = '\x1a' then some .text
  else if 0x80 ≤ c.toNat then if mode = .text then none else some (afterForeign mode c)
  else
    match mode with
    | .text => if isMove c || !isIdle c then none else some .text
    | .escape => if isMove c then none else some (afterEscape c)
    | .intermediate => if isMove c then none else some (afterPart .intermediate 0x30 c)
    | .control => if isMove c then none else some (afterPart .control 0x40 c)
    | .command => some (if c = '\x07' then .text else .command)
    | .device => some (afterDevice c)
    | .deviceParameters => some (afterParameter c)
    | .deviceIntermediate => some (if c.toNat < 0x30 || c = '\x7f' then .deviceIntermediate else .payload)
    | .payload => some .payload

end TerminalMode

/-- The characters that a terminal shows or moves by. -/
def plainChars : TerminalMode → List Char → List Char
  | _, [] => []
  | mode, c :: rest =>
    match mode.next? c with
    | none => c :: plainChars .text rest
    | some next => plainChars next rest

/-- A text without anything that would steer a terminal. -/
def plain (text : String) : String :=
  String.ofList (plainChars .text text.toList)

end RobotAdmin.Text
