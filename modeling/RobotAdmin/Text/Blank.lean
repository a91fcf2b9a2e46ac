namespace RobotAdmin.Text

/-- The Unicode property White_Space. It has more members than `Char.isWhitespace`, which knows ASCII only. -/
def isBlank (c : Char) : Bool :=
  (9 ≤ c.toNat && c.toNat ≤ 13) || c = ' ' || c = '\u0085' || c = '\u00A0' || c = '\u1680' ||
    (0x2000 ≤ c.toNat && c.toNat ≤ 0x200A) || c = '\u2028' || c = '\u2029' || c = '\u202F' ||
    c = '\u205F' || c = '\u3000'

/-- Drops the longest ending whose characters all satisfy the test. -/
def dropEnd (p : Char → Bool) (s : List Char) : List Char :=
  (s.reverse.dropWhile p).reverse

/-- Drops the blanks at both ends. -/
def trimBlank (s : List Char) : List Char :=
  dropEnd isBlank (s.dropWhile isBlank)

def trim (text : String) : String :=
  String.ofList (trimBlank text.toList)

/-- Drops every slash at the end. -/
def dropSlashes (text : String) : String :=
  String.ofList (dropEnd (· == '/') text.toList)

end RobotAdmin.Text
