import RobotAdmin.Text.Normal
import RobotAdmin.Url.Domain.Direction
import RobotAdmin.Url.Domain.Forbidden
import RobotAdmin.Url.Domain.Form
import RobotAdmin.Url.Domain.Joining
import RobotAdmin.Url.Punycode

namespace RobotAdmin.Url

/-- What the ASCII form of a label begins with. -/
def asciiMark : List Char := "xn--".toList

/-- A label of a domain: its text, and the ASCII form in which it is written. -/
structure Label where
  text : List Char
  ascii : List Char
  deriving DecidableEq, Repr

/-- Whether a text can be a label. It does not begin with a mark, and its joiners make a difference. -/
def isLabel (text : List Char) : Bool :=
  !text.head?.any Text.isMark && !text.any isForbiddenAscii && joinersCount [] text

/-- The most characters of a text that is put into its ASCII form. -/
def longestText : Nat := 1000

/-- The most characters of an ASCII form that is read, behind its mark. -/
def longestForm : Nat := 2000

/-- The text of a label that is in its ASCII form already. It has to go beyond ASCII and to be in the form
    in which it counts, so that no other text has the same label. -/
def textOfAscii? (ascii : List Char) : Option (List Char) :=
  let form := ascii.drop asciiMark.length
  if ascii.any (127 < ·.toNat) || ascii.getLast? == some '-' || longestForm < form.length then none
  else
    (Punycode.decode? form).filter fun text =>
      text.any (127 < ·.toNat) && !text.any isForbidden && !text.contains '.' &&
        text.flatMap domainForm == text && Text.normalForm text == text

/-- The label that a text stands for. -/
def Label.ofText? (text : List Char) : Option Label :=
  if asciiMark.isPrefixOf text then
    ((textOfAscii? text).filter isLabel).map fun meant => { text := meant, ascii := text }
  else if !isLabel text then none
  else if text.all (·.toNat < 128) then some { text, ascii := text }
  else if longestText < text.length then none
  else some { text, ascii := asciiMark ++ Punycode.encode text }

/-- Whether a label is written from right to left in part. -/
def Label.turns (label : Label) : Bool :=
  label.text.any fun c => direction c == .right || direction c == .arabicNumber

end RobotAdmin.Url
