import RobotAdmin.Text.CombiningClass
import RobotAdmin.Text.Composition

namespace RobotAdmin.Text

/-- Puts a mark in front of the marks that are already in order, behind those of a lower class. -/
def insertMark (c : Char) : List Char → List Char
  | [] => [c]
  | d :: rest =>
    if 0 < combiningClass d ∧ combiningClass d < combiningClass c then d :: insertMark c rest
    else c :: d :: rest

/-- Brings the marks of each character into the order of their classes. Marks of one class stay in the
    order they have. -/
def orderMarks (s : List Char) : List Char := s.foldr insertMark []

/-- Adds characters to a first one as far as they make up a character with it. A mark is kept where one
    that was kept before has its class or a higher one. The kept ones come in reverse. -/
def composeFrom (first : Char) (kept : List Char) : List Char → List Char
  | [] => first :: kept.reverse
  | c :: rest =>
    let blocked := kept.head?.any fun d => combiningClass c ≤ combiningClass d
    match if blocked then none else compose? first c with
    | some whole => composeFrom whole kept rest
    | none =>
      if combiningClass c = 0 then first :: kept.reverse ++ composeFrom c [] rest
      else composeFrom first (c :: kept) rest

/-- The normal form of a text: marks in order, and characters as far as there are such in place of their
    parts. -/
def normalForm (s : List Char) : List Char :=
  match orderMarks (s.flatMap decompose) with
  | [] => []
  | c :: rest => composeFrom c [] rest

end RobotAdmin.Text
