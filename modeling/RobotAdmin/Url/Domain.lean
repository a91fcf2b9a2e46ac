import RobotAdmin.Url.Domain.Label

namespace RobotAdmin.Url

/-- Whether all labels of a domain are shown in one order, as they have to be where one of them turns. -/
def areOrdered (labels : List Label) : Bool :=
  !labels.any Label.turns || labels.all fun label => label.text.isEmpty || isOrdered label.text

/-- The ASCII form of a domain; none if it has a forbidden character or label, or nothing is left of it. -/
def asciiDomain? (domain : List Char) : Option (List Char) :=
  if domain.any isForbidden then none
  else
    let text := Text.normalForm (domain.flatMap domainForm)
    (((List.splitOn '.' text).mapM Label.ofText?).filter areOrdered).bind fun labels =>
      let ascii := ['.'].intercalate (labels.map Label.ascii)
      if ascii.isEmpty then none else some ascii

end RobotAdmin.Url
