namespace RobotAdmin.Text

/-- Whether a character lies in one of the given ranges of code points, both ends of which count. -/
def inRanges (ranges : List (Nat × Nat)) (c : Char) : Bool :=
  ranges.any fun (low, high) => low ≤ c.toNat && c.toNat ≤ high

end RobotAdmin.Text
