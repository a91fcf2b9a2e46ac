namespace RobotAdmin.Text

/-- The first position from `low` on, below `high`, that holds the character and is not taken yet. -/
private def partner (c : Char) (low high : Nat) (other : Array Char) (taken : Array Bool) : Option Nat :=
  (List.range' low (high - low)).find? fun j => other[j]? == some c && taken[j]? == some false

/-- Pairs the characters of one text with equal characters of the other that stand at most `reach`
    places away, leftmost first. The result tells which positions of either text found a partner. -/
private def pairs (reach : Nat) (a b : Array Char) : Array Bool × Array Bool :=
  (List.range a.size).foldl (fun (inA, inB) i =>
      match a[i]?.bind fun c => partner c (i - reach) (min b.size (i + reach + 1)) b inB with
      | some j => (inA.setIfInBounds i true, inB.setIfInBounds j true)
      | none => (inA, inB))
    (Array.replicate a.size false, Array.replicate b.size false)

private def chosen (text : Array Char) (marks : Array Bool) : List Char :=
  (text.zip marks).toList.filterMap fun (c, mark) => if mark then some c else none

/-- The Jaro similarity of two texts, from 0 to 1: the mean of the two shares of characters that have
    a partner and the share of partners that stand in the same order. -/
def jaro (s t : String) : Float :=
  let a := s.toList.toArray
  let b := t.toList.toArray
  if a.isEmpty && b.isEmpty then 1
  else if a.isEmpty || b.isEmpty then 0
  else
    let (inA, inB) := pairs (max a.size b.size / 2 - 1) a b
    let fromA := chosen a inA
    let found := fromA.length
    let moved := ((fromA.zip (chosen b inB)).filter fun (x, y) => x != y).length / 2
    if found = 0 then 0
    else
      (found.toFloat / a.size.toFloat + found.toFloat / b.size.toFloat +
        (found - moved).toFloat / found.toFloat) / 3

/-- Puts a scored word behind all words that do not score higher. -/
private def rank (score : Float) (word : String) : List (Float × String) → List (Float × String)
  | [] => [(score, word)]
  | (other, first) :: rest =>
    if other > score then (score, word) :: (other, first) :: rest
    else (other, first) :: rank score word rest

/-- The candidates that resemble a word, the most similar last; of equally similar ones the later
    candidate is last. -/
def similar (word : String) (candidates : List String) : List String :=
  let scored := candidates.foldl (fun ranked candidate =>
    let score := jaro word candidate
    if score > 0.7 then rank score candidate ranked else ranked) []
  scored.map (·.2)

end RobotAdmin.Text
