import RobotAdmin.Proofs.Json.Containers

namespace RobotAdmin.Json

/-- A reader that looks at an opening alone can accept no more of what another reads than values without parts. -/
theorem narrows_of_readOpening {β : Type} {narrow : Reader β} {accept? : Json → Option β} (room : Nat)
    (hscalar : ∀ value result, accept? value = some result → value.IsScalar)
    (herror : ∀ input failure, readOpening input = .error failure → (narrow input).toOption = none)
    (hopening : ∀ input opening, readOpening input = .ok opening →
      (narrow input).toOption =
        (opening.value.scalar?.bind accept?).map fun result => opening.map fun _ => result) :
    Narrows narrow (readValue room) accept? := by
  intro input result rest
  constructor
  · rintro ⟨shorter, hread⟩
    cases hfound : readOpening input with
    | error failure =>
      have hnone := herror input failure hfound
      rw [hread] at hnone
      cases hnone
    | ok opening =>
      have htaken := hopening input opening hfound
      rw [hread] at htaken
      obtain ⟨found, hbind, hsame⟩ := Option.map_eq_some_iff.mp htaken.symm
      obtain ⟨value, hvalue, haccept⟩ := Option.bind_eq_some_iff.mp hbind
      obtain ⟨rfl, rfl⟩ := Taken.mk.inj hsame
      refine ⟨value, ?_, haccept⟩
      refine (reads_readValue_iff_of_isScalar (hscalar value found haccept)).mpr ⟨opening.shorter, ?_⟩
      rw [hfound, ← Opening.scalar?_eq_some_iff.mp hvalue]
  · rintro ⟨value, hread, haccept⟩
    obtain ⟨shorter, hfound⟩ := (reads_readValue_iff_of_isScalar (hscalar value result haccept)).mp hread
    have htaken := hopening input _ hfound
    rw [Opening.scalar?, Option.bind_some, haccept] at htaken
    refine ⟨shorter, ?_⟩
    cases hnarrow : narrow input with
    | error failure =>
      rw [hnarrow] at htaken
      cases htaken
    | ok taken =>
      rw [hnarrow] at htaken
      rw [Option.some.inj htaken]
      rfl

/-- The string that a value is. -/
def text? : Json → Option String
  | .text s => some s
  | _ => none

theorem text?_eq_some_iff {value : Json} {s : String} : text? value = some s ↔ value = .text s := by
  cases value <;> simp [text?]

theorem narrows_readTextAs (expected : String) (room : Nat) :
    Narrows (readTextAs expected) (readValue room) text? := by
  refine narrows_of_readOpening room ?_ ?_ ?_
  · intro value _ haccept
    cases value with
    | text s => trivial
    | _ => cases haccept
  · intro input failure hfound
    rw [readTextAs, hfound]
    rfl
  · intro input opening hfound
    rw [readTextAs, hfound]
    obtain ⟨value | _ | _, rest, shorter⟩ := opening
    · cases value <;> rfl
    · rfl
    · rfl

/-- Takes a value where there is none yet. -/
def takeOnce {β : Type} (accept? : Json → Option β) (met : Option β) (value : Json) : Option (Option β) :=
  if met.isSome then none else (accept? value).map some

/-- A member that must not come twice. -/
theorem narrows_once {β σ : Type} {narrow : Reader β} {read : Reader Json} {accept? : Json → Option β}
    (hnarrow : Narrows narrow read accept?) (met : Option β) (f : Option β → σ) (problem : Problem) :
    Narrows
      (fun input =>
        if met.isSome then failAt problem (behindObject input)
        else (readMember narrow input).map (·.map fun found => f (some found)))
      (readMember read) fun value => (takeOnce accept? met value).map f := by
  cases met with
  | some found =>
    intro input result rest
    constructor
    · rintro ⟨_, hread⟩
      cases hread
    · rintro ⟨_, _, haccept⟩
      cases haccept
  | none =>
    simpa [takeOnce, Function.comp_def] using hnarrow.readMember.map fun _ => rfl

theorem foldlM_takeOnce_eq_some_iff {β : Type} (accept? : Json → Option β) (values : List Json) (met : Option β) :
    values.foldlM (takeOnce accept?) none = some met ↔
      (values = [] ∧ met = none) ∨ ∃ value found, values = [value] ∧ accept? value = some found ∧ met = some found := by
  rcases values with _ | ⟨value, _ | ⟨next, values⟩⟩
  · simp [eq_comm]
  · simp [takeOnce, eq_comm]
  · cases haccept : accept? value <;> simp [takeOnce, haccept]

/-- A member that has to be there is the only one of its name. -/
theorem foldlM_takeOnce_eq_some_some_iff {β : Type} {accept? : Json → Option β} {values : List Json} {found : β} :
    values.foldlM (takeOnce accept?) none = some (some found) ↔ ∃ value, values = [value] ∧ accept? value = some found := by
  rw [foldlM_takeOnce_eq_some_iff]
  constructor
  · rintro (⟨_, hnone⟩ | ⟨value, other, hvalues, haccept, hfound⟩)
    · cases hnone
    · obtain rfl := Option.some.inj hfound
      exact ⟨value, hvalues, haccept⟩
  · rintro ⟨value, hvalues, haccept⟩
    exact .inr ⟨value, found, hvalues, haccept, rfl⟩

theorem foldlM_text?_eq_some_iff (values : List Json) (s : String) :
    values.foldlM (takeOnce text?) none = some (some s) ↔ values = [.text s] := by
  simp only [foldlM_takeOnce_eq_some_some_iff, text?_eq_some_iff]
  exact ⟨fun ⟨_, hvalues, hvalue⟩ => hvalue ▸ hvalues, fun hvalues => ⟨_, hvalues, rfl⟩⟩

end RobotAdmin.Json
