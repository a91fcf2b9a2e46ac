import RobotAdmin.Command.Decode
import RobotAdmin.Proofs.Json.Narrowing

namespace RobotAdmin.Command

open Json

/-- The name of a command that a value is. -/
def knownName? (value : Json) : Option String :=
  (text? value).filter fun name => name ∈ names

theorem narrows_readName (room : Nat) : Narrows readName (readValue room) knownName? := by
  have htext := narrows_readTextAs "variant identifier" room
  intro input result rest
  constructor
  · rintro ⟨shorter, hread⟩
    rw [readName] at hread
    split at hread
    · cases hread
    rename_i taken htaken
    split at hread
    · rename_i hname
      obtain rfl := Except.ok.inj hread
      obtain ⟨value, hvalue, haccept⟩ := (htext _ _ _).mp ⟨shorter, htaken⟩
      exact ⟨value, hvalue, by simp [knownName?, haccept, hname]⟩
    · cases hread
  · rintro ⟨value, hvalue, haccept⟩
    obtain ⟨hfound, hname⟩ := Option.filter_eq_some_iff.mp haccept
    obtain ⟨shorter, htaken⟩ := (htext _ _ _).mpr ⟨value, hvalue, hfound⟩
    refine ⟨shorter, ?_⟩
    rw [readName, htaken]
    exact if_pos (of_decide_eq_true hname)

/-- Takes the next member with its value. -/
def Members.take? (members : Members) (member : String × Json) : Option Members :=
  if member.1 = "cmd" then
    (takeOnce knownName? members.name member.2).map fun name => { members with name }
  else some { members with others := member :: members.others }

theorem stepsBy_takeMember (room : Nat) : StepsBy (readValue room) (takeMember (readValue room)) Members.take? := by
  intro members name
  unfold takeMember Members.take?
  by_cases hname : name = "cmd"
  · simp only [hname, if_true]
    exact narrows_once (narrows_readName room) members.name (fun name => { members with name }) _
  · simp only [hname, if_false]
    exact (Narrows.all _).map fun _ => rfl

end RobotAdmin.Command
