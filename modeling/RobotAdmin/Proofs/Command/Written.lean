import RobotAdmin.Proofs.Command.Accepting
import RobotAdmin.Proofs.Json.Written

namespace RobotAdmin

namespace Json

/-- A flat object of strings. -/
def ofTexts (members : List (String × String)) : Json :=
  .object (members.map fun (name, value) => (name, .text value))

/-- A flat object of strings is decoded from what is written of it, whatever the strings are. -/
theorem decode_compact_ofTexts (members : List (String × String)) :
    decode (Utf8.encode (ofTexts members).compact) = .ok (ofTexts members) := by
  have hwords : ∀ n ∈ (ofTexts members).numbers, n.IsWord := by
    intro n hn
    obtain ⟨member, hmem, hn⟩ := mem_numbers_object.mp hn
    obtain ⟨text, _, rfl⟩ := List.mem_map.mp hmem
    cases hn
  have hfits : Fits maxDepth (ofTexts members) := by
    intro member hmem
    obtain ⟨text, _, rfl⟩ := List.mem_map.mp hmem
    trivial
  have hblank : skipSpace [] = [] := rfl
  have hdecode := decode_write hwords hfits .compact hblank
  rw [List.append_nil] at hdecode
  rw [compact, Utf8.encode, String.toList_ofList]
  exact hdecode

end Json

namespace Command

open Json

/-- The kind of a command in camel case is its name. -/
theorem camelCase_kind (command : Command) : camelCase command.kind = command.name := by
  have hupdateFirmware : camelCase "UpdateFirmware" = "updateFirmware" := by decide +kernel
  have hsetToken : camelCase "SetToken" = "setToken" := by decide +kernel
  have hsetRobot : camelCase "SetRobot" = "setRobot" := by decide +kernel
  cases command with
  | updateFirmware => exact hupdateFirmware
  | setToken token => exact hsetToken
  | setRobot robot => exact hsetRobot

theorem payload_eq (command : Command) :
    command.payload = ("cmd", command.name) :: command.operand?.toList := by
  have htoken : ¬ "token" < "cmd" ∧ "token" ≠ "cmd" := by decide
  have hrobot : ¬ "robot" < "cmd" ∧ "robot" ≠ "cmd" := by decide
  cases command with
  | updateFirmware => rfl
  | setToken token => simp [payload, putMember, htoken, operand?]
  | setRobot robot => simp [payload, putMember, hrobot, operand?]

/-- The message of a command and its flat view have the same members. -/
theorem toJson_eq (command : Command) : command.toJson = ofTexts command.payload := by
  rw [toJson, camelCase_kind, payload_eq, ofTexts, List.map_cons]

/-- The flat view of a command stands for it. -/
theorem denotes_payload (command : Command) : Denotes (ofTexts command.payload) command := by
  rw [payload_eq]
  cases command with
  | updateFirmware => exact .members rfl fun _ hoperand => nomatch hoperand
  | setToken token => exact .members rfl fun _ hoperand => Option.some.inj hoperand ▸ rfl
  | setRobot robot => exact .members rfl fun _ hoperand => Option.some.inj hoperand ▸ rfl

theorem decode_of_payload {text : List UInt8} {command : Command}
    (htext : Json.decode text = .ok (ofTexts command.payload)) : decode text = .ok command :=
  decode_eq_ok_iff.mpr ⟨_, htext, denotes_payload command⟩

theorem decode_wire (command : Command) : decode (Utf8.encode command.wire) = .ok command := by
  apply decode_of_payload
  rw [wire, toJson_eq]
  exact decode_compact_ofTexts command.payload

end Command

end RobotAdmin
