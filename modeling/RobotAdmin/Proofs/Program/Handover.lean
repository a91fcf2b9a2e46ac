import RobotAdmin.Proofs.Command.Written
import RobotAdmin.Proofs.Program.Sending

namespace RobotAdmin

namespace Command

open Json

/-- What the message of a command decodes to is its flat view. -/
theorem jsonDecode_wire (command : Command) :
    Json.decode (Utf8.encode command.wire) = .ok (ofTexts command.payload) := by
  rw [wire, toJson_eq]
  exact decode_compact_ofTexts command.payload

theorem wire_eq_iff (other command : Command) : other.wire = command.wire ↔ other = command := by
  constructor
  · intro hwire
    have hdecode := other.decode_wire
    rw [hwire, command.decode_wire] at hdecode
    exact (Except.ok.inj hdecode).symm
  · rintro rfl
    rfl

end Command

namespace Program

/-- A command on its way from whoever asks for it to the server. Its message and its flat view are one object,
    from which it is decoded again whatever its operand is. Any sender is handed it once, with the admin route
    and its label; so is the client of a run, whose requests tell commands apart by their bodies. -/
theorem handover_of_command (command : Command) :
    Command.decode (Utf8.encode command.wire) = .ok command ∧
      Command.decode (Utf8.encode (Json.ofTexts command.payload).compact) = .ok command ∧
      Json.decode (Utf8.encode command.wire) = .ok (Json.ofTexts command.payload) ∧
      (∀ {σ : Type} (send : Order → σ → Delivery × σ) (state : σ),
        Dispatch.ask send command state =
          let (delivery, after) := send ⟨"/admin", command, command.description⟩ state
          ({ delivery with log := command.announcement :: delivery.log }, after)) ∧
      (∀ settings json network,
        let (delivery, after, later) :=
          Client.deliver ⟨"/admin", command, command.description⟩ (clientOf settings, network)
        send settings command json network =
          { result :=
              if delivery.confirmations.isEmpty || 0 < after.failures then .error (.commandFailed command)
              else .ok ()
            output := String.join (delivery.confirmations.map (confirmationText json))
            log := sendingEvent (clientOf settings) command :: command.announcement :: delivery.log
            client := after
            network := later }) ∧
      ∀ (client : Client) (request : Http.Request), client.request "/admin" command = .ok request →
        request.body = some command.wire ∧
          ∀ other : Command, request.body = some other.wire ↔ other = command := by
  refine ⟨command.decode_wire, ?_, command.jsonDecode_wire, ?_, ?_, ?_⟩
  · exact Command.decode_of_payload (Json.decode_compact_ofTexts command.payload)
  · intro σ send state
    exact Dispatch.ask_eq send command state
  · intro settings json network
    simp only [send, Dispatch.ask_eq, Command.dispatch, Command.order, adminRoute]
  · intro client request hrequest
    obtain ⟨_, hbody, _⟩ := Client.request_eq_ok hrequest
    refine ⟨hbody, fun other => ?_⟩
    rw [hbody, Option.some_inj, eq_comm]
    exact Command.wire_eq_iff other command

/-- A token that looks like a further member is sent as the token that it is. -/
theorem handover_of_quoted_token :
    let command := Command.setToken "x\", \"cmd\": \"updateFirmware"
    ∃ request, (clientOf ⟨"http://h", 10⟩).request "/admin" command = .ok request ∧
      request.body = some command.wire ∧ Command.decode (Utf8.encode command.wire) = .ok command := by
  intro command
  have hsome : ((clientOf ⟨"http://h", 10⟩).request "/admin" command).isOk = true := by decide +kernel
  obtain ⟨hdecode, _, _, _, _, hrequests⟩ := handover_of_command command
  cases hrequest : (clientOf ⟨"http://h", 10⟩).request "/admin" command with
  | error cause =>
    rw [hrequest] at hsome
    cases hsome
  | ok request => exact ⟨request, rfl, (hrequests _ request hrequest).1, hdecode⟩

end Program

end RobotAdmin
