import Mathlib.Control.Monad.Basic
import RobotAdmin.Proofs.Program.Sending

namespace RobotAdmin.Program

/-- How a confirmation came in: it answers the last of the exchanges since an earlier state of the network.
    The request of that exchange is the command itself exactly if every redirect before it repeats the
    request; otherwise it only fetched and carried no command. -/
def ConfirmedThrough (earlier later : Http.Network) (command : Command) (reply : Reply) : Prop :=
  ∃ front last response, earlier.since later = front ++ [(last, some response)] ∧
    Client.confirmation response = .ok reply ∧
    ((last.method = .post ∧ last.body = some command.wire) ↔ Http.areRepeated front = true) ∧
    (Http.areRepeated front = false → last.method = .get ∧ last.body = none)

theorem confirmedThrough_of_post {client : Client} {route : String} {command : Command}
    {network after : Http.Network} {reply : Reply}
    (hpost : client.post route command network = (.ok reply, after)) :
    ConfirmedThrough network after command reply := by
  obtain ⟨_, _, hredirects, hreply⟩ := Client.post_redirects hpost
  obtain ⟨request, front, last, response, hrequest, hfront, hconfirmation⟩ := hreply reply rfl
  obtain ⟨hmethod, hbody, _⟩ := Client.request_eq_ok hrequest
  have hlast := hredirects request hrequest
  rw [hfront] at hlast
  obtain ⟨hlastMethod, hlastBody⟩ := hlast.getLast_eq
  rw [hmethod] at hlastMethod
  rw [hbody] at hlastBody
  refine ⟨front, last, response, hfront, hconfirmation, ?_, ?_⟩
  · cases hrepeated : Http.areRepeated front <;> simp [hlastMethod, hlastBody, hrepeated]
  · intro hrepeated
    simp [hlastMethod, hlastBody, hrepeated]

/-- A client hands on a confirmation, and a run that sends a command succeeds, only through a reply that
    answers the command itself or what a redirect made of it: it answers the command exactly if every redirect
    on the way keeps the request. -/
theorem confirmation_answers_command_iff (client : Client) (order : Order) (settings : Settings)
    (command : Command) (json : Bool) (network : Http.Network) :
    ((Client.deliver order (client, network)).1.confirmations ≠ [] →
      ∃ reply, (Client.deliver order (client, network)).1.confirmations = [reply] ∧
        ConfirmedThrough network (Client.deliver order (client, network)).2.2 order.command reply) ∧
    ((send settings command json network).result = .ok () →
      ∃ reply, (send settings command json network).output = confirmationText json reply ∧
        ConfirmedThrough network (send settings command json network).network command reply) := by
  constructor
  · intro hconfirmed
    rcases hpost : client.post order.route order.command network with ⟨fault | reply, after⟩
    · simp [Client.deliver_of_failed hpost] at hconfirmed
    · rw [Client.deliver_of_confirmed hpost]
      exact ⟨reply, rfl, confirmedThrough_of_post hpost⟩
  · intro hsent
    rcases hpost : (clientOf settings).post adminRoute command network with ⟨fault | reply, after⟩
    · simp [send_of_failed hpost] at hsent
    · rw [send_of_confirmed hpost]
      exact ⟨reply, rfl, confirmedThrough_of_post hpost⟩

/-- The answers of a peer that sends every post on to a page, and confirms whoever fetches that. -/
def confirmingPage (status : Nat) : Http.Network :=
  { answers :=
      [some { status, headers := [("location", "/done")] },
        some { status := 200, body := Utf8.encode "\x7b\"rc\": \"ok\"\x7d" }] }

/-- A redirect that repeats the request lets the confirmation answer the command. -/
theorem confirmation_behind_repeating_redirect :
    (send ⟨"http://h", 10⟩ .updateFirmware false (confirmingPage 307)).result = .ok () ∧
      ∃ reply, ConfirmedThrough (confirmingPage 307)
        (send ⟨"http://h", 10⟩ .updateFirmware false (confirmingPage 307)).network .updateFirmware reply := by
  have hsent : (send ⟨"http://h", 10⟩ .updateFirmware false (confirmingPage 307)).result = .ok () := by
    decide +kernel
  obtain ⟨reply, _, hreply⟩ := (confirmation_answers_command_iff (clientOf ⟨"http://h", 10⟩)
    Command.updateFirmware.order ⟨"http://h", 10⟩ .updateFirmware false (confirmingPage 307)).2 hsent
  exact ⟨hsent, reply, hreply⟩

/-- Behind another redirect a run succeeds although what was confirmed is a request without the command. -/
theorem confirmation_of_fetched_page :
    let sending := send ⟨"http://h", 10⟩ .updateFirmware false (confirmingPage 302)
    sending.result = .ok () ∧ sending.output = "✓ OK\n" ∧
      ((confirmingPage 302).since sending.network).map (fun exchange =>
        (exchange.1.method, exchange.1.url.text, exchange.1.body)) =
        [(.post, "http://h/admin", some "\x7b\"cmd\":\"updateFirmware\"\x7d"), (.get, "http://h/done", none)] := by
  decide +kernel

end RobotAdmin.Program
