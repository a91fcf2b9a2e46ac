import RobotAdmin.Client.Delivery
import RobotAdmin.Proofs.Http.Exchanges

namespace RobotAdmin.Client

/-- A reply that confirms a command was decoded from the response and has the code of success. -/
theorem confirmation_eq_ok {response : Http.Response} {reply : Reply}
    (hconfirmation : confirmation response = .ok reply) :
    Reply.decode (Utf8.encode (Utf8.decodeLossy response.body)) = .ok reply ∧ reply.rc = Reply.okCode := by
  unfold confirmation at hconfirmation
  split at hconfirmation
  · cases hconfirmation
  dsimp only at hconfirmation
  split at hconfirmation
  · cases hconfirmation
  split at hconfirmation
  · cases hconfirmation
  · rename_i found hfound
    split at hconfirmation
    · rename_i hok
      obtain rfl := Except.ok.inj hconfirmation
      exact ⟨hfound, beq_iff_eq.mp hok⟩
    · cases hconfirmation

/-- The request of a command is a post of its message to the URL that its address denotes, without the user
    if there are credentials for a header. -/
theorem request_eq_ok {client : Client} {route : String} {command : Command} {request : Http.Request}
    (hrequest : client.request route command = .ok request) :
    request.method = .post ∧ request.body = some command.wire ∧ request.url.isHttp = true ∧
      ∃ url, Url.parse? (client.address route) = some url ∧
        (request.url = url ∨ request.url = url.withoutUser) := by
  unfold Client.request at hrequest
  cases hurl : Url.parse? (client.address route) with
  | none => simp [hurl] at hrequest
  | some url =>
    cases hcredentials : credentials? url with
    | none =>
      simp only [hurl, hcredentials] at hrequest
      split at hrequest
      · rename_i hfit
        obtain rfl := Except.ok.inj hrequest
        exact ⟨rfl, rfl, (Bool.and_eq_true_iff.mp hfit).1, url, rfl, .inl rfl⟩
      · cases hrequest
    | some credentials =>
      simp only [hurl, hcredentials] at hrequest
      split at hrequest
      · rename_i hfit
        obtain rfl := Except.ok.inj hrequest
        exact ⟨rfl, rfl, (Bool.and_eq_true_iff.mp hfit).1, url, rfl, .inr rfl⟩
      · cases hrequest

/-- Posting continues the network. Without a request nothing gets through; otherwise its exchanges are those
    of the request. A reply that it returns was read from the answer to the last of them. -/
theorem post_redirects {client : Client} {route : String} {command : Command} {network after : Http.Network}
    {outcome : Except PostFault Reply} (hpost : client.post route command network = (outcome, after)) :
    network.Continues after ∧
      (∀ cause, client.request route command = .error cause → after = network) ∧
      (∀ request, client.request route command = .ok request →
        Http.Redirects request (network.since after)) ∧
      ∀ reply, outcome = .ok reply → ∃ request front last response,
        client.request route command = .ok request ∧
        network.since after = front ++ [(last, some response)] ∧ confirmation response = .ok reply := by
  unfold Client.post at hpost
  cases hrequest : client.request route command with
  | error cause =>
    simp only [hrequest] at hpost
    obtain ⟨rfl, rfl⟩ := Prod.mk.inj hpost
    exact ⟨.refl network, by simp, by simp, by simp⟩
  | ok request =>
    simp only [hrequest] at hpost
    rcases hfetch : Http.fetch request network with ⟨result, next⟩
    obtain ⟨hnext, hredirects, hlast⟩ := Http.fetchFrom_redirects hfetch
    rw [hfetch] at hpost
    have hafter : next = after := by cases result <;> exact (Prod.mk.inj hpost).2
    subst hafter
    refine ⟨hnext, by simp, fun found hfound => Except.ok.inj hfound ▸ hredirects, fun reply hreply => ?_⟩
    cases result with
    | error cause =>
      obtain rfl := (Prod.mk.inj hpost).1
      cases hreply
    | ok response =>
      obtain ⟨front, last, hfront⟩ := hlast response rfl
      exact ⟨request, front, last, response, rfl, hfront, (Prod.mk.inj hpost).1.trans hreply⟩

/-- An order whose post brings a confirmation hands it on and counts no failure. -/
theorem deliver_of_confirmed {client : Client} {order : Order} {network after : Http.Network} {reply : Reply}
    (hpost : client.post order.route order.command network = (.ok reply, after)) :
    deliver order (client, network) =
      (⟨[reply], [client.departure order, ⟨.debug, order.description ++ ": " ++ reply.shown⟩]⟩, client, after) := by
  simp [deliver, hpost, settle]

/-- An order whose post fails hands nothing on, counts one failure and logs one error. -/
theorem deliver_of_failed {client : Client} {order : Order} {network after : Http.Network} {fault : PostFault}
    (hpost : client.post order.route order.command network = (.error fault, after)) :
    deliver order (client, network) =
      (⟨[], [client.departure order, ⟨.error, order.description ++ " failed: " ++ fault.message⟩]⟩,
        { client with failures := client.failures + 1 }, after) := by
  simp [deliver, hpost, settle]

end RobotAdmin.Client
