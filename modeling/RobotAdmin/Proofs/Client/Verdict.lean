import RobotAdmin.Proofs.Client.Posting
import RobotAdmin.Proofs.Text.Lossy

namespace RobotAdmin

namespace Http

/-- The response that ends a run of exchanges: it answers the last of them and leads no further. -/
def finalResponse? (exchanges : List (Request × Option Response)) : Option Response :=
  exchanges.getLast?.bind fun (request, answer) =>
    answer.filter fun response => (response.redirect? request.url).isNone

theorem finalResponse?_singleton (request : Request) (response : Response) :
    finalResponse? [(request, some response)] =
      if response.redirect? request.url = none then some response else none := by
  cases hurl : response.redirect? request.url <;> simp [finalResponse?, hurl]

/-- Behind a redirect the rest of the exchanges decides, and without any rest there is no end. -/
theorem finalResponse?_cons_of_redirect {request : Request} {response : Response} {url : Url}
    (hurl : response.redirect? request.url = some url) (rest : List (Request × Option Response)) :
    finalResponse? ((request, some response) :: rest) = finalResponse? rest := by
  cases rest with
  | nil => rw [finalResponse?_singleton, if_neg (by simp [hurl])]; rfl
  | cons next rest => rw [finalResponse?, List.getLast?_cons_cons, finalResponse?]

theorem finalResponse?_of_unanswered {network next : Network} {request : Request}
    (hexchange : network.exchange request = (none, next)) : finalResponse? (network.since next) = none := by
  have hnext : next = (network.exchange request).2 := by rw [hexchange]
  by_cases hreaches : network.reaches request = true
  · have hsince := Network.since_exchange hreaches
    rw [hexchange] at hsince
    rw [hsince]
    rfl
  · rw [Network.exchange_of_not_reaches (Bool.eq_false_iff.mpr hreaches)] at hnext
    rw [hnext, Network.since_self]
    rfl

/-- Fetching gives the response that ends its exchanges, and a fault if there is none. -/
theorem toOption_fetchFrom {first : Url} {room : Nat} {request : Request} {network after : Network}
    {result : Except NetworkFault Response} (hfetch : fetchFrom first room request network = (result, after)) :
    result.toOption = finalResponse? (network.since after) := by
  fun_induction fetchFrom first room request network with
  | case1 room request network next hexchange =>
    obtain ⟨rfl, rfl⟩ := Prod.mk.inj hfetch
    exact (finalResponse?_of_unanswered hexchange).symm
  | case2 room request network response next hexchange hurl =>
    obtain ⟨rfl, rfl⟩ := Prod.mk.inj hfetch
    rw [(redirects_exchange hexchange).2.2 response rfl, finalResponse?_singleton, if_pos hurl]
    rfl
  | case3 request network response next hexchange url hurl =>
    obtain ⟨rfl, rfl⟩ := Prod.mk.inj hfetch
    rw [(redirects_exchange hexchange).2.2 response rfl, finalResponse?_cons_of_redirect hurl]
    rfl
  | case4 request network response next hexchange url room hurl hhttp ih =>
    obtain ⟨hnext, _, hsince⟩ := redirects_exchange hexchange
    obtain ⟨hrest, _⟩ := fetchFrom_redirects hfetch
    rw [ih hfetch, Network.since_trans hnext hrest, hsince response rfl, List.singleton_append,
      finalResponse?_cons_of_redirect hurl]
  | case5 request network response next hexchange url room hurl hhttp =>
    obtain ⟨rfl, rfl⟩ := Prod.mk.inj hfetch
    rw [(redirects_exchange hexchange).2.2 response rfl, finalResponse?_cons_of_redirect hurl]
    rfl

/-- A response that the exchanges end in and whose body is there in full. -/
def Received (exchanges : List (Request × Option Response)) (response : Response) : Prop :=
  finalResponse? exchanges = some response ∧ response.complete = true

/-- A redirect without a location, or with one that is no URL, is not followed. -/
theorem redirect?_eq_none {response : Response} {url : Url}
    (hlocation : response.status ∈ [301, 302, 303, 307, 308] → ∀ location,
      response.header? "location" = some location → url.join? location = none) : response.redirect? url = none := by
  unfold Response.redirect?
  split
  · rename_i hstatus
    cases hheader : response.header? "location" with
    | none => rfl
    | some location => rw [Option.bind_some, hlocation hstatus location hheader]; rfl
  · rfl

end Http

namespace Client

open Http (finalResponse? Received)

/-- A post gives what its final response says, and a fault of the network if there is none. -/
theorem post_of_finalResponse? {client : Client} {route : String} {command : Command} {network after : Http.Network}
    {outcome : Except PostFault Reply} (hpost : client.post route command network = (outcome, after)) :
    match finalResponse? (network.since after) with
    | none => ∃ cause, outcome = .error (.network cause)
    | some response => outcome = confirmation response := by
  unfold Client.post at hpost
  cases hrequest : client.request route command with
  | error cause =>
    simp only [hrequest] at hpost
    obtain ⟨rfl, rfl⟩ := Prod.mk.inj hpost
    rw [Http.Network.since_self]
    exact ⟨cause, rfl⟩
  | ok request =>
    simp only [hrequest] at hpost
    rcases hfetch : Http.fetch request network with ⟨cause | response, next⟩
    · have hfinal := Http.toOption_fetchFrom hfetch
      rw [hfetch] at hpost
      obtain ⟨rfl, rfl⟩ := Prod.mk.inj hpost
      rw [← hfinal]
      exact ⟨cause, rfl⟩
    · have hfinal := Http.toOption_fetchFrom hfetch
      rw [hfetch] at hpost
      obtain ⟨rfl, rfl⟩ := Prod.mk.inj hpost
      rw [← hfinal]
      rfl

theorem isSuccess_eq_true_iff {response : Http.Response} :
    response.isSuccess = true ↔ 200 ≤ response.status ∧ response.status ≤ 299 := by
  simp only [Http.Response.isSuccess, Bool.and_eq_true, decide_eq_true_eq]
  omega

section

variable (response : Http.Response)

/-- The four checks of a response, one behind the other. -/
theorem confirmation_cases :
    (response.complete = false ∧ confirmation response = .error (.network .truncatedBody)) ∨
    response.complete = true ∧
      ((¬ (200 ≤ response.status ∧ response.status ≤ 299) ∧
          confirmation response = .error (.status response.status (Utf8.decodeLossy response.body))) ∨
        (200 ≤ response.status ∧ response.status ≤ 299) ∧
          ((∃ cause, Reply.decode (Utf8.encode (Utf8.decodeLossy response.body)) = .error cause ∧
              confirmation response = .error (.undecodable cause)) ∨
            ∃ reply, Reply.decode (Utf8.encode (Utf8.decodeLossy response.body)) = .ok reply ∧
              confirmation response =
                if reply.rc = "ok" then .ok reply else .error (.rejected reply.rc reply.message))) := by
  rw [← isSuccess_eq_true_iff]
  cases hwhole : response.complete with
  | false => exact .inl ⟨rfl, by simp [confirmation, hwhole]⟩
  | true =>
    refine .inr ⟨rfl, ?_⟩
    cases hstatus : response.isSuccess with
    | false => exact .inl ⟨by simp, by simp [confirmation, hwhole, hstatus]⟩
    | true =>
      refine .inr ⟨rfl, ?_⟩
      cases hbody : Reply.decode (Utf8.encode (Utf8.decodeLossy response.body)) with
      | error cause => exact .inl ⟨cause, rfl, by simp [confirmation, hwhole, hstatus, hbody]⟩
      | ok reply =>
        exact .inr ⟨reply, rfl, by simp [confirmation, hwhole, hstatus, hbody, Reply.isOk, Reply.okCode]⟩

variable {response}

theorem confirmation_eq_network_iff :
    (∃ cause, confirmation response = .error (.network cause)) ↔ response.complete = false := by
  rcases confirmation_cases response with ⟨hcut, h⟩ | ⟨hwhole, ⟨_, h⟩ | ⟨_, ⟨cause, _, h⟩ | ⟨reply, _, h⟩⟩⟩
  · simp [h, hcut]
  · simp [h, hwhole]
  · simp [h, hwhole]
  · by_cases hrc : reply.rc = "ok" <;> simp [h, hwhole, hrc]

theorem confirmation_eq_status_iff {code : Nat} {body : String} :
    confirmation response = .error (.status code body) ↔ response.complete = true ∧
      ¬ (200 ≤ response.status ∧ response.status ≤ 299) ∧
      code = response.status ∧ body = Utf8.decodeLossy response.body := by
  rcases confirmation_cases response with
    ⟨hcut, h⟩ | ⟨hwhole, ⟨hstatus, h⟩ | ⟨hstatus, ⟨cause, _, h⟩ | ⟨reply, _, h⟩⟩⟩
  · simp [h, hcut]
  · simp [h, hwhole, hstatus, eq_comm]
  · simp [h, hstatus]
  · by_cases hrc : reply.rc = "ok" <;> simp [h, hstatus, hrc]

theorem confirmation_eq_undecodable_iff {cause : Json.Refusal} :
    confirmation response = .error (.undecodable cause) ↔ response.complete = true ∧
      (200 ≤ response.status ∧ response.status ≤ 299) ∧
      Reply.decode (Utf8.encode (Utf8.decodeLossy response.body)) = .error cause := by
  rcases confirmation_cases response with
    ⟨hcut, h⟩ | ⟨hwhole, ⟨hstatus, h⟩ | ⟨hstatus, ⟨_, hbody, h⟩ | ⟨reply, hbody, h⟩⟩⟩
  · simp [h, hcut]
  · simp [h, hstatus]
  · simp [h, hwhole, hstatus, hbody]
  · by_cases hrc : reply.rc = "ok" <;> simp [h, hbody, hrc]

theorem confirmation_eq_rejected_iff {rc : String} {message : Option String} :
    confirmation response = .error (.rejected rc message) ↔ response.complete = true ∧
      (200 ≤ response.status ∧ response.status ≤ 299) ∧
      ∃ reply, Reply.decode (Utf8.encode (Utf8.decodeLossy response.body)) = .ok reply ∧
        reply.rc ≠ "ok" ∧ rc = reply.rc ∧ message = reply.message := by
  rcases confirmation_cases response with
    ⟨hcut, h⟩ | ⟨hwhole, ⟨hstatus, h⟩ | ⟨hstatus, ⟨_, hbody, h⟩ | ⟨reply, hbody, h⟩⟩⟩
  · simp [h, hcut]
  · simp [h, hstatus]
  · simp [h, hbody]
  · by_cases hrc : reply.rc = "ok"
    · simp [h, hbody, hrc]
    · rw [h, if_neg hrc]
      simp [hwhole, hstatus, hbody, hrc, @eq_comm _ rc, @eq_comm _ message]

theorem confirmation_eq_ok_iff {reply : Reply} :
    confirmation response = .ok reply ↔ response.complete = true ∧
      (200 ≤ response.status ∧ response.status ≤ 299) ∧
      Reply.decode (Utf8.encode (Utf8.decodeLossy response.body)) = .ok reply ∧ reply.rc = "ok" := by
  rcases confirmation_cases response with
    ⟨hcut, h⟩ | ⟨hwhole, ⟨hstatus, h⟩ | ⟨hstatus, ⟨_, hbody, h⟩ | ⟨found, hbody, h⟩⟩⟩
  · simp [h, hcut]
  · simp [h, hstatus]
  · simp [h, hbody]
  · by_cases hrc : found.rc = "ok"
    · rw [h, if_pos hrc]
      constructor
      · rintro ⟨⟩
        exact ⟨hwhole, hstatus, hbody, hrc⟩
      · rintro ⟨_, _, hfound, _⟩
        rw [← Except.ok.inj (hbody.symm.trans hfound)]
    · rw [h, if_neg hrc]
      refine ⟨nofun, ?_⟩
      rintro ⟨_, _, hfound, hok⟩
      exact absurd hok (Except.ok.inj (hbody.symm.trans hfound) ▸ hrc)

end

section

variable {client : Client} {route : String} {command : Command} {network : Http.Network}

/-- An outcome other than a fault of the network is what the final response says. -/
theorem post_eq_iff_of_not_network {outcome : Except PostFault Reply}
    (houtcome : ∀ cause, outcome ≠ .error (.network cause)) :
    (client.post route command network).1 = outcome ↔
      ∃ response, finalResponse? (network.since (client.post route command network).2) = some response ∧
        confirmation response = outcome := by
  rcases hpost : client.post route command network with ⟨found, after⟩
  have hfound := post_of_finalResponse? hpost
  cases hfinal : finalResponse? (network.since after) with
  | none =>
    rw [hfinal] at hfound
    obtain ⟨cause, rfl⟩ := hfound
    simp [(houtcome cause).symm]
  | some response =>
    rw [hfinal] at hfound
    simp [hfound]

theorem post_eq_network_iff :
    (∃ cause, (client.post route command network).1 = .error (.network cause)) ↔
      ∀ response, ¬ Received (network.since (client.post route command network).2) response := by
  rcases hpost : client.post route command network with ⟨found, after⟩
  have hfound := post_of_finalResponse? hpost
  cases hfinal : finalResponse? (network.since after) with
  | none =>
    rw [hfinal] at hfound
    obtain ⟨cause, rfl⟩ := hfound
    simp [Received, hfinal]
  | some response =>
    rw [hfinal] at hfound
    simp [Received, hfinal, hfound, confirmation_eq_network_iff]

/-- The first answer ends the exchanges unless it leads on to a URL. -/
theorem finalResponse?_post {request : Http.Request} {response : Http.Response}
    (hrequest : client.request route command = .ok request) (hreaches : network.reaches request = true)
    (hanswer : network.answers.head? = some (some response)) (hend : response.redirect? request.url = none) :
    finalResponse? (network.since (client.post route command network).2) = some response := by
  have hexchange : network.exchange request = (some response, (network.exchange request).2) := by
    rw [Http.Network.exchange, if_pos hreaches, hanswer]
    rfl
  have hfetch : Http.fetch request network = (.ok response, (network.exchange request).2) := by
    rw [Http.fetch, Http.fetchFrom, hexchange]
    simp only [hend]
  have hpost : client.post route command network = (confirmation response, (network.exchange request).2) := by
    simp only [Client.post, hrequest, hfetch]
  rw [hpost, (Http.redirects_exchange hexchange).2.2 response rfl, Http.finalResponse?_singleton, if_pos hend]

end

/-- What a post comes to, by its final response: a fault of the network if there is none or its body is cut short,
    whatever the status; otherwise its status unless that is one of success; otherwise why its body is no reply, if it
    is none; otherwise the code of the reply unless it is the one of success; and only otherwise the reply. Each broken
    part of a body is replaced before it is looked at. -/
theorem post_verdict (client : Client) (route : String) (command : Command) (network : Http.Network) :
    let posted := client.post route command network
    let received := Received (network.since posted.2)
    (∀ response : Http.Response, Utf8.IsLossy response.body (Utf8.decodeLossy response.body).toList) ∧
    ((∃ cause, posted.1 = .error (.network cause)) ↔ ∀ response, ¬ received response) ∧
    (∀ code body, posted.1 = .error (.status code body) ↔
      ∃ response, received response ∧ ¬ (200 ≤ response.status ∧ response.status ≤ 299) ∧
        code = response.status ∧ body = Utf8.decodeLossy response.body) ∧
    (∀ cause, posted.1 = .error (.undecodable cause) ↔
      ∃ response, received response ∧ (200 ≤ response.status ∧ response.status ≤ 299) ∧
        Reply.decode (Utf8.encode (Utf8.decodeLossy response.body)) = .error cause) ∧
    (∀ rc message, posted.1 = .error (.rejected rc message) ↔
      ∃ response, received response ∧ (200 ≤ response.status ∧ response.status ≤ 299) ∧
        ∃ reply, Reply.decode (Utf8.encode (Utf8.decodeLossy response.body)) = .ok reply ∧
          reply.rc ≠ "ok" ∧ rc = reply.rc ∧ message = reply.message) ∧
    (∀ reply, posted.1 = .ok reply ↔
      ∃ response, received response ∧ (200 ≤ response.status ∧ response.status ≤ 299) ∧
        Reply.decode (Utf8.encode (Utf8.decodeLossy response.body)) = .ok reply ∧ reply.rc = "ok") ∧
    ∀ request response, client.request route command = .ok request → network.reaches request = true →
      network.answers.head? = some (some response) →
      (response.status ∈ [301, 302, 303, 307, 308] → ∀ location,
        response.header? "location" = some location → request.url.join? location = none) →
      finalResponse? (network.since posted.2) = some response := by
  intro posted received
  refine ⟨fun _ => Utf8.decodeLossy_eq_iff.mp rfl, post_eq_network_iff, fun code body => ?_, fun cause => ?_,
    fun rc message => ?_, fun reply => ?_, fun request response hrequest hreaches hanswer hlocation =>
      finalResponse?_post hrequest hreaches hanswer (Http.redirect?_eq_none hlocation)⟩
  · rw [post_eq_iff_of_not_network (by simp)]
    simp only [confirmation_eq_status_iff, received, Received, posted, and_assoc]
  · rw [post_eq_iff_of_not_network (by simp)]
    simp only [confirmation_eq_undecodable_iff, received, Received, posted, and_assoc]
  · rw [post_eq_iff_of_not_network (by simp)]
    simp only [confirmation_eq_rejected_iff, received, Received, posted, and_assoc]
  · rw [post_eq_iff_of_not_network (by simp)]
    simp only [confirmation_eq_ok_iff, received, Received, posted, and_assoc]

/-- A redirect without a location ends a post with its status, even if the body is a reply of success. -/
theorem post_of_redirect_without_location :
    let response : Http.Response := { status := 302, body := Utf8.encode "\x7b\"rc\":\"ok\"\x7d" }
    ((Client.ofServer "http://h" 5).post "/admin" .updateFirmware { encrypted := true, answers := [some response] }).1 =
      .error (.status 302 (Utf8.decodeLossy response.body)) := by
  intro response
  have hsome : ((Client.ofServer "http://h" 5).request "/admin" .updateFirmware).isOk = true := by decide +kernel
  cases hrequest : (Client.ofServer "http://h" 5).request "/admin" .updateFirmware with
  | error cause =>
    rw [hrequest] at hsome
    cases hsome
  | ok request =>
    obtain ⟨_, _, hstatus, _, _, _, hfinal⟩ := post_verdict (Client.ofServer "http://h" 5) "/admin" .updateFirmware
      { encrypted := true, answers := [some response] }
    have hend := hfinal request response hrequest rfl rfl nofun
    exact (hstatus 302 (Utf8.decodeLossy response.body)).mpr ⟨response, ⟨hend, rfl⟩, by decide, rfl, rfl⟩

end Client

end RobotAdmin
