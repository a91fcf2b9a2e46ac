import Mathlib.Control.Monad.Basic
import RobotAdmin.Proofs.Program.Sending
import RobotAdmin.Proofs.Url.Route

namespace RobotAdmin.Program

/-- The first request of a run that sends a command is a post of the command, whose path ends in the admin
    route exactly if the server keeps it. It is the only request unless a redirect is followed from it. -/
theorem first_request_reaches_admin_iff {stored settings : Settings} {lookup : String → Option String}
    {overrides : Overrides} (hsettings : stored.resolve lookup overrides = .ok settings) (command : Command)
    (json : Bool) (network : Http.Network) :
    ∃ sent, (send settings command json network).network.requests = network.requests ++ sent ∧
      ∀ first rest, sent = first :: rest →
        first.method = .post ∧ ("content-type", "application/json") ∈ first.headers ∧
          first.body = some command.wire ∧
          ((∃ front, first.url.path.text = front ++ adminRoute) ↔ Url.KeepsRoute settings.server adminRoute) ∧
          (rest ≠ [] → ∃ response url, network.answers.head? = some (some response) ∧
            response.redirect? first.url = some url ∧ url.isHttp = true) := by
  rcases hpost : (clientOf settings).post adminRoute command network with ⟨outcome, after⟩
  rw [network_send, hpost]
  obtain ⟨hcontinues, hunsent, hredirects, _⟩ := Client.post_redirects hpost
  refine ⟨(network.since after).map Prod.fst, hcontinues.map_fst_since, ?_⟩
  intro first rest hsent
  cases hrequest : (clientOf settings).request adminRoute command with
  | error cause =>
    rw [hunsent cause hrequest, Http.Network.since_self] at hsent
    cases hsent
  | ok request =>
    obtain ⟨hmethod, hbody, hhttp, url, hurl, hrequested⟩ := Client.request_eq_ok hrequest
    have hbase : (clientOf settings).address adminRoute = settings.server ++ adminRoute := by
      rw [Client.address, clientOf, Client.ofServer, dropSlashes_server_of_resolve hsettings]
    rw [hbase] at hurl
    obtain ⟨rfl, hmore⟩ := (hredirects request hrequest).head_eq hsent
    have hkept : first.url.path = url.path ∧ url.isHttp = first.url.isHttp := by
      obtain hsame | hsame := hrequested
      · rw [hsame]
        exact ⟨rfl, rfl⟩
      · rw [hsame]
        exact ⟨rfl, rfl⟩
    refine ⟨hmethod, by simp [Http.Request.headers, Http.optionalHeader, hbody], hbody, ?_, ?_⟩
    · rw [hkept.1]
      exact Url.path_parse?_adminRoute_iff hurl (hkept.2.trans hhttp)
    · intro hrest
      obtain ⟨response, target, hanswer, hredirect, htarget⟩ := hmore hrest
      exact ⟨response, target, Http.Network.head?_answers_of_since hanswer, hredirect, htarget⟩

/-- A server with a path of its own keeps it before the route. -/
theorem first_request_below_path :
    ({} : Settings).resolve (fun _ => none) ⟨some "http://h/lab/", none⟩ = .ok ⟨"http://h/lab", 10⟩ ∧
      ∃ first rest front,
        (send ⟨"http://h/lab", 10⟩ .updateFirmware false {}).network.requests = first :: rest ∧
          first.method = .post ∧ first.url.path.text = front ++ adminRoute := by
  have hsettings : ({} : Settings).resolve (fun _ => none) ⟨some "http://h/lab/", none⟩ =
      .ok ⟨"http://h/lab", 10⟩ := by decide +kernel
  have hcount : (send ⟨"http://h/lab", 10⟩ .updateFirmware false {}).network.requests.length = 1 := by
    decide +kernel
  have hkeeps : Url.KeepsRoute "http://h/lab" adminRoute := by
    rw [Url.KeepsRoute, if_neg (by decide +kernel)]
    decide +kernel
  obtain ⟨sent, hsent, hfirst⟩ := first_request_reaches_admin_iff hsettings .updateFirmware false {}
  rw [List.nil_append] at hsent
  cases hrequests : sent with
  | nil =>
    rw [hsent, hrequests] at hcount
    cases hcount
  | cons first rest =>
    obtain ⟨hmethod, _, _, hpath, _⟩ := hfirst first rest hrequests
    obtain ⟨front, hfront⟩ := hpath.mpr hkeeps
    exact ⟨hsettings, first, rest, front, by rw [hsent, hrequests], hmethod, hfront⟩

/-- Behind a query the route becomes a part of that, and without a host it becomes the host. -/
theorem first_request_misses_admin :
    let requested (server : String) := (send ⟨server, 10⟩ .updateFirmware false {}).network.requests.map
      fun request => (request.method, request.url.host, request.url.path.text, request.url.query)
    ({} : Settings).resolve (fun _ => none) ⟨some "http://h?q=1", none⟩ = .ok ⟨"http://h?q=1", 10⟩ ∧
      requested "http://h?q=1" = [(.post, some "h", "/", some "q=1/admin")] ∧
      ({} : Settings).resolve (fun _ => none) ⟨some "http://", none⟩ = .ok ⟨"http:", 10⟩ ∧
      requested "http:" = [(.post, some "admin", "/", none)] := by
  decide +kernel

end RobotAdmin.Program
