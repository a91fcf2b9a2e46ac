import RobotAdmin.Proofs.Program.Endpoint
import RobotAdmin.Proofs.Program.Storing
import RobotAdmin.Proofs.Program.Viewing

namespace RobotAdmin

/-- The first request of a post goes to the URL that the address of its route denotes, without the user if there
    are credentials for a header. -/
theorem Client.exists_url_of_first_request {client : Client} {route : String} {command : Command}
    {network : Http.Network} {first : Http.Request} {rest : List Http.Request}
    (hsent : (client.post route command network).2.requests = network.requests ++ first :: rest) :
    ∃ url, Url.parse? (client.address route) = some url ∧ (first.url = url ∨ first.url = url.withoutUser) := by
  rcases hpost : client.post route command network with ⟨outcome, after⟩
  obtain ⟨hcontinues, hunsent, hredirects, _⟩ := Client.post_redirects hpost
  rw [hpost, hcontinues.map_fst_since, List.append_cancel_left_eq] at hsent
  cases hrequest : client.request route command with
  | error cause =>
    rw [hunsent cause hrequest, Http.Network.since_self] at hsent
    cases hsent
  | ok request =>
    obtain ⟨rfl, _⟩ := (hredirects request hrequest).head_eq hsent
    obtain ⟨_, _, _, hurl⟩ := Client.request_eq_ok hrequest
    exact hurl

namespace Program

variable {environment : Environment} {overrides : Overrides} {files : FileSystem} {settings : Settings}

/-- The settings in effect are shown, and it is they that stand in the way if nothing is. -/
theorem configure_view_cases (environment : Environment) (overrides : Overrides) (files : FileSystem) :
    (∃ fault, effectiveSettings environment overrides files = .error fault ∧
      configure environment overrides .view files = (.error fault, files)) ∨
    ∃ path settings, environment.settingsPath? = some path ∧
      effectiveSettings environment overrides files = .ok settings ∧
      configure environment overrides .view files = (.ok (viewText path settings), files) := by
  cases hpath : environment.settingsPath? with
  | none =>
    have hsettings : settingsPath environment = .error .noSettingsDirectory := by rw [settingsPath, hpath]
    refine .inl ⟨.noSettingsDirectory, ?_, ?_⟩
    · simp only [effectiveSettings, storedSettings, hsettings]
    · simp only [configure, hsettings]
  | some path =>
    rw [configure_eq hpath]
    cases effectiveSettings environment overrides files with
    | error fault => exact .inl ⟨fault, rfl, rfl⟩
    | ok settings => exact .inr ⟨path, settings, rfl, rfl, rfl⟩

section

variable {line : CommandLine} {command : Command}

theorem network_perform_send (htask : line.task = .send command)
    (hsettings : effectiveSettings environment line.overrides files = .ok settings) (network : Http.Network) :
    (perform line environment files network).network =
      ((clientOf settings).post adminRoute command network).2 := by
  rw [perform_send htask hsettings, ← network_send settings command line.json network]
  exact network_ofResult ..

/-- The client of a run is the one for its settings, apart from the failures that it has counted. -/
theorem client?_perform_send (htask : line.task = .send command)
    (hsettings : effectiveSettings environment line.overrides files = .ok settings) (network : Http.Network) :
    ∃ failures, (perform line environment files network).client? =
      some { clientOf settings with failures := failures } := by
  rw [perform_send htask hsettings]
  rcases hpost : (clientOf settings).post adminRoute command network with ⟨fault | reply, after⟩
  · exact ⟨1, by rw [send_of_failed hpost]⟩
  · exact ⟨0, by rw [send_of_confirmed hpost]; rfl⟩

/-- Which command goes to which server is logged first, and always shown. -/
theorem head?_events_perform_send (htask : line.task = .send command)
    (hsettings : effectiveSettings environment line.overrides files = .ok settings) (network : Http.Network) :
    (perform line environment files network).events.head? = some (sendingEvent (clientOf settings) command) := by
  have hlevel : (line.verbose || (sendingEvent (clientOf settings) command).level != .debug) = true := by
    simp [sendingEvent]
  rw [perform_send htask hsettings, send]
  dsimp only
  rw [Log.shown, List.filter_cons, if_pos hlevel]
  rfl

end

/-- What is shown is what a command goes by. Under the same flags and variables the settings can be shown exactly
    if a command gets as far as its log; otherwise both tell the same fault, and nothing is sent. The server and the
    timeout that are shown are those by which the command goes and those of the client that sends it, whose address
    for the command is the server with the route. -/
theorem view_agrees_with_send {shown sent : CommandLine} {action : Option SettingsAction} {command : Command}
    (hshown : shown.task = .configure action) (hview : action.getD .view = .view)
    (hsent : sent.task = .send command) (hflags : shown.overrides = sent.overrides)
    (environment : Environment) (files : FileSystem) (network : Http.Network) :
    let view := perform shown environment files network
    let sending := perform sent environment files network
    (view.exitCode ≠ 0 ↔ sending.exitCode ≠ 0 ∧ sending.events = []) ∧
    (view.exitCode ≠ 0 → ∃ fault : Fault, view.complaint = fault.report ∧ sending.complaint = fault.report ∧
      sending.network = network) ∧
    (view.exitCode = 0 → ∃ path server secs, environment.settingsPath? = some path ∧
      view.output = viewText path ⟨server, secs⟩) ∧
    ∀ path server secs, view.exitCode = 0 → environment.settingsPath? = some path →
      view.output = viewText path ⟨server, secs⟩ →
        let client : Client := { base := server, timeoutSecs := secs }
        let announced : Log.Event := ⟨.info, "Sending '" ++ command.name ++ "' to " ++ server⟩
        effectiveSettings environment sent.overrides files = .ok ⟨server, secs⟩ ∧
          clientOf ⟨server, secs⟩ = client ∧ Client.ofServer server secs = client ∧
          (∃ failures, sending.client? = some { client with failures := failures }) ∧
          sending.events.head? = some announced ∧ sending.log.head? = some announced.written ∧
          (announced.IsPlain → announced.written = announced) ∧
          client.address adminRoute = server ++ "/admin" ∧
          sending.network = (client.post adminRoute command network).2 ∧
          ∀ first rest, sending.network.requests = network.requests ++ first :: rest →
            ∃ url, Url.parse? (server ++ "/admin") = some url ∧
              (first.url = url ∨ first.url = url.withoutUser) := by
  intro view sending
  have hperform : view = _ := perform_configure hshown environment files network
  rw [hview] at hperform
  obtain ⟨fault, hsettings, hconfigure⟩ | ⟨path, settings, hpath, hsettings, hconfigure⟩ :=
    configure_view_cases environment shown.overrides files
  · rw [hconfigure] at hperform
    rw [hflags] at hsettings
    have hsending : sending = _ := perform_send_of_fault hsent hsettings network
    rw [hperform, hsending]
    refine ⟨?_, fun _ => ⟨fault, rfl, rfl, rfl⟩, fun hcode => ?_, fun _ _ _ hcode => ?_⟩
    · exact ⟨fun _ => ⟨Nat.one_ne_zero, rfl⟩, fun _ => Nat.one_ne_zero⟩
    · exact absurd hcode Nat.one_ne_zero
    · exact absurd hcode Nat.one_ne_zero
  · rw [hconfigure] at hperform
    rw [hflags] at hsettings
    have hhead := head?_events_perform_send hsent hsettings network
    have hclient := clientOf_of_effectiveSettings hsettings
    have hsender := client?_perform_send hsent hsettings network
    have hnetwork := network_perform_send hsent hsettings network
    rw [hclient] at hhead hsender hnetwork
    have hcode : view.exitCode = 0 := by rw [hperform]; rfl
    have houtput : view.output = viewText path settings := by rw [hperform]; rfl
    refine ⟨?_, fun hfailed => absurd hcode hfailed, fun _ => ⟨path, _, _, hpath, houtput⟩, ?_⟩
    · refine ⟨fun hfailed => absurd hcode hfailed, fun hsilent => ?_⟩
      rw [show (perform sent environment files network).events = [] from hsilent.2] at hhead
      cases hhead
    · intro found server secs _ hfound htext
      obtain rfl := Option.some.inj (hfound.symm.trans hpath)
      obtain rfl := viewText_inj (htext.symm.trans houtput)
      rw [sendingEvent] at hhead
      have hwritten : sending.log.head? =
          some (Log.Event.written ⟨.info, "Sending '" ++ command.name ++ "' to " ++ server⟩) := by
        rw [Ending.log, List.head?_map, hhead, Option.map_some]
      have haddress : (Client.mk server secs 0).address adminRoute = server ++ "/admin" := by
        rw [Client.address, adminRoute]
      refine ⟨hsettings, hclient, hclient, hsender, hhead, hwritten, Log.Event.written_of_isPlain, haddress,
        hnetwork, fun first rest hrequests => ?_⟩
      rw [hnetwork] at hrequests
      rw [← haddress]
      exact Client.exists_url_of_first_request hrequests

/-- A slash at the end of a flag is shown as little as it is used, and the timeout of a variable is both. -/
theorem view_agrees_with_send_of_flag :
    let environment : Environment :=
      ⟨[("HOME", Utf8.encode "/home"), ("ROBERTA_TIMEOUT_SECS", Utf8.encode " 7 ")]⟩
    let shown : CommandLine := { server := some "http://h/", task := .configure none }
    let sent : CommandLine := { server := some "http://h/", json := true, task := .send .updateFirmware }
    let path := Path.ofText "/home/.config/roberta-admin/config.json"
    shown.overrides = sent.overrides ∧ environment.settingsPath? = some path ∧
      (perform shown environment {} {}).output = viewText path ⟨"http://h", 7⟩ ∧
      (∃ client, (perform sent environment {} {}).client? = some client ∧ client.timeoutSecs = 7) ∧
      (perform sent environment {} {}).events.head? =
        some ⟨.info, "Sending '" ++ Command.updateFirmware.name ++ "' to " ++ "http://h"⟩ := by
  intro environment shown sent path
  have hpath : environment.settingsPath? = some path := by decide +kernel
  have hcode : (perform shown environment {} {}).exitCode = 0 := by decide +kernel
  have houtput : (perform shown environment {} {}).output = viewText path ⟨"http://h", 7⟩ := by decide +kernel
  have hshown : shown.task = .configure none := rfl
  have hsent : sent.task = .send .updateFirmware := rfl
  have hflags : shown.overrides = sent.overrides := rfl
  obtain ⟨_, _, _, hagrees⟩ := view_agrees_with_send hshown rfl hsent hflags environment {} {}
  obtain ⟨_, _, _, ⟨failures, hclient⟩, hhead, _⟩ := hagrees path "http://h" 7 hcode hpath houtput
  exact ⟨hflags, hpath, houtput, ⟨_, hclient, rfl⟩, hhead⟩

end Program

end RobotAdmin
