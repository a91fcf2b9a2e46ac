import RobotAdmin.Proofs.Program.History
import RobotAdmin.Proofs.Program.Viewing
import RobotAdmin.Proofs.Settings.Normal

namespace RobotAdmin.Program

/-- What a user was told about the server by the latest action that stored one, unless it was reset since. -/
def latestAnnouncement : List Outcome → Option String
  | [] => none
  | ⟨.setServer _, .ok text⟩ :: _ => some text
  | ⟨.reset, .ok _⟩ :: _ => none
  | _ :: earlier => latestAnnouncement earlier

/-- How a stored server can differ from the one that was announced: it stays the same, or has become shorter
    because that one ends in a blank. -/
def Follows (announced server : String) : Prop :=
  server = announced ∨ Text.endsInBlank announced.toList = true ∧ server.length < announced.length

/-- What is known of the settings that are stored while a server stands announced. -/
structure Stands (announced : String) (settings : Settings) : Prop where
  isEmpty_eq : announced.isEmpty = false
  normalizeServer_eq : Text.endsInBlank announced.toList = false → Settings.normalizeServer announced = announced
  follows : Follows announced settings.server

theorem Stands.reread {announced : String} {settings : Settings} (hstands : Stands announced settings)
    (secs : UInt64) : Stands announced { settings.reread with timeoutSecs := secs } := by
  obtain ⟨hempty, hnormal, hfollows⟩ := hstands
  refine ⟨hempty, hnormal, ?_⟩
  obtain hsame | ⟨hblank, hshorter⟩ := hfollows
  · rw [Settings.reread, hsame]
    cases hblank : Text.endsInBlank announced.toList with
    | false => exact .inl (hnormal hblank)
    | true => exact .inr ⟨hblank, Settings.length_normalizeServer_lt hblank⟩
  · exact .inr ⟨hblank, Nat.lt_of_le_of_lt (Settings.length_normalizeServer_le _) hshorter⟩

theorem Leads.announced {path : Path} {outcomes : List Outcome} {files : FileSystem}
    (hrun : Leads path outcomes files) :
    (∀ text, latestAnnouncement outcomes = some text → ∃ server settings,
      text = "Server set to: " ++ server ++ "\n" ∧ kept outcomes = some settings ∧ Stands server settings) ∧
    (latestAnnouncement outcomes = none → (loaded (kept outcomes)).server = defaultServer) := by
  induction hrun with
  | start => exact ⟨by simp [latestAnnouncement], fun _ => rfl⟩
  | elsewhere _ _ ih => exact ih
  | @invoked outcomes files hrun environment hpath overrides action ih =>
    cases hresult : (configure environment overrides action files).1 with
    | error fault => cases action <;> exact ih
    | ok text =>
      cases action with
      | view => exact ih
      | setServer url =>
        obtain ⟨rfl, hempty⟩ := configure_setServer_ok hpath hrun.holds hresult
        refine ⟨fun text htext => ?_, by simp [latestAnnouncement]⟩
        obtain rfl := Option.some.inj htext
        exact ⟨_, _, rfl, rfl, hempty, Settings.normalizeServer_normalizeServer, .inl rfl⟩
      | setTimeout secs =>
        obtain ⟨hsome, hnone⟩ := ih
        refine ⟨fun text htext => ?_, fun htext => ?_⟩
        · obtain ⟨server, settings, hserver, hkept, hstands⟩ := hsome text htext
          refine ⟨server, _, hserver, rfl, ?_⟩
          rw [hkept]
          exact hstands.reread secs
        · have hdefault : Settings.normalizeServer defaultServer = defaultServer := by decide +kernel
          show Settings.normalizeServer (loaded (kept outcomes)).server = defaultServer
          rw [hnone htext, hdefault]
      | reset => exact ⟨by simp [latestAnnouncement], fun _ => rfl⟩

theorem announcement_inj {first second : String}
    (hsame : "Server set to: " ++ first ++ "\n" = "Server set to: " ++ second ++ "\n") : first = second := by
  have hlist := congrArg String.toList hsame
  simp only [String.toList_append, List.append_assoc, List.append_cancel_left_eq, List.append_cancel_right_eq] at hlist
  exact String.toList_inj.mp hlist

/-- What is stored while a server stands announced is read as that server exactly if it does not end in a blank. -/
theorem Stands.reread_reread_iff {announced : String} {settings : Settings} (hstands : Stands announced settings) :
    settings.reread.reread.server = announced ↔ Text.endsInBlank announced.toList = false := by
  have hagain : settings.reread.reread.server =
      Settings.normalizeServer (Settings.normalizeServer settings.server) := by
    rw [Settings.server_reread, Settings.server_reread]
  obtain ⟨_, hnormal, hfollows⟩ := hstands
  rw [hagain]
  constructor
  · intro hsame
    apply Bool.eq_false_iff.mpr
    intro hblank
    have hlast := Settings.length_normalizeServer_le (Settings.normalizeServer settings.server)
    have hshorter : (Settings.normalizeServer settings.server).length < announced.length := by
      obtain hstored | ⟨_, hless⟩ := hfollows
      · rw [hstored]
        exact Settings.length_normalizeServer_lt hblank
      · exact Nat.lt_of_le_of_lt (Settings.length_normalizeServer_le _) hless
    rw [hsame] at hlast
    omega
  · intro hblank
    obtain hstored | ⟨hends, _⟩ := hfollows
    · rw [hstored, hnormal hblank, hnormal hblank]
    · rw [hblank] at hends
      cases hends

/-- The text for the user names the announced server exactly if that server does not end in a blank. -/
theorem Stands.view_eq_iff {announced : String} {settings : Settings} (hstands : Stands announced settings)
    {environment : Environment} {files : FileSystem} {path : Path}
    (hpath : environment.settingsPath? = some path)
    (hserver : environment.setting? Settings.serverVariable = none)
    (htimeout : environment.setting? Settings.timeoutVariable = none)
    (hload : Settings.load files path = .ok settings.reread) :
    (∃ secs, (configure environment {} .view files).1 = .ok (viewText path ⟨announced, secs⟩)) ↔
      Text.endsInBlank announced.toList = false := by
  rw [← hstands.reread_reread_iff]
  constructor
  · rintro ⟨secs, hview⟩
    obtain ⟨stored, hfound, hshown, _⟩ := (view_eq_ok_iff hpath hserver htimeout).mp hview
    rw [hload] at hfound
    rw [Except.ok.inj hfound, ← hshown]
  · intro hsame
    have hshown : settings.reread.reread = ⟨announced, settings.timeoutSecs⟩ := by
      cases hreread : settings.reread.reread with
      | mk server secs =>
        rw [hreread] at hsame
        have hsecs := congrArg Settings.timeoutSecs hreread
        simp only [Settings.timeoutSecs_reread] at hsecs hsame
        rw [hsame, hsecs]
    refine ⟨settings.timeoutSecs, (view_eq_ok_iff hpath hserver htimeout).mpr ?_⟩
    exact ⟨settings.reread, hload, hshown.symm, hstands.isEmpty_eq⟩

/-- The default server is shown wherever it is loaded. -/
theorem view_eq_of_server_eq {environment : Environment} {files : FileSystem} {path : Path}
    (hpath : environment.settingsPath? = some path)
    (hserver : environment.setting? Settings.serverVariable = none)
    (htimeout : environment.setting? Settings.timeoutVariable = none) {settings : Settings}
    (hload : Settings.load files path = .ok settings) (hdefault : settings.server = defaultServer) :
    (configure environment {} .view files).1 = .ok (viewText path ⟨defaultServer, settings.timeoutSecs⟩) := by
  have hnormal : Settings.normalizeServer defaultServer = defaultServer ∧ defaultServer.isEmpty = false := by
    decide +kernel
  have hshown : settings.reread = ⟨defaultServer, settings.timeoutSecs⟩ := by
    rw [Settings.reread, hdefault, hnormal.1]
  exact (view_eq_ok_iff hpath hserver htimeout).mpr ⟨settings, hload, hshown.symm, hnormal.2⟩

/-- After any actions the announced server is shown exactly if it does not end in a blank, and the default server
    where none is announced, unless a directory has come to stand in the place of the file. -/
theorem shown_server_iff {path : Path} {outcomes : List Outcome} {files : FileSystem}
    (hrun : Leads path outcomes files) {environment : Environment} (hpath : environment.settingsPath? = some path)
    (hserver : environment.setting? Settings.serverVariable = none)
    (htimeout : environment.setting? Settings.timeoutVariable = none) :
    (∀ server, latestAnnouncement outcomes = some ("Server set to: " ++ server ++ "\n") →
      (∃ stored, storedSettings environment files = .ok stored) ∧
        ((∃ secs, (configure environment {} .view files).1 = .ok (viewText path ⟨server, secs⟩)) ↔
          Text.endsInBlank server.toList = false)) ∧
    (latestAnnouncement outcomes = none →
      ((∃ stored, storedSettings environment files = .ok stored) ↔ files.isDirectory path = false) ∧
        ((∃ secs, (configure environment {} .view files).1 = .ok (viewText path ⟨defaultServer, secs⟩)) ↔
          files.isDirectory path = false)) := by
  have hload : storedSettings environment files = Settings.load files path := by
    rw [storedSettings, settingsPath, hpath]
  have hholds := hrun.holds
  obtain ⟨hsome, hnone⟩ := hrun.announced
  rw [hload]
  refine ⟨fun server hannounced => ?_, fun hannounced => ?_⟩
  · obtain ⟨announced, settings, htext, hkept, hstands⟩ := hsome _ hannounced
    obtain rfl := announcement_inj htext
    rw [hkept] at hholds
    have hstored := Settings.load_of_find_stored hholds
    exact ⟨⟨_, hstored⟩, hstands.view_eq_iff hpath hserver htimeout hstored⟩
  · obtain hloaded | ⟨_, hdirectory⟩ := load_of_holds hholds
    · have hplace : files.isDirectory path = false := by
        apply Bool.eq_false_iff.mpr
        intro hdirectory
        rw [Settings.load_of_find_directory (FileSystem.isDirectory_eq_true_iff.mp hdirectory)] at hloaded
        cases hloaded
      have hview := view_eq_of_server_eq hpath hserver htimeout hloaded (hnone hannounced)
      exact ⟨⟨fun _ => hplace, fun _ => ⟨_, hloaded⟩⟩, ⟨fun _ => hplace, fun _ => ⟨_, hview⟩⟩⟩
    · have hfault := Settings.load_of_find_directory hdirectory
      have hplace := FileSystem.isDirectory_eq_true_iff.mpr hdirectory
      rw [hfault, hplace]
      refine ⟨by simp, ⟨?_, by simp⟩⟩
      rintro ⟨secs, hview⟩
      obtain ⟨stored, hfound, _⟩ := (view_eq_ok_iff hpath hserver htimeout).mp hview
      rw [hfault] at hfound
      cases hfound

/-- Another timeout leaves the server as it was announced, and a reset brings the default one back. -/
theorem shown_server_after_reset :
    let environment : Environment := ⟨[("HOME", Utf8.encode "/home")]⟩
    let path := Path.ofText "/home/.config/roberta-admin/config.json"
    let named := configure environment {} (.setServer " http://h/ ") {}
    let timed := configure environment {} (.setTimeout 5) named.2
    let cleared := configure environment {} .reset timed.2
    named.1 = .ok ("Server set to: " ++ "http://h" ++ "\n") ∧
      (∃ secs, (configure environment {} .view timed.2).1 = .ok (viewText path ⟨"http://h", secs⟩)) ∧
      ∃ secs, (configure environment {} .view cleared.2).1 = .ok (viewText path ⟨defaultServer, secs⟩) := by
  intro environment path named timed cleared
  have hpath : environment.settingsPath? = some path := by decide +kernel
  have hserver : environment.setting? Settings.serverVariable = none := by decide +kernel
  have htimeout : environment.setting? Settings.timeoutVariable = none := by decide +kernel
  have hnamed : named.1 = .ok ("Server set to: " ++ "http://h" ++ "\n") := by decide +kernel
  have hstart : Leads path [] {} := .start (by decide +kernel)
  have htimed := (hstart.invoked hpath {} (.setServer " http://h/ ")).invoked hpath {} (.setTimeout 5)
  have hcleared := htimed.invoked hpath {} .reset
  obtain ⟨hshown, _⟩ := shown_server_iff htimed hpath hserver htimeout
  obtain ⟨_, hdefault⟩ := shown_server_iff hcleared hpath hserver htimeout
  refine ⟨hnamed, ?_, ?_⟩
  · exact (hshown "http://h" (by decide +kernel)).2.mpr (by decide +kernel)
  · exact (hdefault (by decide +kernel)).2.mpr (by decide +kernel)

/-- A blank before the last slash is announced and stored, but it does not outlast being loaded. Where nothing but
    that blank is left, no server is shown at all. -/
theorem shown_server_without_blank :
    let environment : Environment := ⟨[("HOME", Utf8.encode "/home")]⟩
    let path := Path.ofText "/home/.config/roberta-admin/config.json"
    let named (url : String) := configure environment {} (.setServer url) {}
    let shown (url : String) := (configure environment {} .view (named url).2).1
    ({} : FileSystem).contains path = false ∧
      (named "http://h /").1 = .ok ("Server set to: " ++ "http://h " ++ "\n") ∧
      shown "http://h /" = .ok (viewText path ⟨"http://h", 10⟩) ∧
      (∀ secs, shown "http://h /" ≠ .ok (viewText path ⟨"http://h ", secs⟩)) ∧
      (named "/ /").1 = .ok ("Server set to: " ++ "/ " ++ "\n") ∧
      shown "/ /" = .error .emptyServer := by
  intro environment path named shown
  have hshown : shown "http://h /" = .ok (viewText path ⟨"http://h", 10⟩) := by decide +kernel
  refine ⟨by decide +kernel, by decide +kernel, hshown, ?_, by decide +kernel, by decide +kernel⟩
  intro secs hblank
  have hsame := viewText_inj (Except.ok.inj (hshown.symm.trans hblank))
  have hserver : "http://h" = "http://h " := congrArg Settings.server hsame
  revert hserver
  decide

end RobotAdmin.Program
