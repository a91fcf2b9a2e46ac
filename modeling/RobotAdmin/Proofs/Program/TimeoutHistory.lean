import Mathlib.Control.Monad.Basic
import RobotAdmin.Proofs.FileSystem.Vacancy
import RobotAdmin.Proofs.Program.Configuring

namespace RobotAdmin

namespace Settings

variable {files : FileSystem} {path : Path}

theorem exists_save_of_vacant (hpath : path.NamesEntry) (hne : path.components.tail ≠ [])
    (hvacant : files.Vacant path) (settings : Settings) : ∃ saved, settings.save files path = (.ok (), saved) := by
  obtain ⟨made, written, hmade, hwrite⟩ := hvacant.exists_write hpath hne (Utf8.encode settings.stored)
  exact ⟨written, by simp only [save, hmade, hwrite]⟩

end Settings

namespace Program

/-- The place of the settings file is in order: it holds the stored form of settings, or nothing while the
    directories above it are there or can be made. -/
def InOrder (files : FileSystem) (path : Path) : Option Settings → Prop
  | none => files.Vacant path
  | some settings => files.find path = .ok (.file (Utf8.encode settings.stored))

section

variable {files : FileSystem} {path : Path} {kept : Option Settings}

theorem timeoutSecs_loaded_some (settings : Settings) : (loaded (some settings)).timeoutSecs = settings.timeoutSecs :=
  Settings.timeoutSecs_reread settings

theorem load_of_inOrder (horder : InOrder files path kept) : Settings.load files path = .ok (loaded kept) := by
  cases kept with
  | none =>
    obtain ⟨fault, hfind⟩ := FileSystem.Vacant.exists_find_error horder
    exact Settings.load_of_find_error hfind
  | some settings => exact Settings.load_of_find_stored horder

/-- Where the place of the file is in order, settings can always be stored. -/
theorem store_of_inOrder (hpath : path.NamesEntry) (hne : path.components.tail ≠ [])
    (horder : InOrder files path kept) (settings : Settings) (text : String) :
    ∃ saved, store path settings text files = (.ok text, saved) ∧ InOrder saved path (some settings) := by
  have hsaved : ∃ saved, settings.save files path = (.ok (), saved) := by
    cases kept with
    | none => exact Settings.exists_save_of_vacant hpath hne horder settings
    | some old => exact Settings.exists_save_of_find_file hpath horder settings
  obtain ⟨saved, hsave⟩ := hsaved
  exact ⟨saved, by simp only [store, hsave], Settings.find_of_save hsave⟩

theorem reset_of_inOrder (hpath : path.NamesEntry) (hne : path.components.tail ≠ [])
    (horder : InOrder files path kept) :
    ∃ removed, reset path files = (.ok "Configuration reset to defaults\n", removed) ∧ InOrder removed path none := by
  cases kept with
  | none =>
    obtain ⟨fault, hfind⟩ := FileSystem.Vacant.exists_find_error horder
    exact ⟨files, by simp only [reset, Settings.reset_of_find_error hfind], horder⟩
  | some settings =>
    obtain ⟨removed, target, hreset, htarget, hnone⟩ := Settings.reset_of_find_file hpath horder
    exact ⟨removed, by simp only [reset, hreset], FileSystem.vacant_of_get?_none hpath hne htarget hnone⟩

end

section

variable {environment : Environment} {files : FileSystem} {path : Path} {kept : Option Settings}

/-- A server is refused exactly if nothing is left of it, and then nothing changes. -/
theorem configure_setServer_of_inOrder (hpath : environment.settingsPath? = some path)
    (horder : InOrder files path kept) (overrides : Overrides) (url : String) :
    (Settings.normalizeServer url = "" ∧
      configure environment overrides (.setServer url) files = (.error .emptyServer, files)) ∨
    (Settings.normalizeServer url ≠ "" ∧ ∃ text after,
      configure environment overrides (.setServer url) files = (.ok text, after) ∧
        InOrder after path (some ⟨Settings.normalizeServer url, (loaded kept).timeoutSecs⟩)) := by
  rw [configure_eq hpath]
  simp only [setServer, load_of_inOrder horder, resolve_bare]
  by_cases hempty : Settings.normalizeServer url = ""
  · exact .inl ⟨hempty, by simp [hempty]⟩
  · obtain ⟨saved, hstore, hsaved⟩ := store_of_inOrder (namesEntry_of_settingsPath hpath)
      (tail_components_of_settingsPath hpath) horder ⟨Settings.normalizeServer url, (loaded kept).timeoutSecs⟩
      ("Server set to: " ++ Settings.normalizeServer url ++ "\n")
    rw [if_neg (by simpa using hempty)]
    exact .inr ⟨hempty, _, saved, hstore, hsaved⟩

theorem configure_setTimeout_of_inOrder (hpath : environment.settingsPath? = some path)
    (horder : InOrder files path kept) (overrides : Overrides) (secs : UInt64) :
    ∃ text after, configure environment overrides (.setTimeout secs) files = (.ok text, after) ∧
      InOrder after path (some { loaded kept with timeoutSecs := secs }) := by
  rw [configure_eq hpath]
  simp only [setTimeout, load_of_inOrder horder]
  exact ⟨_, store_of_inOrder (namesEntry_of_settingsPath hpath) (tail_components_of_settingsPath hpath) horder ..⟩

theorem configure_reset_of_inOrder (hpath : environment.settingsPath? = some path)
    (horder : InOrder files path kept) (overrides : Overrides) :
    ∃ text after, configure environment overrides .reset files = (.ok text, after) ∧ InOrder after path none := by
  rw [configure_eq hpath]
  exact ⟨_, reset_of_inOrder (namesEntry_of_settingsPath hpath) (tail_components_of_settingsPath hpath) horder⟩

end

/-- The actions that were carried out on the settings at a path, the latest first, and the state that they have
    led to. They begin where there is no settings file but one can be made. Whatever else happens in between, it
    neither writes the file nor takes its place away. -/
inductive Runs (path : Path) : List SettingsAction → FileSystem → Prop where
  | start {files : FileSystem} (hvacant : files.Vacant path) : Runs path [] files
  | elsewhere {actions : List SettingsAction} {files later : FileSystem} (hrun : Runs path actions files)
      (hplace : files.Vacant path → later.Vacant path)
      (hfile : ∀ bytes, files.find path = .ok (.file bytes) → later.find path = .ok (.file bytes)) :
      Runs path actions later
  | invoked {actions : List SettingsAction} {files : FileSystem} (hrun : Runs path actions files)
      {environment : Environment} (hpath : environment.settingsPath? = some path) (overrides : Overrides)
      (action : SettingsAction) : Runs path (action :: actions) (configure environment overrides action files).2

/-- The timeout that was set last, unless the settings were reset since. -/
def latestTimeout : List SettingsAction → Option UInt64
  | [] => none
  | .setTimeout secs :: _ => some secs
  | .reset :: _ => none
  | .setServer _ :: earlier | .view :: earlier => latestTimeout earlier

/-- What the settings file holds after all of the actions. -/
theorem Runs.inOrder {path : Path} {actions : List SettingsAction} {files : FileSystem}
    (hrun : Runs path actions files) :
    ∃ kept, InOrder files path kept ∧
      (loaded kept).timeoutSecs = (latestTimeout actions).getD defaultTimeoutSecs ∧
      (actions.head? = some .reset → kept = none) := by
  induction hrun with
  | start hvacant => exact ⟨none, hvacant, rfl, by simp⟩
  | elsewhere _ hplace hfile ih =>
    obtain ⟨kept, horder, hknown⟩ := ih
    refine ⟨kept, ?_, hknown⟩
    cases kept with
    | none => exact hplace horder
    | some settings => exact hfile _ horder
  | @invoked actions files _ environment hpath overrides action ih =>
    obtain ⟨kept, horder, htimeout, _⟩ := ih
    cases action with
    | view =>
      rw [configure_eq hpath]
      exact ⟨kept, horder, htimeout, by simp⟩
    | setServer url =>
      obtain ⟨_, hresult⟩ | ⟨_, text, after, hresult, hafter⟩ :=
        configure_setServer_of_inOrder hpath horder overrides url
      · rw [hresult]
        exact ⟨kept, horder, htimeout, by simp⟩
      · rw [hresult]
        exact ⟨_, hafter, (timeoutSecs_loaded_some _).trans htimeout, by simp⟩
    | setTimeout secs =>
      obtain ⟨text, after, hresult, hafter⟩ := configure_setTimeout_of_inOrder hpath horder overrides secs
      rw [hresult]
      exact ⟨_, hafter, timeoutSecs_loaded_some _, by simp⟩
    | reset =>
      obtain ⟨text, after, hresult, hafter⟩ := configure_reset_of_inOrder hpath horder overrides
      rw [hresult]
      exact ⟨_, hafter, rfl, fun _ => rfl⟩

/-- After any actions the settings file is absent or holds the stored form of settings, which can be loaded. Their
    timeout is the one that was set last since a reset, and the default where there is none; right behind a reset
    they are the default settings. A timeout can always be set and the settings can always be reset; a server is
    refused exactly if nothing but blanks and slashes at its end make it up. -/
theorem stored_settings_of_runs {path : Path} {actions : List SettingsAction} {files : FileSystem}
    (hrun : Runs path actions files) {environment : Environment} (hpath : environment.settingsPath? = some path) :
    (files.contains path = false ∨
      ∃ settings : Settings, files.read path = .ok (Utf8.encode settings.toJson.pretty)) ∧
    (∃ stored, storedSettings environment files = .ok stored ∧
      stored.timeoutSecs = (latestTimeout actions).getD 10) ∧
    (actions.head? = some .reset → storedSettings environment files = .ok {}) ∧
    ∀ overrides,
      (∀ secs, ∃ text, (configure environment overrides (.setTimeout secs) files).1 = .ok text) ∧
      (∃ text, (configure environment overrides .reset files).1 = .ok text) ∧
      ∀ url, (∃ fault, (configure environment overrides (.setServer url) files).1 = .error fault) ↔
        Text.dropSlashes (Text.trim url) = "" := by
  obtain ⟨kept, horder, htimeout, hreset⟩ := hrun.inOrder
  have hload : storedSettings environment files = .ok (loaded kept) := by
    rw [storedSettings, settingsPath, hpath]
    exact load_of_inOrder horder
  refine ⟨?_, ⟨_, hload, htimeout⟩, fun hhead => by rw [hload, hreset hhead]; rfl, fun overrides => ⟨?_, ?_, ?_⟩⟩
  · cases kept with
    | none =>
      obtain ⟨fault, hfind⟩ := FileSystem.Vacant.exists_find_error horder
      exact .inl (by simp [FileSystem.contains, hfind])
    | some settings =>
      have hfind : files.find path = .ok (.file (Utf8.encode settings.stored)) := horder
      exact .inr ⟨settings, by simp only [FileSystem.read, hfind, Settings.stored]⟩
  · intro secs
    obtain ⟨text, after, hresult, _⟩ := configure_setTimeout_of_inOrder hpath horder overrides secs
    exact ⟨text, by rw [hresult]⟩
  · obtain ⟨text, after, hresult, _⟩ := configure_reset_of_inOrder hpath horder overrides
    exact ⟨text, by rw [hresult]⟩
  · intro url
    show _ ↔ Settings.normalizeServer url = ""
    obtain ⟨hempty, hresult⟩ | ⟨hserver, text, after, hresult, _⟩ :=
      configure_setServer_of_inOrder hpath horder overrides url
    · simp [hresult, hempty]
    · simp [hresult, hserver]

/-- A timeout outlasts a server that is refused and one that is stored, until the settings are reset. Variables and
    flags have no part in it. -/
theorem stored_timeout_until_reset :
    let environment : Environment :=
      ⟨[("HOME", Utf8.encode "/home"), ("ROBERTA_SERVER", Utf8.encode "/"),
        ("ROBERTA_TIMEOUT_SECS", Utf8.encode "soon")]⟩
    let path := Path.ofText "/home/.config/roberta-admin/config.json"
    let timed := configure environment { timeoutSecs := some 3 } (.setTimeout 5) {}
    let refused := configure environment { server := some "http://h" } (.setServer " // ") timed.2
    let named := configure environment {} (.setServer "http://h /") refused.2
    let cleared := configure environment {} .reset named.2
    ({} : FileSystem).Vacant path ∧
      (∃ fault, refused.1 = .error fault) ∧
      (∃ settings : Settings, named.2.read path = .ok (Utf8.encode settings.toJson.pretty)) ∧
      (∃ stored, storedSettings environment named.2 = .ok stored ∧ stored.timeoutSecs = 5) ∧
      (∃ text, cleared.1 = .ok text) ∧
      storedSettings environment cleared.2 = .ok {} := by
  intro environment path timed refused named cleared
  have hpath : environment.settingsPath? = some path := by decide +kernel
  have hvacant : ({} : FileSystem).Vacant path :=
    ⟨(({} : FileSystem).ensureParent path).2, by decide +kernel, by decide +kernel⟩
  have htimed := (Runs.start hvacant).invoked hpath { timeoutSecs := some 3 } (.setTimeout 5)
  have hnamed := (htimed.invoked hpath { server := some "http://h" } (.setServer " // ")).invoked hpath {}
    (.setServer "http://h /")
  have hcleared := hnamed.invoked hpath {} .reset
  obtain ⟨_, _, _, hrefused⟩ := stored_settings_of_runs htimed hpath
  obtain ⟨hheld, hstored, _, hreset⟩ := stored_settings_of_runs hnamed hpath
  obtain ⟨_, _, hdefault, _⟩ := stored_settings_of_runs hcleared hpath
  refine ⟨hvacant, ?_, ?_, hstored, (hreset {}).2.1, hdefault rfl⟩
  · exact ((hrefused { server := some "http://h" }).2.2 " // ").mpr (by decide +kernel)
  · have hfound : ¬ named.2.contains path = false := by decide +kernel
    exact hheld.resolve_left hfound

end Program

end RobotAdmin
