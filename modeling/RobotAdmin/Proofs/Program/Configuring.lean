import RobotAdmin.Program.Configure
import RobotAdmin.Proofs.Settings.Keeping

namespace RobotAdmin.Program

/-- What the settings file holds: no settings if no file is found at all, or the stored form of some. -/
def Holds (files : FileSystem) (path : Path) : Option Settings → Prop
  | none => ∀ bytes, files.find path ≠ .ok (.file bytes)
  | some settings => files.find path = .ok (.file (Utf8.encode settings.stored))

/-- The settings that are loaded from what the file holds. -/
def loaded (kept : Option Settings) : Settings := kept.elim {} Settings.reread

/-- An action that was carried out, with the text for the user or the fault. -/
structure Outcome where
  action : SettingsAction
  result : Except Fault String

/-- What the settings file holds after an action. A failed action changes nothing. -/
def keptAfter (kept : Option Settings) : Outcome → Option Settings
  | ⟨.setServer url, .ok _⟩ => some ⟨Settings.normalizeServer url, (loaded kept).timeoutSecs⟩
  | ⟨.setTimeout secs, .ok _⟩ => some { loaded kept with timeoutSecs := secs }
  | ⟨.reset, .ok _⟩ => none
  | _ => kept

theorem exists_names_of_settingsPath {environment : Environment} {path : Path}
    (hpath : environment.settingsPath? = some path) :
    ∃ before, path.names = before ++ [Utf8.encode "roberta-admin"] ++ [Utf8.encode "config.json"] ∧
      path.endsInSlash = false := by
  obtain ⟨directory, _, rfl⟩ := Option.map_eq_some_iff.mp hpath
  have hdirectory : Path.IsName (Utf8.encode "roberta-admin") := by constructor <;> decide
  have hfile : Path.IsName (Utf8.encode "config.json") := by constructor <;> decide
  exact ⟨directory.names, by rw [Path.names_join _ hfile, Path.names_join _ hdirectory], Path.endsInSlash_join _ hfile⟩

theorem namesEntry_of_settingsPath {environment : Environment} {path : Path}
    (hpath : environment.settingsPath? = some path) : path.NamesEntry := by
  obtain ⟨before, hnames, hslash⟩ := exists_names_of_settingsPath hpath
  exact ⟨⟨_, _, hnames, by decide, by decide⟩, hslash⟩

/-- The settings file lies in a directory of its own. -/
theorem tail_components_of_settingsPath {environment : Environment} {path : Path}
    (hpath : environment.settingsPath? = some path) : path.components.tail ≠ [] := by
  obtain ⟨before, hnames, _⟩ := exists_names_of_settingsPath hpath
  have hreverse := Path.reverse_tail_components hnames (by decide)
  rw [Path.withoutDots_concat (by decide)] at hreverse
  intro hnil
  simp [hnil] at hreverse

section

variable {files after : FileSystem} {path : Path} {kept : Option Settings} {result : Except Fault String}

/-- Loading fails only where a directory stands in the place of the file. -/
theorem load_of_holds (hholds : Holds files path kept) :
    Settings.load files path = .ok (loaded kept) ∨ kept = none ∧ files.find path = .ok .directory := by
  cases kept with
  | some settings => exact .inl (Settings.load_of_find_stored hholds)
  | none =>
    cases hfind : files.find path with
    | error fault => exact .inl (Settings.load_of_find_error hfind)
    | ok entry =>
      cases entry with
      | file bytes => exact absurd hfind (hholds bytes)
      | directory => exact .inr ⟨rfl, rfl⟩

theorem store_cases (hpath : path.NamesEntry) (hholds : Holds files path kept) {settings : Settings} {text : String}
    (hstore : store path settings text files = (result, after)) :
    result = .ok text ∧ Holds after path (some settings) ∨
      ∃ fault, result = .error fault ∧ Holds after path kept := by
  unfold store at hstore
  split at hstore
  · rename_i fault made hsave
    obtain ⟨rfl, rfl⟩ := Prod.mk.inj hstore
    refine .inr ⟨fault, rfl, ?_⟩
    cases kept with
    | none => exact Settings.find_of_save_error hpath hsave
    | some old =>
      obtain ⟨saved, hsaved⟩ := Settings.exists_save_of_find_file hpath hholds settings
      rw [hsaved] at hsave
      cases hsave
  · rename_i saved hsave
    obtain ⟨rfl, rfl⟩ := Prod.mk.inj hstore
    exact .inl ⟨rfl, Settings.find_of_save hsave⟩

theorem resolve_bare (settings : Settings) :
    settings.resolve (fun _ => none) {} =
      if (Settings.normalizeServer settings.server).isEmpty then .error .emptyServer else .ok settings.reread := rfl

theorem setServer_cases (hpath : path.NamesEntry) (hholds : Holds files path kept) {url : String}
    (hset : setServer path url files = (result, after)) :
    (result = .ok ("Server set to: " ++ Settings.normalizeServer url ++ "\n") ∧
      (Settings.normalizeServer url).isEmpty = false ∧
      Holds after path (some ⟨Settings.normalizeServer url, (loaded kept).timeoutSecs⟩)) ∨
      ∃ fault, result = .error fault ∧ Holds after path kept := by
  unfold setServer at hset
  split at hset
  · rename_i fault _
    obtain ⟨rfl, rfl⟩ := Prod.mk.inj hset
    exact .inr ⟨fault, rfl, hholds⟩
  · rename_i stored hload
    rw [resolve_bare] at hset
    split at hset
    · rename_i fault _
      obtain ⟨rfl, rfl⟩ := Prod.mk.inj hset
      exact .inr ⟨fault, rfl, hholds⟩
    · rename_i settings hresolve
      split at hresolve
      · cases hresolve
      · rename_i hempty
        obtain rfl := Except.ok.inj hresolve
        obtain hloaded | ⟨_, hdirectory⟩ := load_of_holds hholds
        · obtain rfl := Except.ok.inj (hload.symm.trans hloaded)
          obtain ⟨hresult, hafter⟩ | hfailed := store_cases hpath hholds hset
          · exact .inl ⟨hresult, Bool.eq_false_iff.mpr hempty, hafter⟩
          · exact .inr hfailed
        · rw [Settings.load_of_find_directory hdirectory] at hload
          cases hload

theorem setTimeout_cases (hpath : path.NamesEntry) (hholds : Holds files path kept) {secs : UInt64}
    (hset : setTimeout path secs files = (result, after)) :
    (∃ text, result = .ok text ∧ Holds after path (some { loaded kept with timeoutSecs := secs })) ∨
      ∃ fault, result = .error fault ∧ Holds after path kept := by
  unfold setTimeout at hset
  split at hset
  · rename_i fault _
    obtain ⟨rfl, rfl⟩ := Prod.mk.inj hset
    exact .inr ⟨fault, rfl, hholds⟩
  · rename_i stored hload
    obtain hloaded | ⟨_, hdirectory⟩ := load_of_holds hholds
    · obtain rfl := Except.ok.inj (hload.symm.trans hloaded)
      obtain ⟨hresult, hafter⟩ | hfailed := store_cases hpath hholds hset
      · exact .inl ⟨_, hresult, hafter⟩
      · exact .inr hfailed
    · rw [Settings.load_of_find_directory hdirectory] at hload
      cases hload

theorem reset_cases (hpath : path.NamesEntry) (hholds : Holds files path kept)
    (hreset : reset path files = (result, after)) :
    (∃ text, result = .ok text ∧ Holds after path none) ∨ ∃ fault, result = .error fault ∧ Holds after path kept := by
  unfold reset at hreset
  cases hfind : files.find path with
  | error fault =>
    rw [Settings.reset_of_find_error hfind] at hreset
    obtain ⟨rfl, rfl⟩ := Prod.mk.inj hreset
    exact .inl ⟨_, rfl, fun bytes hbytes => by simp [hfind] at hbytes⟩
  | ok entry =>
    cases entry with
    | directory =>
      rw [Settings.reset_of_find_directory hpath hfind] at hreset
      obtain ⟨rfl, rfl⟩ := Prod.mk.inj hreset
      exact .inr ⟨_, rfl, hholds⟩
    | file bytes =>
      obtain ⟨removed, target, hremove, htarget, hnone⟩ := Settings.reset_of_find_file hpath hfind
      have hgone := FileSystem.find_of_get?_none htarget hnone
      rw [hremove] at hreset
      obtain ⟨rfl, rfl⟩ := Prod.mk.inj hreset
      exact .inl ⟨_, rfl, fun bytes hbytes => by simp [hgone] at hbytes⟩

/-- What an action does where the path of the settings is known. -/
theorem configure_eq {environment : Environment} (hpath : environment.settingsPath? = some path)
    (overrides : Overrides) (action : SettingsAction) :
    configure environment overrides action files =
      match action with
      | .view => ((effectiveSettings environment overrides files).map (viewText path), files)
      | .setServer url => setServer path url files
      | .setTimeout secs => setTimeout path secs files
      | .reset => reset path files := by
  have hsettings : settingsPath environment = .ok path := by rw [settingsPath, hpath]
  cases action <;> simp only [configure, hsettings]

/-- Whatever an action does to the file is told by the action and its result alone. -/
theorem holds_configure {environment : Environment} (hpath : environment.settingsPath? = some path)
    (hholds : Holds files path kept) (overrides : Overrides) (action : SettingsAction) :
    Holds (configure environment overrides action files).2 path
      (keptAfter kept ⟨action, (configure environment overrides action files).1⟩) := by
  have hentry := namesEntry_of_settingsPath hpath
  rw [configure_eq hpath]
  cases action with
  | view =>
    dsimp only
    cases effectiveSettings environment overrides files with
    | error fault => exact hholds
    | ok settings => exact hholds
  | setServer url =>
    dsimp only
    rcases hset : setServer path url files with ⟨result, after⟩
    obtain ⟨rfl, _, hafter⟩ | ⟨fault, rfl, hafter⟩ := setServer_cases hentry hholds hset
    · exact hafter
    · exact hafter
  | setTimeout secs =>
    dsimp only
    rcases hset : setTimeout path secs files with ⟨result, after⟩
    obtain ⟨text, rfl, hafter⟩ | ⟨fault, rfl, hafter⟩ := setTimeout_cases hentry hholds hset
    · exact hafter
    · exact hafter
  | reset =>
    dsimp only
    rcases hreset : reset path files with ⟨result, after⟩
    obtain ⟨text, rfl, hafter⟩ | ⟨fault, rfl, hafter⟩ := reset_cases hentry hholds hreset
    · exact hafter
    · exact hafter

/-- What a user is told when a server is stored: its normal form, which is not empty. -/
theorem configure_setServer_ok {environment : Environment} (hpath : environment.settingsPath? = some path)
    (hholds : Holds files path kept) {overrides : Overrides} {url text : String}
    (htext : (configure environment overrides (.setServer url) files).1 = .ok text) :
    text = "Server set to: " ++ Settings.normalizeServer url ++ "\n" ∧
      (Settings.normalizeServer url).isEmpty = false := by
  rw [configure_eq hpath] at htext
  dsimp only at htext
  rcases hset : setServer path url files with ⟨result, after⟩
  rw [hset] at htext
  obtain ⟨rfl, hempty, _⟩ | ⟨fault, rfl, _⟩ := setServer_cases (namesEntry_of_settingsPath hpath) hholds hset
  · exact ⟨(Except.ok.inj htext).symm, hempty⟩
  · cases htext

end

end RobotAdmin.Program
