import RobotAdmin.Program.Run

namespace RobotAdmin

namespace Environment

/-- Environments that differ at most in the variables for settings. -/
def AgreesBeyondSettings (first second : Environment) : Prop :=
  ∀ name, name ≠ Settings.serverVariable → name ≠ Settings.timeoutVariable →
    first.bytes? name = second.bytes? name

theorem AgreesBeyondSettings.settingsPath?_eq {first second : Environment}
    (hagrees : first.AgreesBeyondSettings second) : first.settingsPath? = second.settingsPath? := by
  have hdirectory := hagrees "XDG_CONFIG_HOME" (by decide) (by decide)
  have hhome := hagrees "HOME" (by decide) (by decide)
  simp only [settingsPath?, settingsDirectory?, hdirectory, hhome]

/-- An environment in which no variable for settings is set. -/
def withoutSettings (environment : Environment) : Environment where
  bindings := environment.bindings.filter fun binding =>
    binding.1 != Settings.serverVariable && binding.1 != Settings.timeoutVariable

theorem lookup_filter_key {α : Type} (keeps : String → Bool) (name : String) (bindings : List (String × α)) :
    (bindings.filter fun binding => keeps binding.1).lookup name =
      if keeps name then bindings.lookup name else none := by
  induction bindings with
  | nil => simp
  | cons binding bindings ih =>
    obtain ⟨found, value⟩ := binding
    rw [List.filter_cons]
    by_cases hname : name = found
    · subst hname
      cases hkeeps : keeps name <;> simp [hkeeps, ih]
    · have hother : (name == found) = false := beq_eq_false_iff_ne.mpr hname
      cases hkeeps : keeps found <;> simp [List.lookup_cons, hother, ih]

theorem bytes?_withoutSettings (environment : Environment) (name : String) :
    environment.withoutSettings.bytes? name =
      if name != Settings.serverVariable && name != Settings.timeoutVariable then environment.bytes? name
      else none :=
  lookup_filter_key (fun name => name != Settings.serverVariable && name != Settings.timeoutVariable) name
    environment.bindings

/-- Neither of the settings is found there. -/
theorem setting?_withoutSettings (environment : Environment) :
    environment.withoutSettings.setting? Settings.serverVariable = none ∧
      environment.withoutSettings.setting? Settings.timeoutVariable = none := by
  simp [setting?, bytes?_withoutSettings]

theorem agreesBeyondSettings_withoutSettings (environment : Environment) :
    environment.AgreesBeyondSettings environment.withoutSettings := by
  intro name hserver htimeout
  rw [bytes?_withoutSettings, if_pos (by simp [hserver, htimeout])]

end Environment

namespace Program

/-- Where the settings file is decides alone what is done to it and what is said about that. -/
theorem configure_of_settingsPath?_eq {first second : Environment}
    (hpath : first.settingsPath? = second.settingsPath?) {action : SettingsAction} (hstores : action ≠ .view)
    (overrides others : Overrides) (files : FileSystem) :
    configure first overrides action files = configure second others action files := by
  have hsettings : settingsPath first = settingsPath second := by rw [settingsPath, settingsPath, hpath]
  rw [configure, configure, hsettings]
  cases settingsPath second with
  | error fault => rfl
  | ok path =>
    cases action with
    | view => exact absurd rfl hstores
    | setServer url => rfl
    | setTimeout secs => rfl
    | reset => rfl

theorem files_configure_view (environment : Environment) (overrides : Overrides) (files : FileSystem) :
    (configure environment overrides .view files).2 = files := by
  rw [configure]
  cases settingsPath environment <;> rfl

theorem perform_configure {line : CommandLine} {action : Option SettingsAction}
    (htask : line.task = .configure action) (environment : Environment) (files : FileSystem)
    (network : Http.Network) :
    perform line environment files network =
      let (result, changed) := configure environment line.overrides (action.getD .view) files
      match result with
      | .error fault => .ofResult (.error fault) "" changed network
      | .ok output => .ofResult (.ok ()) output changed network := by
  simp only [perform, htask]
  rcases configure environment line.overrides (action.getD .view) files with ⟨_ | _, changed⟩ <;> rfl

theorem files_ofResult (result : Except Fault Unit) (output : String) (files : FileSystem)
    (network : Http.Network) : (Ending.ofResult result output files network).files = files := by
  cases result <;> rfl

theorem files_perform_configure {line : CommandLine} {action : Option SettingsAction}
    (htask : line.task = .configure action) (environment : Environment) (files : FileSystem)
    (network : Http.Network) :
    (perform line environment files network).files =
      (configure environment line.overrides (action.getD .view) files).2 := by
  rw [perform_configure htask]
  rcases configure environment line.overrides (action.getD .view) files with ⟨_ | _, changed⟩ <;> rfl

theorem files_perform_send {line : CommandLine} {command : Command} (htask : line.task = .send command)
    (environment : Environment) (files : FileSystem) (network : Http.Network) :
    (perform line environment files network).files = files := by
  simp only [perform, htask]
  cases effectiveSettings environment line.overrides files <;> exact files_ofResult ..

/-- An invocation of the program: its words, and what it finds apart from the files. -/
structure Invocation where
  words : List CommandLine.Word
  environment : Environment
  network : Http.Network

/-- What an invocation asks to be stored. -/
def Invocation.change? (invocation : Invocation) : Option SettingsAction :=
  match CommandLine.parse invocation.words with
  | .error _ => none
  | .ok line =>
    match line.task with
    | .send _ | .configure none | .configure (some .view) => none
    | .configure (some action) => some action

/-- The files after one invocation after the other. -/
def filesAfter (files : FileSystem) (invocations : List Invocation) : FileSystem :=
  invocations.foldl
    (fun files invocation => (run invocation.words invocation.environment files invocation.network).files) files

/-- The files after those invocations alone that store something, without flags and variables for settings. -/
def bareFilesAfter (files : FileSystem) (invocations : List Invocation) : FileSystem :=
  (invocations.filterMap fun invocation => invocation.change?.map (invocation, ·)).foldl
    (fun files (invocation, action) =>
      (perform { task := .configure (some action) } invocation.environment.withoutSettings files {}).files) files

/-- One invocation leaves the files as they are, or as the action that it asks for leaves them by itself. -/
theorem files_run (invocation : Invocation) (files : FileSystem) :
    (run invocation.words invocation.environment files invocation.network).files =
      match invocation.change? with
      | none => files
      | some action =>
        (perform { task := .configure (some action) } invocation.environment.withoutSettings files {}).files := by
  obtain ⟨words, environment, network⟩ := invocation
  cases hparse : CommandLine.parse words with
  | error stop =>
    simp only [run, Invocation.change?, hparse]
    split <;> rfl
  | ok line =>
    have hrun : run words environment files network = perform line environment files network := by
      simp only [run, hparse]
    rw [hrun]
    cases htask : line.task with
    | send command =>
      simp only [Invocation.change?, hparse, htask]
      exact files_perform_send htask environment files network
    | configure action =>
      rw [files_perform_configure htask]
      have hbare (action : SettingsAction) (hstores : action ≠ .view) :
          (configure environment line.overrides action files).2 =
            (perform { task := .configure (some action) } environment.withoutSettings files {}).files := by
        have hpath := environment.agreesBeyondSettings_withoutSettings.settingsPath?_eq
        rw [files_perform_configure rfl]
        exact congrArg Prod.snd (configure_of_settingsPath?_eq hpath hstores line.overrides _ files)
      rcases action with _ | _ | url | secs | _
      · simp only [Invocation.change?, hparse, htask]
        exact files_configure_view environment line.overrides files
      · simp only [Invocation.change?, hparse, htask]
        exact files_configure_view environment line.overrides files
      · simp only [Invocation.change?, hparse, htask]
        exact hbare (.setServer url) (by simp)
      · simp only [Invocation.change?, hparse, htask]
        exact hbare (.setTimeout secs) (by simp)
      · simp only [Invocation.change?, hparse, htask]
        exact hbare .reset (by simp)

theorem filesAfter_eq_bareFilesAfter (files : FileSystem) (invocations : List Invocation) :
    filesAfter files invocations = bareFilesAfter files invocations := by
  induction invocations generalizing files with
  | nil => rfl
  | cons invocation invocations ih =>
    have hfirst := files_run invocation files
    rw [filesAfter, List.foldl_cons, hfirst]
    refine (ih _).trans ?_
    rw [bareFilesAfter, bareFilesAfter, List.filterMap_cons]
    cases hchange : invocation.change? <;> rfl

/-- What is stored, and what is said about it, has nothing to do with the flags and variables for settings. What is
    shown or sent leaves the files alone. So the files after any invocations are those after the ones that store
    something, without such flags and variables. -/
theorem stored_without_transients :
    (∀ first second : Environment, first.AgreesBeyondSettings second →
      ∀ (line other : CommandLine) (action : SettingsAction), action ≠ .view →
        line.task = .configure (some action) → other.task = .configure (some action) →
          ∀ files network, perform line first files network = perform other second files network) ∧
    (∀ line : CommandLine, line.task = .configure none ∨ line.task = .configure (some .view) ∨
        (∃ command, line.task = .send command) →
      ∀ environment files network, (perform line environment files network).files = files) ∧
    (∀ environment : Environment, environment.withoutSettings.setting? Settings.serverVariable = none ∧
      environment.withoutSettings.setting? Settings.timeoutVariable = none) ∧
    ∀ files invocations, filesAfter files invocations = bareFilesAfter files invocations := by
  refine ⟨?_, ?_, Environment.setting?_withoutSettings, filesAfter_eq_bareFilesAfter⟩
  · intro first second hagrees line other action hstores hline hother files network
    have hsame := configure_of_settingsPath?_eq hagrees.settingsPath?_eq hstores line.overrides other.overrides files
    rw [perform_configure hline, perform_configure hother, Option.getD_some, hsame]
  · rintro line (htask | htask | ⟨command, htask⟩) environment files network
    · rw [files_perform_configure htask]
      exact files_configure_view environment line.overrides files
    · rw [files_perform_configure htask]
      exact files_configure_view environment line.overrides files
    · exact files_perform_send htask environment files network

/-- A timeout is stored in spite of a variable that is no number, and neither what the variable for the server says
    nor a flag is. -/
theorem stored_without_malformed_timeout :
    let environment : Environment :=
      ⟨[("HOME", Utf8.encode "/home"), ("ROBERTA_SERVER", Utf8.encode "http://x"),
        ("ROBERTA_TIMEOUT_SECS", Utf8.encode "soon")]⟩
    let home : Environment := ⟨[("HOME", Utf8.encode "/home")]⟩
    let line : CommandLine := { server := some "http://y", task := .configure (some (.setTimeout 5)) }
    let bare : CommandLine := { task := .configure (some (.setTimeout 5)) }
    environment.AgreesBeyondSettings home ∧ perform line environment {} {} = perform bare home {} {} ∧
      (perform line environment {} {}).output = "Timeout set to: 5 s\n" := by
  intro environment home line bare
  have hagrees : environment.AgreesBeyondSettings home := by
    have hhome : environment.withoutSettings = home := rfl
    rw [← hhome]
    exact environment.agreesBeyondSettings_withoutSettings
  have hsame := stored_without_transients.1 environment home hagrees line bare (.setTimeout 5) (by simp) rfl rfl {} {}
  have houtput : (perform bare home {} {}).output = "Timeout set to: 5 s\n" := by decide +kernel
  exact ⟨hagrees, hsame, hsame ▸ houtput⟩

end Program

end RobotAdmin
