import RobotAdmin.Proofs.Settings.Choosing

namespace RobotAdmin.Settings

/-- The sources of a setting in the order of their precedence. -/
structure Sources (α β : Type) where
  override : Option α
  fromVariable : Option β
  stored : α

/-- Sources that are the same down to the first that supplies the setting. Those below it may be anything. -/
structure Sources.AgreeWhereSupplied {α β : Type} (first second : Sources α β) : Prop where
  override_eq : first.override = second.override
  fromVariable_eq : first.override = none → first.fromVariable = second.fromVariable
  stored_eq : first.override = none → first.fromVariable = none → first.stored = second.stored

def serverSources (stored : Settings) (lookup : String → Option String) (overrides : Overrides) :
    Sources String String :=
  ⟨overrides.server, lookup serverVariable, stored.server⟩

def timeoutSources (stored : Settings) (lookup : String → Option String) (overrides : Overrides) :
    Sources UInt64 String :=
  ⟨overrides.timeoutSecs, lookup timeoutVariable, stored.timeoutSecs⟩

/-- The fault of a variable for the timeout, if it has one. -/
def variableFault? (text : Option String) : Option Fault :=
  match variableTimeout text with
  | .ok _ => none
  | .error fault => some fault

/-- The fault of the variable for the timeout, if a result tells it. -/
def readingFault? {α : Type} : Except Fault α → Option Fault
  | .error (.timeoutNotNumber text cause) => some (.timeoutNotNumber text cause)
  | _ => none

theorem readingFault?_map {α β : Type} (f : α → β) (result : Except Fault α) :
    readingFault? (result.map f) = readingFault? result := by
  cases result with
  | error fault => cases fault <;> rfl
  | ok value => rfl

section

variable {first second : Settings} {lookup other : String → Option String} {overrides others : Overrides}

theorem server_eq_of_agree
    (hagree : (serverSources first lookup overrides).AgreeWhereSupplied (serverSources second other others)) :
    overrides.server.getD ((lookup serverVariable).getD first.server) =
      others.server.getD ((other serverVariable).getD second.server) := by
  obtain ⟨hoverride, hvariable, hstored⟩ := hagree
  dsimp only [serverSources] at hoverride hvariable hstored
  rw [← hoverride]
  cases hsupplied : overrides.server with
  | some server => rfl
  | none =>
    rw [Option.getD_none, Option.getD_none, ← hvariable hsupplied]
    cases hset : lookup serverVariable with
    | some server => rfl
    | none => exact hstored hsupplied hset

theorem timeout_eq_of_agree {timeout otherTimeout : Option UInt64}
    (hagree : (timeoutSources first lookup overrides).AgreeWhereSupplied (timeoutSources second other others))
    (htimeout : variableTimeout (lookup timeoutVariable) = .ok timeout)
    (hother : variableTimeout (other timeoutVariable) = .ok otherTimeout) :
    overrides.timeoutSecs.getD (timeout.getD first.timeoutSecs) =
      others.timeoutSecs.getD (otherTimeout.getD second.timeoutSecs) := by
  obtain ⟨hoverride, hvariable, hstored⟩ := hagree
  dsimp only [timeoutSources] at hoverride hvariable hstored
  rw [← hoverride]
  cases hsupplied : overrides.timeoutSecs with
  | some secs => rfl
  | none =>
    rw [← hvariable hsupplied, htimeout] at hother
    obtain rfl := Except.ok.inj hother
    cases timeout with
    | some secs => rfl
    | none =>
      refine hstored hsupplied ?_
      cases hset : lookup timeoutVariable with
      | none => rfl
      | some text =>
        rw [hset, variableTimeout] at htimeout
        split at htimeout <;> cases htimeout

/-- The fault of the variable can be read off the result. -/
theorem readingFault?_resolve :
    readingFault? (first.resolve lookup overrides) = variableFault? (lookup timeoutVariable) := by
  unfold variableFault?
  cases htimeout : variableTimeout (lookup timeoutVariable) with
  | error fault =>
    rw [resolve_of_variableTimeout_error htimeout]
    unfold variableTimeout at htimeout
    split at htimeout
    · cases htimeout
    · split at htimeout
      · cases htimeout
      · obtain rfl := Except.error.inj htimeout
        rfl
  | ok timeout =>
    rw [resolve_of_variableTimeout htimeout]
    dsimp only
    split <;> rfl

/-- Where the sources of the server agree, only a fault of the variable for the timeout makes a difference to it. -/
theorem map_server_resolve_eq_iff
    (hserver : (serverSources first lookup overrides).AgreeWhereSupplied (serverSources second other others)) :
    (first.resolve lookup overrides).map server = (second.resolve other others).map server ↔
      variableFault? (lookup timeoutVariable) = variableFault? (other timeoutVariable) := by
  constructor
  · intro hsame
    have hfault := congrArg readingFault? hsame
    rwa [readingFault?_map, readingFault?_map, readingFault?_resolve, readingFault?_resolve] at hfault
  · intro hfault
    unfold variableFault? at hfault
    cases hfirst : variableTimeout (lookup timeoutVariable) with
    | error fault =>
      cases hsecond : variableTimeout (other timeoutVariable) with
      | error fault =>
        simp only [hfirst, hsecond, Option.some.injEq] at hfault
        rw [resolve_of_variableTimeout_error hfirst, resolve_of_variableTimeout_error hsecond, hfault]
      | ok timeout => simp [hfirst, hsecond] at hfault
    | ok timeout =>
      cases hsecond : variableTimeout (other timeoutVariable) with
      | error fault => simp [hfirst, hsecond] at hfault
      | ok otherTimeout =>
        rw [resolve_of_variableTimeout hfirst, resolve_of_variableTimeout hsecond, server_eq_of_agree hserver]
        dsimp only
        split <;> rfl

/-- Where the sources of the timeout agree, it is the same wherever there is a result. -/
theorem timeoutSecs_resolve_eq
    (htimeout : (timeoutSources first lookup overrides).AgreeWhereSupplied (timeoutSources second other others))
    {settings otherSettings : Settings} (hfirst : first.resolve lookup overrides = .ok settings)
    (hsecond : second.resolve other others = .ok otherSettings) : settings.timeoutSecs = otherSettings.timeoutSecs := by
  obtain ⟨supplied, hsupplies, hsecs⟩ := (resolve_eq_ok_iff.mp hfirst).timeoutSecs
  obtain ⟨otherSupplied, hothers, hother⟩ := (resolve_eq_ok_iff.mp hsecond).timeoutSecs
  have hsame := timeout_eq_of_agree htimeout (variableTimeout_eq_ok_iff.mpr hsupplies)
    (variableTimeout_eq_ok_iff.mpr hothers)
  rw [firstSupplied_eq, Option.some.injEq] at hsecs hother
  rw [← hsecs, ← hother, hsame]

/-- Where the sources of both settings agree, only a fault of the variable for the timeout can make a difference. -/
theorem resolve_eq_iff
    (hserver : (serverSources first lookup overrides).AgreeWhereSupplied (serverSources second other others))
    (htimeout : (timeoutSources first lookup overrides).AgreeWhereSupplied (timeoutSources second other others)) :
    first.resolve lookup overrides = second.resolve other others ↔
      variableFault? (lookup timeoutVariable) = variableFault? (other timeoutVariable) := by
  rw [← map_server_resolve_eq_iff hserver]
  refine ⟨congrArg (Except.map server), fun hsame => ?_⟩
  cases hfirst : first.resolve lookup overrides with
  | error fault =>
    cases hsecond : second.resolve other others with
    | error fault => simpa [hfirst, hsecond, Except.map] using hsame
    | ok settings => simp [hfirst, hsecond, Except.map] at hsame
  | ok settings =>
    cases hsecond : second.resolve other others with
    | error fault => simp [hfirst, hsecond, Except.map] at hsame
    | ok otherSettings =>
      have hsecs := timeoutSecs_resolve_eq htimeout hfirst hsecond
      rw [hfirst, hsecond] at hsame
      obtain ⟨server, secs⟩ := settings
      obtain rfl : server = otherSettings.server := Except.ok.inj hsame
      obtain rfl : secs = otherSettings.timeoutSecs := hsecs
      rfl

end

/-- What supplies a setting shadows the sources below it, but for one thing: a variable for the timeout that is no number
    is a fault even where an override hides it. With overrides for both settings the results are the same exactly if
    that fault is, whatever else is set or stored; and so it is for each setting on its own. -/
theorem resolve_precedence (first second : Settings) (lookup other : String → Option String)
    (overrides others : Overrides) :
    let sameFault := variableFault? (lookup timeoutVariable) = variableFault? (other timeoutVariable)
    (∀ server secs, overrides = ⟨some server, some secs⟩ →
      (first.resolve lookup overrides = second.resolve other overrides ↔ sameFault)) ∧
    ((serverSources first lookup overrides).AgreeWhereSupplied (serverSources second other others) →
      ((first.resolve lookup overrides).map server = (second.resolve other others).map server ↔ sameFault)) ∧
    ((timeoutSources first lookup overrides).AgreeWhereSupplied (timeoutSources second other others) →
      (∀ settings otherSettings, first.resolve lookup overrides = .ok settings →
        second.resolve other others = .ok otherSettings → settings.timeoutSecs = otherSettings.timeoutSecs) ∧
      (overrides.timeoutSecs = none → sameFault)) ∧
    ((serverSources first lookup overrides).AgreeWhereSupplied (serverSources second other others) →
      (timeoutSources first lookup overrides).AgreeWhereSupplied (timeoutSources second other others) →
        (first.resolve lookup overrides = second.resolve other others ↔ sameFault)) := by
  refine ⟨?_, map_server_resolve_eq_iff, fun htimeout => ⟨fun _ _ => timeoutSecs_resolve_eq htimeout, fun hnone => ?_⟩,
    resolve_eq_iff⟩
  · rintro server secs rfl
    exact resolve_eq_iff ⟨rfl, by simp [serverSources], by simp [serverSources]⟩
      ⟨rfl, by simp [timeoutSources], by simp [timeoutSources]⟩
  · exact congrArg variableFault? (htimeout.fromVariable_eq hnone)

/-- A blank server and a timeout in the variables, and other settings in the file, are shadowed by overrides. -/
theorem resolve_precedence_of_blank_server :
    let lookup (name : String) : Option String := if name = serverVariable then some " " else some "20"
    let overrides : Overrides := ⟨some "http://h/", some 3⟩
    variableFault? (lookup timeoutVariable) = variableFault? none ∧
      Settings.resolve ⟨"", 7⟩ lookup overrides = Settings.resolve {} (fun _ => none) overrides ∧
      Settings.resolve {} (fun _ => none) overrides = .ok ⟨"http://h", 3⟩ := by
  intro lookup overrides
  have hfault : variableFault? (lookup timeoutVariable) = variableFault? none := by decide +kernel
  have hshadowed := resolve_precedence ⟨"", 7⟩ {} lookup (fun _ => none) overrides overrides
  exact ⟨hfault, (hshadowed.1 "http://h/" 3 rfl).mpr hfault, by decide +kernel⟩

/-- A timeout that is no number is a fault although overrides supply both settings. -/
theorem resolve_of_hidden_malformed_timeout :
    let lookup (name : String) : Option String := if name = timeoutVariable then some "soon" else none
    let overrides : Overrides := ⟨some "http://h", some 3⟩
    Settings.resolve {} lookup overrides = .error (.timeoutNotNumber "soon" .invalidDigit) ∧
      Settings.resolve {} (fun _ => none) overrides = .ok ⟨"http://h", 3⟩ ∧
      ¬ ∀ (first second : Settings) (lookup other : String → Option String) (overrides : Overrides),
        overrides.server.isSome → overrides.timeoutSecs.isSome →
          first.resolve lookup overrides = second.resolve other overrides := by
  intro lookup overrides
  have hfault : Settings.resolve {} lookup overrides = .error (.timeoutNotNumber "soon" .invalidDigit) := by
    decide +kernel
  have hresult : Settings.resolve {} (fun _ => none) overrides = .ok ⟨"http://h", 3⟩ := by decide +kernel
  refine ⟨hfault, hresult, fun hshadowed => ?_⟩
  have hsame := hshadowed {} {} lookup (fun _ => none) overrides rfl rfl
  rw [hfault, hresult] at hsame
  cases hsame

end RobotAdmin.Settings
