import Mathlib.Logic.Function.Iterate
import RobotAdmin.Proofs.Settings.Choosing

namespace RobotAdmin

/-- Dropping an ending and then a longer one is dropping the longer one. -/
theorem Text.dropEnd_dropEnd_of_imp {p q : Char → Bool} (himp : ∀ c, p c = true → q c = true) (text : List Char) :
    dropEnd q (dropEnd p text) = dropEnd q text := by
  rw [dropEnd, dropEnd, List.reverse_reverse, dropEnd]
  congr 1
  induction text.reverse with
  | nil => rfl
  | cons c rest ih =>
    by_cases hc : p c = true
    · rw [List.dropWhile_cons_of_pos hc, ih, List.dropWhile_cons_of_pos (himp c hc)]
    · rw [List.dropWhile_cons_of_neg hc]

namespace Settings

/-- Whether a character at the end of a server is taken off sooner or later. -/
def isDispensable (c : Char) : Bool := Text.isBlank c || c == '/'

/-- What no normalization takes off a server: all but the blanks at its start and the longest ending of blanks and
    slashes. -/
def core (server : String) : String :=
  String.ofList (Text.dropEnd isDispensable (server.toList.dropWhile Text.isBlank))

theorem toList_core (server : String) :
    (core server).toList = Text.dropEnd isDispensable (server.toList.dropWhile Text.isBlank) := by
  rw [core, String.toList_ofList]

theorem core_normalizeServer (server : String) : core (normalizeServer server) = core server := by
  apply String.toList_inj.mp
  rw [toList_core, toList_core, Text.dropWhile_isBlank_of_prefix (normalizeServer_isPrefix server),
    toList_normalizeServer, Text.dropEnd_dropEnd_of_imp (by simp [isDispensable]), Text.trimBlank,
    Text.dropEnd_dropEnd_of_imp (by simp +contextual [isDispensable])]

theorem core_isPrefix_normalizeServer (server : String) :
    (core server).toList <+: (normalizeServer server).toList := by
  rw [← core_normalizeServer, toList_core, Text.dropWhile_isBlank_of_prefix (normalizeServer_isPrefix server)]
  exact List.rdropWhile_prefix _ _

theorem normalizeServer_core (server : String) : normalizeServer (core server) = core server := by
  have hcore : core (core server) = core server := by
    have hstart : (core server).toList <+: server.toList.dropWhile Text.isBlank := by
      rw [toList_core]
      exact List.rdropWhile_prefix _ _
    apply String.toList_inj.mp
    rw [toList_core (core server), Text.dropWhile_isBlank_of_prefix hstart, toList_core, Text.dropEnd_dropEnd]
  have hbegins := core_isPrefix_normalizeServer (core server)
  have hlength := length_normalizeServer_le (core server)
  rw [hcore] at hbegins
  rw [← String.length_toList, ← String.length_toList] at hlength
  exact String.toList_inj.mp (hbegins.eq_of_length_le hlength).symm

/-- A server in normal form is its core, or it ends in a blank and becomes shorter. -/
theorem normalizeServer_eq_core_or_length_lt (server : String) :
    normalizeServer server = core server ∨
      (normalizeServer (normalizeServer server)).length < (normalizeServer server).length := by
  cases hblank : Text.endsInBlank (normalizeServer server).toList with
  | true => exact .inr (length_normalizeServer_lt hblank)
  | false =>
    left
    have hlast : (normalizeServer server).toList.getLast?.any isDispensable = false := by
      have hslash := getLast?_normalizeServer server
      unfold Text.endsInBlank at hblank
      cases hend : (normalizeServer server).toList.getLast? with
      | none => rfl
      | some c =>
        rw [hend, Option.any_some] at hblank
        rw [hend] at hslash
        simpa [isDispensable, hblank] using hslash
    apply String.toList_inj.mp
    rw [← core_normalizeServer, toList_core, Text.dropWhile_isBlank_of_prefix (normalizeServer_isPrefix server),
      Text.dropEnd_of_last hlast]

section

variable (server : String)

theorem core_iterate (n : Nat) : core (normalizeServer^[n] server) = core server := by
  induction n with
  | zero => rfl
  | succ n ih => rw [Function.iterate_succ_apply', core_normalizeServer, ih]

theorem core_isPrefix_iterate (n : Nat) : (core server).toList <+: (normalizeServer^[n + 1] server).toList := by
  rw [Function.iterate_succ_apply', ← core_iterate server n]
  exact core_isPrefix_normalizeServer _

theorem iterate_isPrefix_iterate {m n : Nat} (hle : m ≤ n) :
    (normalizeServer^[n + 1] server).toList <+: (normalizeServer^[m + 1] server).toList := by
  induction n, hle using Nat.le_induction with
  | base => exact List.prefix_rfl
  | succ n hle ih =>
    have hround (k : Nat) : normalizeServer^[k + 1] server = normalizeServer (normalizeServer^[k] server) :=
      Function.iterate_succ_apply' ..
    have hstart : (normalizeServer^[n + 1] server).toList.dropWhile Text.isBlank =
        (normalizeServer^[n + 1] server).toList := by
      rw [hround, Text.dropWhile_isBlank_of_prefix (normalizeServer_isPrefix _)]
    have hbegins := normalizeServer_isPrefix (normalizeServer^[n + 1] server)
    rw [hstart, ← hround] at hbegins
    exact hbegins.trans ih

/-- Each round that does not reach the core takes off a character. -/
theorem iterate_eq_core_or_length_le (n : Nat) :
    normalizeServer^[n + 1] server = core server ∨
      (normalizeServer^[n + 1] server).length + n ≤ server.length := by
  induction n with
  | zero =>
    right
    rw [Nat.add_zero, Nat.zero_add, Function.iterate_one]
    exact length_normalizeServer_le server
  | succ n ih =>
    rw [Function.iterate_succ_apply' normalizeServer (n + 1)]
    rcases ih with hcore | hlength
    · left
      rw [hcore, normalizeServer_core]
    · have hround : normalizeServer^[n + 1] server = normalizeServer (normalizeServer^[n] server) :=
        Function.iterate_succ_apply' ..
      have hstep := normalizeServer_eq_core_or_length_lt (normalizeServer^[n] server)
      rw [core_iterate, ← hround] at hstep
      rcases hstep with hcore | hshorter
      · left
        rw [hcore, normalizeServer_core]
      · right
        omega

theorem iterate_eq_core {n : Nat} (hn : server.length < n) : normalizeServer^[n] server = core server := by
  obtain ⟨n, rfl⟩ : ∃ k, n = k + 1 := ⟨n - 1, by omega⟩
  rcases iterate_eq_core_or_length_le server n with hcore | hlength
  · exact hcore
  · have hempty : (normalizeServer^[n + 1] server).toList = [] := by
      apply List.eq_nil_of_length_eq_zero
      rw [String.length_toList]
      omega
    have hbegins := core_isPrefix_iterate server n
    rw [hempty] at hbegins
    exact String.toList_inj.mp (hempty.trans (List.prefix_nil.mp hbegins).symm)

end

/-- What comes of resolving settings a number of times, each time what came of the last. An error ends it. -/
def rounds (stored : Settings) (lookup : String → Option String) (overrides : Overrides) : Nat → Except Fault Settings
  | 0 => .ok stored
  | n + 1 =>
    match rounds stored lookup overrides n with
    | .error fault => .error fault
    | .ok settings => settings.resolve lookup overrides

section

variable {stored : Settings} {lookup : String → Option String} {overrides : Overrides}

theorem rounds_succ_of_ok {n : Nat} {settings : Settings} (hround : rounds stored lookup overrides n = .ok settings) :
    rounds stored lookup overrides (n + 1) = settings.resolve lookup overrides := by
  rw [rounds, hround]

theorem exists_round_of_succ_ok {n : Nat} {later : Settings}
    (hlater : rounds stored lookup overrides (n + 1) = .ok later) :
    ∃ settings, rounds stored lookup overrides n = .ok settings ∧ settings.resolve lookup overrides = .ok later := by
  cases hround : rounds stored lookup overrides n with
  | error fault => simp [rounds, hround] at hlater
  | ok settings => exact ⟨settings, rfl, (rounds_succ_of_ok hround).symm.trans hlater⟩

/-- An error is that of a round whose settings were there. -/
theorem exists_failing_round {n : Nat} {fault : Fault} (hfault : rounds stored lookup overrides n = .error fault) :
    ∃ m < n, ∃ settings, rounds stored lookup overrides m = .ok settings ∧
      settings.resolve lookup overrides = .error fault := by
  induction n with
  | zero => cases hfault
  | succ n ih =>
    cases hround : rounds stored lookup overrides n with
    | error cause =>
      rw [rounds, hround] at hfault
      obtain rfl := Except.error.inj hfault
      obtain ⟨m, hm, hfails⟩ := ih hround
      exact ⟨m, by omega, hfails⟩
    | ok settings => exact ⟨n, by omega, settings, hround, (rounds_succ_of_ok hround).symm.trans hfault⟩

theorem rounds_succ_of_fixed (hfixed : ∀ settings, stored.resolve lookup overrides = .ok settings →
    settings.resolve lookup overrides = .ok settings) (n : Nat) :
    rounds stored lookup overrides (n + 1) = stored.resolve lookup overrides := by
  induction n with
  | zero => rfl
  | succ n ih =>
    rw [rounds, ih]
    cases hresolve : stored.resolve lookup overrides with
    | error fault => rfl
    | ok settings => exact hfixed settings hresolve

variable {timeout : Option UInt64}

theorem timeoutSecs_resolve (htimeout : variableTimeout (lookup timeoutVariable) = .ok timeout) {settings : Settings}
    (hresolve : stored.resolve lookup overrides = .ok settings) :
    settings.timeoutSecs = overrides.timeoutSecs.getD (timeout.getD stored.timeoutSecs) := by
  rw [resolve_of_variableTimeout htimeout] at hresolve
  dsimp only at hresolve
  split at hresolve
  · cases hresolve
  · obtain rfl := Except.ok.inj hresolve
    rfl

/-- A round leaves the timeout that another one has chosen. -/
theorem timeoutSecs_rounds (htimeout : variableTimeout (lookup timeoutVariable) = .ok timeout) {n : Nat}
    {settings : Settings} (hround : rounds stored lookup overrides (n + 1) = .ok settings) :
    settings.timeoutSecs = overrides.timeoutSecs.getD (timeout.getD stored.timeoutSecs) := by
  induction n generalizing settings with
  | zero => exact timeoutSecs_resolve htimeout hround
  | succ n ih =>
    obtain ⟨earlier, hearlier, hresolve⟩ := exists_round_of_succ_ok hround
    rw [timeoutSecs_resolve htimeout hresolve, ih hearlier]
    cases overrides.timeoutSecs <;> cases timeout <;> rfl

/-- Where the server is supplied anew each time, settings are settled after one round. -/
theorem resolve_of_resolve_of_supplied (htimeout : variableTimeout (lookup timeoutVariable) = .ok timeout)
    (hsupplied : overrides.server.isSome = true ∨ (lookup serverVariable).isSome = true) {settings : Settings}
    (hresolve : stored.resolve lookup overrides = .ok settings) :
    settings.resolve lookup overrides = .ok settings := by
  have hserver : overrides.server.getD ((lookup serverVariable).getD settings.server) =
      overrides.server.getD ((lookup serverVariable).getD stored.server) := by
    rcases hsupplied with hsome | hsome
    · obtain ⟨server, hserver⟩ := Option.isSome_iff_exists.mp hsome
      rw [hserver, Option.getD_some, Option.getD_some]
    · obtain ⟨server, hserver⟩ := Option.isSome_iff_exists.mp hsome
      rw [hserver, Option.getD_some, Option.getD_some]
  have hsecs := timeoutSecs_resolve htimeout hresolve
  rw [resolve_of_variableTimeout htimeout] at hresolve ⊢
  rw [hserver]
  dsimp only at hresolve ⊢
  split at hresolve
  · cases hresolve
  · rename_i hempty
    rw [if_neg hempty, ← hresolve, hsecs]
    cases overrides.timeoutSecs <;> cases timeout <;> rfl

section

variable (htimeout : variableTimeout (lookup timeoutVariable) = .ok timeout) (hoverride : overrides.server = none)
  (hvariable : lookup serverVariable = none)
include htimeout hoverride hvariable

theorem resolve_of_stored_server :
    stored.resolve lookup overrides =
      if normalizeServer stored.server = "" then .error .emptyServer
      else .ok ⟨normalizeServer stored.server, overrides.timeoutSecs.getD (timeout.getD stored.timeoutSecs)⟩ := by
  rw [resolve_of_variableTimeout htimeout, hoverride, hvariable]
  simp only [Option.getD_none, String.isEmpty_iff]

/-- A stored server is normalized once in each round. -/
theorem server_rounds {n : Nat} {settings : Settings} (hround : rounds stored lookup overrides n = .ok settings) :
    settings.server = normalizeServer^[n] stored.server ∧ (0 < n → settings.server ≠ "") := by
  induction n generalizing settings with
  | zero =>
    obtain rfl := Except.ok.inj hround
    exact ⟨rfl, nofun⟩
  | succ n ih =>
    obtain ⟨earlier, hearlier, hresolve⟩ := exists_round_of_succ_ok hround
    rw [resolve_of_stored_server htimeout hoverride hvariable, (ih hearlier).1,
      ← Function.iterate_succ_apply' normalizeServer] at hresolve
    split at hresolve
    · cases hresolve
    · rename_i hserver
      obtain rfl := Except.ok.inj hresolve
      exact ⟨rfl, fun _ => hserver⟩

/-- Only a server of which nothing is left ends the rounds. -/
theorem rounds_eq_error {n : Nat} {fault : Fault} (hfault : rounds stored lookup overrides n = .error fault) :
    fault = .emptyServer ∧ ∃ m < n, normalizeServer^[m + 1] stored.server = "" := by
  obtain ⟨m, hm, settings, hround, hresolve⟩ := exists_failing_round hfault
  rw [resolve_of_stored_server htimeout hoverride hvariable,
    (server_rounds htimeout hoverride hvariable hround).1, ← Function.iterate_succ_apply' normalizeServer] at hresolve
  split at hresolve
  · rename_i hempty
    exact ⟨(Except.error.inj hresolve).symm, m, hm, hempty⟩
  · cases hresolve

theorem exists_round_of_core_ne (hcore : core stored.server ≠ "") (n : Nat) :
    ∃ settings, rounds stored lookup overrides n = .ok settings := by
  cases hround : rounds stored lookup overrides n with
  | ok settings => exact ⟨settings, rfl⟩
  | error fault =>
    obtain ⟨_, m, _, hempty⟩ := rounds_eq_error htimeout hoverride hvariable hround
    have hbegins := core_isPrefix_iterate stored.server m
    rw [hempty] at hbegins
    exact absurd (String.toList_inj.mp (List.prefix_nil.mp hbegins)) hcore

theorem exists_failing_round_of_core_eq (hcore : core stored.server = "") :
    ∃ n ≤ stored.server.length, ∃ settings, rounds stored lookup overrides n = .ok settings ∧
      settings.resolve lookup overrides = .error .emptyServer := by
  cases hround : rounds stored lookup overrides (stored.server.length + 1) with
  | error fault =>
    obtain ⟨rfl, _⟩ := rounds_eq_error htimeout hoverride hvariable hround
    obtain ⟨n, hn, hfails⟩ := exists_failing_round hround
    exact ⟨n, by omega, hfails⟩
  | ok settings =>
    obtain ⟨hserver, hne⟩ := server_rounds htimeout hoverride hvariable hround
    rw [iterate_eq_core _ (Nat.lt_succ_self _), hcore] at hserver
    exact absurd hserver (hne (Nat.succ_pos _))

end

end

/-- Resolving settings again and again with the same variables and overrides. The timeout is settled after one round,
    and so is a server that is supplied anew each time. A stored server of which nothing would be left ends the rounds,
    after at most one more than it has characters; any other one loses characters at its end alone and, within as many
    rounds, comes down to its core for good. -/
theorem resolve_settles (stored : Settings) (lookup : String → Option String) (overrides : Overrides)
    {timeout : Option UInt64} (htimeout : Supplies (lookup timeoutVariable) timeout) :
    let round := rounds stored lookup overrides
    (∀ n first later, round 1 = .ok first → round (n + 1) = .ok later → later.timeoutSecs = first.timeoutSecs) ∧
    (overrides.server.isSome = true ∨ (lookup serverVariable).isSome = true → ∀ n, round (n + 1) = round 1) ∧
    (overrides.server = none → lookup serverVariable = none →
      (core stored.server = "" → ∃ n ≤ stored.server.length, ∃ settings fault, round n = .ok settings ∧
        settings.resolve lookup overrides = .error fault ∧ fault.message = "Server URL must not be empty") ∧
      (core stored.server ≠ "" →
        (∀ n, ∃ settings, round n = .ok settings) ∧
        (∀ m n earlier later, 0 < m → m ≤ n → round m = .ok earlier → round n = .ok later →
          (core stored.server).toList <+: later.server.toList ∧ later.server.toList <+: earlier.server.toList) ∧
        ∀ n later, stored.server.length < n → round n = .ok later → later.server = core stored.server)) := by
  rw [← variableTimeout_eq_ok_iff] at htimeout
  refine ⟨?_, ?_, fun hoverride hvariable => ⟨fun hcore => ?_, fun hcore => ⟨?_, ?_, ?_⟩⟩⟩
  · intro n first later hfirst hlater
    rw [timeoutSecs_rounds htimeout hlater, timeoutSecs_rounds htimeout hfirst]
  · intro hsupplied n
    exact rounds_succ_of_fixed (fun _ => resolve_of_resolve_of_supplied htimeout hsupplied) n
  · obtain ⟨n, hn, settings, hround, hfails⟩ := exists_failing_round_of_core_eq htimeout hoverride hvariable hcore
    exact ⟨n, hn, settings, _, hround, hfails, rfl⟩
  · exact exists_round_of_core_ne htimeout hoverride hvariable hcore
  · intro m n earlier later hm hmn hearlier hlater
    obtain ⟨m, rfl⟩ : ∃ k, m = k + 1 := ⟨m - 1, by omega⟩
    obtain ⟨n, rfl⟩ : ∃ k, n = k + 1 := ⟨n - 1, by omega⟩
    rw [(server_rounds htimeout hoverride hvariable hearlier).1, (server_rounds htimeout hoverride hvariable hlater).1]
    exact ⟨core_isPrefix_iterate _ n, iterate_isPrefix_iterate _ (by omega)⟩
  · intro n later hn hlater
    rw [(server_rounds htimeout hoverride hvariable hlater).1, iterate_eq_core _ hn]

/-- Blanks and slashes by turns: three rounds take them off, and the fourth changes nothing. -/
theorem resolve_settles_through_layers :
    let stored : Settings := ⟨" http://h / /", 7⟩
    let round := rounds stored (fun _ => none) {}
    round 1 = .ok ⟨"http://h / ", 7⟩ ∧ round 2 = .ok ⟨"http://h ", 7⟩ ∧ round 3 = .ok ⟨"http://h", 7⟩ ∧
      core stored.server = "http://h" ∧
      ∀ n later, 13 < n → round n = .ok later → later.server = "http://h" := by
  intro stored round
  have hcore : core stored.server = "http://h" := by decide +kernel
  have hsettles := (resolve_settles stored (fun _ => none) {} .none).2.2 rfl rfl
  obtain ⟨_, _, hend⟩ := hsettles.2 (by rw [hcore]; decide)
  have hlength : stored.server.length = 13 := by decide +kernel
  refine ⟨by decide +kernel, by decide +kernel, by decide +kernel, hcore, fun n later hn hlater => ?_⟩
  rw [hend n later (hlength ▸ hn) hlater, hcore]

end Settings

end RobotAdmin
