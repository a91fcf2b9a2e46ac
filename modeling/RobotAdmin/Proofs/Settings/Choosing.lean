import Mathlib.Data.Option.Basic
import RobotAdmin.Proofs.Settings.Normal
import RobotAdmin.Proofs.Text.Numeral

namespace RobotAdmin.Settings

theorem head?_normalizeServer (server : String) :
    ∀ c ∈ (normalizeServer server).toList.head?, Text.isBlank c = false := by
  intro c hc
  obtain ⟨rest, hrest⟩ := normalizeServer_isPrefix server
  have hhead := List.head?_dropWhile_not Text.isBlank server.toList
  rw [← hrest, List.head?_append, Option.mem_def.mp hc, Option.some_or] at hhead
  simpa using hhead

theorem getLast?_normalizeServer (server : String) : (normalizeServer server).toList.getLast? ≠ some '/' := by
  intro hlast
  rw [toList_normalizeServer, Text.dropEnd, List.getLast?_reverse] at hlast
  have hhead := List.head?_dropWhile_not (· == '/') (Text.trimBlank server.toList).reverse
  rw [hlast] at hhead
  simp at hhead

/-- The value of the first source that supplies one. -/
def firstSupplied {α : Type} (sources : List (Option α)) : Option α := sources.findSome? id

/-- What the variable for the timeout supplies: nothing where it is not set, and otherwise the number that it spells
    between blanks. -/
def Supplies (text : Option String) (secs : Option UInt64) : Prop :=
  Option.Rel (fun text secs => Numeral.Spells (Text.trim text) secs.toNat) text secs

/-- Settings of which each comes from the first source that supplies it: an override, a variable, or what is stored. -/
structure IsChosen (stored : Settings) (lookup : String → Option String) (overrides : Overrides)
    (settings : Settings) : Prop where
  server : ∃ server, firstSupplied [overrides.server, lookup serverVariable, some stored.server] = some server ∧
    settings.server = normalizeServer server
  server_ne : settings.server ≠ ""
  timeoutSecs : ∃ supplied, Supplies (lookup timeoutVariable) supplied ∧
    firstSupplied [overrides.timeoutSecs, supplied, some stored.timeoutSecs] = some settings.timeoutSecs

theorem firstSupplied_eq {α : Type} (first second : Option α) (last : α) :
    firstSupplied [first, second, some last] = some (first.getD (second.getD last)) := by
  cases first <;> cases second <;> rfl

theorem variableTimeout_eq_ok_iff {text : Option String} {secs : Option UInt64} :
    variableTimeout text = .ok secs ↔ Supplies text secs := by
  unfold variableTimeout Supplies
  cases text with
  | none => cases secs <;> simp
  | some text =>
    cases secs with
    | none => cases hread : Numeral.ofText? (Text.trim text) <;> simp [hread]
    | some secs =>
      rw [Option.rel_some_some, ← Numeral.ofText?_eq_ok_iff]
      cases hread : Numeral.ofText? (Text.trim text) <;> simp [hread]

section

variable {stored : Settings} {lookup : String → Option String} {overrides : Overrides}

theorem resolve_of_variableTimeout {timeout : Option UInt64}
    (htimeout : variableTimeout (lookup timeoutVariable) = .ok timeout) :
    stored.resolve lookup overrides =
      let server := normalizeServer (overrides.server.getD ((lookup serverVariable).getD stored.server))
      if server.isEmpty then .error .emptyServer
      else .ok ⟨server, overrides.timeoutSecs.getD (timeout.getD stored.timeoutSecs)⟩ := by
  rw [resolve, htimeout]

theorem resolve_of_variableTimeout_error {fault : Fault}
    (hfault : variableTimeout (lookup timeoutVariable) = .error fault) :
    stored.resolve lookup overrides = .error fault := by
  rw [resolve, hfault]

theorem resolve_of_not_spells {text : String} (htext : lookup timeoutVariable = some text)
    (hspells : ∀ secs : UInt64, ¬ Numeral.Spells (Text.trim text) secs.toNat) :
    stored.resolve lookup overrides = .error (.timeoutNotNumber text (Numeral.refusal (Text.trim text))) := by
  apply resolve_of_variableTimeout_error
  rw [htext, variableTimeout, Numeral.ofText?_of_not_spells hspells]

theorem resolve_eq_ok_iff {settings : Settings} :
    stored.resolve lookup overrides = .ok settings ↔ IsChosen stored lookup overrides settings := by
  constructor
  · intro hresolve
    unfold resolve at hresolve
    dsimp only at hresolve
    split at hresolve
    · cases hresolve
    · rename_i supplied hsupplied
      split at hresolve
      · cases hresolve
      · rename_i hempty
        obtain rfl := Except.ok.inj hresolve
        exact ⟨⟨_, firstSupplied_eq .., rfl⟩, by simpa using hempty, supplied,
          variableTimeout_eq_ok_iff.mp hsupplied, firstSupplied_eq ..⟩
  · rintro ⟨⟨server, hserver, hnormal⟩, hempty, supplied, hsupplies, hsecs⟩
    obtain rfl := Option.some.inj ((firstSupplied_eq ..).symm.trans hserver)
    rw [resolve_of_variableTimeout (variableTimeout_eq_ok_iff.mpr hsupplies)]
    dsimp only
    rw [← hnormal, if_neg (by simpa using hempty), Option.some.inj ((firstSupplied_eq ..).symm.trans hsecs)]

end

/-- The settings in effect. Each is that of the first source that supplies one; the server is brought into normal form,
    begins with no blank, ends in no slash and is not empty. A variable for the timeout is taken exactly if it spells,
    between blanks, a number below 2^64, and otherwise its text is quoted as it is, with the reason. -/
theorem resolve_chooses (stored : Settings) (lookup : String → Option String) (overrides : Overrides) :
    (∀ settings, stored.resolve lookup overrides = .ok settings ↔ IsChosen stored lookup overrides settings) ∧
    (∀ settings, stored.resolve lookup overrides = .ok settings →
      (∀ c ∈ settings.server.toList.head?, Text.isBlank c = false) ∧ settings.server.toList.getLast? ≠ some '/') ∧
    ∀ text, lookup timeoutVariable = some text → overrides.timeoutSecs = none →
      (∀ secs : UInt64, Numeral.Spells (Text.trim text) secs.toNat →
        stored.resolve lookup overrides = .error .emptyServer ∨
          ∃ settings, stored.resolve lookup overrides = .ok settings ∧ settings.timeoutSecs = secs) ∧
      ((∀ secs : UInt64, ¬ Numeral.Spells (Text.trim text) secs.toNat) →
        ∃ fault, stored.resolve lookup overrides = .error fault ∧
          fault.message = "ROBERTA_TIMEOUT_SECS must be a number of seconds, got '" ++ text ++ "'" ∧
          fault.cause? = some
            (if Text.trim text = "" then "cannot parse integer from empty string"
            else if wordBound ≤ Numeral.leadingCount (Text.trim text) then "number too large to fit in target type"
            else "invalid digit found in string")) := by
  refine ⟨fun _ => resolve_eq_ok_iff, ?_, ?_⟩
  · intro settings hresolve
    obtain ⟨server, _, hserver⟩ := (resolve_eq_ok_iff.mp hresolve).server
    rw [hserver]
    exact ⟨head?_normalizeServer server, getLast?_normalizeServer server⟩
  · intro text htext hnone
    refine ⟨?_, ?_⟩
    · intro secs hspells
      have hsupplies : Supplies (lookup timeoutVariable) (some secs) := by
        rw [htext]
        exact .some hspells
      rw [resolve_of_variableTimeout (variableTimeout_eq_ok_iff.mpr hsupplies), hnone]
      dsimp only
      split
      · exact .inl rfl
      · exact .inr ⟨_, rfl, rfl⟩
    · intro hspells
      refine ⟨_, resolve_of_not_spells htext hspells, rfl, ?_⟩
      rw [Fault.cause?, Numeral.refusal]
      split
      · rfl
      · split <;> rfl

/-- The largest timeout, with a sign, zeros and blanks that count for nothing, and the number after it, which is too
    large before the letter behind it is looked at. -/
theorem resolve_chooses_around_bound :
    let lookup (text name : String) : Option String := if name = timeoutVariable then some text else none
    let most := "\u00A0+0018446744073709551615\t"
    let more := " 18446744073709551616s"
    Numeral.Spells (Text.trim most) (18446744073709551615 : UInt64).toNat ∧
      (∃ settings, ({} : Settings).resolve (lookup most) {} = .ok settings ∧
        settings.timeoutSecs = 18446744073709551615) ∧
      (∀ secs : UInt64, ¬ Numeral.Spells (Text.trim more) secs.toNat) ∧
      ∃ fault, ({} : Settings).resolve (lookup more) {} = .error fault ∧
        fault.message = "ROBERTA_TIMEOUT_SECS must be a number of seconds, got ' 18446744073709551616s'" ∧
        fault.cause? = some "number too large to fit in target type" := by
  intro lookup most more
  have hmost : Numeral.Spells (Text.trim most) (18446744073709551615 : UInt64).toNat :=
    Numeral.spells_iff.mpr (by decide +kernel)
  have hmore (secs : UInt64) : ¬ Numeral.Spells (Text.trim more) secs.toNat := by
    intro hspells
    have hletter : (Numeral.withoutPlus (Text.trim more).toList).all Char.isDigit = false := by decide +kernel
    rw [(Numeral.spells_iff.mp hspells).2.1] at hletter
    cases hletter
  obtain ⟨_, _, hread⟩ := resolve_chooses {} (lookup most) {}
  obtain ⟨haccepted, _⟩ := hread most rfl rfl
  obtain ⟨_, _, hread⟩ := resolve_chooses {} (lookup more) {}
  obtain ⟨_, hrefused⟩ := hread more rfl rfl
  refine ⟨hmost, (haccepted _ hmost).resolve_left (by decide +kernel), hmore, ?_⟩
  obtain ⟨fault, hfault, hmessage, hcause⟩ := hrefused hmore
  exact ⟨fault, hfault, hmessage.trans (by decide +kernel), hcause.trans (by decide +kernel)⟩

end RobotAdmin.Settings
