import RobotAdmin.Proofs.CommandLine.Flag

namespace RobotAdmin.CommandLine

/-- The subcommands that ask for a task. -/
def Task.calls : Task → List String
  | .send .updateFirmware => ["update-firmware"]
  | .send (.setToken _) => ["set-token"]
  | .send (.setRobot _) => ["set-robot"]
  | .configure none => ["config"]
  | .configure (some .view) => ["config", "show"]
  | .configure (some (.setServer _)) => ["config", "set-server"]
  | .configure (some (.setTimeout _)) => ["config", "set-timeout"]
  | .configure (some .reset) => ["config", "reset"]

/-- The operand that a task is told with. A count may be spelled in any way. -/
def Task.HasOperand : Task → Option String → Prop
  | .send (.setToken value), operand => operand = some value
  | .send (.setRobot value), operand => operand = some value
  | .configure (some (.setServer value)), operand => operand = some value
  | .configure (some (.setTimeout secs)), operand => ∃ text, operand = some text ∧ Numeral.Spells text secs.toNat
  | _, operand => operand = none

theorem Task.exists_hasOperand (task : Task) : ∃ operand, task.HasOperand operand := by
  cases task with
  | send command => cases command <;> exact ⟨_, rfl⟩
  | configure action =>
    cases action with
    | none => exact ⟨none, rfl⟩
    | some action =>
      cases action with
      | view => exact ⟨none, rfl⟩
      | setServer url => exact ⟨some url, rfl⟩
      | setTimeout secs => exact ⟨some (toString secs), toString secs, rfl, Numeral.spells_toString secs⟩
      | reset => exact ⟨none, rfl⟩

/-- The flags, each at most once, that tell how a command line wants its task to be run. -/
structure ToldBy (line : CommandLine) (flags : List Flag) : Prop where
  once : (flags.map Flag.switch).Nodup
  server : ∀ value, .server value ∈ flags ↔ line.server = some value
  timeout : ∀ secs, (∃ spelling, .timeout secs spelling ∈ flags) ↔ line.timeout = some secs
  verbose : .verbose ∈ flags ↔ line.verbose = true
  json : .json ∈ flags ↔ line.json = true

namespace Flag

def server? : Flag → Option String
  | .server value => some value
  | _ => none

def timeout? : Flag → Option UInt64
  | .timeout secs _ => some secs
  | _ => none

theorem server?_eq_some_iff {flag : Flag} {value : String} : flag.server? = some value ↔ flag = .server value := by
  cases flag <;> simp [server?]

theorem server?_eq_none {flag : Flag} (hother : flag.switch ≠ .server) : flag.server? = none := by
  cases flag <;> first | rfl | exact absurd rfl hother

theorem timeout?_eq_some_iff {flag : Flag} {secs : UInt64} :
    flag.timeout? = some secs ↔ ∃ spelling, flag = .timeout secs spelling := by
  constructor
  · intro htold
    cases flag with
    | timeout other spelling =>
      obtain rfl := Option.some.inj htold
      exact ⟨spelling, rfl⟩
    | server value => cases htold
    | verbose => cases htold
    | json => cases htold
  · rintro ⟨spelling, rfl⟩
    rfl

theorem timeout?_eq_none {flag : Flag} (hother : flag.switch ≠ .timeout) : flag.timeout? = none := by
  cases flag <;> first | rfl | exact absurd rfl hother

end Flag

/-- The command line that is told by flags. -/
def gathered (flags : List Flag) (task : Task) : CommandLine where
  server := flags.findSome? Flag.server?
  timeout := flags.findSome? Flag.timeout?
  verbose := decide (.verbose ∈ flags)
  json := decide (.json ∈ flags)
  task := task

/-- A search finds the one value that there is. -/
theorem findSome?_eq_of_forall {α β : Type} {items : List α} {f : α → Option β} {found : Option β}
    (hfound : ∀ value, (∃ item ∈ items, f item = some value) ↔ found = some value) : items.findSome? f = found := by
  cases hsearch : items.findSome? f with
  | none =>
    symm
    rw [Option.eq_none_iff_forall_ne_some]
    intro value hvalue
    obtain ⟨item, hitem, hf⟩ := (hfound value).mpr hvalue
    rw [List.findSome?_eq_none_iff.mp hsearch item hitem] at hf
    cases hf
  | some value => exact ((hfound value).mp (List.exists_of_findSome?_eq_some hsearch)).symm

namespace ToldBy

variable {line : CommandLine} {flags : List Flag}

theorem gathered_eq (htold : line.ToldBy flags) : gathered flags line.task = line := by
  have hserver : flags.findSome? Flag.server? = line.server := by
    refine findSome?_eq_of_forall fun value => ?_
    simp only [Flag.server?_eq_some_iff, exists_eq_right, htold.server]
  have htimeout : flags.findSome? Flag.timeout? = line.timeout := by
    refine findSome?_eq_of_forall fun secs => ?_
    rw [← htold.timeout]
    constructor
    · rintro ⟨flag, hflag, htimeout⟩
      obtain ⟨spelling, rfl⟩ := Flag.timeout?_eq_some_iff.mp htimeout
      exact ⟨spelling, hflag⟩
    · rintro ⟨spelling, hflag⟩
      exact ⟨_, hflag, rfl⟩
  have hverbose : decide (.verbose ∈ flags) = line.verbose := by
    rw [Bool.eq_iff_iff, decide_eq_true_iff, htold.verbose]
  have hjson : decide (.json ∈ flags) = line.json := by
    rw [Bool.eq_iff_iff, decide_eq_true_iff, htold.json]
  rw [gathered, hserver, htimeout, hverbose, hjson]

end ToldBy

/-- The flags of a command line in one order, with its timeout in digits. -/
def flags (line : CommandLine) : List Flag :=
  (line.server.map Flag.server).toList ++
    (line.timeout.map fun secs => Flag.timeout secs ⟨toString secs, Numeral.spells_toString secs⟩).toList ++
    (if line.verbose then [.verbose] else []) ++ (if line.json then [.json] else [])

theorem nodup_switch_flags (line : CommandLine) : (line.flags.map Flag.switch).Nodup := by
  have hserver : ((line.server.map Flag.server).toList.map Flag.switch).Sublist [.server] := by
    cases line.server <;> simp [Flag.switch]
  have htimeout : ((line.timeout.map fun secs =>
      Flag.timeout secs ⟨toString secs, Numeral.spells_toString secs⟩).toList.map Flag.switch).Sublist [.timeout] := by
    cases line.timeout <;> simp [Flag.switch]
  have hverbose : ((if line.verbose then [Flag.verbose] else []).map Flag.switch).Sublist [.verbose] := by
    cases line.verbose <;> simp [Flag.switch]
  have hjson : ((if line.json then [Flag.json] else []).map Flag.switch).Sublist [.json] := by
    cases line.json <;> simp [Flag.switch]
  have hsub : (line.flags.map Flag.switch).Sublist Level.runSwitches := by
    simp only [flags, List.map_append]
    exact ((hserver.append htimeout).append hverbose).append hjson
  exact hsub.nodup (by decide)

theorem toldBy_flags (line : CommandLine) : line.ToldBy line.flags := by
  refine ⟨line.nodup_switch_flags, ?_, ?_, ?_, ?_⟩
  · intro value
    simp [flags]
  · intro secs
    constructor
    · rintro ⟨spelling, hmem⟩
      obtain ⟨_, htimeout, hsame⟩ : ∃ other, line.timeout = some other ∧
          Flag.timeout other ⟨toString other, Numeral.spells_toString other⟩ = .timeout secs spelling := by
        simpa [flags] using hmem
      rwa [(Flag.timeout.inj hsame).1] at htimeout
    · intro htimeout
      exact ⟨⟨toString secs, Numeral.spells_toString secs⟩, by simp [flags, htimeout]⟩
  · simp [flags]
  · simp [flags]

theorem under_empty (line : CommandLine) : line.under {} = line := by
  simp [under]

/-- It makes no difference whether a flag is met at a level or told together with what is found below it. -/
theorem gathered_under_withFlag {flag : Flag} {rest : List Flag} (honce : flag.switch ∉ rest.map Flag.switch)
    (task : Task) (state : State) :
    (gathered rest task).under (state.withFlag flag) = (gathered (flag :: rest) task).under state := by
  have hother : ∀ other ∈ rest, other.switch ≠ flag.switch := by
    intro other hmem hsame
    exact honce (hsame ▸ List.mem_map_of_mem hmem)
  cases flag with
  | server value =>
    have hnone : rest.findSome? Flag.server? = none :=
      List.findSome?_eq_none_iff.mpr fun other hmem => Flag.server?_eq_none (hother other hmem)
    simp [under, gathered, State.withFlag, State.tell, List.findSome?_cons, Flag.server?, Flag.timeout?, hnone]
  | timeout secs spelling =>
    have hnone : rest.findSome? Flag.timeout? = none :=
      List.findSome?_eq_none_iff.mpr fun other hmem => Flag.timeout?_eq_none (hother other hmem)
    simp [under, gathered, State.withFlag, State.tell, List.findSome?_cons, Flag.server?, Flag.timeout?, hnone]
  | verbose => simp [under, gathered, State.withFlag, State.tell, List.findSome?_cons, Flag.server?, Flag.timeout?]
  | json => simp [under, gathered, State.withFlag, State.tell, List.findSome?_cons, Flag.server?, Flag.timeout?]

end RobotAdmin.CommandLine
