import RobotAdmin.CommandLine.Parse
import RobotAdmin.Proofs.Text.Numeral
import RobotAdmin.Proofs.Text.Utf8

namespace RobotAdmin.CommandLine

/-- An option for a run that is told in one word together with its value. A count may be spelled in any way. -/
inductive Flag where
  | server (value : String)
  | timeout (secs : UInt64) (spelling : { text : String // Numeral.Spells text secs.toNat })
  | verbose
  | json
  deriving DecidableEq

namespace Flag

def switch : Flag → Switch
  | .server _ => .server
  | .timeout _ _ => .timeout
  | .verbose => .verbose
  | .json => .json

def value? : Flag → Option String
  | .server value => some value
  | .timeout _ spelling => some spelling.val
  | .verbose | .json => none

/-- The word of a flag, with an equals sign before its value. -/
def word : Flag → Word
  | .server value => Utf8.encode ("--server=" ++ value)
  | .timeout _ spelling => Utf8.encode ("--timeout=" ++ spelling.val)
  | .verbose => Utf8.encode "--verbose"
  | .json => Utf8.encode "--json"

/-- What stands behind the two dashes of a flag. -/
def body (flag : Flag) : Word :=
  Utf8.encode flag.switch.name ++ flag.value?.elim [] fun value => '='.toUInt8 :: Utf8.encode value

theorem mem_runSwitches (flag : Flag) : flag.switch ∈ Level.runSwitches := by
  cases flag <;> exact List.contains_iff_mem.mp rfl

theorem takesValue_switch (flag : Flag) : flag.switch.takesValue = flag.value?.isSome := by
  cases flag <;> rfl

theorem word_eq (flag : Flag) : flag.word = '-'.toUInt8 :: '-'.toUInt8 :: flag.body := by
  have hserver : Utf8.encode "--server=" = '-'.toUInt8 :: '-'.toUInt8 :: (Utf8.encode "server" ++ ['='.toUInt8]) := by
    decide
  have htimeout : Utf8.encode "--timeout=" = '-'.toUInt8 :: '-'.toUInt8 :: (Utf8.encode "timeout" ++ ['='.toUInt8]) := by
    decide
  cases flag with
  | server value => simp [word, body, switch, Switch.name, value?, Utf8.encode_append, hserver]
  | timeout secs spelling => simp [word, body, switch, Switch.name, value?, Utf8.encode_append, htimeout]
  | verbose => decide
  | json => decide

theorem body_ne_nil (flag : Flag) : flag.body ≠ [] := by
  have hnames : ∀ switch ∈ Level.runSwitches, Utf8.encode switch.name ≠ [] := by decide
  exact List.append_ne_nil_of_left_ne_nil (hnames flag.switch flag.mem_runSwitches) _

end Flag

/-- No subcommand begins with a dash. -/
theorem child?_dash (level : Level) (rest : Word) : level.child? ('-'.toUInt8 :: rest) = none := by
  rw [Level.child?, List.find?_eq_none]
  intro child _ hsame
  have hhead : (Utf8.encode child.name).head? = some '-'.toUInt8 := congrArg List.head? (beq_iff_eq.mp hsame)
  revert hhead
  cases child <;> decide

/-- The options for a run are known at every level but those for help. -/
theorem find?_switches {level : Level} (hlevel : level.isHelp = false) {switch : Switch}
    (hrun : switch ∈ Level.runSwitches) :
    level.switches.find? (fun other => Utf8.encode other.name == Utf8.encode switch.name) = some switch := by
  have hfirst : Level.runSwitches.find? (fun other => Utf8.encode other.name == Utf8.encode switch.name) =
      some switch := by
    revert hrun
    cases switch <;> decide
  rw [Level.switches, if_neg (by simp [hlevel]), List.append_assoc, List.find?_append, hfirst]
  rfl

theorem takeLong_body {level : Level} (hlevel : level.isHelp = false) (state : State) (flag : Flag) :
    takeLong level state flag.body = state.meet level flag.switch (flag.value?.map Utf8.encode) := by
  have hnames : ∀ switch ∈ Level.runSwitches, '='.toUInt8 ∉ Utf8.encode switch.name := by decide
  have hname := hnames flag.switch flag.mem_runSwitches
  have hfind := find?_switches hlevel flag.mem_runSwitches
  have htakes := flag.takesValue_switch
  unfold Flag.body
  cases hvalue : flag.value? with
  | none =>
    rw [hvalue] at htakes
    rw [Option.elim_none, List.append_nil]
    exact takeLong_alone hfind htakes hname state
  | some value =>
    rw [hvalue] at htakes
    exact takeLong_attached hfind htakes hname state (Utf8.encode value)

namespace State

/-- The state in which a flag has filled its slot. -/
def tell (state : State) : Flag → State
  | .server value => { state with server := some value }
  | .timeout secs _ => { state with timeout := some secs }
  | .verbose => { state with verbose := true }
  | .json => { state with json := true }

/-- The state after a flag was met. -/
def withFlag (state : State) (flag : Flag) : State :=
  { state.tell flag with used := state.used ++ [.switch flag.switch] }

theorem pending_withFlag (state : State) (flag : Flag) : (state.withFlag flag).pending = state.pending := by
  cases flag <;> rfl

theorem operand_withFlag (state : State) (flag : Flag) : (state.withFlag flag).operand = state.operand := by
  cases flag <;> rfl

theorem used_withFlag (state : State) (flag : Flag) :
    (state.withFlag flag).used = state.used ++ [.switch flag.switch] := by
  cases flag <;> rfl

theorem fill_flag (level : Level) (state : State) (flag : Flag) :
    state.fill level ((flag.value?.map Utf8.encode).getD []) (.switch flag.switch) = .ok (state.tell flag) := by
  cases flag with
  | server value => exact fill_server (Utf8.decode?_encode value)
  | timeout secs spelling =>
    exact fill_timeout (Utf8.decode?_encode spelling.val) (Numeral.ofText?_of_spells spelling.property)
  | verbose => rfl
  | json => rfl

end State

/-- A flag that is new at a level is met there, behind what was pending. -/
theorem step_word {level : Level} (hlevel : level.isHelp = false) {state settled : State}
    (hsettle : state.settle level = .ok settled) {flag : Flag} (hnew : .switch flag.switch ∉ settled.used) :
    step level state false flag.word = .ok (.stay (settled.withFlag flag) false) := by
  have hvalue : flag.switch.takesValue = true → (flag.value?.map Utf8.encode).isSome = true := by
    rw [flag.takesValue_switch, Option.isSome_map]
    exact id
  have htake := State.take_switch hvalue hnew (State.fill_flag level settled flag)
  rw [step, if_neg Bool.false_ne_true, flag.word_eq, child?_dash, ite_self]
  dsimp only
  rw [takeWord_long flag.body_ne_nil, takeLong_body hlevel, State.meet_of_settle hsettle, htake]
  rfl

end RobotAdmin.CommandLine
