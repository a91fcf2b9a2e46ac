import RobotAdmin.CommandLine.Stop

namespace RobotAdmin.CommandLine

/-- The value of an operand. -/
inductive Operand where
  | text (value : String)
  | count (value : UInt64)
  deriving DecidableEq, Repr

/-- What has been met at a level. The last slot is pending until something else is met: an option that
    is without a value as yet, or one whose value has not been looked at. -/
structure State where
  server : Option String := none
  timeout : Option UInt64 := none
  verbose : Bool := false
  json : Bool := false
  operand : Option Operand := none
  used : List Slot := []
  pending : Option (Slot × Option (List UInt8)) := none
  deriving Repr

namespace State

/-- Whether the next word is taken for a value. -/
def awaitsValue (state : State) : Bool :=
  match state.pending with
  | some (_, none) => true
  | _ => false

/-- Whether the operand has been met. -/
def hasOperand (state : State) : Bool :=
  state.used.contains .operand || state.pending.any fun pending => pending.1 == .operand

/-- The slots that are used once the pending one is taken, whatever its value is. An option without a value
    does not count, nor does one that is met again. -/
def usedByNow (state : State) : List Slot :=
  match state.pending with
  | none | some (_, none) => state.used
  | some (slot, some _) => if slot ∈ state.used then state.used.filter (· != slot) else state.used ++ [slot]

private def textValue (level : Level) (raw : List UInt8) : Except Stop String :=
  match Utf8.decode? raw with
  | none => .error (.notUtf8 level)
  | some value => .ok value

private def countValue (level : Level) (slot : Slot) (raw : List UInt8) : Except Stop UInt64 :=
  match textValue level raw with
  | .error stop => .error stop
  | .ok value =>
    match Numeral.ofText? value with
    | .error cause => .error (.invalidValue level slot value cause)
    | .ok count => .ok count

private def operandValue (level : Level) (raw : List UInt8) : Except Stop Operand :=
  match level with
  | .configSetTimeout => (countValue level .operand raw).map .count
  | _ => (textValue level raw).map .text

/-- Fills a slot that is not filled yet. -/
def fill (level : Level) (state : State) (raw : List UInt8) : Slot → Except Stop State
  | .switch .server => (textValue level raw).map fun server => { state with server := some server }
  | .switch .timeout =>
    (countValue level (.switch .timeout) raw).map fun timeout => { state with timeout := some timeout }
  | .switch .verbose => .ok { state with verbose := true }
  | .switch .json => .ok { state with json := true }
  | .switch .help => .error (.helpPage level)
  | .switch .version => .error .version
  | .operand => (operandValue level raw).map fun operand => { state with operand := some operand }

/-- Takes a slot with its value. Whether there is a value comes before whether the slot is free, and that
    before what the value is. -/
def take (level : Level) (state : State) (slot : Slot) (raw : Option (List UInt8)) : Except Stop State :=
  let filled : Except Stop State :=
    (state.fill level (raw.getD []) slot).map fun next => { next with used := state.used ++ [slot] }
  match slot with
  | .operand => filled
  | .switch switch =>
    if switch.takesValue && raw.isNone then .error (.missingValue switch)
    else if slot ∈ state.used then .error (.repeatedSwitch level switch)
    else filled

/-- Takes the pending slot. -/
def settle (level : Level) (state : State) : Except Stop State :=
  match state.pending with
  | none => .ok state
  | some (slot, raw) => take level { state with pending := none } slot raw

/-- Takes an option after the pending slot. -/
def meet (level : Level) (state : State) (switch : Switch) (raw : Option (List UInt8)) : Except Stop State :=
  match state.settle level with
  | .error stop => .error stop
  | .ok settled => settled.take level (.switch switch) raw

/-- Leaves a slot pending after the one before it. -/
def await (level : Level) (state : State) (slot : Slot) (raw : Option (List UInt8)) : Except Stop State :=
  match state.settle level with
  | .error stop => .error stop
  | .ok settled => .ok { settled with pending := some (slot, raw) }

section

variable {level : Level} {state next : State} {raw : List UInt8}

theorem settle_of_pending_none (hpending : state.pending = none) : state.settle level = .ok state := by
  rw [settle, hpending]

theorem awaitsValue_of_pending_none (hpending : state.pending = none) : state.awaitsValue = false := by
  rw [awaitsValue, hpending]

theorem fill_server {value : String} (hraw : Utf8.decode? raw = some value) :
    state.fill level raw (.switch .server) = .ok { state with server := some value } := by
  rw [fill, textValue, hraw]
  rfl

theorem fill_timeout {text : String} {secs : UInt64} (hraw : Utf8.decode? raw = some text)
    (hcount : Numeral.ofText? text = .ok secs) :
    state.fill level raw (.switch .timeout) = .ok { state with timeout := some secs } := by
  rw [fill, countValue, textValue, hraw]
  dsimp only
  rw [hcount]
  rfl

theorem fill_operand_text (hlevel : level ≠ .configSetTimeout) {value : String} (hraw : Utf8.decode? raw = some value) :
    state.fill level raw .operand = .ok { state with operand := some (.text value) } := by
  rw [fill, operandValue, textValue, hraw]
  · rfl
  · exact hlevel

theorem fill_operand_count {text : String} {secs : UInt64} (hraw : Utf8.decode? raw = some text)
    (hcount : Numeral.ofText? text = .ok secs) :
    state.fill .configSetTimeout raw .operand = .ok { state with operand := some (.count secs) } := by
  rw [fill, operandValue, countValue, textValue, hraw]
  dsimp only
  rw [hcount]
  rfl

/-- A switch that is not used yet is taken with a value that it can be filled with. -/
theorem take_switch {switch : Switch} {value : Option (List UInt8)}
    (hvalue : switch.takesValue = true → value.isSome = true) (hfree : .switch switch ∉ state.used)
    (hfill : state.fill level (value.getD []) (.switch switch) = .ok next) :
    state.take level (.switch switch) value = .ok { next with used := state.used ++ [.switch switch] } := by
  have hgiven : ¬ (switch.takesValue && value.isNone) = true := by
    cases value with
    | none => simpa using hvalue
    | some value => simp
  simp only [take]
  rw [if_neg hgiven, if_neg hfree, hfill]
  rfl

theorem take_operand (hfill : state.fill level raw .operand = .ok next) :
    state.take level .operand (some raw) = .ok { next with used := state.used ++ [.operand] } := by
  simp only [take, Option.getD_some, hfill]
  rfl

theorem meet_of_settle {settled : State} (hsettle : state.settle level = .ok settled) (switch : Switch)
    (value : Option (List UInt8)) : state.meet level switch value = settled.take level (.switch switch) value := by
  rw [meet, hsettle]

end

end State

end RobotAdmin.CommandLine
