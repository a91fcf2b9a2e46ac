import RobotAdmin.CommandLine.State
import RobotAdmin.Text.Similarity

namespace RobotAdmin.CommandLine

/-- A word of a command line, which is any bytes. -/
abbrev Word := List UInt8

private def dash : UInt8 := '-'.toUInt8

private def equals : UInt8 := '='.toUInt8

/-- The complaint about an option that the level does not have. A word that resembles one of its options
    is taken for that; otherwise it might have been meant as the operand. -/
def unknownLong (level : Level) (state : State) (name : String) : Stop :=
  let word := "--" ++ name
  match (Text.similar name (level.switches.map Switch.name)).getLast?.bind fun similar =>
      level.switches.find? fun switch => switch.name == similar with
  | some switch =>
    .unknownArgument level word (some (.similarSwitch switch)) (use state.usedByNow (.switch switch))
  | none => .unknownArgument level word (level.operand?.map fun _ => .asValue word) state.usedByNow

/-- Takes a long option, with the value behind its equals sign if there is one. -/
def takeLong (level : Level) (state : State) (body : Word) : Except Stop State :=
  let name := body.takeWhile (· != equals)
  let attached := (body.dropWhile (· != equals)).tail?
  match level.switches.find? fun switch => Utf8.encode switch.name == name with
  | none => .error (unknownLong level state (Utf8.decodeLossy name))
  | some switch =>
    match attached with
    | none =>
      if switch.takesValue then state.await level (.switch switch) none else state.meet level switch none
    | some value =>
      if switch.takesValue then state.meet level switch (some value)
      else .error (.unneededValue level switch (Utf8.decodeLossy value) state.used)

section

variable {level : Level} {name : Word} {switch : Switch}

private theorem takeWhile_name (hname : '='.toUInt8 ∉ name) : ∀ b ∈ name, (b != equals) = true := by
  intro b hb
  have hne : b ≠ '='.toUInt8 := by
    rintro rfl
    exact hname hb
  simpa [equals] using hne

theorem takeLong_attached (hfind : level.switches.find? (fun switch => Utf8.encode switch.name == name) = some switch)
    (htakes : switch.takesValue = true) (hname : '='.toUInt8 ∉ name) (state : State) (value : Word) :
    takeLong level state (name ++ '='.toUInt8 :: value) = state.meet level switch (some value) := by
  have hplain := takeWhile_name hname
  have hends : ('='.toUInt8 != equals) = false := by decide
  simp only [takeLong, List.takeWhile_append_of_pos hplain, List.dropWhile_append_of_pos hplain, List.takeWhile_cons,
    List.dropWhile_cons, hends, Bool.false_eq_true, ↓reduceIte, List.append_nil, hfind, List.tail?_cons, htakes]

theorem takeLong_alone (hfind : level.switches.find? (fun switch => Utf8.encode switch.name == name) = some switch)
    (htakes : switch.takesValue = false) (hname : '='.toUInt8 ∉ name) (state : State) :
    takeLong level state name = state.meet level switch none := by
  have hplain := takeWhile_name hname
  have htake : (name ++ []).takeWhile (· != equals) = name ++ [] := List.takeWhile_append_of_pos hplain
  have hdrop : (name ++ []).dropWhile (· != equals) = [] := List.dropWhile_append_of_pos hplain
  rw [List.append_nil] at htake hdrop
  simp only [takeLong, htake, hdrop, hfind, List.tail?_nil, htakes, Bool.false_eq_true, ↓reduceIte]

end

private def unknownLetter (level : Level) (letter : String) : Stop :=
  .unknownArgument level ("-" ++ letter) (level.operand?.map fun _ => .asValue ("-" ++ letter)) []

private def withoutEquals (value : Word) : Word :=
  match value with
  | b :: rest => if b = equals then rest else value
  | [] => []

/-- Takes options of one letter each, given as characters and the bytes behind them that are none. What
    follows an option that takes a value is its value. -/
def takeLetters (level : Level) (state : State) (tail : Word) : List Char → Except Stop State
  | [] => if tail.isEmpty then .ok state else .error (unknownLetter level (Utf8.decodeLossy tail))
  | letter :: rest =>
    match level.switches.find? fun switch => switch.letter? == some letter with
    | none => .error (unknownLetter level (String.ofList [letter]))
    | some switch =>
      if switch.takesValue then
        let attached := Utf8.encodeChars rest ++ tail
        if attached.isEmpty then state.await level (.switch switch) none
        else state.meet level switch (some (withoutEquals attached))
      else
        match state.meet level switch none with
        | .error stop => .error stop
        | .ok next => takeLetters level next tail rest

/-- The complaint about a word that a level has no place for. -/
def misplaced (level : Level) (trailing : Bool) (word : Word) : Stop :=
  let text := Utf8.decodeLossy word
  if trailing && (level.child? word).isSome then
    .unknownArgument level text (some (.withoutDashes text)) []
  else if level.children.isEmpty then .unknownArgument level text none []
  else .unknownCommand level text (Text.similar text (level.children.map Level.name))

/-- Takes a word as the operand, of which there is at most one. -/
def takeOperand (level : Level) (state : State) (trailing : Bool) (word : Word) : Except Stop State :=
  if level.operand?.isSome && !state.hasOperand then state.await level .operand (some word)
  else .error (misplaced level trailing word)

/-- What a word does: it calls a subcommand, or something is taken at this level. Behind two dashes every
    word is an operand. -/
inductive Step where
  | call (child : Level)
  | stay (state : State) (trailing : Bool)

/-- Takes a word that calls no subcommand. -/
def takeWord (level : Level) (state : State) (word : Word) : Except Stop Step :=
  let stay (result : Except Stop State) : Except Stop Step := result.map (Step.stay · false)
  match word with
  | a :: b :: rest =>
    if a = dash && b = dash then
      if rest.isEmpty then .ok (.stay state true) else stay (takeLong level state rest)
    else if a = dash then
      let (letters, tail) := Utf8.split (b :: rest)
      stay (takeLetters level state tail letters)
    else stay (plain word)
  | _ => stay (plain word)
where
  /-- Takes a word that is no option, as a value if one is awaited. -/
  plain (word : Word) : Except Stop State :=
    match state.pending with
    | some (slot, none) => .ok { state with pending := some (slot, some word) }
    | _ => takeOperand level state false word

theorem takeWord_long {body : Word} (hbody : body ≠ []) (level : Level) (state : State) :
    takeWord level state ('-'.toUInt8 :: '-'.toUInt8 :: body) =
      (takeLong level state body).map (Step.stay · false) := by
  cases body with
  | nil => exact absurd rfl hbody
  | cons b body => rfl

theorem takeWord_dashes (level : Level) (state : State) :
    takeWord level state ['-'.toUInt8, '-'.toUInt8] = .ok (.stay state true) := rfl

/-- A word that does not begin with a dash is an operand where no value is awaited. -/
theorem takeWord_plain {word : Word} (hword : word.head? ≠ some '-'.toUInt8) {level : Level} {state : State}
    (hpending : state.pending = none) :
    takeWord level state word = (takeOperand level state false word).map (Step.stay · false) := by
  have hplain : takeWord.plain level state word = takeOperand level state false word := by
    rw [takeWord.plain, hpending]
  unfold takeWord
  split
  · rename_i a b rest
    have hdash : a ≠ dash := fun ha => hword (by rw [ha]; rfl)
    have hlong : ¬ (decide (a = dash) && decide (b = dash)) = true := by simp [hdash]
    dsimp only
    rw [if_neg hlong, if_neg hdash, hplain]
  · rw [hplain]

def step (level : Level) (state : State) (trailing : Bool) (word : Word) : Except Stop Step :=
  if trailing then (takeOperand level state true word).map (.stay · true)
  else
    match if state.awaitsValue then none else level.child? word with
    | some child => .ok (.call child)
    | none => takeWord level state word

/-- What a level asks for with its operand. -/
def task? : Level → Option Operand → Option Task
  | .updateFirmware, _ => some (.send .updateFirmware)
  | .setToken, some (.text token) => some (.send (.setToken token))
  | .setRobot, some (.text robot) => some (.send (.setRobot robot))
  | .config, _ => some (.configure none)
  | .configView, _ => some (.configure (some .view))
  | .configSetServer, some (.text url) => some (.configure (some (.setServer url)))
  | .configSetTimeout, some (.count secs) => some (.configure (some (.setTimeout secs)))
  | .configReset, _ => some (.configure (some .reset))
  | _, _ => none

/-- Ends a command line at a level. -/
def finish (level : Level) (state : State) : Except Stop CommandLine :=
  match state.settle level with
  | .error stop => .error stop
  | .ok settled =>
    match task? level settled.operand with
    | some task => .ok ⟨settled.server, settled.timeout, settled.verbose, settled.json, task⟩
    | none =>
      if level = .program then .error (if settled.used.isEmpty then .nothingGiven else .missingCommand)
      else .error (.missingOperand level settled.used)

/-- Adds what a level has met to what was found below it, which comes first. -/
def under (found : CommandLine) (state : State) : CommandLine :=
  { found with
    server := found.server.or state.server
    timeout := found.timeout.or state.timeout
    verbose := found.verbose || state.verbose
    json := found.json || state.json }

/-- Follows the words behind a help command to the level whose page is asked for. -/
def helpFor (level : Level) : List Word → Stop
  | [] => .helpPage level
  | word :: rest =>
    match level.child? word with
    | some child => helpFor child rest
    | none => .unknownCommand level (Utf8.decodeLossy word) []

/-- Reads the words at a level and the levels below it. What is pending at a level is only looked at once
    the levels below have been read. -/
def parseAt (level : Level) (state : State) (trailing : Bool) : List Word → Except Stop CommandLine
  | [] => finish level state
  | word :: rest =>
    match step level state trailing word with
    | .error stop => .error stop
    | .ok (.stay next trailing) => parseAt level next trailing rest
    | .ok (.call child) =>
      if child.isHelp then .error (helpFor level rest)
      else
        match parseAt child {} false rest with
        | .error stop => .error stop
        | .ok found =>
          match state.settle level with
          | .error stop => .error stop
          | .ok settled => .ok (found.under settled)

/-- Reads the words behind the name of the program. -/
def parse (words : List Word) : Except Stop CommandLine :=
  parseAt .program {} false words

end RobotAdmin.CommandLine
