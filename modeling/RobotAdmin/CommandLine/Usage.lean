import RobotAdmin.CommandLine.Level

namespace RobotAdmin.CommandLine

/-- Something on a command line that belongs to a level: one of its options or its operand. -/
inductive Slot where
  | switch (switch : Switch)
  | operand
  deriving DecidableEq, Repr

/-- A slot as it is told to a user. -/
def Slot.text (level : Level) : Slot → String
  | .switch s => s.text
  | .operand => level.operand?.elim "" (·.1)

/-- Adds a slot to those that are used, once. -/
def use (used : List Slot) (slot : Slot) : List Slot :=
  if slot ∈ used then used else used ++ [slot]

namespace Level

private def spaced (words : List String) : String := " ".intercalate words

private def path (level : Level) : List String := programName :: level.words

/-- The words for all options of a level, which has some unless it is a help command. -/
private def switchWords (level : Level) : List String := if level.isHelp then [] else ["[OPTIONS]"]

private def operandWords (level : Level) : List String := level.operand?.toList.map (·.1)

/-- The words for the subcommands of a level, which only the program needs. -/
private def childWords (level : Level) : List String :=
  match level with
  | .program => ["<COMMAND>"]
  | .config => ["[COMMAND]"]
  | _ => []

/-- How a level is used in general. -/
def generalUsage (level : Level) : String :=
  spaced (level.path ++ level.switchWords ++ level.operandWords ++ level.childWords)

/-- The word that stands for a subcommand where options are told. -/
private def commandWords (level : Level) : List String := if level = .program then ["<COMMAND>"] else []

/-- How a level is used with the options of the given slots; in general if there are none. -/
def usage (level : Level) (used : List Slot) : String :=
  let switches := used.filter (· != .operand)
  if used.isEmpty then level.generalUsage
  else spaced (level.path ++ switches.map (Slot.text level) ++ level.operandWords ++ level.commandWords)

/-- How a level is used with one more option. Behind others the program tells all options for a run
    together. -/
def usageWith (level : Level) (used : List Slot) (switch : Switch) : String :=
  if level = .program ∧ !used.isEmpty then
    let apart := if switch ∈ runSwitches then [] else [switch.text]
    let together := "<" ++ "|".intercalate (runSwitches.map Switch.text) ++ ">"
    spaced (level.path ++ apart ++ [together] ++ level.commandWords)
  else level.usage (use used (.switch switch))

/-- Rows of two columns, indented by two spaces. The second column is aligned. -/
private def rows (entries : List (String × String)) : String :=
  let width := entries.foldl (fun width entry => max width entry.1.length) 0
  let row := fun (left, right) =>
    "  " ++ left ++ String.ofList (List.replicate (width - left.length) ' ') ++ "  " ++ right ++ "\n"
  String.join (entries.map row)

private def block (title : String) (entries : List (String × String)) : String :=
  if entries.isEmpty then "" else "\n" ++ title ++ ":\n" ++ rows entries

private def switchEntry (switch : Switch) : String × String :=
  (switch.letter?.elim "    " (fun letter => String.ofList ['-', letter] ++ ", ") ++ switch.text, switch.about)

/-- The help page of a level. -/
def page (level : Level) : String :=
  level.about ++ "\n\nUsage: " ++ level.generalUsage ++ "\n" ++
    block "Commands" (level.children.map fun child => (child.name, child.about)) ++
    block "Arguments" level.operand?.toList ++
    block "Options" (level.switches.map switchEntry)

end Level

end RobotAdmin.CommandLine
