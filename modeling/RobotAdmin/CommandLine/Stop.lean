import RobotAdmin.CommandLine.Usage
import RobotAdmin.Text.Terminal

namespace RobotAdmin.CommandLine

/-- What might have been meant. -/
inductive Tip where
  | similarSwitch (switch : Switch)
  | similarCommands (names : List String)
  | asValue (word : String)
  | withoutDashes (name : String)
  deriving DecidableEq, Repr

/-- Why the program ends at its command line, at the level where that is found. -/
inductive Stop where
  | helpPage (level : Level)
  | version
  | nothingGiven
  | missingCommand
  | missingOperand (level : Level) (used : List Slot)
  | missingValue (switch : Switch)
  | repeatedSwitch (level : Level) (switch : Switch)
  | invalidValue (level : Level) (slot : Slot) (value : String) (cause : NumeralFault)
  | unneededValue (level : Level) (switch : Switch) (value : String) (used : List Slot)
  | notUtf8 (level : Level)
  | unknownArgument (level : Level) (word : String) (tip : Option Tip) (used : List Slot)
  | unknownCommand (level : Level) (word : String) (similar : List String)
  deriving DecidableEq, Repr

private def ticked (text : String) : String := "'" ++ text ++ "'"

/-- A word from the command line in a message. -/
private def wordText (word : String) : String := ticked (Text.plain word)

def Tip.text : Tip → String
  | .similarSwitch switch => "a similar argument exists: " ++ ticked ("--" ++ switch.name)
  | .similarCommands names =>
    (if names.length = 1 then "a similar subcommand exists: " else "some similar subcommands exist: ") ++
      ", ".intercalate (names.map ticked)
  | .asValue word => "to pass " ++ wordText word ++ " as a value, use " ++ wordText ("-- " ++ word)
  | .withoutDashes name => "subcommand " ++ wordText name ++ " exists; to use it, remove the '--' before it"

namespace Stop

private def pointer : String := "\nFor more information, try '--help'.\n"

/-- A complaint with a tip and how a level is used. A help command has no help of its own to point to. -/
private def complaint (message : String) (tip : Option Tip) (level : Level) (usage : String) : String :=
  "error: " ++ message ++ "\n" ++ tip.elim "" (fun tip => "\n  tip: " ++ tip.text ++ "\n") ++
    "\nUsage: " ++ usage ++ "\n" ++ if level.isHelp then "" else pointer

/-- What a user is told. -/
def text : Stop → String
  | .helpPage level => level.page
  | .version => Level.programName ++ " 0.0.1\n"
  | .nothingGiven => Level.program.page
  | .missingCommand =>
    complaint
      (ticked Level.programName ++ " requires a subcommand but one was not provided\n  [subcommands: " ++
        ", ".intercalate (Level.program.children.map Level.name) ++ "]")
      none .program Level.program.generalUsage
  | .missingOperand level used =>
    complaint ("the following required arguments were not provided:\n  " ++ Slot.operand.text level) none level
      (level.usage (use used .operand))
  | .missingValue switch =>
    "error: a value is required for " ++ ticked switch.text ++ " but none was supplied\n" ++ pointer
  | .repeatedSwitch level switch =>
    complaint ("the argument " ++ ticked switch.text ++ " cannot be used multiple times") none level
      level.generalUsage
  | .invalidValue level slot value cause =>
    "error: invalid value " ++ wordText value ++ " for " ++ ticked (slot.text level) ++ ": " ++
      cause.message ++ "\n" ++ pointer
  | .unneededValue level switch value used =>
    complaint
      ("unexpected value " ++ wordText value ++ " for " ++ ticked switch.text ++
        " found; no more were expected")
      none level (level.usageWith used switch)
  | .notUtf8 level =>
    complaint "invalid UTF-8 was detected in one or more arguments" none level level.generalUsage
  | .unknownArgument level word tip used =>
    complaint ("unexpected argument " ++ wordText word ++ " found") tip level (level.usage used)
  | .unknownCommand level word similar =>
    complaint ("unrecognized subcommand " ++ wordText word)
      (if similar.isEmpty then none else some (.similarCommands similar)) level level.generalUsage

/-- Whether a user gets what was asked for. -/
def isAnswer : Stop → Bool
  | .helpPage _ | .version => true
  | _ => false

def exitCode (stop : Stop) : Nat := if stop.isAnswer then 0 else 2

end Stop

end RobotAdmin.CommandLine
