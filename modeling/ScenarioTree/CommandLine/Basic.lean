import ScenarioTree.Text.Quoted

/-! # Commands and their help

The program has two commands. Both inspect one feature module, and both accept the same switches.
What is wrong with the arguments is told below the usage of the program or of the command.
-/

namespace ScenarioTree.CommandLine

inductive Command where
  | check
  | outline
deriving Repr, DecidableEq, Inhabited

namespace Command

/-- All commands, in the order of the alphabet. -/
def all : List Command := [check, outline]

def word : Command → String
  | check => "check"
  | outline => "show"

def summary : Command → String
  | check => "Validate a feature module and report the number of declared tests."
  | outline => "Print the groups and tests declared by a feature module as YAML."

def ofWord? (word : String) : Option Command := all.find? fun command => command.word == word

end Command

/-- Where arguments are read: by the program before its command, or by a command. -/
inductive Level where
  | program
  | command (command : Command)
deriving Repr, DecidableEq, Inhabited

inductive Switch where
  | relaxed
  | help
deriving Repr, DecidableEq, Inhabited

namespace Switch

def word : Switch → String
  | relaxed => "--relaxed"
  | help => "--help"

def summary : Switch → String
  | relaxed => "Skip malformed nodes instead of rejecting them."
  | help => "Show this message and exit."

end Switch

def programName : String := "cli"

def argumentName : String := "MODULE"

namespace Level

def path : Level → String
  | program => programName
  | command c => programName ++ " " ++ c.word

def switches : Level → List Switch
  | program => [.help]
  | command _ => [.relaxed, .help]

def usage (level : Level) : String :=
  "Usage: " ++ level.path ++ (match level with
    | program => " [OPTIONS] COMMAND [ARGS]..."
    | command _ => " [OPTIONS] " ++ argumentName)

def summary : Level → String
  | program => "Command-line utilities for pytest-featuretree."
  | command c => c.summary

end Level

/-- The lines of a table of terms with their explanations, which are aligned. -/
def tableLines (rows : List (String × String)) : List String :=
  let width := (rows.map fun row => row.1.length).foldl max 0
  rows.map fun (term, explanation) =>
    "  " ++ term ++ String.ofList (List.replicate (width - term.length) ' ') ++ "  " ++ explanation

def endedLines (lines : List String) : String := String.join (lines.map (· ++ "\n"))

def Level.help (level : Level) : String :=
  let options := "Options:" :: tableLines (level.switches.map fun s => (s.word, s.summary))
  let commands := match level with
    | .program =>
      "" :: "Commands:" :: tableLines (Command.all.map fun c => (c.word, c.summary))
    | .command _ => []
  endedLines (level.usage :: "" :: ("  " ++ level.summary) :: "" :: options ++ commands)

inductive Misuse where
  | noSuchOption (name : String) (similar : List String)
  | unexpectedValue (option : String)
  | missingArgument
  | extraArguments (arguments : List String)
  | noSuchFile (path : String)
  | isDirectory (path : String)
  | missingCommand
  | noSuchCommand (name : String) (similar : List String)
deriving Repr, DecidableEq, Inhabited

namespace Misuse

def suggestion : List String → String
  | [] => ""
  | [word] => " Did you mean " ++ Text.quote word ++ "?"
  | words => " (Did you mean one of: " ++ ", ".intercalate (words.map Text.quote) ++ "?)"

/-- What is wrong with the argument of a command. -/
def invalidArgument (reason : String) : String :=
  "Invalid value for '" ++ argumentName ++ "': " ++ reason

def message : Misuse → String
  | noSuchOption name similar => "No such option " ++ Text.quote name ++ "." ++ suggestion similar
  | unexpectedValue option => "Option " ++ Text.quote option ++ " does not take a value."
  | missingArgument => "Missing argument '" ++ argumentName ++ "'."
  | extraArguments [argument] => "Got unexpected extra argument (" ++ argument ++ ")"
  | extraArguments arguments =>
    "Got unexpected extra arguments (" ++ " ".intercalate arguments ++ ")"
  | noSuchFile path => invalidArgument ("File " ++ Text.quote path ++ " does not exist.")
  | isDirectory path => invalidArgument ("File " ++ Text.quote path ++ " is a directory.")
  | missingCommand => "Missing command."
  | noSuchCommand name similar => "No such command " ++ Text.quote name ++ "." ++ suggestion similar

/-- Whether a misuse is told below the usage. A value for a switch is refused before it is known
who reads it. -/
def showsUsage : Misuse → Bool
  | unexpectedValue _ => false
  | _ => true

def report (misuse : Misuse) (level : Level) : String :=
  let usage := if misuse.showsUsage then
      [level.usage, "Try '" ++ level.path ++ " " ++ Switch.help.word ++ "' for help.", ""]
    else []
  endedLines (usage ++ ["Error: " ++ misuse.message])

end Misuse

end ScenarioTree.CommandLine
