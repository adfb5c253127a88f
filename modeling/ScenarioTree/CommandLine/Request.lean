import ScenarioTree.CommandLine.Basic
import ScenarioTree.Text.Similar

/-! # Requests

Arguments are read as a request. Two dashes alone end the options of a level. The program reads its
options up to the first other argument, which is the command; a command reads options anywhere
among its arguments. An unknown option is told before help is given, and help before anything that
is wrong with the other arguments.
-/

namespace ScenarioTree.CommandLine

inductive Request where
  /-- The help text of the program, which is given for want of arguments. -/
  | overview
  | help (level : Level)
  | reject (level : Level) (misuse : Misuse)
  /-- Inspects a feature module. Further arguments are refused once the module is found. -/
  | inspect (command : Command) (relaxed : Bool) (path : String) (extra : List String)
deriving Repr, DecidableEq, Inhabited

/-- The switches and the other arguments that a level was given. -/
structure Given where
  switches : List Switch := []
  others : List String := []
deriving Repr, DecidableEq, Inhabited

/-- Whether an argument is an option: a dash with something behind it. -/
def isOption (argument : String) : Bool :=
  match argument.toList with
  | '-' :: _ :: _ => true
  | _ => false

/-- The name of an option without the value that is attached to it, and whether there is one. -/
def optionName (argument : String) : String × Bool :=
  let chars := argument.toList
  (String.ofList (chars.takeWhile (· != '=')), chars.contains '=')

/-- The misuse of an option that a level does not have. Behind a single dash every character is an
option of its own. -/
def unknownOption (level : Level) (argument : String) : Misuse :=
  match argument.toList with
  | '-' :: '-' :: _ =>
    let (name, _) := optionName argument
    .noSuchOption name (Text.similarTo name (level.switches.map Switch.word))
  | '-' :: letter :: _ => .noSuchOption (String.ofList ['-', letter]) []
  | _ => .noSuchOption argument []

def readOption (level : Level) (argument : String) : Except Misuse Switch :=
  let (name, hasValue) := optionName argument
  match level.switches.find? fun s => s.word == name with
  | none => .error (unknownOption level argument)
  | some s => if hasValue then .error (.unexpectedValue s.word) else .ok s

/-- Reads the arguments of a level. Without `interspersed` options end at the first argument that is
none. -/
def readGiven (level : Level) (interspersed : Bool) : List String → Except Misuse Given
  | [] => .ok {}
  | argument :: rest =>
    if argument == "--" then .ok { others := rest }
    else if isOption argument then do
      let s ← readOption level argument
      let given ← readGiven level interspersed rest
      .ok { given with switches := s :: given.switches }
    else if interspersed then do
      let given ← readGiven level interspersed rest
      .ok { given with others := argument :: given.others }
    else .ok { others := argument :: rest }

def readCommand (command : Command) (arguments : List String) : Request :=
  let level := Level.command command
  match readGiven level true arguments with
  | .error misuse => .reject level misuse
  | .ok given =>
    if given.switches.contains .help then .help level
    else match given.others with
      | [] => .reject level .missingArgument
      | path :: extra => .inspect command (given.switches.contains .relaxed) path extra

/-- Reads arguments that start with a word that is no command. Behind two dashes the word may look
like an option, so the arguments are read once more for the options in front of them. -/
def readUnknown (word : String) (rest : List String) : Request :=
  match readGiven .program false (word :: rest) with
  | .error misuse => .reject .program misuse
  | .ok given =>
    if given.switches.contains .help then .help .program
    else .reject .program
      (.noSuchCommand word (Text.similarTo word (Command.all.map Command.word)))

def Request.ofArguments : List String → Request
  | [] => .overview
  | arguments =>
    match readGiven .program false arguments with
    | .error misuse => .reject .program misuse
    | .ok given =>
      if given.switches.contains .help then .help .program
      else match given.others with
        | [] => .reject .program .missingCommand
        | word :: rest =>
          match Command.ofWord? word with
          | some command => readCommand command rest
          | none => readUnknown word rest

/-- The path of the feature module that a request is about. -/
def Request.path? : Request → Option String
  | inspect _ _ path _ => some path
  | _ => none

end ScenarioTree.CommandLine
