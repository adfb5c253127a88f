import ScenarioTree.CommandLine.Paths
import ScenarioTree.CommandLine.Request
import ScenarioTree.Settings
import ScenarioTree.Yaml.Block

/-! # Answers to requests

A request is answered by an exit code and what is written to the two streams. The tree of a feature
module is declared for it and no test is run. Ordinary failures are told and end with code one;
unusable settings are no part of the module and escape.
-/

namespace ScenarioTree.CommandLine

structure Exit where
  code : Nat := 0
  output : String := ""
  errors : String := ""
  /-- A failure that was not told. -/
  escaped : Option Failure := none
deriving Repr, Inhabited

namespace Exit

def success (output : String) : Exit := { output }

/-- The end after arguments that cannot be used. -/
def misuse (errors : String) : Exit := { code := 2, errors }

/-- The end after a failure, with its explanation. -/
def failure (explanation : String) : Exit :=
  { code := 1, errors := "Error: " ++ explanation ++ "\n" }

/-- The end after a failure that is not told. -/
def escape (failure : Failure) : Exit := { code := 1, escaped := some failure }

end Exit

def Command.print (root : Group) : Command → String
  | check => "OK: " ++ toString root.cases.length ++ " test(s) declared\n"
  | outline => Yaml.document root.outline

/-- How an ordinary failure of a feature module is explained, or the error of telling it. -/
def explanation (failure : Failure) : Except RaisedError String :=
  if failure.isTreeError then failure.told
  else .ok ("Can not walk feature module: " ++ failure.literal)

variable {σ : Type}

/-- How the program ends after a failure of a feature module. An ordinary one is told; another one passes,
and the error of telling one escapes. -/
def ending (failure : Failure) : Except Failure Exit :=
  if failure.isOrdinary then
    match explanation failure with
    | .ok explanation => .ok (.failure explanation)
    | .error error =>
      if (Failure.raised error).isOrdinary then .ok (.escape (.raised error)) else .error (.raised error)
  else .error failure

def inspect (behaviour : Behaviour σ) (importer : Importer) (environment : List (String × String))
    (command : Command) (relaxed : Bool) (filename : String) (file : ModuleFile) : Run σ Exit :=
  match Settings.switched environment relaxed with
  | .invalid issues => pure (.escape (.invalid issues))
  | .valid settings =>
    tryCatch
      (do
        let root ← file.declare behaviour importer settings filename
        pure (.success (command.print root)))
      fun failure => ExceptT.mk (pure (ending failure))

/-- Answers a request, given what is found under the path of its feature module. -/
def Request.answer (behaviour : Behaviour σ) (importer : Importer)
    (environment : List (String × String)) (file : ModuleFile) : Request → Run σ Exit
  | overview => pure (.misuse Level.program.help)
  | help level => pure (.success level.help)
  | reject level misuse => pure (.misuse (misuse.report level))
  | inspect command relaxed path extra =>
    let refuse (misuse : Misuse) : Run σ Exit :=
      pure (.misuse (misuse.report (.command command)))
    match file with
    | .missing => refuse (.noSuchFile path)
    | .directory => refuse (.isDirectory path)
    | found =>
      if extra.isEmpty then
        CommandLine.inspect behaviour importer environment command relaxed (plainPath path) found
      else refuse (.extraArguments extra)

end ScenarioTree.CommandLine
