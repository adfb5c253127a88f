import ScenarioTree.CommandLine.Answer
import ScenarioTree.Script.Reader

/-! # The program

A feature module is given as a file that describes it in JSON: the attributes that it defines, or
how its execution fails.
-/

namespace ScenarioTree

/-- The names of the environment variables of settings. -/
def settingVariables : List String :=
  ["FEATURETREE_STRICT", "FEATURETREE_FILE_PATTERN", "FEATURETREE_FEATURES_ATTRIBUTE",
    "FEATURETREE_CONTEXT_ATTRIBUTE", "FEATURETREE_SCOPE_ATTRIBUTE"]

/-- The environment variables of settings that are set. -/
def readEnvironment : IO (List (String × String)) :=
  settingVariables.filterMapM fun name => do
    let value? ← IO.getEnv name
    pure (value?.map fun value => (name, value))

def describedModule (content : String) : ModuleFile × Stage :=
  match (Json.read? content).bind fun document => ((readModule document).run {}).toOption with
  | some (file, casting) => (file, casting.stage)
  | none => (.failing (.raised ⟨.syntaxError, "invalid module description"⟩), {})

def readModuleFile (path : String) : IO (ModuleFile × Stage) := do
  try
    let content ← IO.FS.readFile path
    pure (describedModule content)
  catch error =>
    match error with
    | .noFileOrDirectory .. => pure (.missing, {})
    | _ => pure (.directory, {})

def runProgram (arguments : List String) : IO CommandLine.Exit := do
  let request := CommandLine.Request.ofArguments arguments
  let environment ← readEnvironment
  let (file, stage) ← match request.path? with
    | some path => readModuleFile path
    | none => pure (.missing, {})
  let (result, _) :=
    (request.answer Stage.behaviour sourceImporter environment file).run.run { store := stage }
  match result with
  | .ok exit => pure exit
  | .error failure => pure (.failure failure.literal)

end ScenarioTree

/-- Runs the program, and ends with its exit code. -/
def main (arguments : List String) : IO UInt32 := do
  let exit ← ScenarioTree.runProgram arguments
  IO.print exit.output
  IO.eprint exit.errors
  match exit.escaped with
  | some failure => IO.eprintln failure.literal
  | none => pure ()
  pure (UInt32.ofNat exit.code)
