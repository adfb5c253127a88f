import ScenarioTree.Settings
import ScenarioTree.Expansion

/-! # Feature modules

A feature module defines a tree and what it runs against: a context that exposes a document, a bare
scope, or both. An attribute that is a plain function is a factory, and its result is taken. The
attributes are read one after the other, and the first failure ends loading. Which files are modules, and
what a module has before it is executed, is given from outside.
-/

namespace ScenarioTree

/-- What is found under the name of a module. -/
inductive ModuleFile where
  | missing
  | directory
  /-- Executing the module fails. -/
  | failing (failure : Failure)
  /-- Executing the module gives values to names and deletes names, in order. -/
  | defining (changes : List (String × Option Value))
deriving Repr, Inhabited

namespace ModuleFile

def isMissing : ModuleFile → Bool
  | missing => true
  | _ => false

def isDirectory : ModuleFile → Bool
  | directory => true
  | _ => false

end ModuleFile

/-- The tree of a module and what it runs against. -/
structure Source where
  nodes : Value
  scope : Value := .null
  context : Value := .null
  filename : Option String := none
deriving Repr, Inhabited

variable {σ : Type}

def wrapping {α : Type} (wrap : Failure → Failure) (run : Run σ α) : Run σ α :=
  tryCatch run fun failure => throw (if failure.isOrdinary then wrap failure else failure)

structure Importer where
  /-- The attributes that the module of a name has before the file at a path is executed for it. Making the
  module may fail; without an answer no importer knows the file. -/
  create? : (name path : String) → Option (Except Failure (List (String × Value)))

/-- What the names of executed modules start with. -/
def packageName : String := "featuretree"

def beforeLastDot (text : String) : String :=
  String.ofList ((text.toList.reverse.dropWhile (· != '.')).drop 1).reverse

/-- The name of the file at a path, without its extension. A dot that starts or ends the name is part of
it. -/
def stem (path : String) : String :=
  let name := String.ofList (path.toList.reverse.takeWhile (· != '/')).reverse
  let front := beforeLastDot name
  if front.isEmpty || name.endsWith "." then name else front

def moduleName (path : String) : String := packageName ++ "." ++ stem path

/-- What the module of a source file states at first: its name, the package around it, the path of the file,
and no documentation. The objects of an importer, which a module also has, are left to the importer. -/
def sourceAttributes (name path : String) : List (String × Value) :=
  [("__name__", .str name), ("__package__", .str (beforeLastDot name)), ("__file__", .str path),
    ("__doc__", .null)]

def sourceImporter : Importer where
  create? name path := if path.endsWith ".py" then some (.ok (sourceAttributes name path)) else none

/-- Attributes after changes to them, the latest first. -/
def changed (attributes : List (String × Value)) :
    List (String × Option Value) → List (String × Value)
  | [] => attributes
  | (name, some value) :: rest => changed ((name, value) :: attributes) rest
  | (name, none) :: rest => changed (attributes.filter fun entry => entry.1 != name) rest

def ModuleFile.attributes (importer : Importer) (filename : String) (file : ModuleFile) :
    Run σ (List (String × Value)) :=
  match importer.create? (moduleName filename) filename with
  | none => throw (.noImporter filename)
  | some (.error failure) => throw failure
  | some (.ok given) => wrapping (.importFailed filename) (match file with
    | .missing => throw .fileMissing
    | .directory => throw .fileIsDirectory
    | .failing failure => throw failure
    | .defining changes => pure (changed given changes))

/-- The failure of taking an attribute that a module does not have. -/
def absentAttribute (attributes : List (String × Value)) (name : String) : Failure :=
  let owner := match attributes.lookup "__name__" with
    | some (.str own) => "module '" ++ own ++ "'"
    | _ => "module"
  .raised ⟨.attributeError, owner ++ " has no attribute '" ++ name ++ "'"⟩

/-- Takes an attribute of a module. For one that it does not have, the module may define a callable that is
asked for it. -/
def takeAttribute (behaviour : Behaviour σ) (attributes : List (String × Value)) (name : String) :
    Run σ Value :=
  match attributes.lookup name with
  | some value => pure value
  | none =>
    match attributes.lookup "__getattr__" with
    | some asked => call behaviour asked [.str name]
    | none => throw (absentAttribute attributes name)

def takeAttribute? (behaviour : Behaviour σ) (attributes : List (String × Value)) (name : String) :
    Run σ (Option Value) :=
  tryCatch (some <$> takeAttribute behaviour attributes name) fun failure =>
    if failure.tellsAbsence then pure none else throw failure

/-- How a module shows the file that it states: not at all if what it states does not count as true. -/
def statedFile (stated : Value) : Except RaisedError String :=
  if stated.isTruthy then stated.toText else .ok ""

/-- The value of an attribute, if the module has it. A plain function is called for it; if that fails, the
module is asked for its file. -/
def attributeValue? (behaviour : Behaviour σ) (attributes : List (String × Value)) (name : String) :
    Run σ (Option Value) := do
  match ← takeAttribute? behaviour attributes name with
  | some (.callable (.defined id functionName .function)) =>
    tryCatch (some <$> call behaviour (.callable (.defined id functionName .function)) []) fun failure =>
      if failure.isOrdinary then do
        let stated ← takeAttribute behaviour attributes "__file__"
        throw (.factoryFailed (statedFile stated) name failure)
      else throw failure
  | found => pure found

/-- Loads a module: its tree, then its scope, then its context. -/
def ModuleFile.load (behaviour : Behaviour σ) (importer : Importer) (settings : Settings)
    (filename : String) (file : ModuleFile) : Run σ Source := do
  let attributes ← file.attributes importer filename
  match ← attributeValue? behaviour attributes settings.featuresAttribute with
  | none => throw (.noFeatures filename settings.featuresAttribute)
  | some nodes =>
    let scope ← attributeValue? behaviour attributes settings.scopeAttribute
    let context ← attributeValue? behaviour attributes settings.contextAttribute
    pure { nodes, scope := scope.getD .null, context := context.getD .null, filename }

def Value.isNull : Value → Bool
  | .null => true
  | _ => false

/-- Declares the tree of a source: against the document of its context if it has no scope, and
otherwise against its scope. -/
def Source.expand (behaviour : Behaviour σ) (strict : Bool) (source : Source) : Declaring σ Unit :=
  let expander : Expander σ := { behaviour, builder := { strict, filename := source.filename } }
  if !source.context.isNull && source.scope.isNull then
    expander.expandWithin source.nodes source.context
  else expander.expandAgainst source.nodes source.scope source.context

def Source.declare (behaviour : Behaviour σ) (strict : Bool) (source : Source) : Run σ Group :=
  ExceptT.mk fun world =>
    let (result, recording) := (source.expand behaviour strict).run.run { world }
    (result.map fun _ => recording.recorder.root, recording.world)

def ModuleFile.declare (behaviour : Behaviour σ) (importer : Importer) (settings : Settings)
    (filename : String) (file : ModuleFile) : Run σ Group := do
  let source ← file.load behaviour importer settings filename
  source.declare behaviour settings.strict

end ScenarioTree
