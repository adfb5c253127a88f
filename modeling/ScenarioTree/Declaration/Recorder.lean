import ScenarioTree.Declaration.Basic
import ScenarioTree.World

/-! # Recording declarations

Declarations are recorded in the group whose body is being run. The groups that are open form a
chain from the innermost one outwards. A group is closed when its body ends, also when the body
fails, and takes its place as the last child of the group around it.
-/

namespace ScenarioTree

/-- The open groups of a tree that is being declared. -/
structure Recorder where
  current : Group := {}
  /-- The groups around the current one, the innermost first. -/
  enclosing : List Group := []
deriving Repr, Inhabited

namespace Recorder

def add (recorder : Recorder) (declaration : Declaration) : Recorder :=
  { recorder with
    current := { recorder.current with children := recorder.current.children ++ [declaration] } }

def addHook (recorder : Recorder) (kind : HookKind) (hook : Invocation) : Recorder :=
  { recorder with
    current := { recorder.current with hooks := recorder.current.hooks.add hook kind } }

def enter (recorder : Recorder) (name : String) : Recorder :=
  ⟨{ name }, recorder.current :: recorder.enclosing⟩

/-- Closes the current group, unless it is the root. -/
def leave (recorder : Recorder) : Recorder :=
  match recorder.enclosing with
  | [] => recorder
  | outer :: rest => (Recorder.mk outer rest).add recorder.current.toDeclaration

/-- A group with the groups around it closed over it, the innermost first. -/
def close (group : Group) : List Group → Group
  | [] => group
  | outer :: rest =>
    close { outer with children := outer.children ++ [group.toDeclaration] } rest

def root (recorder : Recorder) : Group := close recorder.current recorder.enclosing

/-- The names that lead to the current group. -/
def path (recorder : Recorder) : List String :=
  (recorder.enclosing.reverse.map Group.name).filter (!·.isEmpty) ++ [recorder.current.name]

@[simp] theorem leave_enter (recorder : Recorder) (name : String) :
    (recorder.enter name).leave = recorder.add (.group name {} []) := rfl

end Recorder

/-- The tree that is being declared, in its world. -/
structure Recording (σ : Type) where
  recorder : Recorder := {}
  world : World σ
deriving Repr, Inhabited

abbrev Declaring (σ : Type) := ExceptT Failure (StateM (Recording σ))

variable {σ α : Type}

/-- A computation in the world of a recording. -/
def Declaring.ofRun (run : Run σ α) : Declaring σ α := ExceptT.mk fun recording =>
  let (result, world) := run.run.run recording.world
  (result, { recording with world })

def Declaring.update (change : Recorder → Recorder) : Declaring σ Unit :=
  modify fun recording => { recording with recorder := change recording.recorder }

def Declaring.group (name : String) (body : Declaring σ Unit) : Declaring σ Unit :=
  ExceptT.mk fun recording =>
    let (result, after) :=
      body.run.run { recording with recorder := recording.recorder.enter name }
    (result, { after with recorder := after.recorder.leave })

def Declaring.hook (kind : HookKind) (hook : Invocation) : Declaring σ Unit :=
  Declaring.update (·.addHook kind hook)

/-- Declares a hook of the kind with the given name; other kinds are refused. -/
def Declaring.hookNamed (kind : Value) (hook : Invocation) : Declaring σ Unit :=
  match HookKind.ofValue? kind with
  | some kind => Declaring.hook kind hook
  | none => throw (.unknownHook kind)

def Declaring.test (name : Value) (body : Body) : Declaring σ Unit :=
  Declaring.update (·.add (.test name body))

end ScenarioTree
