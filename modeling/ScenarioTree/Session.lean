import ScenarioTree.Declaration.Observed
import ScenarioTree.Expansion

/-! # Sessions

A session is a sequence of steps over one tree: steps that declare, steps that run tests, and steps
that look at what was declared. A step that fails leaves behind what it did so far, and the session
goes on. Of every step its result is observed, with the events and the warnings during it.
-/

namespace ScenarioTree

variable {σ α : Type}

/-- What a tree is expanded against. -/
inductive Entry where
  /-- Without a context, the scope may serve as one. -/
  | root
  /-- Against the document of the context. -/
  | context
  /-- Against the scope alone. -/
  | scope
  /-- Against the scope, below a fan-out position. -/
  | nodes
deriving Repr, DecidableEq, Inhabited

structure Visit where
  entry : Entry := .root
  builder : Builder := {}
  nodes : Value := .null
  scope : Value := .null
  context : Value := .null
  index : Value := .null
deriving Repr, Inhabited

def Visit.declare (behaviour : Behaviour σ) (visit : Visit) : Declaring σ Unit :=
  let expander : Expander σ := { behaviour, builder := visit.builder }
  match visit.entry with
  | .root => expander.expandOpen visit.nodes visit.scope visit.context visit.index
  | .context => expander.expandWithin visit.nodes visit.context
  | .scope => expander.expandAgainst visit.nodes visit.scope visit.context
  | .nodes => expander.expand visit.nodes visit.scope visit.context visit.index

/-- A step of a session. Groups are named by the child indices that lead to them. -/
inductive Step where
  | group (name : String) (body : List Step)
  | hook (kind target : Value)
  | test (name target : Value)
  | fail (failure : Failure)
  | expand (visit : Visit)
  | execute (subject scope context : Value)
  | run (position : Int)
  | runAll
  | activate (group : List Int)
  | tests (group : List Int)
  | outline (group : List Int)
  | ancestors (declaration : List Int)
deriving Repr, Inhabited

inductive Reply where
  | done
  | runs (runs : List (Observed Unit))
  | paths (paths : List (List Value))
  | outline (outline : Plain)
  | names (names : List String)

/-- The tree of a session, the status of its groups, and its world. -/
structure Session (σ : Type) where
  recorder : Recorder := {}
  activation : Activation := Activation.initial
  world : World σ

/-- A computation of a session. -/
abbrev Stepping (σ : Type) := ExceptT Failure (StateM (Session σ))

/-- A declaration in a session. -/
def Stepping.ofDeclaring (declaring : Declaring σ α) : Stepping σ α := ExceptT.mk fun session =>
  let (result, recording) := declaring.run.run ⟨session.recorder, session.world⟩
  (result, { session with recorder := recording.recorder, world := recording.world })

/-- A run of tests in a session. -/
def Stepping.ofTesting (testing : Testing σ α) : Stepping σ α := ExceptT.mk fun session =>
  let (result, trial) := testing.run.run ⟨session.activation, session.world⟩
  (result, { session with activation := trial.activation, world := trial.world })

def getRoot : Stepping σ Group := do
  let session ← get
  pure session.recorder.root

/-- What child indices lead to in the tree of a session. -/
def reach (indices : List Int) : Stepping σ Reached := do
  let root ← getRoot
  pure ((Placed.root root).reach indices)

def testLacks (name : String) : Failure := .noAttribute "TestDeclaration" name

/-- The group that child indices lead to; `wanted` is what it is needed for. -/
def getPlaced (wanted : String) (indices : List Int) : Stepping σ Placed := do
  match ← reach indices with
  | .group placed => pure placed
  | .test _ => throw (testLacks wanted)
  | .belowTest => throw (testLacks "children")
  | .nothing => throw .outOfRange

/-- The names of the groups around what child indices lead to. -/
def getAncestors (indices : List Int) : Stepping σ (List String) := do
  match ← reach indices with
  | .group placed => pure (placed.enclosing.map Enclosing.name)
  | .test enclosing => pure (enclosing.map Enclosing.name)
  | .belowTest => throw (testLacks "children")
  | .nothing => throw .outOfRange

def runAt (behaviour : Behaviour σ) (position : Int) : Stepping σ Unit := do
  let root ← getRoot
  match itemAt? root.cases position with
  | some case => Stepping.ofTesting (case.run behaviour)
  | none => throw .outOfRange

def runEvery (behaviour : Behaviour σ) : Stepping σ (List (Observed Unit)) :=
  ExceptT.mk fun session =>
    let (runs, trial) :=
      runCases behaviour session.recorder.root.cases ⟨session.activation, session.world⟩
    (.ok runs, { session with activation := trial.activation, world := trial.world })

/-- Performs a body inside a new group, which is closed also when the body fails. -/
def inGroup (name : String) (body : Stepping σ Unit) : Stepping σ Unit := ExceptT.mk fun session =>
  let (result, after) := body.run.run { session with recorder := session.recorder.enter name }
  (result, { after with recorder := after.recorder.leave })

mutual

def Step.perform (behaviour : Behaviour σ) : Step → Stepping σ Reply
  | .group name body => do
    inGroup name (performSteps behaviour body)
    pure .done
  | .hook kind target => do
    Stepping.ofDeclaring (Declaring.hookNamed kind ⟨target, []⟩)
    pure .done
  | .test name target => do
    Stepping.ofDeclaring (Declaring.test name (.invoke ⟨target, []⟩))
    pure .done
  | .fail failure => throw failure
  | .expand visit => do
    Stepping.ofDeclaring (visit.declare behaviour)
    pure .done
  | .execute subject scope context => do
    Stepping.ofDeclaring (declareSubject subject scope context)
    pure .done
  | .run position => do
    runAt behaviour position
    pure .done
  | .runAll => do
    let runs ← runEvery behaviour
    pure (.runs runs)
  | .activate group => do
    let placed ← getPlaced "activate" group
    Stepping.ofTesting (ScenarioTree.activate behaviour placed.asEnclosing)
    pure .done
  | .tests group => do
    let placed ← getPlaced "tests" group
    pure (.paths (placed.cases.map Case.path))
  | .outline group => do
    let placed ← getPlaced "outline" group
    pure (.outline placed.group.outline)
  | .ancestors declaration => do
    let names ← getAncestors declaration
    pure (.names names)
termination_by structural step => step

/-- Performs the steps of a group body, up to the first that fails. -/
def performSteps (behaviour : Behaviour σ) : List Step → Stepping σ Unit
  | [] => pure ()
  | step :: rest => do
    let _ ← step.perform behaviour
    performSteps behaviour rest
termination_by structural steps => steps

end

/-- What was observed of a step, and the path of the group that is open after it. -/
structure Stepped where
  observed : Observed Reply
  current : List String

def Session.perform (behaviour : Behaviour σ) :
    List Step → Session σ → List Stepped × Session σ
  | [], session => ([], session)
  | step :: rest, session =>
    let (result, after) := (step.perform behaviour).run.run session
    let stepped : Stepped := ⟨session.world.observe after.world result, after.recorder.path⟩
    let (others, final) := Session.perform behaviour rest after
    (stepped :: others, final)

end ScenarioTree
