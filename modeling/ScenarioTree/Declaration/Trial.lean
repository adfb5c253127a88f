import ScenarioTree.Declaration.Recorder

/-! # Running tests

A test runs the `before` hooks of the groups around it that are still pending, then every
`before_each` hook of all of them, outer groups first, and then its body. The result of each call is
settled before the next one. The hooks of a group are started once; if one of them ended with an
ordinary failure, the group stays failed.
-/

namespace ScenarioTree

/-- Whether the `before` hooks of a group were started, and what became of them. -/
inductive Status where
  | pending
  | active
  | failed (failure : Failure)
deriving Repr, Inhabited

namespace Status

/-- Whether the hooks were started. -/
def isActivated : Status → Bool
  | pending => false
  | _ => true

def failure? : Status → Option Failure
  | failed failure => some failure
  | _ => none

end Status

/-- The status of every group, by its position. -/
abbrev Activation := List Nat → Status

/-- At first all groups are pending. -/
def Activation.initial : Activation := fun _ => .pending

/-- Changes the status of one group. -/
def Activation.set (activation : Activation) (position : List Nat) (status : Status) :
    Activation :=
  fun other => if other = position then status else activation other

@[simp] theorem Activation.set_same (activation : Activation) (position : List Nat)
    (status : Status) : activation.set position status position = status := by
  simp [Activation.set]

theorem Activation.set_other (activation : Activation) {position other : List Nat}
    (status : Status) (different : other ≠ position) :
    activation.set position status other = activation other := by
  simp [Activation.set, different]

/-- The status of the groups of a tree, in its world. -/
structure Trial (σ : Type) where
  activation : Activation := Activation.initial
  world : World σ

/-- A computation that runs tests. -/
abbrev Testing (σ : Type) := ExceptT Failure (StateM (Trial σ))

variable {σ α : Type}

/-- A computation in the world of a trial. -/
def Testing.ofRun (run : Run σ α) : Testing σ α := ExceptT.mk fun trial =>
  let (result, world) := run.run.run trial.world
  (result, { trial with world })

/-- Makes calls one after the other, each settled before the next. -/
def callAll (behaviour : Behaviour σ) : List Invocation → Run σ Unit
  | [] => pure ()
  | hook :: rest => do
    let _ ← callAndFinish behaviour hook.target hook.arguments
    callAll behaviour rest

def setStatus (position : List Nat) (status : Status) : Testing σ Unit :=
  modify fun trial => { trial with activation := trial.activation.set position status }

/-- Runs the pending `before` hooks of a group. A group counts as activated from the first of them
on, and remembers an ordinary failure. -/
def activate (behaviour : Behaviour σ) (group : Enclosing) : Testing σ Unit := do
  match (← get).activation group.position with
  | .failed failure => throw (.hookFailed group.name failure)
  | .active => pure ()
  | .pending =>
    setStatus group.position .active
    tryCatch (Testing.ofRun (callAll behaviour group.hooks.before)) fun failure => do
      if failure.isOrdinary then setStatus group.position (.failed failure)
      throw failure

/-- What a scenario exposes under a name, or the failure that it does not. -/
def exposed (subject : Value) (name : String) : Run σ Value :=
  match subject.exposed? name with
  | some value => pure value
  | none => throw (.noAttribute subject.className name)

/-- Checks a scenario: its data is gathered and settled, then compared, and the outcome settled.
Only the outcome false is a failure of its own. -/
def checkScenario (behaviour : Behaviour σ) (subject scope context : Value) : Run σ Unit := do
  let getActual ← exposed subject "get_actual"
  let actual ← callAndFinish behaviour getActual [scope, context]
  let comparison ← exposed subject "comparison"
  let outcome ← callAndFinish behaviour comparison [actual]
  match outcome with
  | .bool false =>
    let name ← exposed subject "scenario"
    throw (.ofRefuted name)
  | _ => pure ()

def runBody (behaviour : Behaviour σ) : Body → Run σ Unit
  | .scenario subject scope context => checkScenario behaviour subject scope context
  | .invoke invocation => do
    let _ ← callAndFinish behaviour invocation.target invocation.arguments

def activateAll (behaviour : Behaviour σ) : List Enclosing → Testing σ Unit
  | [] => pure ()
  | group :: rest => do
    activate behaviour group
    activateAll behaviour rest

def Case.run (behaviour : Behaviour σ) (case : Case) : Testing σ Unit := do
  activateAll behaviour case.enclosing
  Testing.ofRun (callAll behaviour (case.enclosing.flatMap fun group => group.hooks.beforeEach))
  Testing.ofRun (runBody behaviour case.body)

end ScenarioTree
