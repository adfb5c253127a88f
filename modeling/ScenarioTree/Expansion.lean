import ScenarioTree.Declaration.Trial

/-! # Expanding feature trees

Expanding a tree declares its nodes: groups and tests in input order, the groups of a fan-out in the
order of its fragments, and no test is run on the way. Every node sees a scope, a context, and the
index of the fan-out position around it, which is null unless it stands directly below one. The root
is built once, before anything is declared; what is below a built node is built already.
-/

namespace ScenarioTree

/-- The name of the group of a fan-out position. -/
def indexedGroupName (index : String) : String := "Set index: " ++ index

/-- The name of the group of the fan-out position with the given number. -/
def positionName (position : Nat) : String := indexedGroupName (toString position)

/-- The scope that a node runs against: what its own getter picks, if it has one. -/
def ownScope {σ : Type} (behaviour : Behaviour σ) (node scope : Value) : Run σ Value :=
  match (node.exposed? "get_dom_fragment").bind Value.callable? with
  | some getter => call behaviour (.callable getter) [node, scope]
  | none => pure scope

variable {σ : Type}

/-- The fragments that a node fans out over. -/
def fragments (behaviour : Behaviour σ) (fragmentSet : Callable) (scope : Value) :
    Run σ (List Value) := do
  elements (← call behaviour (.callable fragmentSet) [scope])

def conditionHolds (behaviour : Behaviour σ) (given : Callable) (scope context index : Value) :
    Run σ Bool := do
  let answer ← call behaviour (.callable given) [scope, context, index]
  pure answer.isTruthy

def declareScenario (name subject scope context : Value) : Declaring σ Unit :=
  Declaring.test name (.scenario subject scope context)

/-- Declares the test of whatever exposes a scenario. -/
def declareSubject (subject scope context : Value) : Declaring σ Unit := do
  let name ← Declaring.ofRun (exposed subject "scenario")
  declareScenario name subject scope context

/-- Declares the hooks of a group: `before` for the context, `before_each` for the scope too. -/
def GroupHead.declareHooks (head : GroupHead) (scope context : Value) : Declaring σ Unit := do
  match head.before with
  | some hook => Declaring.hook .before ⟨.callable hook, [context]⟩
  | none => pure ()
  match head.beforeEach with
  | some hook => Declaring.hook .beforeEach ⟨.callable hook, [scope, context]⟩
  | none => pure ()

/-- Declares one group for every fragment, from the given position on. -/
def declarePositions (body : Value → Nat → Declaring σ Unit) (position : Nat) :
    List Value → Declaring σ Unit
  | [] => pure ()
  | fragment :: rest => do
    Declaring.group (positionName position) (body fragment position)
    declarePositions body (position + 1) rest

mutual

def expandNode (behaviour : Behaviour σ) (scope context index : Value) :
    Node → Declaring σ Unit
  | .plainGroup head tests =>
    Declaring.group head.name do
      GroupHead.declareHooks head scope context
      expandNodes behaviour scope context .null tests
  | .fanOutGroup head fragmentSet tests => do
    let scopes ← Declaring.ofRun (fragments behaviour fragmentSet scope)
    Declaring.group head.name do
      GroupHead.declareHooks head scope context
      declarePositions
        (fun fragment (position : Nat) =>
          expandNodes behaviour fragment context (.int position) tests)
        0 scopes
  | .directLeaf name check getFragment => do
    let subject := Value.ofNode (.directLeaf name check getFragment)
    let fragment ← Declaring.ofRun (ownScope behaviour subject scope)
    declareScenario (.str name) subject fragment context
  | .conditionalLeaf name check getFragment given => do
    if ← Declaring.ofRun (conditionHolds behaviour given scope context index) then
      let subject := Value.ofNode (.conditionalLeaf name check getFragment given)
      let fragment ← Declaring.ofRun (ownScope behaviour subject scope)
      declareScenario (.str name) subject fragment context
  | .fanOutLeaf name check fragmentSet given => do
    let scopes ← Declaring.ofRun (fragments behaviour fragmentSet scope)
    declarePositions
      (fun fragment _ => do
        let holds ← match given with
          | none => pure true
          | some given => Declaring.ofRun (conditionHolds behaviour given scope context index)
        if holds then
          let subject := Value.ofNode (.fanOutLeaf name check fragmentSet given)
          declareScenario (.str name) subject fragment context)
      0 scopes
  | .inheritingLeaf name getFragment inherited =>
    Declaring.group name do
      let subject := Value.ofNode (.inheritingLeaf name getFragment inherited)
      let fragment ← Declaring.ofRun (ownScope behaviour subject scope)
      expandNodes behaviour fragment context .null inherited
termination_by structural node => node

def expandNodes (behaviour : Behaviour σ) (scope context index : Value) :
    List Node → Declaring σ Unit
  | [] => pure ()
  | node :: rest => do
    expandNode behaviour scope context index node
    expandNodes behaviour scope context index rest
termination_by structural nodes => nodes

end

/-- Declares a built node. An outsider declares nothing; one without a kind cannot be told from the
others. -/
def expandModel (behaviour : Behaviour σ) (scope context index : Value) :
    Model → Declaring σ Unit
  | .node node => expandNode behaviour scope context index node
  | .outsider outsider =>
    match (Model.outsider outsider).kind? with
    | some _ => pure ()
    | none => throw (.noAttribute (Model.outsider outsider).modelClass.name "kind")

/-- Declares successive built nodes. -/
def expandModels (behaviour : Behaviour σ) (scope context index : Value) :
    List Model → Declaring σ Unit
  | [] => pure ()
  | model :: rest => do
    expandModel behaviour scope context index model
    expandModels behaviour scope context index rest

/-- How trees are built and expanded. -/
structure Expander (σ : Type) where
  behaviour : Behaviour σ
  builder : Builder := {}

namespace Expander

def expand (expander : Expander σ) (nodes scope context index : Value) : Declaring σ Unit := do
  let models ← Declaring.ofRun (expander.builder.run nodes)
  expandModels expander.behaviour scope context index models

/-- Declares a tree against the document of a context. -/
def expandWithin (expander : Expander σ) (nodes context : Value) : Declaring σ Unit :=
  expander.expand nodes context.document context .null

def expandAgainst (expander : Expander σ) (nodes scope context : Value) : Declaring σ Unit :=
  expander.expand nodes scope context .null

/-- Declares a tree. Without a context, a scope that exposes a document which counts as true is
taken as the context, and its document as the scope. -/
def expandOpen (expander : Expander σ) (nodes scope context index : Value) : Declaring σ Unit :=
  match context with
  | .null =>
    if scope.document.isTruthy then expander.expand nodes scope.document scope index
    else expander.expand nodes scope .null index
  | context => expander.expand nodes scope context index

end Expander

end ScenarioTree
