import ScenarioTree.Expansion

/-! # What a tree stands for

A typed tree stands for a list of declarations. The list is read off the tree node by node, with no
runner and no group that is open; only the callables of the nodes are asked, and what they answer may
depend on all that they were asked before. This is the reference that expanding is compared with.
-/

namespace ScenarioTree

variable {σ : Type}

/-- The hooks of a group, bound to what they are called with. -/
def GroupHead.hooks (head : GroupHead) (scope context : Value) : Hooks where
  before := (head.before.map fun hook => ⟨.callable hook, [context]⟩).toList
  beforeEach := (head.beforeEach.map fun hook => ⟨.callable hook, [scope, context]⟩).toList

/-- The scope that a getter picks for a node, and the scope around it without a getter. -/
def pickedScope (behaviour : Behaviour σ) (getter? : Option Callable) (subject scope : Value) :
    Run σ Value :=
  match getter? with
  | some getter => call behaviour (.callable getter) [subject, scope]
  | none => pure scope

/-- Whether a condition holds; without a condition it does. -/
def holds (behaviour : Behaviour σ) (given? : Option Callable) (scope context index : Value) :
    Run σ Bool :=
  match given? with
  | some given => do
    let answer ← call behaviour (.callable given) [scope, context, index]
    pure answer.isTruthy
  | none => pure true

def Node.test (node : Node) (scope context : Value) : Declaration :=
  .test (.str node.name) (.scenario (.ofNode node) scope context)

/-- One group without hooks for every fragment, in order, holding what stands for its position. -/
def positionGroups (inside : Value → Nat → Run σ (List Declaration)) (fragments : List Value) :
    Run σ (List Declaration) :=
  fragments.zipIdx.mapM fun (fragment, position) => do
    let declared ← inside fragment position
    pure (.group (positionName position) {} declared)

mutual

def Node.meaning (behaviour : Behaviour σ) (scope context index : Value) :
    Node → Run σ (List Declaration)
  | .plainGroup head tests => do
    let inside ← meanings behaviour scope context .null tests
    pure [.group head.name (head.hooks scope context) inside]
  | .fanOutGroup head fragmentSet tests => do
    let fragments ← elements (← call behaviour (.callable fragmentSet) [scope])
    let inside ← positionGroups
      (fun fragment (position : Nat) => meanings behaviour fragment context (.int position) tests)
      fragments
    pure [.group head.name (head.hooks scope context) inside]
  | .directLeaf name check getFragment => do
    let node := Node.directLeaf name check getFragment
    let fragment ← pickedScope behaviour getFragment (.ofNode node) scope
    pure [node.test fragment context]
  | .conditionalLeaf name check getFragment given => do
    let node := Node.conditionalLeaf name check getFragment given
    if ← holds behaviour given scope context index then
      let fragment ← pickedScope behaviour getFragment (.ofNode node) scope
      pure [node.test fragment context]
    else pure []
  | .fanOutLeaf name check fragmentSet given => do
    let node := Node.fanOutLeaf name check fragmentSet given
    let fragments ← elements (← call behaviour (.callable fragmentSet) [scope])
    positionGroups
      (fun fragment _ => do
        if ← holds behaviour given scope context index then pure [node.test fragment context]
        else pure [])
      fragments
  | .inheritingLeaf name getFragment inherited => do
    let node := Node.inheritingLeaf name getFragment inherited
    let fragment ← pickedScope behaviour getFragment (.ofNode node) scope
    let inside ← meanings behaviour fragment context .null inherited
    pure [.group name {} inside]
termination_by structural node => node

/-- The declarations that successive nodes stand for. -/
def meanings (behaviour : Behaviour σ) (scope context index : Value) :
    List Node → Run σ (List Declaration)
  | [] => pure []
  | node :: rest => do
    let first ← node.meaning behaviour scope context index
    let others ← meanings behaviour scope context index rest
    pure (first ++ others)
termination_by structural nodes => nodes

end

end ScenarioTree
