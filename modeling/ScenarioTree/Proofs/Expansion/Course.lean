import ScenarioTree.Proofs.Expansion.History
import ScenarioTree.Proofs.Expansion.Meaning
import ScenarioTree.Session

/-! # The course of a declaration

The course of a tree is the line of moves that declare it, written down one by one. There is no group
that is current and none that has to be closed when something fails: a failure ends the line. This is the
reference that an interrupted declaration is compared with.
-/

namespace ScenarioTree

/-- The moves so far, and their world. -/
structure Journal (σ : Type) where
  moves : List Move := []
  world : World σ

/-- A computation that writes its moves down. -/
abbrev Noting (σ : Type) := ExceptT Failure (StateM (Journal σ))

variable {σ α : Type}

def note (move : Move) : Noting σ Unit :=
  modify fun journal => { journal with moves := journal.moves ++ [move] }

/-- A computation that is no move of a declaration. -/
def Noting.ofRun (run : Run σ α) : Noting σ α := ExceptT.mk fun journal =>
  let (result, world) := run.run.run journal.world
  (result, { journal with world })

/-- Does something in the world and writes down what came of it. -/
def Noting.inquire (run : Run σ α) (move : Except Failure α → Move) : Noting σ α :=
  ExceptT.mk fun journal =>
    let (result, world) := run.run.run journal.world
    (result, ⟨journal.moves ++ [move result], world⟩)

def ask (behaviour : Behaviour σ) (target : Callable) (arguments : List Value) : Noting σ Value :=
  Noting.inquire (call behaviour (.callable target) arguments) (.asked target arguments)

def takeFragments (behaviour : Behaviour σ) (fragmentSet : Callable) (scope : Value) :
    Noting σ (List Value) := do
  let source ← ask behaviour fragmentSet [scope]
  Noting.inquire (elements source) (.taken source)

/-- The scope that a getter picks for a node, and the scope around it without a getter. -/
def pickScope (behaviour : Behaviour σ) (getter? : Option Callable) (subject scope : Value) :
    Noting σ Value :=
  match getter? with
  | some getter => ask behaviour getter [subject, scope]
  | none => pure scope

/-- Whether a condition holds; without a condition it does. -/
def askWhether (behaviour : Behaviour σ) (given? : Option Callable) (scope context index : Value) :
    Noting σ Bool :=
  match given? with
  | some given => do
    let answer ← ask behaviour given [scope, context, index]
    pure answer.isTruthy
  | none => pure true

/-- What is declared inside a group. -/
def inside (name : String) (hooks : Hooks) (body : Noting σ Unit) : Noting σ Unit := do
  note (.opened name hooks)
  body
  note .closed

/-- One group without hooks for every fragment, in order. -/
def insidePositions (body : Value → Nat → Noting σ Unit) (fragments : List Value) : Noting σ Unit :=
  fragments.zipIdx.forM fun (fragment, position) =>
    inside (positionName position) {} (body fragment position)

mutual

def Node.course (behaviour : Behaviour σ) (scope context index : Value) : Node → Noting σ Unit
  | .plainGroup head tests =>
    inside head.name (head.hooks scope context) (courses behaviour scope context .null tests)
  | .fanOutGroup head fragmentSet tests => do
    let fragments ← takeFragments behaviour fragmentSet scope
    inside head.name (head.hooks scope context)
      (insidePositions
        (fun fragment (position : Nat) => courses behaviour fragment context (.int position) tests)
        fragments)
  | .directLeaf name check getFragment => do
    let subject := Value.ofNode (.directLeaf name check getFragment)
    let fragment ← pickScope behaviour getFragment subject scope
    note (.tested (.str name) (.scenario subject fragment context))
  | .conditionalLeaf name check getFragment given => do
    let subject := Value.ofNode (.conditionalLeaf name check getFragment given)
    if ← askWhether behaviour given scope context index then
      let fragment ← pickScope behaviour getFragment subject scope
      note (.tested (.str name) (.scenario subject fragment context))
  | .fanOutLeaf name check fragmentSet given => do
    let subject := Value.ofNode (.fanOutLeaf name check fragmentSet given)
    let fragments ← takeFragments behaviour fragmentSet scope
    insidePositions
      (fun fragment _ => do
        if ← askWhether behaviour given scope context index then
          note (.tested (.str name) (.scenario subject fragment context)))
      fragments
  | .inheritingLeaf name getFragment inherited =>
    inside name {} do
      let subject := Value.ofNode (.inheritingLeaf name getFragment inherited)
      let fragment ← pickScope behaviour getFragment subject scope
      courses behaviour fragment context .null inherited
termination_by structural node => node

def courses (behaviour : Behaviour σ) (scope context index : Value) : List Node → Noting σ Unit
  | [] => pure ()
  | node :: rest => do
    node.course behaviour scope context index
    courses behaviour scope context index rest
termination_by structural nodes => nodes

end

/-- The course of a built node. An outsider without a kind is refused. -/
def Model.course (behaviour : Behaviour σ) (scope context index : Value) : Model → Noting σ Unit
  | .node n => n.course behaviour scope context index
  | .outsider other =>
    match (Model.outsider other).kind? with
    | some _ => pure ()
    | none => throw (.noAttribute (Model.outsider other).modelClass.name "kind")

/-- The scope, the context and the index that the nodes of a visit see. -/
def Visit.view (visit : Visit) : Value × Value × Value :=
  match visit.entry, visit.context with
  | .root, .null =>
    if visit.scope.document.isTruthy then (visit.scope.document, visit.scope, visit.index)
    else (visit.scope, .null, visit.index)
  | .root, context => (visit.scope, context, visit.index)
  | .context, context => (context.document, context, .null)
  | .scope, context => (visit.scope, context, .null)
  | .nodes, context => (visit.scope, context, visit.index)

/-- A visit declares its tree with what its nodes see. -/
theorem Visit.declare_eq_expand (behaviour : Behaviour σ) (visit : Visit) :
    visit.declare behaviour =
      ({ behaviour, builder := visit.builder } : Expander σ).expand visit.nodes visit.view.1 visit.view.2.1
        visit.view.2.2 := by
  obtain ⟨entry, builder, nodes, scope, context, index⟩ := visit
  cases entry with
  | root =>
    cases context with
    | null =>
      dsimp only [declare, view, Expander.expandOpen]
      split <;> rfl
    | _ => rfl
  | _ => rfl

/-- The course of a visit: its tree is built, and then its nodes follow one after the other. -/
def Visit.course (behaviour : Behaviour σ) (visit : Visit) : Noting σ Unit := do
  let (scope, context, index) := visit.view
  let models ← Noting.ofRun (visit.builder.run visit.nodes)
  models.forM (Model.course behaviour scope context index)

/-- The moves of a visit from a world on, and the world behind them. -/
def Visit.journal (behaviour : Behaviour σ) (visit : Visit) (world : World σ) : Journal σ :=
  ((visit.course behaviour).run.run { world }).2

end ScenarioTree
