import ScenarioTree.Proofs.Expansion.Answers

/-! # How expansion is composed

Expansion asks callables, takes fragments, sets hooks, declares tests, and does such things one after the
other or inside a group. A property of declarations that is kept by each of these is a property of
expanding any tree.
-/

namespace ScenarioTree

variable {σ α β : Type}

/-- What is done in the world in two parts is done one after the other. -/
theorem Declaring.ofRun_bind (first : Run σ α) (next : α → Run σ β) :
    Declaring.ofRun (first >>= next) =
      Declaring.ofRun first >>= fun value => Declaring.ofRun (next value) := by
  funext recording
  change (Declaring.ofRun (first >>= next)).run.run recording =
    (Declaring.ofRun first >>= fun value => Declaring.ofRun (next value)).run.run recording
  rw [run_bind, Declaring.run_ofRun, Declaring.run_ofRun, run_bind]
  generalize first.run.run recording.world = outcome
  obtain ⟨_ | _, _⟩ := outcome <;> rfl

/-- A property of declarations that is kept by all that expansion is composed of. The callables that give
conditions and scopes meet one requirement, and fragment sets meet another. -/
structure Declaring.IsCompositional (behaviour : Behaviour σ) (question source : Callable → Prop)
    (property : Declaring σ Unit → Prop) : Prop where
  nothing : property (pure ())
  hook (kind : HookKind) (hook : Invocation) : property (Declaring.hook kind hook)
  test (name : Value) (body : Body) : property (Declaring.test name body)
  followed {first others : Declaring σ Unit} :
    property first → property others → property (first >>= fun _ => others)
  group (name : String) {body : Declaring σ Unit} : property body → property (Declaring.group name body)
  asked {callable : Callable} (arguments : List Value) {next : Value → Declaring σ Unit} :
    question callable → (∀ answer, property (next answer)) →
      property (Declaring.ofRun (call behaviour (.callable callable) arguments) >>= next)
  taken {fragmentSet : Callable} (scope : Value) {next : List Value → Declaring σ Unit} :
    source fragmentSet → (∀ found, property (next found)) →
      property (Declaring.ofRun (fragments behaviour fragmentSet scope) >>= next)

namespace Declaring.IsCompositional

variable {behaviour : Behaviour σ} {question source : Callable → Prop} {property : Declaring σ Unit → Prop}
  (compositional : IsCompositional behaviour question source property)

include compositional

theorem hooks (head : GroupHead) (scope context : Value) : property (head.declareHooks scope context) := by
  obtain ⟨name, before, beforeEach⟩ := head
  cases before <;> cases beforeEach <;>
    first
    | exact compositional.followed (compositional.hook _ _) (compositional.hook _ _)
    | exact compositional.followed (compositional.hook _ _) compositional.nothing
    | exact compositional.followed compositional.nothing (compositional.hook _ _)
    | exact compositional.followed compositional.nothing compositional.nothing

theorem positions {body : Value → Nat → Declaring σ Unit}
    (each : ∀ fragment position, property (body fragment position)) (position : Nat)
    (fragments : List Value) : property (declarePositions body position fragments) := by
  induction fragments generalizing position with
  | nil => exact compositional.nothing
  | cons fragment rest ih =>
    exact compositional.followed (compositional.group _ (each fragment position)) (ih (position + 1))

private theorem inScope {node : Node} {getter? : Option Callable} (asks : ∀ getter ∈ getter?, question getter)
    (exposes : ((Value.ofNode node).exposed? "get_dom_fragment").bind Value.callable? = getter?)
    (scope : Value) {next : Value → Declaring σ Unit} (each : ∀ fragment, property (next fragment)) :
    property (Declaring.ofRun (ownScope behaviour (.ofNode node) scope) >>= next) := by
  rw [ownScope, exposes]
  cases getter? with
  | none => exact each scope
  | some getter => exact compositional.asked _ (asks getter rfl) each

private theorem conditioned {given : Callable} (asks : question given) (scope context index : Value)
    {next : Bool → Declaring σ Unit} (each : ∀ answer, property (next answer)) :
    property (Declaring.ofRun (conditionHolds behaviour given scope context index) >>= next) := by
  rw [conditionHolds, ofRun_bind, bind_assoc]
  exact compositional.asked _ asks fun answer => each answer.isTruthy

mutual

/-- A compositional property is one of declaring any node whose callables meet the requirements. -/
theorem ofNode (node : Node) (asks : node.Asks question source)
    (scope context index : Value) : property (expandNode behaviour scope context index node) := by
  match node with
  | .plainGroup head tests =>
    exact compositional.group _ (compositional.followed (compositional.hooks head scope context)
      (ofNodes tests asks scope context .null))
  | .fanOutGroup head fragmentSet tests =>
    refine compositional.taken scope asks.1 fun found => ?_
    refine compositional.group _ (compositional.followed (compositional.hooks head scope context) ?_)
    exact compositional.positions (fun fragment position =>
      ofNodes tests asks.2 fragment context (.int position)) 0 found
  | .directLeaf name check getFragment =>
    refine compositional.inScope asks ?_ scope fun fragment => compositional.test _ _
    cases getFragment <;> rfl
  | .conditionalLeaf name check getFragment given =>
    refine compositional.conditioned asks.1 scope context index fun answer => ?_
    cases answer with
    | false => exact compositional.nothing
    | true =>
      refine compositional.inScope asks.2 ?_ scope fun fragment => compositional.test _ _
      cases getFragment <;> rfl
  | .fanOutLeaf name check fragmentSet given =>
    refine compositional.taken scope asks.1 fun found =>
      compositional.positions (fun fragment _ => ?_) 0 found
    cases given with
    | none => exact compositional.test _ _
    | some given =>
      refine compositional.conditioned (asks.2 given rfl) scope context index fun answer => ?_
      cases answer with
      | false => exact compositional.nothing
      | true => exact compositional.test _ _
  | .inheritingLeaf name getFragment inherited =>
    refine compositional.group _ (compositional.inScope asks.1 ?_ scope fun fragment => ?_)
    · cases getFragment <;> rfl
    · exact ofNodes inherited asks.2 fragment context .null
termination_by structural node

theorem ofNodes (nodes : List Node) (asks : AllAsk question source nodes)
    (scope context index : Value) : property (expandNodes behaviour scope context index nodes) := by
  match nodes with
  | [] => exact compositional.nothing
  | node :: rest =>
    exact compositional.followed (ofNode node asks.1 scope context index)
      (ofNodes rest asks.2 scope context index)
termination_by structural nodes

end

end Declaring.IsCompositional

mutual

/-- Requirements that all callables meet are met by those of a node. -/
theorem Node.asks_of_forall {question source : Callable → Prop} (questions : ∀ callable, question callable)
    (sources : ∀ callable, source callable) (node : Node) : node.Asks question source := by
  match node with
  | .plainGroup _ tests => exact allAsk_of_forall questions sources tests
  | .fanOutGroup _ _ tests => exact ⟨sources _, allAsk_of_forall questions sources tests⟩
  | .directLeaf .. => exact fun getter _ => questions getter
  | .conditionalLeaf .. => exact ⟨questions _, fun getter _ => questions getter⟩
  | .fanOutLeaf .. => exact ⟨sources _, fun given _ => questions given⟩
  | .inheritingLeaf _ _ inherited =>
    exact ⟨fun getter _ => questions getter, allAsk_of_forall questions sources inherited⟩
termination_by structural node

private theorem allAsk_of_forall {question source : Callable → Prop} (questions : ∀ callable, question callable)
    (sources : ∀ callable, source callable) (nodes : List Node) : AllAsk question source nodes := by
  match nodes with
  | [] => trivial
  | node :: rest =>
    exact ⟨node.asks_of_forall questions sources, allAsk_of_forall questions sources rest⟩
termination_by structural nodes

end

end ScenarioTree
