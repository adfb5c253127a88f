import ScenarioTree.ModuleFile
import ScenarioTree.Proofs.Declaration.Views
import ScenarioTree.Proofs.Expansion.Respelling
import ScenarioTree.Proofs.Expansion.Safety

/-! # Names of declared trees

Expansion declares groups under the names of nodes and of fan-out positions, and tests under the names
of nodes, whether it succeeds or not. The nodes that are built of a tree have names, so no group of a
declared tree is nameless, and all of its tests are named by text.
-/

namespace ScenarioTree

variable {σ α : Type} {allowed : String → Prop} {checked : Value → Body → Prop}

/-- Declaring adds declarations that meet the conditions to the current group and changes nothing else in
the tree, also when it fails. -/
def Declaring.Adds (allowed : String → Prop) (checked : Value → Body → Prop) (declaring : Declaring σ Unit) :
    Prop :=
  ∀ recorder world, ∃ declared, ConsistOf allowed checked declared ∧
    (declaring.run.run ⟨recorder, world⟩).2.recorder = recorder.addAll declared

namespace Declaring.Adds

theorem nothing : (pure () : Declaring σ Unit).Adds allowed checked :=
  fun recorder _ => ⟨[], trivial, recorder.addAll_nil.symm⟩

theorem failing (failure : Failure) : (throw failure : Declaring σ Unit).Adds allowed checked :=
  fun recorder _ => ⟨[], trivial, recorder.addAll_nil.symm⟩

theorem test {name : Value} {body : Body} (fits : checked name body) :
    (Declaring.test name body : Declaring σ Unit).Adds allowed checked :=
  fun _ _ => ⟨[.test name body], ⟨fits, trivial⟩, rfl⟩

/-- Asking the world first. -/
theorem asking (question : Run σ α) {declaring : α → Declaring σ Unit}
    (adds : ∀ answer, (declaring answer).Adds allowed checked) :
    (Declaring.ofRun question >>= declaring).Adds allowed checked := by
  intro recorder world
  rw [run_bind, Declaring.run_ofRun]
  generalize question.run.run world = asked
  obtain ⟨failure | answer, after⟩ := asked
  · exact ⟨[], trivial, recorder.addAll_nil.symm⟩
  · exact adds answer recorder after

/-- Declaring one thing after the other. -/
theorem followed {first others : Declaring σ Unit} (starts : first.Adds allowed checked)
    (ends : others.Adds allowed checked) : (first >>= fun _ => others).Adds allowed checked := by
  intro recorder world
  obtain ⟨declared, fit, started⟩ := starts recorder world
  rw [run_bind]
  generalize first.run.run ⟨recorder, world⟩ = outcome at started ⊢
  obtain ⟨failure | _, ⟨middle, after⟩⟩ := outcome
  · exact ⟨declared, fit, started⟩
  · obtain ⟨more, fits, ended⟩ := ends middle after
    refine ⟨declared ++ more, consistOf_append.mpr ⟨fit, fits⟩, ?_⟩
    rw [ended, ← recorder.addAll_addAll]
    exact congrArg (fun recorder : Recorder => recorder.addAll more) started

/-- Declaring a group, which sets its hooks before anything is declared inside. -/
theorem group {name : String} {hooks : Hooks} {opening body : Declaring σ Unit} (named : allowed name)
    (opens : ∀ (recorder : Recorder) (world : World σ), opening.run.run ⟨recorder.enter name, world⟩ =
      (.ok (), ⟨⟨⟨name, hooks, []⟩, recorder.current :: recorder.enclosing⟩, world⟩))
    (adds : body.Adds allowed checked) :
    (Declaring.group name (opening >>= fun _ => body)).Adds allowed checked := by
  intro recorder world
  obtain ⟨inside, fit, filled⟩ :=
    adds ⟨⟨name, hooks, []⟩, recorder.current :: recorder.enclosing⟩ world
  refine ⟨[.group name hooks inside], ⟨⟨named, fit⟩, trivial⟩, ?_⟩
  rw [Declaring.run_group, run_bind_of_ok (opens recorder world)]
  dsimp only
  rw [filled]
  rfl

theorem bareGroup {name : String} {body : Declaring σ Unit} (named : allowed name)
    (adds : body.Adds allowed checked) : (Declaring.group name body).Adds allowed checked := by
  have opens (recorder : Recorder) (world : World σ) :
      (pure () : Declaring σ Unit).run.run ⟨recorder.enter name, world⟩ =
        (.ok (), ⟨⟨⟨name, {}, []⟩, recorder.current :: recorder.enclosing⟩, world⟩) := rfl
  exact .group named opens adds

theorem positions (named : ∀ position, allowed (positionName position))
    {body : Value → Nat → Declaring σ Unit}
    (adds : ∀ fragment position, (body fragment position).Adds allowed checked) (position : Nat)
    (fragments : List Value) : (declarePositions body position fragments).Adds allowed checked := by
  induction fragments generalizing position with
  | nil => exact .nothing
  | cons fragment rest ih =>
    exact .followed (.bareGroup (named position) (adds fragment position)) (ih (position + 1))

end Declaring.Adds

/-- The name of a node meets a condition, and so do the tests that check it. -/
structure Node.Fits (allowed : String → Prop) (checked : Value → Body → Prop) (node : Node) : Prop where
  named : allowed node.name
  tested (scope context : Value) : checked (.str node.name) (.scenario (.ofNode node) scope context)

/-- Declaring successive nodes adds what declaring each of them adds. -/
theorem expandNodes_adds (behaviour : Behaviour σ) {nodes : List Node}
    (each : ∀ node ∈ nodes, ∀ scope context index,
      (expandNode behaviour scope context index node).Adds allowed checked)
    (scope context index : Value) :
    (expandNodes behaviour scope context index nodes).Adds allowed checked := by
  induction nodes with
  | nil => exact .nothing
  | cons node rest ih =>
    obtain ⟨own, others⟩ := List.forall_mem_cons.mp each
    exact .followed (own scope context index) (ih others)

section

variable (positioned : ∀ position, allowed (positionName position))

include positioned

/-- Declaring a node adds groups and tests under the names of nodes and positions only. -/
theorem expandNode_adds (behaviour : Behaviour σ) {node : Node}
    (fits : node.Throughout (Node.Fits allowed checked)) (scope context index : Value) :
    (expandNode behaviour scope context index node).Adds allowed checked := by
  induction fits generalizing scope context index with
  | @node node here _ ih =>
    cases node with
    | plainGroup head tests =>
      exact .group here.named (head.run_declareHooks scope context)
        (expandNodes_adds behaviour ih scope context .null)
    | fanOutGroup head fragmentSet tests =>
      refine .asking _ fun found => .group here.named (head.run_declareHooks scope context) ?_
      exact .positions positioned (fun fragment position =>
        expandNodes_adds behaviour ih fragment context (.int position)) 0 found
    | directLeaf name check getFragment =>
      exact .asking _ fun fragment => .test (here.tested fragment context)
    | conditionalLeaf name check getFragment given =>
      refine .asking _ fun answer => ?_
      cases answer with
      | false => exact .nothing
      | true => exact .asking _ fun fragment => .test (here.tested fragment context)
    | fanOutLeaf name check fragmentSet given =>
      refine .asking _ fun found => .positions positioned (fun fragment position => ?_) 0 found
      cases given with
      | none => exact .test (here.tested fragment context)
      | some given =>
        refine .asking _ fun answer => ?_
        cases answer with
        | false => exact .nothing
        | true => exact .test (here.tested fragment context)
    | inheritingLeaf name getFragment inherited =>
      refine .bareGroup here.named (.asking _ fun fragment => ?_)
      exact expandNodes_adds behaviour ih fragment context .null

/-- Declaring built nodes adds groups and tests under the names of nodes and positions only. -/
theorem expandModels_adds (behaviour : Behaviour σ) {models : List Model}
    (fits : ∀ node, .node node ∈ models → node.Throughout (Node.Fits allowed checked))
    (scope context index : Value) : (expandModels behaviour scope context index models).Adds allowed checked := by
  induction models with
  | nil => exact .nothing
  | cons model rest ih =>
    refine .followed ?_ (ih fun node member => fits node (List.mem_cons_of_mem _ member))
    match model with
    | .node node => exact expandNode_adds positioned behaviour (fits node (List.mem_cons_self ..)) _ _ _
    | .outsider (.alien _) => exact .nothing
    | .outsider (.baseGroup _) => exact .failing _
    | .outsider (.baseLeaf _) => exact .failing _

/-- A visit adds groups and tests under the names of nodes and positions only. -/
theorem Visit.declare_adds (behaviour : Behaviour σ) (visit : Visit)
    (fits : ∀ spent models, ((visit.builder.build visit.nodes).run spent).1.models = .ok models →
      ∀ node, .node node ∈ models → node.Throughout (Node.Fits allowed checked)) :
    (visit.declare behaviour).Adds allowed checked := by
  intro recorder world
  rw [visit.declare_eq_expand, Expander.expand, run_bind, Declaring.run_ofRun, Builder.run_run]
  cases built : ((visit.builder.attempt visit.nodes).run world.spent).1.models with
  | error failure => exact ⟨[], trivial, recorder.addAll_nil.symm⟩
  | ok models =>
    have made := built
    rw [Builder.attempt_of_ok built] at made
    exact expandModels_adds positioned behaviour (fits world.spent models made) _ _ _ _ _

end

private theorem positionName_isProper (position : Nat) : IsProper (positionName position) := by
  simp [IsProper, positionName, indexedGroupName]

/-- The tree that a visit declares. When declaring fails, it is what was declared until then. -/
def Visit.tree (behaviour : Behaviour σ) (visit : Visit) (world : World σ) : Group :=
  ((visit.declare behaviour).run.run ⟨{}, world⟩).2.recorder.root

section

variable (behaviour : Behaviour σ) (visit : Visit) (world : World σ)

theorem Visit.tree_eq (adds : (visit.declare behaviour).Adds allowed checked) :
    (visit.tree behaviour world).name = "" ∧
      ConsistOf allowed checked (visit.tree behaviour world).children := by
  obtain ⟨declared, fit, recorded⟩ := adds {} world
  rw [tree, recorded]
  exact ⟨rfl, fit⟩

/-- Tests are named by text, whatever the tree is. -/
theorem Visit.tree_hasTitles :
    ConsistOf (fun _ => True) HasTitle (visit.tree behaviour world).children := by
  have adds : (visit.declare behaviour).Adds (fun _ => True) HasTitle :=
    visit.declare_adds (fun _ => trivial) behaviour fun _ _ _ node _ =>
      node.throughout_of_forall fun node => ⟨trivial, fun _ _ => ⟨node.name, rfl⟩⟩
  exact (visit.tree_eq behaviour world adds).2

/-- No group of a declared tree is nameless. -/
theorem Visit.tree_isProper :
    (visit.tree behaviour world).name = "" ∧
      ConsistOf IsProper HasTitle (visit.tree behaviour world).children := by
  refine visit.tree_eq behaviour world (visit.declare_adds positionName_isProper behaviour ?_)
  intro _ _ _ node _
  exact node.throughout_of_forall fun node => ⟨node.displayName.nonempty, fun _ _ => ⟨node.name, rfl⟩⟩

end

def Source.visit (strict : Bool) (source : Source) : Visit where
  entry := if !source.context.isNull && source.scope.isNull then .context else .scope
  builder := { strict, filename := source.filename }
  nodes := source.nodes
  scope := source.scope
  context := source.context

theorem Source.expand_eq_declare (behaviour : Behaviour σ) (strict : Bool) (source : Source) :
    source.expand behaviour strict = (source.visit strict).declare behaviour := by
  rw [expand, visit, Visit.declare]
  split <;> rfl

/-- Declaring a source runs its expansion from an empty tree. -/
theorem Source.run_declare (behaviour : Behaviour σ) (strict : Bool) (source : Source) (world : World σ) :
    (source.declare behaviour strict).run.run world =
      (((source.expand behaviour strict).run.run ⟨{}, world⟩).1.map fun _ =>
          ((source.expand behaviour strict).run.run ⟨{}, world⟩).2.recorder.root,
        ((source.expand behaviour strict).run.run ⟨{}, world⟩).2.world) := rfl

end ScenarioTree
