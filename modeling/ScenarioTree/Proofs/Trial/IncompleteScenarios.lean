import ScenarioTree.Proofs.Expansion.Naming
import ScenarioTree.Proofs.Schema.Reading
import ScenarioTree.Proofs.Schema.Scenarios
import ScenarioTree.Proofs.Trial.Execution

/-! # Incomplete scenarios never pass

A scenario that lacks a callable is built with a stand-in for it. Its test is declared like any other one,
and when it runs the stand-in is called at the latest after the callable that the scenario has. So every run
of the test fails, whatever the groups around it came to.
-/

namespace ScenarioTree

variable {σ : Type}

/-- The stand-in for a callable fails with a type error that names the key. -/
theorem Failure.standInCalled_tells (key : String) :
    (Failure.standInCalled key).className = "TypeError" ∧
      (Failure.standInCalled key).message = Text.quote key ++ " is not callable" := ⟨rfl, rfl⟩

/-- What precedes the body of a test: the groups around it are activated, and their `before_each` hooks
called. -/
def Case.prepare (behaviour : Behaviour σ) (case : Case) : Testing σ Unit := do
  activateAll behaviour case.enclosing
  Testing.ofRun (callAll behaviour (case.enclosing.flatMap fun group => group.hooks.beforeEach))

theorem Case.run_eq_prepare (behaviour : Behaviour σ) (case : Case) :
    case.run behaviour =
      case.prepare behaviour >>= fun _ => Testing.ofRun (runBody behaviour case.body) := by
  rw [Case.run, prepare, bind_assoc]

section

variable {behaviour : Behaviour σ} {case : Case} {trial ready : Trial σ}

/-- When what precedes the body fails, the run ends with that failure. -/
theorem Case.run_of_unprepared {failure : Failure}
    (fails : (case.prepare behaviour).run.run trial = (.error failure, ready)) :
    (case.run behaviour).run.run trial = (.error failure, ready) := by
  rw [case.run_eq_prepare, run_bind_of_error fails]

/-- When what precedes the body succeeds, the run does what the body does. -/
theorem Case.run_of_prepared (prepared : (case.prepare behaviour).run.run trial = (.ok (), ready)) :
    (case.run behaviour).run.run trial =
      let done := case.body.effect behaviour ready.world.store
      (done.outcome, { ready with world := ready.world.extend done.events done.store }) := by
  rw [case.run_eq_prepare, run_bind_of_ok prepared, Testing.run_ofRun,
    runBody_does behaviour case.body]

end

/-- What a checking node exposes for gathering and for verifying data are its callables. -/
theorem Node.exposed?_of_check? {node : Node} {check : Check} (checks : node.check? = some check) :
    (Value.ofNode node).exposed? "get_actual" = some (.callable check.getActual) ∧
      (Value.ofNode node).exposed? "comparison" = some (.callable check.comparison) := by
  cases node with
  | directLeaf | conditionalLeaf | fanOutLeaf =>
    cases checks
    exact ⟨rfl, rfl⟩
  | _ => cases checks

section

variable {behaviour : Behaviour σ} {node : Node} {check : Check} (checks : node.check? = some check)
  {scope context : Value} {store : σ} {key : String}

include checks

/-- A scenario with a stand-in for what gathers its data calls nothing else. -/
theorem Body.effect_of_missing_getActual (stands : check.getActual = .missing key) :
    (Body.scenario (.ofNode node) scope context).effect behaviour store =
      .quiet (.error (.standInCalled key)) store := by
  obtain ⟨gathers, _⟩ := node.exposed?_of_check? checks
  rw [Body.effect, exposedEffect, gathers, stands]
  rfl

/-- A scenario with a stand-in for what verifies its data gathers the data, and then fails for good. -/
theorem Body.effect_of_missing_comparison (stands : check.comparison = .missing key) :
    (Body.scenario (.ofNode node) scope context).effect behaviour store =
      (Invocation.effect behaviour ⟨.callable check.getActual, [scope, context]⟩ store).next
        fun _ => .quiet (.error (.standInCalled key)) := by
  obtain ⟨gathers, verifies⟩ := node.exposed?_of_check? checks
  simp only [Body.effect, exposedEffect, gathers, verifies, stands]
  rfl

end

/-- A test checks what a part of a tree stands for, against a scope and a context. -/
def Case.Checks (case : Case) (part scope context : Value) : Prop :=
  ∃ node, .node node ∈ (salvageItem part).1 ∧ case.body = .scenario (.ofNode node) scope context

/-- Every test of a tree that is built relaxedly checks what a part that is read stands for. -/
theorem Visit.checks_of_mem_cases (behaviour : Behaviour σ) {visit : Visit}
    (isRelaxed : visit.builder.strict = false) (world : World σ) :
    ∀ case ∈ (visit.tree behaviour world).cases, ∃ part scope context,
      visit.nodes.Reads part ∧ case.Checks part scope context := by
  have adds : (visit.declare behaviour).Adds (fun _ => True) fun _ body => ∃ part scope context,
      visit.nodes.Reads part ∧ ∃ node, .node node ∈ (salvageItem part).1 ∧
        body = .scenario (.ofNode node) scope context := by
    refine visit.declare_adds (fun _ => trivial) behaviour fun spent models built node member => ?_
    refine (Builder.throughout_isReadFrom isRelaxed built member).mono fun node readFrom => ?_
    obtain ⟨part, read, salvaged⟩ := readFrom
    exact ⟨trivial, fun scope context => ⟨part, scope, context, read, node, salvaged, rfl⟩⟩
  exact forall_casesOf _ (visit.tree_eq behaviour world adds).2 _ _ _

section

variable {entries : List (Value × Value)} {variant : Variant} {node : Node} {case : Case}
  {scope context : Value}

/-- A test of an incomplete scenario. When the groups around it and their hooks are through, it ends with
the failure of a stand-in unless gathering the data fails before, and calls nothing but what gathers. -/
theorem Node.IsScenarioOf.run_incomplete (isScenario : node.IsScenarioOf variant entries)
    (incomplete : ∃ field ∈ neededFields, field.holdsCallable entries = false)
    (body : case.body = .scenario (.ofNode node) scope context) :
    ∃ gatherer, Field.getActual.IsSupplied entries gatherer ∧
      ∀ (behaviour : Behaviour σ) (trial ready : Trial σ),
        (case.prepare behaviour).run.run trial = (.ok (), ready) →
        (Field.getActual.holdsCallable entries = false →
          (case.run behaviour).run.run trial = (.error (.standInCalled "getActual"), ready)) ∧
        (Field.getActual.holdsCallable entries = true →
          let gathering :=
            Invocation.effect behaviour ⟨.callable gatherer, [scope, context]⟩ ready.world.store
          (case.run behaviour).run.run trial =
            (.error (match gathering.outcome with
              | .error failure => failure
              | .ok _ => .standInCalled "comparison"),
              { ready with world := ready.world.extend gathering.events gathering.store })) := by
  obtain ⟨check, checks, gathers, verifies⟩ := isScenario.supplied
  refine ⟨check.getActual, gathers, fun behaviour trial ready prepared => ?_⟩
  have ran := Case.run_of_prepared prepared
  rw [body] at ran
  refine ⟨fun lacks => ?_, fun holds => ?_⟩
  · rw [Field.IsSupplied, lacks, if_neg Bool.false_ne_true] at gathers
    rw [Body.effect_of_missing_getActual checks gathers] at ran
    rw [ran]
    exact congrArg (fun world => (_, Trial.mk ready.activation world)) ready.world.extend_nil
  · have lacks : Field.comparison.holdsCallable entries = false := by
      obtain ⟨field, needed, lacks⟩ := incomplete
      cases needed with
      | head => cases holds.symm.trans lacks
      | tail _ last =>
        cases List.mem_singleton.mp last
        exact lacks
    rw [Field.IsSupplied, lacks, if_neg Bool.false_ne_true] at verifies
    rw [Body.effect_of_missing_comparison checks verifies] at ran
    rw [ran]
    generalize Invocation.effect behaviour ⟨.callable check.getActual, [scope, context]⟩ ready.world.store =
      gathering
    obtain ⟨events, outcome, store⟩ := gathering
    cases outcome with
    | error failure => rfl
    | ok actual =>
      dsimp only [Effect.next, Effect.quiet]
      rw [List.append_nil]
      rfl

/-- A test of an incomplete scenario fails on every run, whatever the state of the groups is. -/
theorem Node.IsScenarioOf.run_fails (isScenario : node.IsScenarioOf variant entries)
    (incomplete : ∃ field ∈ neededFields, field.holdsCallable entries = false)
    (body : case.body = .scenario (.ofNode node) scope context) (behaviour : Behaviour σ)
    (trial : Trial σ) : ∃ failure, ((case.run behaviour).run.run trial).1 = .error failure := by
  obtain ⟨gatherer, _, ends⟩ := isScenario.run_incomplete incomplete body
  cases prepared : (case.prepare behaviour).run.run trial with
  | mk outcome ready =>
    cases outcome with
    | error failure => exact ⟨failure, congrArg Prod.fst (Case.run_of_unprepared prepared)⟩
    | ok done =>
      obtain ⟨lacking, holding⟩ := ends behaviour trial ready prepared
      cases holds : Field.getActual.holdsCallable entries with
      | false => exact ⟨_, congrArg Prod.fst (lacking holds)⟩
      | true => exact ⟨_, congrArg Prod.fst (holding holds)⟩

end

/-- The entries of a scenario whose data is gathered, and written to be compared with a text. -/
def halfEntries (gatherer : Nat) : List (Value × Value) :=
  [(.str "scenario", .str "Title"), (.str "getActual", .callable (.defined gatherer "read" .object)),
    (.str "comparison", .str "equal")]

def halfLeaf (gatherer : Nat) : Node :=
  .directLeaf (.of "Title") ⟨.defined gatherer "read" .object, .missing "comparison"⟩ none

private theorem halfEntries_distinct (gatherer : Nat) : HasDistinctKeys (halfEntries gatherer) := by
  refine .cons (List.forall_mem_cons.mpr ⟨rfl, List.forall_mem_singleton.mpr rfl⟩) ?_
  exact .cons (List.forall_mem_singleton.mpr rfl) (List.pairwise_singleton ..)

/-- What gathers the data of the scenario is its only callable. -/
theorem halfEntries_gatherer {gatherer : Nat} {callable : Callable}
    (supplied : Field.getActual.IsSupplied (halfEntries gatherer) callable) :
    callable = .defined gatherer "read" .object := by
  obtain ⟨key, spelled, named⟩ := supplied
  have keys : Field.getActual.keys = ["getActual", "get_actual"] := rfl
  rw [keys] at spelled
  rcases List.mem_cons.mp spelled with rfl | last
  · cases named
    rfl
  · cases List.mem_singleton.mp last
    cases named

private theorem salvageItem_halfEntries (gatherer : Nat) : salvageItem (.map (halfEntries gatherer)) =
    (some (.node (halfLeaf gatherer)), [.missingCallable "Title" "comparison"]) := by
  have told : Variant.ofShape? (halfEntries gatherer) = some .directLeaf := rfl
  rw [salvageItem_entries rfl, told]
  simp only [salvageNode, adaptEntries, contains_acceptedKeys]
  rfl

/-- A group with two fragments around the scenario, built relaxedly. -/
def halfVisit : Visit :=
  { pagesVisit with builder := { strict := false }, nodes := .list [pagesGroup "set" [.map (halfEntries 1)]] }

/-- The test of the scenario against the second fragment. -/
def halfTest : Case where
  enclosing := [⟨[], "", {}⟩, ⟨[0], "Pages", {}⟩, ⟨[0, 1], "Set index: 1", {}⟩]
  name := .str "Title"
  body := .scenario (.ofNode (halfLeaf 1)) (.str "b") .null

private theorem salvageItem_halfGroup : salvageItem (pagesGroup "set" [.map (halfEntries 1)]) =
    (some (.node (.fanOutGroup ⟨.of "Pages", none, none⟩ (.defined 0 "set" .function) [halfLeaf 1])),
      [.missingCallable "Title" "comparison"]) := by
  have told : Variant.ofShape? (pagesEntries "set" [.map (halfEntries 1)]) = some .fanOutGroup := rfl
  have below : Variant.salvagedChildren .fanOutGroup (pagesEntries "set" [.map (halfEntries 1)]) =
      ([.node (halfLeaf 1)], [.missingCallable "Title" "comparison"]) := by
    change salvageItems [.map (halfEntries 1)] = _
    rw [salvageItems, salvageItem_halfEntries]
    rfl
  rw [pagesGroup, salvageItem_entries rfl, told]
  dsimp only
  rw [below]
  simp only [salvageNode, adaptEntries, contains_acceptedKeys]
  rfl

/-- All names of the tree can be shown. -/
theorem halfVisit_clear : halfVisit.builder.obstacle? halfVisit.nodes = none := by
  have leaf : itemObstacle? (.map (halfEntries 1)) = none := itemObstacle?_of_shown rfl rfl rfl rfl rfl
  have below : itemsObstacle? [.map (halfEntries 1)] = none := by
    rw [itemsObstacle?, leaf]
    rfl
  exact Builder.obstacle?_single _ rfl (itemObstacle?_of_shown rfl rfl rfl rfl below)

private theorem halfTest_mem : halfTest ∈ (halfVisit.tree alternating { store := 0 }).cases := by
  have isRelaxed : halfVisit.builder.strict = false := rfl
  have single : halfVisit.nodes.sequenceItems? = some [pagesGroup "set" [.map (halfEntries 1)]] := rfl
  have built := Builder.build_single isRelaxed single []
  rw [salvageItem_halfGroup, ← Builder.attempt_of_none halfVisit_clear] at built
  rw [Visit.tree, Visit.declare_eq_expand, Expander.run_expand_of_built built]
  exact .tail _ (.head _)

/-- The entries of a scenario without any callable. -/
def untoldEntries : List (Value × Value) := [(.str "scenario", .str "Title")]

/-- A tree with the scenario inside a mapping that is no node. -/
def untoldTree : Value := .list [.map [(.str "tests", .list [.map untoldEntries])]]

end ScenarioTree
