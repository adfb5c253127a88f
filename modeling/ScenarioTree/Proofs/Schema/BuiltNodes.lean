import ScenarioTree.Expansion
import ScenarioTree.Proofs.Fallible

/-! # Built nodes are kept

A sequence that holds built nodes only is built already. Strict and relaxed building give its items as
they are, whatever their class, without looking into them, without a warning and without taking
anything from an iterator.
-/

namespace ScenarioTree

theorem mapM_model? (models : List Model) :
    (models.map Value.model).mapM Value.model? = some models := by
  induction models with
  | nil => rfl
  | cons model rest ih =>
    rw [List.map_cons, List.mapM_cons, ih]
    rfl

/-- Items that are all built are what they were built as. -/
theorem eq_map_model_of_mapM_model? {items : List Value} {models : List Model}
    (kept : items.mapM Value.model? = some models) : items = models.map Value.model := by
  induction items generalizing models with
  | nil =>
    cases kept
    rfl
  | cons item rest ih =>
    rw [List.mapM_cons, Option.bind_eq_bind, Option.bind_eq_some_iff] at kept
    obtain ⟨model, own, kept⟩ := kept
    obtain ⟨others, below, same⟩ := Option.bind_eq_some_iff.mp kept
    cases same
    rw [List.map_cons, ← ih below]
    cases item with
    | model m =>
      cases own
      rfl
    | _ => cases own

theorem salvageItems_models (models : List Model) :
    salvageItems (models.map Value.model) = (models, []) := by
  induction models with
  | nil => rfl
  | cons model rest ih =>
    rw [List.map_cons, salvageItems, ih]
    rfl

/-- Strict building looks into nothing when all items are built. -/
theorem Builder.validate_models (builder : Builder) (nodes : Value) (models : List Model) :
    builder.validate nodes (models.map Value.model) = pure (.ok models) := by
  rw [Builder.validate, mapM_model?]

/-- Building a sequence of built nodes gives them back. -/
theorem Builder.build_models (builder : Builder) {sequence : Value} {models : List Model}
    (items : sequence.sequenceItems? = some (models.map Value.model)) (spent : Spent) :
    (builder.build sequence).run spent = ({ models := .ok models }, spent) := by
  rw [Builder.build, items]
  dsimp only
  split
  · rw [builder.validate_models]
    rfl
  · rw [salvageItems_models]
    rfl

/-- How building a tree ends, and what is spent then. Anything but a sequence is an empty tree. Strict
building keeps built nodes and validates other items, with a report if they are invalid; relaxed building
reads items by shape. -/
inductive Builder.Ends (builder : Builder) (root : Value) (spent : Spent) : Built → Spent → Prop
  | nothing (absent : root.sequenceItems? = none) : Ends builder root spent { models := .ok [] } spent
  | kept {models : List Model} (isStrict : builder.strict = true)
      (found : root.sequenceItems? = some (models.map .model)) :
      Ends builder root spent { models := .ok models } spent
  | validated {items : List Value} {nodes : List Node} {after : Spent} (isStrict : builder.strict = true)
      (found : root.sequenceItems? = some items) (mixed : items.mapM Value.model? = none)
      (ran : (validateTree (.list items)).run spent = (.valid nodes, after)) :
      Ends builder root spent { models := .ok (nodes.map .node) } after
  | refused {items : List Value} {issues : List Issue} {after : Spent} (isStrict : builder.strict = true)
      (found : root.sequenceItems? = some items) (mixed : items.mapM Value.model? = none)
      (ran : (validateTree (.list items)).run spent = (.invalid issues, after)) :
      Ends builder root spent
        { models := .error (.invalidTree (.ofIssues root issues builder.filename)) } after
  | salvaged {items : List Value} (isRelaxed : builder.strict = false)
      (found : root.sequenceItems? = some items) :
      Ends builder root spent { models := .ok (salvageItems items).1, warnings := (salvageItems items).2 }
        spent

theorem Builder.build_ends (builder : Builder) (root : Value) (spent : Spent) :
    builder.Ends root spent ((builder.build root).run spent).1 ((builder.build root).run spent).2 := by
  rw [Builder.build]
  cases found : root.sequenceItems? with
  | none => exact .nothing found
  | some items =>
    dsimp only
    split
    · rename_i isStrict
      rw [StateT.run_bind, Builder.validate]
      cases kept : items.mapM Value.model? with
      | some models =>
        exact .kept isStrict (found.trans (congrArg some (eq_map_model_of_mapM_model? kept)))
      | none =>
        dsimp only
        rw [StateT.run_bind]
        generalize ran : (validateTree (.list items)).run spent = outcome
        obtain ⟨result, after⟩ := outcome
        cases result with
        | valid nodes => exact .validated isStrict found kept ran
        | invalid issues => exact .refused isStrict found kept ran
    · rename_i isRelaxed
      exact .salvaged (Bool.not_eq_true _ ▸ isRelaxed) found

theorem Builder.isStrict_of_refused {builder : Builder} {root : Value} {spent : Spent} {failure : Failure}
    (failed : ((builder.build root).run spent).1.models = .error failure) :
    builder.strict = true ∧ ∃ issues, failure = .invalidTree (.ofIssues root issues builder.filename) := by
  have ended := builder.build_ends root spent
  generalize (builder.build root).run spent = outcome at ended failed
  obtain ⟨result, after⟩ := outcome
  cases ended with
  | refused isStrict =>
    cases failed
    exact ⟨isStrict, _, rfl⟩
  | _ => cases failed

/-- Building calls nothing: of the world, only the spent iterators and the warnings change. -/
theorem Builder.run_run {σ : Type} (builder : Builder) (nodes : Value) (world : World σ) :
    (builder.run nodes).run.run world =
      (((builder.attempt nodes).run world.spent).1.models,
        { world with
          spent := ((builder.attempt nodes).run world.spent).2
          warnings := world.warnings ++ ((builder.attempt nodes).run world.spent).1.warnings }) := rfl

/-- A tree whose names can be shown is built. -/
theorem Builder.attempt_of_none {builder : Builder} {nodes : Value} (clear : builder.obstacle? nodes = none) :
    builder.attempt nodes = builder.build nodes := by
  rw [attempt, clear]

theorem Builder.attempt_of_some {builder : Builder} {nodes : Value} {obstacle : Obstacle}
    (met : builder.obstacle? nodes = some obstacle) :
    builder.attempt nodes =
      pure { models := .error (.raised obstacle.error), warnings := obstacle.warnings } := by
  rw [attempt, met]

/-- What is built in the end was in nothing's way. -/
theorem Builder.attempt_of_ok {builder : Builder} {nodes : Value} {spent : Spent} {models : List Model}
    (made : ((builder.attempt nodes).run spent).1.models = .ok models) :
    builder.attempt nodes = builder.build nodes := by
  cases met : builder.obstacle? nodes with
  | none => exact attempt_of_none met
  | some obstacle =>
    rw [attempt_of_some met] at made
    cases made

private theorem itemsObstacle?_models (models : List Model) : itemsObstacle? (models.map Value.model) = none := by
  induction models with
  | nil => rfl
  | cons model rest ih =>
    rw [List.map_cons, itemsObstacle?, ih]
    rfl

/-- Nothing stands in the way of built nodes. -/
theorem Builder.obstacle?_models (builder : Builder) {sequence : Value} {models : List Model}
    (items : sequence.sequenceItems? = some (models.map Value.model)) : builder.obstacle? sequence = none := by
  rw [obstacle?]
  split
  · rfl
  · cases sequence with
    | list | tuple | deque =>
      cases items
      exact itemsObstacle?_models models
    | _ => rfl

section

variable {σ : Type} {expander : Expander σ} {nodes : Value} {recording : Recording σ} {spent : Spent}
  {warnings : List Warning}

theorem Expander.run_expand_of_built {models : List Model}
    (built : (expander.builder.attempt nodes).run recording.world.spent =
      ({ models := .ok models, warnings }, spent)) (scope context index : Value) :
    (expander.expand nodes scope context index).run.run recording =
      (expandModels expander.behaviour scope context index models).run.run
        ⟨recording.recorder, { recording.world with spent, warnings := recording.world.warnings ++ warnings }⟩ := by
  rw [expand, run_bind, Declaring.run_ofRun, Builder.run_run, built]

/-- When a tree is not built, expanding it ends with the failure. -/
theorem Expander.run_expand_of_unbuilt {failure : Failure}
    (unbuilt : (expander.builder.attempt nodes).run recording.world.spent =
      ({ models := .error failure, warnings }, spent)) (scope context index : Value) :
    (expander.expand nodes scope context index).run.run recording =
      (.error failure, ⟨recording.recorder,
        { recording.world with spent, warnings := recording.world.warnings ++ warnings }⟩) := by
  rw [expand, run_bind, Declaring.run_ofRun, Builder.run_run, unbuilt]

end

theorem Builder.attempt_models (builder : Builder) {sequence : Value} {models : List Model}
    (items : sequence.sequenceItems? = some (models.map Value.model)) (spent : Spent) :
    (builder.attempt sequence).run spent = ({ models := .ok models }, spent) := by
  rw [attempt_of_none (builder.obstacle?_models items), builder.build_models items]

/-- Building a sequence of built nodes changes nothing in the world. -/
theorem Builder.run_models {σ : Type} (builder : Builder) {sequence : Value} {models : List Model}
    (items : sequence.sequenceItems? = some (models.map Value.model)) (world : World σ) :
    (builder.run sequence).run.run world = (.ok models, world) := by
  rw [builder.run_run, builder.attempt_models items]
  dsimp only
  rw [List.append_nil]

end ScenarioTree
