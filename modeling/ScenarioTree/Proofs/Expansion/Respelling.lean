import ScenarioTree.Proofs.Expansion.Course
import ScenarioTree.Proofs.Expansion.Refinement
import ScenarioTree.Proofs.Schema.Respelling

/-! # Declaring respelled trees

A respelled tree declares what the tree declares, because it is built as the tree is. Of all the places
that read a field, only the one where relaxed construction tells a fan-out knows a single key.
-/

namespace ScenarioTree

private theorem Builder.exists_models_of_relaxed {builder : Builder} (relaxed : builder.strict = false)
    (nodes : Value) (spent : Spent) : ∃ models, ((builder.build nodes).run spent).1.models = .ok models := by
  cases found : ((builder.build nodes).run spent).1.models with
  | ok models => exact ⟨models, rfl⟩
  | error failure => cases relaxed.symm.trans (isStrict_of_refused found).1

/-- When a tree that writes every field once is respelled, the same nodes are built or both trees are
refused, with the same warnings, and relaxed building refuses none. For relaxed building a callable that
fans out has to keep its key. From any recording on, both trees declare the same groups and tests, with
the same effects outside. -/
theorem Visit.declare_respelled (visit : Visit) {other : Value}
    (respelled : visit.nodes.Respelled visit.builder.MayRespell other)
    (once : ∀ items, visit.nodes.sequenceItems? = some items → ∀ item ∈ items,
      item.Throughout SpelledOnce) :
    (∀ spent,
      BuildsAlike ((visit.builder.build visit.nodes).run spent) ((visit.builder.build other).run spent) ∧
        (visit.builder.strict = false →
          ∃ models, ((visit.builder.build visit.nodes).run spent).1.models = .ok models)) ∧
    ∀ (σ : Type) (behaviour : Behaviour σ) (recording : Recording σ),
      OutcomesAlike ((visit.declare behaviour).run.run recording).1
          (({ visit with nodes := other }.declare behaviour).run.run recording).1 ∧
        ((visit.declare behaviour).run.run recording).2 =
          (({ visit with nodes := other }.declare behaviour).run.run recording).2 := by
  have built := visit.builder.build_respelled respelled once
  refine ⟨fun spent => ⟨built spent, fun relaxed => Builder.exists_models_of_relaxed relaxed _ _⟩, ?_⟩
  intro σ behaviour recording
  obtain ⟨models, warnings, spent⟩ := visit.builder.attempt_respelled respelled once recording.world.spent
  rw [declare_eq_expand, declare_eq_expand, Expander.expand, Expander.expand, run_bind, run_bind,
    Declaring.run_ofRun, Declaring.run_ofRun, Builder.run_run, Builder.run_run, warnings, spent]
  generalize ((visit.builder.attempt visit.nodes).run recording.world.spent).1.models = outcome at models ⊢
  generalize ((visit.builder.attempt other).run recording.world.spent).1.models = another at models ⊢
  cases models with
  | same => exact ⟨.same _, rfl⟩
  | refused report other => exact ⟨.refused report other, rfl⟩

/-- The entries of a group that fans out over its tests, with its fragment set under the given key. -/
def pagesEntries (key : String) (tests : List Value) : List (Value × Value) :=
  [(.str "feature", .str "Pages"), (.str key, .callable (.defined 0 "set" .function)),
    (.str "tests", .list tests)]

def pagesGroup (key : String) (tests : List Value) : Value := .map (pagesEntries key tests)

/-- A scenario with the callable that gathers its data under the given key. -/
def titleScenario (key : String) : Value :=
  .map [(.str "scenario", .str "Title"), (.str key, .callable (.defined 1 "read" .object)),
    (.str "comparison", .callable (.defined 2 "check" .object))]

/-- The group with its scenario, to be declared against a page. -/
def pagesVisit : Visit where
  entry := .scope
  nodes := .list [pagesGroup "set" [titleScenario "getActual"]]
  scope := .str "page"

def titleLeaf : Node :=
  .directLeaf (.of "Title") ⟨.defined 1 "read" .object, .defined 2 "check" .object⟩ none

/-- Respelled in the group and in the scenario, the tree declares the group with its two fragments. -/
theorem pagesVisit_respelled :
    pagesVisit.nodes.Respelled pagesVisit.builder.MayRespell
      (.list [pagesGroup "fragment_set" [titleScenario "get_actual"]]) ∧
    (pagesGroup "set" [titleScenario "getActual"]).Throughout SpelledOnce ∧
    (({ pagesVisit with nodes := .list [pagesGroup "fragment_set" [titleScenario "get_actual"]] } : Visit).declare
        alternating).run.run ⟨{}, { store := 0 }⟩ =
      (.ok (), ⟨⟨⟨"", {}, [.group "Pages" {} [.group "Set index: 0" {} [titleLeaf.test (.str "a") .null],
          .group "Set index: 1" {} [titleLeaf.test (.str "b") .null]]]⟩, []⟩,
        { store := 1, log := [.call 0 "set" [.str "page"]] }⟩) := by
  have respelled : pagesVisit.nodes.Respelled pagesVisit.builder.MayRespell
      (.list [pagesGroup "fragment_set" [titleScenario "get_actual"]]) := by
    have title : (titleScenario "getActual").Respelled pagesVisit.builder.MayRespell
        (titleScenario "get_actual") :=
      .map (.cons (.same _) (.cons
        (.key (by decide : .getActual ∈ Field.all) (by decide) (by decide) (.inl rfl))
        (.cons (.same _) .nil)))
    exact .list (.cons (.map (.cons (.same _) (.cons
      (.key (by decide : .fragmentSet ∈ Field.all) (by decide) (by decide) (.inl rfl))
      (.cons (.below (.head _) (.list (.cons title .nil))) .nil)))) .nil)
  have once : (pagesGroup "set" [titleScenario "getActual"]).Throughout SpelledOnce := by
    have title : (titleScenario "getActual").Throughout SpelledOnce := by
      refine .childless rfl ?_ rfl rfl
      unfold SpelledOnce
      decide
    refine .group rfl ?_ rfl rfl rfl (List.forall_mem_singleton.mpr title)
    unfold SpelledOnce
    decide
  have onceEach : ∀ items, pagesVisit.nodes.sequenceItems? = some items → ∀ item ∈ items,
      item.Throughout SpelledOnce := by
    rintro _ ⟨⟩
    exact List.forall_mem_singleton.mpr once
  obtain ⟨_, alike⟩ := pagesVisit.declare_respelled respelled onceEach
  obtain ⟨outcomes, recordings⟩ := alike Nat alternating ⟨{}, { store := 0 }⟩
  refine ⟨respelled, once, Prod.ext ?_ recordings.symm⟩
  have ran : ((pagesVisit.declare alternating).run.run ⟨{}, { store := 0 }⟩).1 = .ok () := rfl
  rw [ran] at outcomes
  generalize Prod.fst _ = outcome at outcomes ⊢
  cases outcomes
  rfl

/-- Relaxed building reads the group as one that does not fan out when its fragment set is under the
second key. -/
theorem pagesGroup_not_fanned_out :
    (Value.list [pagesGroup "set" []]).Respelled (fun _ _ => True) (.list [pagesGroup "fragment_set" []]) ∧
    (pagesGroup "set" []).Throughout SpelledOnce ∧ (pagesGroup "fragment_set" []).Throughout SpelledOnce ∧
    (Builder.build { strict := false } (.list [pagesGroup "set" []])).run [] =
      ({ models := .ok [.node (.fanOutGroup ⟨.of "Pages", none, none⟩ (.defined 0 "set" .function) [])] }, []) ∧
    (Builder.build { strict := false } (.list [pagesGroup "fragment_set" []])).run [] =
      ({ models := .ok [.node (.plainGroup ⟨.of "Pages", none, none⟩ [])] }, []) := by
  have respelled : (Value.list [pagesGroup "set" []]).Respelled (fun _ _ => True)
      (.list [pagesGroup "fragment_set" []]) :=
    .list (.cons (.map (.cons (.same _) (.cons
      (.key (by decide : .fragmentSet ∈ Field.all) (by decide) (by decide) trivial)
      (.cons (.same _) .nil)))) .nil)
  have once : ∀ key ∈ Field.fragmentSet.keys, (pagesGroup key []).Throughout SpelledOnce := by
    rw [show Field.fragmentSet.keys = ["set", "fragment_set"] from rfl, List.forall_mem_cons,
      List.forall_mem_singleton]
    constructor
    all_goals
      refine .group rfl ?_ rfl rfl rfl nofun
      unfold SpelledOnce
      decide
  have fanOut : salvageItem (pagesGroup "set" []) =
      (some (.node (.fanOutGroup ⟨.of "Pages", none, none⟩ (.defined 0 "set" .function) [])), []) := by
    have told : Variant.ofShape? (pagesEntries "set" []) = some .fanOutGroup := rfl
    rw [pagesGroup, salvageItem_entries rfl, told]
    simp only [salvageNode, adaptEntries, contains_acceptedKeys]
    rfl
  have plain : salvageItem (pagesGroup "fragment_set" []) =
      (some (.node (.plainGroup ⟨.of "Pages", none, none⟩ [])), []) := by
    have told : Variant.ofShape? (pagesEntries "fragment_set" []) = some .plainGroup := rfl
    rw [pagesGroup, salvageItem_entries rfl, told]
    simp only [salvageNode, adaptEntries, contains_acceptedKeys]
    rfl
  have built (group : Value) : (Builder.build { strict := false } (.list [group])).run [] =
      ({ models := .ok (salvageItems [group]).1, warnings := (salvageItems [group]).2 }, []) := rfl
  refine ⟨respelled, once "set" (by decide), once "fragment_set" (by decide), ?_, ?_⟩
  · rw [built, salvageItems, fanOut]
    rfl
  · rw [built, salvageItems, plain]
    rfl

end ScenarioTree
