import Mathlib.Data.List.Forall2
import ScenarioTree.Proofs.Expansion.Refinement

/-! # Instances of groups

The hooks of a group node are declared once, on the group that the node declares. Inside, a fan-out
declares one group without hooks for every fragment, and each of them holds what stands for the tests
against its fragment. So a group node below a fan-out is declared once for every fragment, while the
fan-out itself is declared once.
-/

namespace ScenarioTree

variable {σ α β : Type}

/-- Groups without hooks, one for every fragment and in order, each holding what stands for the tests
against its fragment. -/
def AreInstances (behaviour : Behaviour σ) (context : Value) (tests : List Node)
    (fragments : List Value) (declared : List Declaration) : Prop :=
  List.Forall₂
    (fun (fragment, position) declaration => ∃ inside before after,
      declaration = .group (positionName position) {} inside ∧
        (meanings behaviour fragment context (.int (position : Nat)) tests).run.run before =
          (.ok inside, after))
    fragments.zipIdx declared

private theorem forall₂_of_mapM_eq_ok {action : β → Run σ α} {items : List β} {values : List α}
    {world after : World σ} (returned : (items.mapM action).run.run world = (.ok values, after)) :
    List.Forall₂ (fun item value => ∃ before after, (action item).run.run before = (.ok value, after))
      items values := by
  induction items generalizing world values with
  | nil =>
    cases returned
    exact .nil
  | cons item rest ih =>
    rw [List.mapM_cons] at returned
    obtain ⟨value, middle, first, others⟩ := run_bind_eq_ok_iff.mp returned
    obtain ⟨found, last, others, both⟩ := run_bind_eq_ok_iff.mp others
    cases both
    exact .cons ⟨world, middle, first⟩ (ih others)

/-- What was declared without a failure is what the meaning gives. -/
theorem Declaring.Realizes.of_returns {declaring : Declaring σ Unit}
    {meaning : Run σ (List Declaration)} (realizes : declaring.Realizes meaning) {recorder : Recorder}
    {world : World σ} {recording : Recording σ}
    (returned : declaring.run.run ⟨recorder, world⟩ = (.ok (), recording)) :
    ∃ declared, meaning.run.run world = (.ok declared, recording.world) ∧
      recording.recorder = recorder.addAll declared := by
  have realized := realizes recorder world
  generalize meaning.run.run world = outcome at realized ⊢
  obtain ⟨failure | declared, after⟩ := outcome
  · obtain ⟨partly, failed⟩ := realized
    cases returned.symm.trans failed
  · cases returned.symm.trans realized
    exact ⟨declared, rfl, rfl⟩

section

variable (behaviour : Behaviour σ) (head : GroupHead) (tests : List Node) (scope context index : Value)
  {recorder : Recorder} {world : World σ} {recording : Recording σ}

/-- A group is declared once, with its hooks and what stands for its tests. -/
theorem expandNode_plainGroup_declares
    (returned : (expandNode behaviour scope context index (.plainGroup head tests)).run.run
      ⟨recorder, world⟩ = (.ok (), recording)) :
    ∃ inside, recording.recorder =
        recorder.add (.group head.name (head.hooks scope context) inside) ∧
      (meanings behaviour scope context .null tests).run.run world = (.ok inside, recording.world) := by
  obtain ⟨declared, stands, recorded⟩ :=
    (expandNode_realizes behaviour scope context index (.plainGroup head tests)).of_returns returned
  rw [Node.meaning] at stands
  obtain ⟨inside, after, found, made⟩ := run_bind_eq_ok_iff.mp stands
  cases made
  exact ⟨inside, recorded, found⟩

/-- A fan-out is declared once, with its hooks and one instance of its tests for every fragment. -/
theorem expandNode_fanOutGroup_declares (fragmentSet : Callable)
    (returned : (expandNode behaviour scope context index (.fanOutGroup head fragmentSet tests)).run.run
      ⟨recorder, world⟩ = (.ok (), recording)) :
    ∃ found asked instances,
      (fragments behaviour fragmentSet scope).run.run world = (.ok found, asked) ∧
      recording.recorder = recorder.add (.group head.name (head.hooks scope context) instances) ∧
      AreInstances behaviour context tests found instances := by
  obtain ⟨declared, stands, recorded⟩ :=
    (expandNode_realizes behaviour scope context index
      (.fanOutGroup head fragmentSet tests)).of_returns returned
  rw [Node.meaning, ← bind_assoc] at stands
  obtain ⟨found, asked, given, rest⟩ := run_bind_eq_ok_iff.mp stands
  obtain ⟨instances, after, each, made⟩ := run_bind_eq_ok_iff.mp rest
  cases made
  refine ⟨found, asked, instances, given, recorded, ?_⟩
  refine (forall₂_of_mapM_eq_ok each).imp ?_
  rintro ⟨fragment, position⟩ declaration ⟨before, after, built⟩
  obtain ⟨inside, _, stands, made⟩ := run_bind_eq_ok_iff.mp built
  cases made
  exact ⟨inside, before, _, rfl, stands⟩

end

end ScenarioTree
