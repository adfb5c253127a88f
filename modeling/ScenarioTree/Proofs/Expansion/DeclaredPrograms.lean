import ScenarioTree.Proofs.Declaration.Programs
import ScenarioTree.Proofs.Expansion.Composition
import ScenarioTree.Proofs.Expansion.Course

/-! # Visits as programs of declarations

What a visit declares does not depend on where it declares. In a given world it is a program: some declarations
in order, the bodies of groups among them, and how they end. So whatever holds of the trees that programs leave
holds of the trees of visits.
-/

namespace ScenarioTree

variable {σ α : Type}

/-- In every world, declaring is running a program. -/
def Declaring.IsProgram (declaring : Declaring σ Unit) : Prop :=
  ∀ world, ∃ (program : Program) (after : World σ), ∀ recorder,
    declaring.run.run ⟨recorder, world⟩ = (program.gain.outcome, ⟨recorder.grow program.gain, after⟩)

def HookKind.toValue : HookKind → Value
  | before => .str "before"
  | beforeEach => .str "before_each"

private theorem HookKind.ofValue?_toValue (kind : HookKind) : ofValue? kind.toValue = some kind := by
  cases kind <;> rfl

namespace Declaring.IsProgram

theorem nothing : (pure () : Declaring σ Unit).IsProgram :=
  fun world => ⟨.done, world, fun recorder => by rw [Program.gain, recorder.grow_nothing]; rfl⟩

theorem failing (failure : Failure) : (throw failure : Declaring σ Unit).IsProgram :=
  fun world => ⟨.fail failure, world, fun recorder => by rw [Program.gain, recorder.grow_nothing]; rfl⟩

/-- Asking the world first. -/
theorem asking (question : Run σ α) {declaring : α → Declaring σ Unit}
    (each : ∀ answer, (declaring answer).IsProgram) :
    (Declaring.ofRun question >>= declaring).IsProgram := by
  intro world
  cases asked : question.run.run world with
  | mk outcome middle =>
  cases outcome with
  | error failure =>
    refine ⟨.fail failure, middle, fun recorder => ?_⟩
    rw [run_bind, Declaring.run_ofRun, asked, Program.gain, recorder.grow_nothing]
  | ok answer =>
    obtain ⟨program, after, runs⟩ := each answer middle
    refine ⟨program, after, fun recorder => ?_⟩
    rw [run_bind, Declaring.run_ofRun, asked]
    exact runs recorder

theorem followed {first others : Declaring σ Unit} (starts : first.IsProgram) (ends : others.IsProgram) :
    (first >>= fun _ => others).IsProgram := by
  intro world
  obtain ⟨program, middle, runs⟩ := starts world
  cases ended : program.gain.outcome with
  | error failure =>
    refine ⟨program, middle, fun recorder => ?_⟩
    rw [run_bind, runs, ended]
  | ok value =>
    obtain ⟨rest, after, goesOn⟩ := ends middle
    refine ⟨.next program rest, after, fun recorder => ?_⟩
    rw [run_bind, runs, ended]
    dsimp only
    rw [goesOn, Recorder.grow_grow, Program.gain, Gain.andThen, ended]
    rfl

/-- Everything that expansion is composed of is a program. -/
theorem isCompositional (behaviour : Behaviour σ) :
    IsCompositional behaviour (fun _ => True) (fun _ => True) IsProgram where
  nothing := nothing
  hook kind hook := by
    refine fun world => ⟨.hook kind.toValue hook, world, fun recorder => ?_⟩
    rw [Program.gain, kind.ofValue?_toValue]
    simp [Declaring.hook, Recorder.addHook, Recorder.grow, Group.grow, Hooks.append_add_empty]
    rfl
  test name body := by
    refine fun world => ⟨.test name body, world, fun recorder => ?_⟩
    simp [Declaring.test, Recorder.add, Recorder.grow, Group.grow, Program.gain]
    rfl
  followed := followed
  group name body inside := by
    intro world
    obtain ⟨program, after, runs⟩ := inside world
    refine ⟨.group name program, after, fun recorder => ?_⟩
    rw [Declaring.run_group, runs, Program.gain]
    exact Prod.ext rfl (congrArg (Recording.mk · after) (recorder.leave_grow_enter name program.gain))
  asked _ := fun _ each => asking _ each
  taken _ := fun _ each => asking _ each

end Declaring.IsProgram

/-- Expanding built nodes is running a program. -/
theorem expandModels_isProgram (behaviour : Behaviour σ) (scope context index : Value) (models : List Model) :
    (expandModels behaviour scope context index models).IsProgram := by
  induction models with
  | nil => exact .nothing
  | cons model rest ih =>
    refine .followed ?_ ih
    match model with
    | .node node =>
      have asks : node.Asks (fun _ => True) fun _ => True := node.asks_of_forall (fun _ => trivial) fun _ => trivial
      exact (Declaring.IsProgram.isCompositional behaviour).ofNode node asks scope context index
    | .outsider (.alien _) => exact .nothing
    | .outsider (.baseGroup _) => exact .failing _
    | .outsider (.baseLeaf _) => exact .failing _

theorem Visit.declare_isProgram (behaviour : Behaviour σ) (visit : Visit) : (visit.declare behaviour).IsProgram := by
  rw [visit.declare_eq_expand]
  exact .asking _ fun models => expandModels_isProgram behaviour _ _ _ models

end ScenarioTree
