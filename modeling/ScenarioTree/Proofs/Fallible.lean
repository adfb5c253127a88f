import ScenarioTree.Declaration.Recorder

/-! # Computations that may fail

Building, declaring and running are computations over a state that may fail and leave the state
behind. Here their steps are described by what they give from a state: a failure of the first part
of a sequence is the failure of the whole, and the rest is not begun.
-/

namespace ScenarioTree

section General

variable {ε s α β : Type}

/-- A sequence gives what its second part gives from where the first part ended, unless the first
part fails. -/
theorem run_bind (first : ExceptT ε (StateM s) α) (next : α → ExceptT ε (StateM s) β) (state : s) :
    (first >>= next).run.run state =
      match first.run.run state with
      | (.ok value, after) => (next value).run.run after
      | (.error failure, after) => (.error failure, after) := by
  change (ExceptT.bindCont next (first.run.run state).1).run (first.run.run state).2 = _
  generalize first.run.run state = outcome
  obtain ⟨_ | _, _⟩ := outcome <;> rfl

theorem run_pure (value : α) (state : s) :
    (pure value : ExceptT ε (StateM s) α).run.run state = (.ok value, state) := rfl

theorem run_bind_of_ok {first : ExceptT ε (StateM s) α} {next : α → ExceptT ε (StateM s) β}
    {state after : s} {value : α} (returns : first.run.run state = (.ok value, after)) :
    (first >>= next).run.run state = (next value).run.run after := by
  rw [run_bind, returns]

theorem run_bind_of_error {first : ExceptT ε (StateM s) α} {next : α → ExceptT ε (StateM s) β}
    {state after : s} {failure : ε} (fails : first.run.run state = (.error failure, after)) :
    (first >>= next).run.run state = (.error failure, after) := by
  rw [run_bind, fails]

/-- A sequence returns exactly when both its parts do. -/
theorem run_bind_eq_ok_iff {first : ExceptT ε (StateM s) α} {next : α → ExceptT ε (StateM s) β}
    {state after : s} {result : β} :
    (first >>= next).run.run state = (.ok result, after) ↔
      ∃ value middle, first.run.run state = (.ok value, middle) ∧
        (next value).run.run middle = (.ok result, after) := by
  constructor
  · intro returns
    rw [run_bind] at returns
    split at returns
    case h_1 value middle first => exact ⟨value, middle, first, returns⟩
    case h_2 => cases returns
  · rintro ⟨value, middle, first, second⟩
    rw [run_bind_of_ok first, second]

/-- What is attempted gives its value, and otherwise what handles its failure gives. -/
theorem run_tryCatch (attempt : ExceptT ε (StateM s) α) (handle : ε → ExceptT ε (StateM s) α)
    (state : s) :
    (tryCatch attempt handle).run.run state =
      match attempt.run.run state with
      | (.ok value, after) => (.ok value, after)
      | (.error failure, after) => (handle failure).run.run after := by
  change (match (attempt.run.run state).1 with
    | .ok value => (pure (.ok value) : StateM s (Except ε α))
    | .error failure => (handle failure).run).run (attempt.run.run state).2 = _
  generalize attempt.run.run state = outcome
  obtain ⟨_ | _, _⟩ := outcome <;> rfl

/-- A computation leaves a part of the state as it is, also when it fails. -/
def Keeps {part : Type} (read : s → part) (computation : ExceptT ε (StateM s) α) : Prop :=
  ∀ state, read (computation.run.run state).2 = read state

/-- A sequence leaves as it is what both its parts do. -/
theorem Keeps.bind {part : Type} {read : s → part} {first : ExceptT ε (StateM s) α}
    {next : α → ExceptT ε (StateM s) β} (starts : Keeps read first)
    (goesOn : ∀ value, Keeps read (next value)) : Keeps read (first >>= next) := by
  intro state
  have own := starts state
  rw [run_bind]
  generalize first.run.run state = outcome at own ⊢
  obtain ⟨value | failure, middle⟩ := outcome
  · exact own
  · exact (goesOn _ middle).trans own

/-- A computation fails only as blamed: with such a failure, leaving such a state behind. -/
def FailsOnly (blamed : ε → s → Prop) (computation : ExceptT ε (StateM s) α) : Prop :=
  ∀ state failure after, computation.run.run state = (.error failure, after) → blamed failure after

/-- A sequence fails only as both its parts do. -/
theorem FailsOnly.bind {blamed : ε → s → Prop} {first : ExceptT ε (StateM s) α}
    {next : α → ExceptT ε (StateM s) β} (starts : FailsOnly blamed first)
    (goesOn : ∀ value, FailsOnly blamed (next value)) : FailsOnly blamed (first >>= next) := by
  intro state failure after failed
  rw [run_bind] at failed
  split at failed
  · exact goesOn _ _ _ _ failed
  · rename_i ended
    cases failed
    exact starts _ _ _ ended

end General

variable {σ α : Type}

@[simp] theorem Declaring.run_ofRun (run : Run σ α) (recording : Recording σ) :
    (Declaring.ofRun run).run.run recording =
      ((run.run.run recording.world).1,
        { recording with world := (run.run.run recording.world).2 }) := rfl

/-- Declaring a group runs its body inside and closes it whatever comes of the body. -/
theorem Declaring.run_group (name : String) (body : Declaring σ Unit) (recorder : Recorder)
    (world : World σ) :
    (Declaring.group name body).run.run ⟨recorder, world⟩ =
      ((body.run.run ⟨recorder.enter name, world⟩).1,
        { (body.run.run ⟨recorder.enter name, world⟩).2 with
          recorder := (body.run.run ⟨recorder.enter name, world⟩).2.recorder.leave }) := rfl

theorem FailsOnly.ofRun {blamed : Failure → World σ → Prop} {run : Run σ α} (fails : FailsOnly blamed run) :
    FailsOnly (fun failure recording => blamed failure recording.world) (Declaring.ofRun run) := by
  intro recording failure after failed
  rw [Declaring.run_ofRun] at failed
  obtain ⟨own, rfl⟩ := Prod.mk.inj failed
  exact fails recording.world failure _ (Prod.ext own rfl)

end ScenarioTree
