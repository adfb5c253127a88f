import ScenarioTree.Declaration.Observed
import ScenarioTree.Proofs.Fallible

/-! # The status of groups during runs

What activating a group does is said once, for each of the three states that the group may be in. From
it follows what any sequence of runs leaves alone: a group that was started once keeps its status for
ever, and a test gets past the activation of the groups around it only when all of them are active.
-/

namespace ScenarioTree

variable {σ α : Type}

@[simp] theorem Testing.run_ofRun (run : Run σ α) (trial : Trial σ) :
    (Testing.ofRun run).run.run trial =
      ((run.run.run trial.world).1, { trial with world := (run.run.run trial.world).2 }) := rfl

/-- The status of a group whose hooks ended with a failure. An interrupt is not remembered. -/
def Status.after (failure : Failure) : Status :=
  if failure.isOrdinary then .failed failure else .active

theorem Status.after_ne_pending (failure : Failure) : Status.after failure ≠ .pending := by
  unfold Status.after
  split <;> simp

private theorem Activation.set_set (activation : Activation) (position : List Nat) (first last : Status) :
    (activation.set position first).set position last = activation.set position last := by
  funext other
  unfold Activation.set
  split <;> rfl

/-- Activating a group: a failed one refuses, an active one is left alone, and a pending one runs its
hooks and is started from then on. -/
theorem run_activate (behaviour : Behaviour σ) (group : Enclosing) (trial : Trial σ) :
    (activate behaviour group).run.run trial =
      match trial.activation group.position with
      | .failed failure => (.error (.hookFailed group.name failure), trial)
      | .active => (.ok (), trial)
      | .pending =>
        match (callAll behaviour group.hooks.before).run.run trial.world with
        | (.ok (), world) => (.ok (), ⟨trial.activation.set group.position .active, world⟩)
        | (.error failure, world) =>
          (.error failure,
            ⟨trial.activation.set group.position (.after failure), world⟩) := by
  have asked : (get : Testing σ (Trial σ)).run.run trial = (.ok trial, trial) := rfl
  rw [activate, run_bind_of_ok asked]
  cases status : trial.activation group.position with
  | failed failure => rfl
  | active => rfl
  | pending =>
    have started : (setStatus group.position .active).run.run trial =
        (.ok (), { trial with activation := trial.activation.set group.position .active }) := rfl
    dsimp only
    rw [run_bind_of_ok started, run_tryCatch, Testing.run_ofRun]
    dsimp only
    generalize (callAll behaviour group.hooks.before).run.run trial.world = outcome
    obtain ⟨failure | _, world⟩ := outcome
    · dsimp only
      by_cases ordinary : failure.isOrdinary = true
      · simp only [Status.after, ordinary, if_true]
        rw [← Activation.set_set _ _ .active (.failed failure)]
        rfl
      · simp only [Status.after, ordinary]
        rfl
    · rfl

theorem activateAll_append (behaviour : Behaviour σ) (first rest : List Enclosing) :
    activateAll behaviour (first ++ rest) =
      activateAll behaviour first >>= fun _ => activateAll behaviour rest := by
  induction first with
  | nil => rfl
  | cons group others ih =>
    rw [List.cons_append, activateAll, activateAll, ih, bind_assoc]

section

variable {behaviour : Behaviour σ} {trial : Trial σ} {position : List Nat}

/-- Activating a group leaves every group alone that was started before. -/
theorem activate_keeps (group : Enclosing) (started : trial.activation position ≠ .pending) :
    ((activate behaviour group).run.run trial).2.activation position = trial.activation position := by
  rw [run_activate]
  cases status : trial.activation group.position with
  | failed failure => rfl
  | active => rfl
  | pending =>
    have different : position ≠ group.position := by
      rintro rfl
      exact started status
    dsimp only
    generalize (callAll behaviour group.hooks.before).run.run trial.world = outcome
    obtain ⟨failure | _, world⟩ := outcome <;> exact Activation.set_other _ _ different

private theorem active_of_activate {group : Enclosing} {after : Trial σ}
    (returns : (activate behaviour group).run.run trial = (.ok (), after)) :
    after.activation group.position = .active := by
  rw [run_activate] at returns
  cases status : trial.activation group.position with
  | failed failure =>
    rw [status] at returns
    cases returns
  | active =>
    rw [status] at returns
    cases returns
    exact status
  | pending =>
    rw [status] at returns
    dsimp only at returns
    generalize (callAll behaviour group.hooks.before).run.run trial.world = outcome at returns
    obtain ⟨failure | _, world⟩ := outcome
    · cases returns
    · cases returns
      exact Activation.set_same _ _ _

/-- Activating groups one after the other leaves every group alone that was started before. -/
theorem activateAll_keeps (groups : List Enclosing) (started : trial.activation position ≠ .pending) :
    ((activateAll behaviour groups).run.run trial).2.activation position =
      trial.activation position := by
  induction groups generalizing trial with
  | nil => rfl
  | cons group rest ih =>
    have kept : ((activate behaviour group).run.run trial).2.activation position =
        trial.activation position := activate_keeps group started
    rw [activateAll, run_bind]
    generalize (activate behaviour group).run.run trial = outcome at kept ⊢
    obtain ⟨failure | _, middle⟩ := outcome
    · exact kept
    · exact (ih (kept ▸ started)).trans kept

/-- When groups were activated one after the other, all of them are active. -/
theorem active_of_activateAll {groups : List Enclosing} {after : Trial σ}
    (returns : (activateAll behaviour groups).run.run trial = (.ok (), after)) :
    ∀ group ∈ groups, after.activation group.position = .active := by
  induction groups generalizing trial with
  | nil => exact nofun
  | cons group rest ih =>
    obtain ⟨_, middle, first, others⟩ := run_bind_eq_ok_iff.mp returns
    intro other member
    rcases List.mem_cons.mp member with rfl | member
    · have active := active_of_activate first
      have started : middle.activation other.position ≠ .pending := by
        rw [active]
        exact nofun
      have kept : ((activateAll behaviour rest).run.run middle).2.activation other.position =
          middle.activation other.position := activateAll_keeps rest started
      rw [others] at kept
      exact kept.trans active
    · exact ih others other member

/-- Only activation changes the status of groups. -/
theorem Case.run_activation (case : Case) :
    ((case.run behaviour).run.run trial).2.activation =
      ((activateAll behaviour case.enclosing).run.run trial).2.activation := by
  rw [Case.run, run_bind]
  generalize (activateAll behaviour case.enclosing).run.run trial = outcome
  obtain ⟨failure | _, reached⟩ := outcome
  · rfl
  · dsimp only
    rw [run_bind, Testing.run_ofRun]
    generalize (callAll behaviour _).run.run reached.world = outcome
    obtain ⟨failure | _, world⟩ := outcome <;> rfl

/-- A run of a test leaves every group alone that was started before. -/
theorem Case.run_keeps (case : Case) (started : trial.activation position ≠ .pending) :
    ((case.run behaviour).run.run trial).2.activation position = trial.activation position := by
  rw [case.run_activation]
  exact activateAll_keeps case.enclosing started

/-- The groups and their world after tests were run one after the other. -/
def Trial.after (behaviour : Behaviour σ) (trial : Trial σ) (cases : List Case) : Trial σ :=
  (runCases behaviour cases trial).2

theorem Trial.after_cons (trial : Trial σ) (case : Case) (rest : List Case) :
    trial.after behaviour (case :: rest) =
      (((case.run behaviour).run.run trial).2).after behaviour rest := rfl

theorem Trial.after_append (trial : Trial σ) (earlier later : List Case) :
    trial.after behaviour (earlier ++ later) = (trial.after behaviour earlier).after behaviour later := by
  induction earlier generalizing trial with
  | nil => rfl
  | cons case rest ih =>
    rw [List.cons_append, Trial.after_cons, Trial.after_cons, ih]

/-- Runs leave every group alone that was started before them. -/
theorem Trial.after_keeps (cases : List Case) (started : trial.activation position ≠ .pending) :
    (trial.after behaviour cases).activation position = trial.activation position := by
  induction cases generalizing trial with
  | nil => rfl
  | cons case rest ih =>
    have kept : ((case.run behaviour).run.run trial).2.activation position =
        trial.activation position := case.run_keeps started
    rw [Trial.after_cons, ih (kept ▸ started), kept]

end

end ScenarioTree
