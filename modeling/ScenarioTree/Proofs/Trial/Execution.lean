import ScenarioTree.Proofs.Declaration.Positions
import ScenarioTree.Proofs.Trial.Agenda
import ScenarioTree.Proofs.Trial.FailedHooks

/-! # What a run of a test does

A run of a test carries out its agenda and nothing else, and ends as the agenda does. The status of a group
changes only when the run enters the group, which it does when the groups around it were entered.
-/

namespace ScenarioTree

variable {σ : Type}

/-- The status of a group after it was to be entered, by what came of that. -/
def Status.entered (status : Status) (outcome : Except Failure Unit) : Status :=
  match status, outcome with
  | .pending, .ok () => .active
  | .pending, .error failure => .after failure
  | status, _ => status

theorem Status.entered_ne_pending (status : Status) (outcome : Except Failure Unit) :
    status.entered outcome ≠ .pending := by
  cases status with
  | pending =>
    cases outcome with
    | ok done => exact nofun
    | error failure => exact Status.after_ne_pending failure
  | active => exact nofun
  | failed cause => exact nofun

private theorem Activation.set_eq_self (activation : Activation) (position : List Nat) :
    activation.set position (activation position) = activation := by
  funext other
  unfold Activation.set
  split
  · next same => rw [same]
  · rfl

section

variable (behaviour : Behaviour σ)

/-- Entering a group carries out what there is to do for it, and changes no other group. -/
theorem run_activate_opening (group : Enclosing) (trial : Trial σ) :
    let progress := carryOut behaviour (group.opening trial.activation) trial.world.store
    (activate behaviour group).run.run trial =
      (progress.outcome,
        ⟨trial.activation.set group.position
            ((trial.activation group.position).entered progress.outcome),
          trial.world.extend progress.events progress.store⟩) := by
  rw [run_activate, Enclosing.opening]
  cases status : trial.activation group.position with
  | failed cause =>
    have kept : trial.activation.set group.position (.failed cause) = trial.activation := by
      rw [← status, Activation.set_eq_self]
    change _ = (_, Trial.mk (trial.activation.set group.position (.failed cause))
      (trial.world.extend [] trial.world.store))
    rw [kept, World.extend_nil]
    rfl
  | active =>
    have kept : trial.activation.set group.position .active = trial.activation := by
      rw [← status, Activation.set_eq_self]
    change _ = (_, Trial.mk (trial.activation.set group.position .active)
      (trial.world.extend [] trial.world.store))
    rw [kept, World.extend_nil]
    rfl
  | pending =>
    dsimp only
    have called : (callAll behaviour group.hooks.before).CarriesOut behaviour (group.duties .before) :=
      callAll_carriesOut .before group.position 0 group.hooks.before
    rw [called trial.world]
    dsimp only [Progress.effect]
    generalize carryOut behaviour (group.duties .before) trial.world.store = progress
    obtain ⟨begun, outcome, store⟩ := progress
    cases outcome with
    | error failure => rfl
    | ok done => rfl

/-- Entering groups leaves the status of all other groups alone. -/
theorem activateAll_other (groups : List Enclosing) {position : List Nat} (trial : Trial σ)
    (others : ∀ group ∈ groups, group.position ≠ position) :
    ((activateAll behaviour groups).run.run trial).2.activation position =
      trial.activation position := by
  induction groups generalizing trial with
  | nil => rfl
  | cons group rest ih =>
    have different : position ≠ group.position := (others group (List.mem_cons_self ..)).symm
    rw [activateAll, run_bind, run_activate_opening]
    generalize carryOut behaviour (group.opening trial.activation) trial.world.store = progress
    obtain ⟨begun, outcome, store⟩ := progress
    cases outcome with
    | error failure => exact Activation.set_other _ _ different
    | ok done =>
      refine (ih _ fun other member => others other (List.mem_cons_of_mem _ member)).trans ?_
      exact Activation.set_other _ _ different

/-- What there is to do for groups depends on their own status only. -/
theorem openings_congr {activation other : Activation} {groups : List Enclosing}
    (same : ∀ group ∈ groups, activation group.position = other group.position) :
    openings activation groups = openings other groups := by
  induction groups with
  | nil => rfl
  | cons group rest ih =>
    have own : group.opening activation = group.opening other := by
      rw [Enclosing.opening, Enclosing.opening, same group (List.mem_cons_self ..)]
    have inner : openings activation rest = openings other rest :=
      ih fun inner member => same inner (List.mem_cons_of_mem _ member)
    rw [openings, List.flatMap_cons, own]
    exact congrArg (group.opening other ++ ·) inner

/-- Entering nested groups carries out what there is to do for all of them. -/
theorem run_activateAll_openings {groups : List Enclosing} (nested : Nested groups) (trial : Trial σ) :
    let progress := carryOut behaviour (openings trial.activation groups) trial.world.store
    ((activateAll behaviour groups).run.run trial).1 = progress.outcome ∧
      ((activateAll behaviour groups).run.run trial).2.world =
        trial.world.extend progress.events progress.store := by
  induction groups generalizing trial with
  | nil => exact ⟨rfl, World.extend_nil _ |>.symm⟩
  | cons group rest ih =>
    have first := run_activate_opening behaviour group trial
    have joined : openings trial.activation (group :: rest) =
        group.opening trial.activation ++ openings trial.activation rest := rfl
    have split : Nested ([] ++ group :: rest) := nested
    have distinct : ∀ other ∈ rest, other.position ≠ group.position := split.position_ne.2
    dsimp only at first ⊢
    rw [activateAll, run_bind, first, joined, carryOut_append]
    generalize carryOut behaviour (group.opening trial.activation) trial.world.store = progress
    obtain ⟨begun, outcome, store⟩ := progress
    cases outcome with
    | error failure => exact ⟨rfl, rfl⟩
    | ok done =>
      have inner := ih (List.pairwise_cons.mp nested).2
        ⟨trial.activation.set group.position ((trial.activation group.position).entered (.ok done)),
          trial.world.extend (Progress.events ⟨begun, .ok done, store⟩) store⟩
      -- the inner groups look at their own status only, which the outer one does not touch
      have same : openings (trial.activation.set group.position
          ((trial.activation group.position).entered (.ok done))) rest =
            openings trial.activation rest :=
        openings_congr fun other member => Activation.set_other _ _ (distinct other member)
      dsimp only at inner
      rw [same, World.store_extend] at inner
      rw [Progress.next_of_ok rfl]
      dsimp only
      refine ⟨inner.1, inner.2.trans ?_⟩
      rw [World.extend_extend, Progress.events, Progress.events, Progress.events, List.flatMap_append]

/-- The status of a group after a run from a trial: it changes when the groups around it were entered. -/
def Enclosing.statusAfter (behaviour : Behaviour σ) (outer : List Enclosing) (group : Enclosing)
    (trial : Trial σ) : Status :=
  let around := carryOut behaviour (openings trial.activation outer) trial.world.store
  match around.outcome with
  | .error _ => trial.activation group.position
  | .ok () =>
    (trial.activation group.position).entered
      (carryOut behaviour (group.opening trial.activation) around.store).outcome

private theorem activateAll_status {outer inner : List Enclosing} {group : Enclosing}
    (nested : Nested (outer ++ group :: inner)) (trial : Trial σ) :
    ((activateAll behaviour (outer ++ group :: inner)).run.run trial).2.activation group.position =
      group.statusAfter behaviour outer trial := by
  obtain ⟨around, below⟩ := nested.position_ne
  obtain ⟨ended, world⟩ := run_activateAll_openings behaviour (List.pairwise_append.mp nested).1 trial
  have untouched := activateAll_other behaviour outer trial around
  rw [activateAll_append, run_bind, Enclosing.statusAfter]
  generalize (activateAll behaviour outer).run.run trial = entered at ended world untouched ⊢
  obtain ⟨result, reached⟩ := entered
  dsimp only at ended world untouched ⊢
  cases outcome : (carryOut behaviour (openings trial.activation outer) trial.world.store).outcome with
  | error failure =>
    rw [outcome] at ended
    rw [ended]
    exact untouched
  | ok done =>
    rw [outcome] at ended
    have opening : group.opening reached.activation = group.opening trial.activation := by
      rw [Enclosing.opening, Enclosing.opening, untouched]
    have store : reached.world.store =
      (carryOut behaviour (openings trial.activation outer) trial.world.store).store := by rw [world]; rfl
    rw [ended]
    dsimp only
    rw [activateAll, run_bind, run_activate_opening, opening, untouched, store]
    generalize carryOut behaviour (group.opening trial.activation) _ = progress
    obtain ⟨begun, result, last⟩ := progress
    cases result with
    | error failure => exact Activation.set_same _ _ _
    | ok done => exact (activateAll_other behaviour inner _ below).trans (Activation.set_same _ _ _)

/-- Two computations in the world of a trial are one sequence in it. -/
theorem Testing.run_followed (first rest : Run σ Unit) (trial : Trial σ) :
    (Testing.ofRun first >>= fun _ => Testing.ofRun rest).run.run trial =
      (((first >>= fun _ => rest).run.run trial.world).1,
        ⟨trial.activation, ((first >>= fun _ => rest).run.run trial.world).2⟩) := by
  rw [run_bind, run_bind, Testing.run_ofRun]
  generalize first.run.run trial.world = outcome
  obtain ⟨failure | _, world⟩ := outcome <;> rfl

/-- A run of a test carries out its agenda. -/
theorem Case.run_agenda {case : Case} (nested : Nested case.enclosing) (trial : Trial σ) :
    ((case.run behaviour).run.run trial).1 = (case.progress behaviour trial).outcome ∧
      ((case.run behaviour).run.run trial).2.world =
        trial.world.extend (case.progress behaviour trial).events
          (case.progress behaviour trial).store := by
  obtain ⟨ended, world⟩ := run_activateAll_openings behaviour nested trial
  have each := callAll_beforeEach_carriesOut behaviour case.enclosing
  have rest := each.append (runBody_carriesOut case.body)
  rw [Case.progress, Case.agenda, carryOut_append, Case.run, run_bind]
  generalize (activateAll behaviour case.enclosing).run.run trial = entered at ended world ⊢
  obtain ⟨result, reached⟩ := entered
  dsimp only at ended world ⊢
  generalize carryOut behaviour (openings trial.activation case.enclosing) trial.world.store = progress
    at ended world ⊢
  obtain ⟨begun, outcome, store⟩ := progress
  cases outcome with
  | error failure =>
    rw [ended]
    exact ⟨rfl, world⟩
  | ok done =>
    rw [ended, Progress.next_of_ok rfl]
    dsimp only
    rw [Testing.run_followed, rest, world]
    refine ⟨rfl, ?_⟩
    rw [World.extend_extend]
    simp only [Progress.effect, Progress.events, List.flatMap_append, World.store_extend]

/-- A run of a test leaves the status of the groups alone that are not around the test. -/
theorem Case.run_other (case : Case) {position : List Nat} (trial : Trial σ)
    (others : ∀ group ∈ case.enclosing, group.position ≠ position) :
    ((case.run behaviour).run.run trial).2.activation position = trial.activation position := by
  rw [case.run_activation]
  exact activateAll_other behaviour case.enclosing trial others

/-- A run of a test gives each group around it its status. -/
theorem Case.run_status {case : Case} {outer inner : List Enclosing} {group : Enclosing}
    (nested : Nested case.enclosing) (split : case.enclosing = outer ++ group :: inner)
    (trial : Trial σ) :
    ((case.run behaviour).run.run trial).2.activation group.position =
      group.statusAfter behaviour outer trial := by
  rw [split] at nested
  rw [case.run_activation, split]
  exact activateAll_status behaviour nested trial

/-- When the first group that stands in the way failed earlier, what is begun ends with the refusal. -/
theorem Case.progress_of_failed {case : Case} {outer inner : List Enclosing} {group : Enclosing}
    {cause : Failure} (split : case.enclosing = outer ++ group :: inner) (trial : Trial σ)
    (failed : trial.activation group.position = .failed cause)
    (around : (carryOut behaviour (openings trial.activation outer) trial.world.store).outcome =
      .ok ()) :
    (case.progress behaviour trial).outcome = .error (.hookFailed group.name cause) ∧
      (case.progress behaviour trial).events =
        (carryOut behaviour (openings trial.activation outer) trial.world.store).events := by
  have refused : group.opening trial.activation = [.refusal group.name cause] := by
    rw [Enclosing.opening, failed]
  have opened : openings trial.activation case.enclosing =
      openings trial.activation outer ++ .refusal group.name cause :: openings trial.activation inner := by
    rw [split, openings, List.flatMap_append, List.flatMap_cons, refused]
    rfl
  rw [Case.progress, Case.agenda, opened, List.append_assoc, List.cons_append, carryOut_append,
    Progress.next_of_ok around, carryOut, Progress.next_of_error rfl]
  refine ⟨rfl, ?_⟩
  simp only [Progress.events, List.flatMap_append, Duty.effect, Effect.quiet]
  exact List.append_nil _

end

/-- A behaviour in which the callable 0 raises an error of the given class, and every other one defers
work that returns. -/
def raisingOrDeferring (errorClass : ErrorClass) : Behaviour Unit where
  call id _ store :=
    (if id = 0 then .error (.raised ⟨errorClass, "once"⟩) else .ok (.deferred id "work"), store)
  await _ store := (.ok .null, store)

/-- A tree with hooks around a group with hooks, and a test in the group. -/
def cartTree : Group :=
  ⟨"", ⟨[plainly 1 "open"], []⟩, [.group "Cart" ⟨[plainly 2 "fill", plainly 0 "price"],
    [plainly 3 "reset"]⟩ [.test (.str "pays") (.invoke (plainly 4 "pay"))]]⟩

def cartTree.around : List Enclosing :=
  [⟨[], "", ⟨[plainly 1 "open"], []⟩⟩,
    ⟨[0], "Cart", ⟨[plainly 2 "fill", plainly 0 "price"], [plainly 3 "reset"]⟩⟩]

def cartTree.test : Case := ⟨cartTree.around, .str "pays", .invoke (plainly 4 "pay")⟩

theorem cartTree.test_mem : cartTree.test ∈ cartTree.cases := List.mem_cons_self ..

end ScenarioTree
