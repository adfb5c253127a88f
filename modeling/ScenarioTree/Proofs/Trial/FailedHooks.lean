import ScenarioTree.Proofs.Declaration.Positions
import ScenarioTree.Proofs.Trial.Activation

/-! # Failed hooks

A group breaks when one of its `before` hooks ends with a failure. An ordinary failure is remembered:
whatever tests are run afterwards, in whatever order, a test of the group is refused, and nothing of it
is called. An interrupt is forgotten: afterwards the group is passed by as if its hooks had succeeded.
-/

namespace ScenarioTree

variable {σ : Type}

/-- A test is inside a group, which is given with the groups around it, the outermost first. -/
def Case.IsInside (case : Case) (outer : List Enclosing) (group : Enclosing) : Prop :=
  ∃ inner, case.enclosing = outer ++ group :: inner

/-- The next test inside the group breaks it: the groups around it can be activated, it is still
pending then, and one of its hooks ends with the failure. -/
def Breaks (behaviour : Behaviour σ) (trial : Trial σ) (outer : List Enclosing) (group : Enclosing)
    (failure : Failure) : Prop :=
  ∃ reached, (activateAll behaviour outer).run.run trial = (.ok (), reached) ∧
    reached.activation group.position = .pending ∧
    ((callAll behaviour group.hooks.before).run.run reached.world).1 = .error failure

/-- A test ends with a failure while the groups around it are activated, before any of their
`before_each` hooks and before its body. -/
def Case.EndsEarly (behaviour : Behaviour σ) (case : Case) (trial : Trial σ) (failure : Failure)
    (after : Trial σ) : Prop :=
  (activateAll behaviour case.enclosing).run.run trial = (.error failure, after) ∧
    (case.run behaviour).run.run trial = (.error failure, after)

structure Trial.Broken (trial : Trial σ) (outer : List Enclosing) (group : Enclosing)
    (failure : Failure) : Prop where
  around : ∀ other ∈ outer, trial.activation other.position = .active
  status : trial.activation group.position = .after failure

/-- The tests of a group are inside it, at any depth. -/
theorem Placed.isInside_of_mem_cases {placed : Placed} {case : Case} (found : case ∈ placed.cases) :
    case.IsInside placed.enclosing placed.asEnclosing := by
  obtain ⟨inner, equal⟩ := enclosing_of_mem_casesOf placed.group.children found
  exact ⟨inner, by rw [← equal, List.append_assoc, List.singleton_append]⟩

private theorem Case.endsEarly_of_error {behaviour : Behaviour σ} {case : Case} {trial after : Trial σ}
    {failure : Failure}
    (ended : (activateAll behaviour case.enclosing).run.run trial = (.error failure, after)) :
    case.EndsEarly behaviour trial failure after := by
  refine ⟨ended, ?_⟩
  rw [Case.run, run_bind_of_error ended]

section

variable {behaviour : Behaviour σ} {trial : Trial σ} {outer : List Enclosing} {group : Enclosing}
  {failure : Failure}

private theorem run_activateAll_of_active {groups : List Enclosing}
    (active : ∀ group ∈ groups, trial.activation group.position = .active) :
    (activateAll behaviour groups).run.run trial = (.ok (), trial) := by
  induction groups with
  | nil => rfl
  | cons group rest ih =>
    have passed : (activate behaviour group).run.run trial = (.ok (), trial) := by
      rw [run_activate, active group (List.mem_cons_self ..)]
    rw [activateAll, run_bind_of_ok passed]
    exact ih fun other member => active other (List.mem_cons_of_mem _ member)

/-- A test inside a group that breaks ends early and leaves the group broken. -/
theorem Breaks.run_case {case : Case} (breaks : Breaks behaviour trial outer group failure)
    (inside : case.IsInside outer group) :
    ∃ after, case.EndsEarly behaviour trial failure after ∧
      after.Broken outer group failure := by
  obtain ⟨reached, arrived, pending, failed⟩ := breaks
  obtain ⟨inner, enclosing⟩ := inside
  have around := active_of_activateAll arrived
  refine ⟨⟨reached.activation.set group.position (.after failure),
    ((callAll behaviour group.hooks.before).run.run reached.world).2⟩,
    Case.endsEarly_of_error ?ended, ?around, Activation.set_same _ _ _⟩
  case ended =>
    rw [enclosing, activateAll_append, run_bind_of_ok arrived, activateAll]
    apply run_bind_of_error
    rw [run_activate, pending]
    generalize (callAll behaviour group.hooks.before).run.run reached.world = outcome at failed ⊢
    obtain ⟨result, world⟩ := outcome
    cases failed
    rfl
  case around =>
    intro other member
    have different : other.position ≠ group.position := by
      intro same
      have active := around other member
      rw [same, pending] at active
      cases active
    exact (Activation.set_other _ _ different).trans (around other member)

theorem Trial.Broken.after (broken : trial.Broken outer group failure) (cases : List Case) :
    (trial.after behaviour cases).Broken outer group failure where
  around other member := by
    have active := broken.around other member
    have started : trial.activation other.position ≠ .pending := by
      rw [active]
      exact nofun
    exact (Trial.after_keeps cases started).trans active
  status := by
    have started : trial.activation group.position ≠ .pending := by
      rw [broken.status]
      exact Status.after_ne_pending failure
    exact (Trial.after_keeps cases started).trans broken.status

/-- A broken group that remembers its failure refuses its tests, and nothing is called. -/
theorem Trial.Broken.refuses {case : Case} (broken : trial.Broken outer group failure)
    (ordinary : failure.isOrdinary = true) (inside : case.IsInside outer group) :
    case.EndsEarly behaviour trial (.hookFailed group.name failure) trial := by
  obtain ⟨inner, enclosing⟩ := inside
  apply Case.endsEarly_of_error
  rw [enclosing, activateAll_append, run_bind_of_ok (run_activateAll_of_active broken.around),
    activateAll]
  apply run_bind_of_error
  rw [run_activate, broken.status, Status.after, if_pos ordinary]

theorem Trial.Broken.passes (broken : trial.Broken outer group failure)
    (interrupted : failure.isOrdinary = false) (inner : List Enclosing) :
    (activateAll behaviour (outer ++ group :: inner)).run.run trial =
      (activateAll behaviour inner).run.run trial := by
  have passed : (activate behaviour group).run.run trial = (.ok (), trial) := by
    rw [run_activate, broken.status, Status.after, interrupted]
    rfl
  rw [activateAll_append, run_bind_of_ok (run_activateAll_of_active broken.around), activateAll,
    run_bind_of_ok passed]

/-- A test inside a group that is still pending afterwards ended early. -/
theorem Case.endsEarly_of_pending {case : Case} (inside : case.IsInside outer group)
    (pending : ((case.run behaviour).run.run trial).2.activation group.position = .pending) :
    ∃ failure after, case.EndsEarly behaviour trial failure after := by
  obtain ⟨inner, enclosing⟩ := inside
  cases outcome : (activateAll behaviour case.enclosing).run.run trial with
  | mk result after =>
    cases result with
    | error failure => exact ⟨failure, after, Case.endsEarly_of_error outcome⟩
    | ok returned =>
      have active := active_of_activateAll outcome group (by simp [enclosing])
      rw [case.run_activation, outcome, active] at pending
      cases pending

theorem Breaks.pending (breaks : Breaks behaviour trial outer group failure) :
    trial.activation group.position = .pending := by
  obtain ⟨reached, arrived, pending, _⟩ := breaks
  refine Classical.byContradiction fun started => ?_
  have kept : ((activateAll behaviour outer).run.run trial).2.activation group.position =
      trial.activation group.position := activateAll_keeps outer started
  rw [arrived] at kept
  exact started (kept ▸ pending)

private theorem Breaks.endsEarly {start : Trial σ} {before after : List Case} {case : Case}
    (breaks : Breaks behaviour (start.after behaviour (before ++ case :: after)) outer group failure)
    (inside : case.IsInside outer group) :
    ∃ failure final, case.EndsEarly behaviour (start.after behaviour before) failure final := by
  apply Case.endsEarly_of_pending inside
  have pending := breaks.pending
  rw [Trial.after_append, Trial.after_cons] at pending
  refine Classical.byContradiction fun started => ?_
  rw [Trial.after_keeps after started] at pending
  exact started pending

end

/-- Whatever tests are run in whatever order, once a group breaks: its tests ended early up to then,
the breaking one included. After an ordinary failure every later test of the group, at any depth, is
refused with this failure as the cause, and nothing changes. After an interrupt the group is passed by
in every later test, so that only the groups inside it are still to be activated. -/
theorem failed_hook_kept_unless_interrupt (behaviour : Behaviour σ) (start : Trial σ)
    (earlier : List Case) (breaking : Case) (placed : Placed) (failure : Failure)
    (inside : breaking ∈ placed.cases)
    (breaks : Breaks behaviour (start.after behaviour earlier) placed.enclosing placed.asEnclosing
      failure) :
    (∀ before test after, earlier ++ [breaking] = before ++ test :: after → test ∈ placed.cases →
      ∃ failure final, test.EndsEarly behaviour (start.after behaviour before) failure final) ∧
    (failure.isOrdinary = true → ∀ between, ∀ test ∈ placed.cases,
      let trial := start.after behaviour (earlier ++ breaking :: between)
      test.EndsEarly behaviour trial (.hookFailed placed.group.name failure) trial) ∧
    (failure.isOrdinary = false → ∀ between, ∀ test ∈ placed.cases,
      let trial := start.after behaviour (earlier ++ breaking :: between)
      ∃ inner, test.enclosing = placed.enclosing ++ placed.asEnclosing :: inner ∧
        (activateAll behaviour test.enclosing).run.run trial =
          (activateAll behaviour inner).run.run trial) := by
  obtain ⟨broken, ended, isBroken⟩ := breaks.run_case (Placed.isInside_of_mem_cases inside)
  have stays (between : List Case) : (start.after behaviour (earlier ++ breaking :: between)).Broken
      placed.enclosing placed.asEnclosing failure := by
    rw [Trial.after_append, Trial.after_cons, ended.2]
    exact isBroken.after between
  refine ⟨?upToThen, ?ordinary, ?interrupted⟩
  case upToThen =>
    intro before test after split member
    rcases List.eq_nil_or_concat after with rfl | ⟨others, last, rfl⟩
    · obtain ⟨rfl, single⟩ := List.append_inj' split rfl
      cases single
      exact ⟨_, _, ended⟩
    · have regrouped : earlier ++ [breaking] = (before ++ test :: others) ++ [last] := by
        rw [split, List.concat_eq_append, List.append_assoc, List.cons_append]
      obtain ⟨rfl, _⟩ := List.append_inj' regrouped rfl
      exact breaks.endsEarly (Placed.isInside_of_mem_cases member)
  case ordinary =>
    intro ordinary between test member
    exact (stays between).refuses ordinary (Placed.isInside_of_mem_cases member)
  case interrupted =>
    intro interrupted between test member
    obtain ⟨inner, enclosing⟩ := Placed.isInside_of_mem_cases member
    refine ⟨inner, enclosing, ?_⟩
    rw [enclosing]
    exact (stays between).passes interrupted inner

/-- A behaviour in which the callable 0 raises an error of the given class and every other one returns. -/
def raising (errorClass : ErrorClass) : Behaviour Unit where
  call id _ store := (if id = 0 then .error (.raised ⟨errorClass, "once"⟩) else .ok .null, store)
  await _ store := (.ok .null, store)

/-- A call of a callable without arguments. -/
def plainly (id : Nat) (name : String) : Invocation := ⟨.callable (.defined id name .object), []⟩

/-- A group with a hook, a test, and a further test in a group inside. -/
def hookedGroup : Placed where
  enclosing := [⟨[], "", {}⟩]
  position := [0]
  group := ⟨"F", ⟨[plainly 0 "before"], []⟩,
    [.test (.str "a") (.invoke (plainly 1 "a")),
      .group "Inner" {} [.test (.str "b") (.invoke (plainly 2 "b"))]]⟩

def hookedGroup.first : Case :=
  ⟨[⟨[], "", {}⟩, hookedGroup.asEnclosing], .str "a", .invoke (plainly 1 "a")⟩

def hookedGroup.second : Case :=
  ⟨[⟨[], "", {}⟩, hookedGroup.asEnclosing, ⟨[0, 1], "Inner", {}⟩], .str "b",
    .invoke (plainly 2 "b")⟩

theorem hookedGroup.cases_eq : hookedGroup.cases = [first, second] := rfl

/-- After an error of the hook in the first test the second one is refused, without a call. -/
theorem second_refused_after_error :
    hookedGroup.first ∈ hookedGroup.cases ∧
    Breaks (raising .runtimeError) { world := { store := () } } hookedGroup.enclosing
      hookedGroup.asEnclosing (.raised ⟨.runtimeError, "once"⟩) ∧
    ((hookedGroup.second.run (raising .runtimeError)).run.run
      (Trial.after (raising .runtimeError) { world := { store := () } } [hookedGroup.first])).1 =
        .error (.hookFailed "F" (.raised ⟨.runtimeError, "once"⟩)) := by
  have inside : hookedGroup.first ∈ hookedGroup.cases := by
    rw [hookedGroup.cases_eq]
    exact List.mem_cons_self ..
  have breaks : Breaks (raising .runtimeError) { world := { store := () } } hookedGroup.enclosing
      hookedGroup.asEnclosing (.raised ⟨.runtimeError, "once"⟩) := ⟨_, rfl, rfl, rfl⟩
  refine ⟨inside, breaks, ?_⟩
  have refused := (failed_hook_kept_unless_interrupt (raising .runtimeError)
    { world := { store := () } } [] hookedGroup.first hookedGroup (.raised ⟨.runtimeError, "once"⟩)
    inside breaks).2.1 (by decide) [] hookedGroup.second (by
      rw [hookedGroup.cases_eq]
      exact List.mem_cons_of_mem _ (List.mem_cons_self ..))
  exact congrArg Prod.fst refused.2

/-- An abort of the hook in the first test is forgotten: the body of the second one is called, and the
test succeeds. -/
theorem second_passes_after_abort :
    hookedGroup.first ∈ hookedGroup.cases ∧ hookedGroup.second ∈ hookedGroup.cases ∧
    Breaks (raising .abort) { world := { store := () } } hookedGroup.enclosing
      hookedGroup.asEnclosing (.raised ⟨.abort, "once"⟩) ∧
    (runCases (raising .abort) [hookedGroup.first, hookedGroup.second]
      { world := { store := () } }).1 =
        [⟨.error (.raised ⟨.abort, "once"⟩), [.call 0 "before" []], []⟩,
          ⟨.ok (), [.call 2 "b" []], []⟩] := by
  rw [hookedGroup.cases_eq]
  exact ⟨List.mem_cons_self .., List.mem_cons_of_mem _ (List.mem_cons_self ..), ⟨_, rfl, rfl, rfl⟩,
    rfl⟩

end ScenarioTree
