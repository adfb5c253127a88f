import ScenarioTree.Proofs.Expansion.Instances
import ScenarioTree.Proofs.Trial.HookCalls

/-! # How often hooks are called

The `before` hooks of a group are called by one run at most: the first run of one of its tests that gets
past the groups around it. From then on the group counts as started, so that no later run calls them
again, whatever became of them.
-/

namespace ScenarioTree

variable {σ : Type}

/-- What comes of tests that are run one after the other. -/
def history (behaviour : Behaviour σ) : List Case → Trial σ → List (Progress σ)
  | [], _ => []
  | case :: rest, trial =>
    case.progress behaviour trial :: history behaviour rest ((case.run behaviour).run.run trial).2

/-- The hooks of a kind of the group at a position that were called while tests were run one after the
other. -/
def called (behaviour : Behaviour σ) (kind : HookKind) (position : List Nat) (cases : List Case)
    (trial : Trial σ) : List Duty :=
  (history behaviour cases trial).flatMap (·.called kind position)

/-- One of the runs of tests one after the other reaches the group. -/
def Placed.IsReachedIn (placed : Placed) (behaviour : Behaviour σ) (cases : List Case) (trial : Trial σ) :
    Prop :=
  ∃ before case after, cases = before ++ case :: after ∧
    placed.IsReached behaviour case (trial.after behaviour before)

/-- Every duty that was begun was observed to have its effect from some state of the outside. -/
theorem events_of_mem_begun (behaviour : Behaviour σ) {duties : List Duty} {store : σ} {duty : Duty}
    {events : List Event} (begun : (duty, events) ∈ (carryOut behaviour duties store).begun) :
    ∃ before, events = (duty.effect behaviour before).events := by
  induction duties generalizing store with
  | nil => exact absurd begun List.not_mem_nil
  | cons first rest ih =>
    have own (others : List (Duty × List Event))
        (member : (duty, events) ∈ (first, (first.effect behaviour store).events) :: others) :
        (∃ before, events = (duty.effect behaviour before).events) ∨ (duty, events) ∈ others := by
      rcases List.mem_cons.mp member with same | later
      · cases same
        exact .inl ⟨store, rfl⟩
      · exact .inr later
    rw [carryOut] at begun
    cases outcome : (first.effect behaviour store).outcome with
    | error failure =>
      rw [Progress.next_of_error outcome] at begun
      exact (own [] begun).resolve_right List.not_mem_nil
    | ok done =>
      rw [Progress.next_of_ok outcome] at begun
      rcases own _ begun with found | later
      · exact found
      · exact ih later

/-- What comes of a run is what comes of carrying out duties. -/
theorem exists_carryOut_of_mem_history {behaviour : Behaviour σ} {cases : List Case} {trial : Trial σ}
    {progress : Progress σ} (among : progress ∈ history behaviour cases trial) :
    ∃ duties store, progress = carryOut behaviour duties store := by
  induction cases generalizing trial with
  | nil => exact nomatch among
  | cons case rest ih =>
    rcases List.mem_cons.mp among with rfl | later
    · exact ⟨_, _, rfl⟩
    · exact ih later

/-- What is observed of tests that are run one after the other is what comes of them. -/
theorem events_runCases (behaviour : Behaviour σ) {root : Group} {cases : List Case}
    (tests : ∀ case ∈ cases, case ∈ root.cases) (trial : Trial σ) :
    (runCases behaviour cases trial).1.map Observed.events =
      (history behaviour cases trial).map Progress.events := by
  induction cases generalizing trial with
  | nil => rfl
  | cons case rest ih =>
    have nested := Group.nested_of_mem_cases (tests case (List.mem_cons_self ..))
    have world := (Case.run_agenda behaviour nested trial).2
    have observed : (((case.run behaviour).observe trial).1).events =
        (case.progress behaviour trial).events := by
      change List.drop _ ((case.run behaviour).run.run trial).2.world.log = _
      rw [world]
      exact List.drop_left
    have others := ih (fun test member => tests test (List.mem_cons_of_mem _ member))
      ((case.run behaviour).run.run trial).2
    exact congr (congrArg List.cons observed) others

section

variable {behaviour : Behaviour σ} {root : Group} {placed : Placed} {cases : List Case}
  {trial : Trial σ}

private theorem called_append (kind : HookKind) (position : List Nat) (earlier later : List Case)
    (trial : Trial σ) :
    called behaviour kind position (earlier ++ later) trial =
      called behaviour kind position earlier trial ++
        called behaviour kind position later (trial.after behaviour earlier) := by
  induction earlier generalizing trial with
  | nil => rfl
  | cons case rest ih =>
    have joined := congrArg ((case.progress behaviour trial).called kind position ++ ·)
      (ih ((case.run behaviour).run.run trial).2)
    exact joined.trans (List.append_assoc ..).symm

theorem Placed.not_isReachedIn_nil : ¬ placed.IsReachedIn behaviour [] trial := by
  rintro ⟨before, case, after, split, _⟩
  cases before <;> cases split

/-- A group is reached in the first of some runs or in those after it. -/
theorem Placed.isReachedIn_cons {case : Case} {rest : List Case} :
    placed.IsReachedIn behaviour (case :: rest) trial ↔
      placed.IsReached behaviour case trial ∨
        placed.IsReachedIn behaviour rest ((case.run behaviour).run.run trial).2 := by
  constructor
  · rintro ⟨before, test, after, split, reached⟩
    cases before with
    | nil =>
      cases split
      exact .inl reached
    | cons first before =>
      cases split
      exact .inr ⟨before, test, after, rfl, reached⟩
  · rintro (reached | ⟨before, test, after, rfl, reached⟩)
    · exact ⟨[], case, rest, rfl, reached⟩
    · exact ⟨case :: before, test, after, rfl, reached⟩

/-- A group is still pending after some runs exactly when none of them reached it. -/
theorem Placed.pending_after_iff (found : placed ∈ root.groups)
    (tests : ∀ case ∈ cases, case ∈ root.cases) :
    (trial.after behaviour cases).activation placed.position = .pending ↔
      trial.activation placed.position = .pending ∧ ¬ placed.IsReachedIn behaviour cases trial := by
  induction cases generalizing trial with
  | nil => exact (and_iff_left Placed.not_isReachedIn_nil).symm
  | cons case rest ih =>
    rw [Trial.after_cons, ih fun test member => tests test (List.mem_cons_of_mem _ member),
      Placed.pending_run_iff behaviour found (tests case (List.mem_cons_self ..)), Placed.isReachedIn_cons,
      not_or, and_assoc]

/-- No runs call `before` hooks of a group that was started earlier. -/
theorem Placed.called_eq_nil_of_started (found : placed ∈ root.groups)
    (tests : ∀ case ∈ cases, case ∈ root.cases)
    (started : trial.activation placed.position ≠ .pending) :
    called behaviour .before placed.position cases trial = [] := by
  induction cases generalizing trial with
  | nil => rfl
  | cons case rest ih =>
    have first := Placed.called_of_started behaviour found
      (tests case (List.mem_cons_self ..)) started
    have kept : ((case.run behaviour).run.run trial).2.activation placed.position ≠ .pending := by
      rw [case.run_keeps started]
      exact started
    have others := ih (fun test member => tests test (List.mem_cons_of_mem _ member)) kept
    exact (congr (congrArg List.append first) others)

/-- Runs that do not reach a group call none of its `before` hooks. -/
theorem Placed.called_eq_nil_of_not_reached (found : placed ∈ root.groups)
    (tests : ∀ case ∈ cases, case ∈ root.cases)
    (unreached : ¬ placed.IsReachedIn behaviour cases trial) :
    called behaviour .before placed.position cases trial = [] := by
  induction cases generalizing trial with
  | nil => rfl
  | cons case rest ih =>
    rw [Placed.isReachedIn_cons, not_or] at unreached
    have first := Placed.called_of_not_reached behaviour found (tests case (List.mem_cons_self ..)) unreached.1
    have others := ih (fun test member => tests test (List.mem_cons_of_mem _ member)) unreached.2
    exact (congr (congrArg List.append first) others)

/-- When runs reach a pending group, one of them is the first. -/
theorem Placed.exists_first_reached (reached : placed.IsReachedIn behaviour cases trial) :
    ∃ earlier case later, cases = earlier ++ case :: later ∧
      ¬ placed.IsReachedIn behaviour earlier trial ∧
      placed.IsReached behaviour case (trial.after behaviour earlier) := by
  induction cases generalizing trial with
  | nil => exact absurd reached Placed.not_isReachedIn_nil
  | cons case rest ih =>
    by_cases first : placed.IsReached behaviour case trial
    · exact ⟨[], case, rest, rfl, Placed.not_isReachedIn_nil, first⟩
    · obtain ⟨earlier, test, later, rfl, unreached, found⟩ :=
        ih ((Placed.isReachedIn_cons.mp reached).resolve_left first)
      refine ⟨case :: earlier, test, later, rfl, ?_, found⟩
      rw [Placed.isReachedIn_cons, not_or]
      exact ⟨first, unreached⟩

/-- The `before` hooks of a pending group that runs call are those that the first of them calls that
reaches the group. -/
theorem Placed.called_eq_of_first (found : placed ∈ root.groups) {earlier later : List Case}
    {case : Case} (tests : ∀ test ∈ earlier ++ case :: later, test ∈ root.cases)
    (pending : trial.activation placed.position = .pending)
    (unreached : ¬ placed.IsReachedIn behaviour earlier trial)
    (reached : placed.IsReached behaviour case (trial.after behaviour earlier)) :
    called behaviour .before placed.position (earlier ++ case :: later) trial =
      (carryOut behaviour (placed.asEnclosing.duties .before)
        ((activateAll behaviour placed.enclosing).run.run
          (trial.after behaviour earlier)).2.world.store).duties := by
  have member := tests case (List.mem_append_right _ (List.mem_cons_self ..))
  have before : ∀ test ∈ earlier, test ∈ root.cases :=
    fun test among => tests test (List.mem_append_left _ among)
  have after : ∀ test ∈ later, test ∈ root.cases :=
    fun test among => tests test (List.mem_append_right _ (List.mem_cons_of_mem _ among))
  -- the group is pending up to this run and started from it on, so only this run contributes
  have still := (Placed.pending_after_iff found before).mpr ⟨pending, unreached⟩
  rw [called_append, Placed.called_eq_nil_of_not_reached found before unreached, List.nil_append]
  change (case.progress behaviour (trial.after behaviour earlier)).called .before placed.position ++
    called behaviour .before placed.position later _ = _
  rw [Placed.called_of_reached behaviour member reached still, Placed.called_eq_nil_of_started found after
    (Placed.started_of_reached behaviour found member reached), List.append_nil]

/-- Over any runs the `before` hooks of a pending group are called in order, up to some point. -/
theorem Placed.called_before_isPrefix (found : placed ∈ root.groups)
    (tests : ∀ case ∈ cases, case ∈ root.cases)
    (pending : trial.activation placed.position = .pending) :
    called behaviour .before placed.position cases trial <+: placed.asEnclosing.duties .before := by
  by_cases reached : placed.IsReachedIn behaviour cases trial
  · obtain ⟨earlier, case, later, rfl, unreached, first⟩ := Placed.exists_first_reached reached
    rw [Placed.called_eq_of_first found tests pending unreached first]
    exact duties_carryOut_isPrefix behaviour _ _
  · rw [Placed.called_eq_nil_of_not_reached found tests reached]
    exact List.nil_prefix

end

/-- How often the hooks of a group are called by tests that are run one after the other. -/
structure Placed.HooksCalledOnce (placed : Placed) (behaviour : Behaviour σ) (cases : List Case)
    (start : Trial σ) : Prop where
  distinct : ∀ kind, (placed.asEnclosing.duties kind).Nodup
  /-- Over all runs the `before` hooks are called in order, up to some point. -/
  inOrder : called behaviour .before placed.position cases start <+: placed.asEnclosing.duties .before
  /-- None of them is called as long as no run reaches the group. -/
  unreached : ¬ placed.IsReachedIn behaviour cases start →
    called behaviour .before placed.position cases start = []
  /-- All calls of them happen in the first run that reaches the group. It calls all of them, or those up
  to and including the first that fails. -/
  first : ∀ earlier case later, cases = earlier ++ case :: later →
    ¬ placed.IsReachedIn behaviour earlier start →
    placed.IsReached behaviour case (start.after behaviour earlier) →
    let reached := ((activateAll behaviour placed.enclosing).run.run (start.after behaviour earlier)).2
    let begun := (case.progress behaviour (start.after behaviour earlier)).called .before placed.position
    called behaviour .before placed.position earlier start = [] ∧
      called behaviour .before placed.position later (start.after behaviour (earlier ++ [case])) = [] ∧
      ((carryOut behaviour (placed.asEnclosing.duties .before) reached.world.store).outcome = .ok () ∧
          begun = placed.asEnclosing.duties .before ∨
        ∃ done last rest failure, placed.asEnclosing.duties .before = done ++ last :: rest ∧
          (carryOut behaviour done reached.world.store).outcome = .ok () ∧
          (last.effect behaviour (carryOut behaviour done reached.world.store).store).outcome =
            .error failure ∧
          begun = done ++ [last])
  /-- A run calls the `before_each` hooks in order, up to some point, if it is one of a test of the group,
  and none of them otherwise. -/
  each : ∀ earlier case later, cases = earlier ++ case :: later →
    let begun :=
      (case.progress behaviour (start.after behaviour earlier)).called .beforeEach placed.position
    begun <+: placed.asEnclosing.duties .beforeEach ∧ (case ∉ placed.cases → begun = [])

/-- The hooks of a pending group are called once by whatever tests of the tree are run. -/
theorem Placed.hooksCalledOnce (behaviour : Behaviour σ) {root : Group} {placed : Placed}
    (found : placed ∈ root.groups) {cases : List Case} (tests : ∀ case ∈ cases, case ∈ root.cases)
    {start : Trial σ} (pending : start.activation placed.position = .pending) :
    placed.HooksCalledOnce behaviour cases start where
  distinct := placed.asEnclosing.duties_nodup
  inOrder := Placed.called_before_isPrefix found tests pending
  unreached := Placed.called_eq_nil_of_not_reached found tests
  first := by
    rintro earlier case later rfl unreached reached
    have member := tests case (List.mem_append_right _ (List.mem_cons_self ..))
    have before : ∀ test ∈ earlier, test ∈ root.cases :=
      fun test among => tests test (List.mem_append_left _ among)
    have after : ∀ test ∈ later, test ∈ root.cases :=
      fun test among => tests test (List.mem_append_right _ (List.mem_cons_of_mem _ among))
    have still := (Placed.pending_after_iff found before).mpr ⟨pending, unreached⟩
    refine ⟨Placed.called_eq_nil_of_not_reached found before unreached, ?_, ?_⟩
    · rw [Trial.after_append]
      exact Placed.called_eq_nil_of_started found after
        (Placed.started_of_reached behaviour found member reached)
    · rw [Placed.called_of_reached behaviour member reached still]
      rcases carryOut_cut behaviour (placed.asEnclosing.duties .before)
          ((activateAll behaviour placed.enclosing).run.run
            (start.after behaviour earlier)).2.world.store with
        all | ⟨done, last, rest, failure, split, passed, failed, _, cut⟩
      · exact .inl all
      · exact .inr ⟨done, last, rest, failure, split, passed, failed, cut⟩
  each := by
    rintro earlier case later rfl
    have member := tests case (List.mem_append_right _ (List.mem_cons_self ..))
    rcases Group.mem_cases_or_outside found member with inside | outside
    · obtain ⟨inner, split⟩ := Placed.isInside_of_mem_cases inside
      exact ⟨Case.called_beforeEach_isPrefix behaviour (Group.nested_of_mem_cases member) split _,
        fun other => absurd inside other⟩
    · have none : (case.progress behaviour (start.after behaviour earlier)).called .beforeEach
          placed.position = [] :=
        Case.called_eq_nil_of_outside behaviour (start.after behaviour earlier) outside
      exact ⟨none ▸ List.nil_prefix, fun _ => none⟩

/-- The hooks of every group of a declared tree are called once by whatever tests of it are run, in
whatever order and how often, and whatever the callables do. This is about each group that was declared:
expanding declares a group with its hooks once, also a fan-out, whose instances have no hooks of their
own, and once for every fragment what is below a fan-out. -/
theorem hooks_called_once (behaviour : Behaviour σ) {root : Group} {placed : Placed}
    (found : placed ∈ root.groups) {cases : List Case} (tests : ∀ case ∈ cases, case ∈ root.cases)
    (world : World σ) :
    placed.HooksCalledOnce behaviour cases { world } ∧
    (runCases behaviour cases { world }).1.map Observed.events =
      (history behaviour cases { world }).map Progress.events ∧
    (∀ progress ∈ history behaviour cases { world }, ∀ duty events, (duty, events) ∈ progress.begun →
      ∃ store, events = (duty.effect behaviour store).events) ∧
    ∀ (head : GroupHead) (below : List Node) (scope context index : Value) (recorder : Recorder)
      (walked : World σ) (recording : Recording σ),
      ((expandNode behaviour scope context index (.plainGroup head below)).run.run ⟨recorder, walked⟩ =
          (.ok (), recording) →
        ∃ inside, recording.recorder =
            recorder.add (.group head.name (head.hooks scope context) inside) ∧
          (meanings behaviour scope context .null below).run.run walked =
            (.ok inside, recording.world)) ∧
      ∀ fragmentSet,
        (expandNode behaviour scope context index (.fanOutGroup head fragmentSet below)).run.run
          ⟨recorder, walked⟩ = (.ok (), recording) →
        ∃ fragments asked instances,
          (ScenarioTree.fragments behaviour fragmentSet scope).run.run walked = (.ok fragments, asked) ∧
          recording.recorder = recorder.add (.group head.name (head.hooks scope context) instances) ∧
          AreInstances behaviour context below fragments instances := by
  refine ⟨Placed.hooksCalledOnce behaviour found tests rfl, events_runCases behaviour tests _, ?_, ?_⟩
  · intro progress among duty events begun
    obtain ⟨duties, store, rfl⟩ := exists_carryOut_of_mem_history among
    exact events_of_mem_begun behaviour begun
  · intro head below scope context index recorder walked recording
    exact ⟨expandNode_plainGroup_declares behaviour head below scope context index,
      expandNode_fanOutGroup_declares behaviour head below scope context index⟩

/-- The inner group of the tree with hooks around a group with hooks. -/
def cartTree.cart : Placed :=
  ⟨[⟨[], "", ⟨[plainly 1 "open"], []⟩⟩], [0], ⟨"Cart",
    ⟨[plainly 2 "fill", plainly 0 "price"], [plainly 3 "reset"]⟩,
    [.test (.str "pays") (.invoke (plainly 4 "pay"))]⟩⟩

private theorem cartTree.tests_mem : ∀ case ∈ [cartTree.test, cartTree.test], case ∈ cartTree.cases := by
  intro case member
  rw [List.mem_pair] at member
  rcases member with rfl | rfl <;> exact cartTree.test_mem

/-- The last hook of the inner group is interrupted. Both its hooks were called by the first run then, and
the second run calls none of them. -/
theorem cartTree.hooks_called_by_first_run :
    let behaviour := raisingOrDeferring .abort
    let start : Trial Unit := { world := { store := () } }
    cartTree.cart ∈ cartTree.groups ∧
      (∀ case ∈ [cartTree.test, cartTree.test], case ∈ cartTree.cases) ∧
      cartTree.cart.IsReached behaviour cartTree.test start ∧
      (cartTree.test.progress behaviour start).called .before [0] =
        [.hook .before [0] 0 (plainly 2 "fill"), .hook .before [0] 1 (plainly 0 "price")] ∧
      called behaviour .before [0] [cartTree.test] (start.after behaviour [cartTree.test]) = [] := by
  intro behaviour start
  have found : cartTree.cart ∈ cartTree.groups := List.mem_cons_of_mem _ (List.mem_cons_self ..)
  have reached : cartTree.cart.IsReached behaviour cartTree.test start := ⟨List.mem_cons_self .., rfl⟩
  have once := (hooks_called_once behaviour found cartTree.tests_mem { store := () }).1
  obtain ⟨_, later, _⟩ :=
    once.first [] cartTree.test [cartTree.test] rfl Placed.not_isReachedIn_nil reached
  exact ⟨found, cartTree.tests_mem, reached, rfl, later⟩

end ScenarioTree
