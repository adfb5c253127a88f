import ScenarioTree.Proofs.Trial.HookHistory

/-! # Verdicts of tests

When every hook and every body either always returns or always raises an error, whether a test passes
can be told from its own hooks and its own body. The status of the groups depends on what was run before,
but it always fits what the hooks do: a group is active only when its `before` hooks return, and failed
only when one of them raises.
-/

namespace ScenarioTree

variable {σ α : Type}

/-- Something always returns: it does so from every safe state of the outside, and leaves a safe state
behind. -/
def AlwaysReturns (safe : σ → Prop) (effect : σ → Effect σ α) : Prop :=
  ∀ store, safe store → (∃ value, (effect store).outcome = .ok value) ∧ safe (effect store).store

/-- Something always raises an ordinary failure, from every safe state of the outside, and leaves a safe
state behind. -/
def AlwaysRaises (safe : σ → Prop) (effect : σ → Effect σ α) : Prop :=
  ∀ store, safe store →
    (∃ failure, (effect store).outcome = .error failure ∧ failure.isOrdinary = true) ∧
      safe (effect store).store

/-- What becomes of something does not depend on what happened before. -/
def HasFixedOutcome (safe : σ → Prop) (effect : σ → Effect σ α) : Prop :=
  AlwaysReturns safe effect ∨ AlwaysRaises safe effect

/-- The outcome of every hook and every body of a tree is fixed. -/
structure Group.HasFixedOutcomes (root : Group) (behaviour : Behaviour σ) (safe : σ → Prop) : Prop where
  hooks : ∀ placed ∈ root.groups, ∀ kind, ∀ hook ∈ placed.group.hooks.ofKind kind,
    HasFixedOutcome safe (hook.effect behaviour)
  bodies : ∀ case ∈ root.cases, HasFixedOutcome safe (case.body.effect behaviour)

def Enclosing.HooksReturn (group : Enclosing) (behaviour : Behaviour σ) (safe : σ → Prop)
    (kind : HookKind) : Prop :=
  ∀ hook ∈ group.hooks.ofKind kind, AlwaysReturns safe (hook.effect behaviour)

/-- All hooks of the groups around a test return, and so does its body. -/
def Case.AllReturns (case : Case) (behaviour : Behaviour σ) (safe : σ → Prop) : Prop :=
  (∀ group ∈ case.enclosing, ∀ kind, group.HooksReturn behaviour safe kind) ∧
    AlwaysReturns safe (case.body.effect behaviour)

private theorem AlwaysRaises.not_returns {safe : σ → Prop} {effect : σ → Effect σ α} {store : σ}
    (raises : AlwaysRaises safe effect) (stable : safe store) : ¬ AlwaysReturns safe effect := by
  intro returns
  obtain ⟨⟨value, returned⟩, _⟩ := returns store stable
  obtain ⟨⟨failure, raised, _⟩, _⟩ := raises store stable
  cases returned.symm.trans raised

/-! ## Duties with a fixed outcome -/

section

variable {behaviour : Behaviour σ} {safe : σ → Prop} {duties : List Duty} {store : σ}

/-- Something whose value is not used returns exactly when it does. -/
theorem alwaysReturns_discarded_iff {effect : σ → Effect σ α} :
    AlwaysReturns safe (fun store => (effect store).next fun _ => .quiet (.ok ())) ↔
      AlwaysReturns safe effect := by
  refine forall_congr' fun store => forall_congr' fun _ => ?_
  dsimp only
  generalize effect store = done
  obtain ⟨events, outcome, after⟩ := done
  cases outcome <;> simp [Effect.next, Effect.quiet]

private theorem alwaysRaises_discarded {effect : σ → Effect σ α} (raises : AlwaysRaises safe effect) :
    AlwaysRaises safe (fun store => (effect store).next fun _ => .quiet (.ok ())) := by
  intro store stable
  obtain ⟨⟨failure, raised, ordinary⟩, kept⟩ := raises store stable
  dsimp only
  rw [Effect.next, raised]
  exact ⟨⟨failure, rfl, ordinary⟩, kept⟩

private theorem HasFixedOutcome.discarded {effect : σ → Effect σ α} (fixed : HasFixedOutcome safe effect) :
    HasFixedOutcome safe (fun store => (effect store).next fun _ => .quiet (.ok ())) :=
  fixed.imp alwaysReturns_discarded_iff.mpr alwaysRaises_discarded

private theorem alwaysRaises_refusal (group : String) (cause : Failure) :
    AlwaysRaises safe ((Duty.refusal group cause).effect behaviour) :=
  fun _ stable => ⟨⟨.hookFailed group cause, rfl, rfl⟩, stable⟩

/-- The duties to call the hooks of a group return exactly when the hooks do. -/
theorem Enclosing.duties_return_iff {group : Enclosing} {kind : HookKind} :
    (∀ duty ∈ group.duties kind, AlwaysReturns safe (duty.effect behaviour)) ↔
      group.HooksReturn behaviour safe kind := by
  rw [Enclosing.duties, Enclosing.HooksReturn]
  generalize group.hooks.ofKind kind = hooks
  generalize 0 = index
  induction hooks generalizing index with
  | nil => simp [hookDuties]
  | cons hook rest ih =>
    have split : hookDuties kind group.position index (hook :: rest) =
        .hook kind group.position index hook ::
          hookDuties kind group.position (index + 1) rest := rfl
    rw [split, List.forall_mem_cons, List.forall_mem_cons, ih]
    exact and_congr_left fun _ => alwaysReturns_discarded_iff

/-- Duties whose outcomes are fixed keep the outside safe, fail only with ordinary failures, and are all
carried out exactly when all of them return. -/
theorem carryOut_of_fixed (fixed : ∀ duty ∈ duties, HasFixedOutcome safe (duty.effect behaviour))
    (stable : safe store) :
    safe (carryOut behaviour duties store).store ∧
      (∀ failure, (carryOut behaviour duties store).outcome = .error failure →
        failure.isOrdinary = true) ∧
      ((carryOut behaviour duties store).outcome = .ok () ↔
        ∀ duty ∈ duties, AlwaysReturns safe (duty.effect behaviour)) := by
  induction duties generalizing store with
  | nil => exact ⟨stable, nofun, fun _ => nofun, fun _ => rfl⟩
  | cons duty rest ih =>
    rw [List.forall_mem_cons] at fixed ⊢
    rw [carryOut]
    rcases fixed.1 with returns | raises
    · obtain ⟨⟨value, returned⟩, kept⟩ := returns store stable
      obtain ⟨safely, ordinary, all⟩ := ih fixed.2 kept
      rw [Progress.next_of_ok returned]
      exact ⟨safely, ordinary, all.trans (and_iff_right returns).symm⟩
    · obtain ⟨⟨failure, raised, ordinary⟩, kept⟩ := raises store stable
      rw [Progress.next_of_error raised]
      refine ⟨kept, fun other same => ?_, fun passed => ?_, fun both => ?_⟩
      · cases raised.symm.trans same
        exact ordinary
      · cases raised.symm.trans passed
      · exact absurd both.1 (raises.not_returns stable)

/-- Which duties are begun does not depend on the state of the outside when their outcomes are fixed. -/
theorem duties_carryOut_of_fixed
    (fixed : ∀ duty ∈ duties, HasFixedOutcome safe (duty.effect behaviour)) {other : σ}
    (stable : safe store) (stableToo : safe other) :
    (carryOut behaviour duties store).duties = (carryOut behaviour duties other).duties := by
  induction duties generalizing store other with
  | nil => rfl
  | cons duty rest ih =>
    rw [List.forall_mem_cons] at fixed
    rw [carryOut, carryOut]
    rcases fixed.1 with returns | raises
    · obtain ⟨⟨_, returned⟩, kept⟩ := returns store stable
      obtain ⟨⟨_, returnedToo⟩, keptToo⟩ := returns other stableToo
      rw [Progress.next_of_ok returned, Progress.next_of_ok returnedToo]
      exact congrArg (duty :: ·) (ih fixed.2 kept keptToo)
    · obtain ⟨⟨_, raised, _⟩, _⟩ := raises store stable
      obtain ⟨⟨_, raisedToo, _⟩, _⟩ := raises other stableToo
      rw [Progress.next_of_error raised, Progress.next_of_error raisedToo]
      rfl

end

/-! ## The status of groups fits their hooks -/

def Status.Fits (status : Status) (group : Enclosing) (behaviour : Behaviour σ) (safe : σ → Prop) :
    Prop :=
  match status with
  | .pending => True
  | .active => group.HooksReturn behaviour safe .before
  | .failed _ => ¬ group.HooksReturn behaviour safe .before

/-- The outside is safe, and the status of every group of a tree fits its hooks. -/
structure Trial.Fits (trial : Trial σ) (root : Group) (behaviour : Behaviour σ) (safe : σ → Prop) :
    Prop where
  stable : safe trial.world.store
  status : ∀ placed ∈ root.groups,
    (trial.activation placed.position).Fits placed.asEnclosing behaviour safe

/-- Before any test was run all groups are pending. -/
theorem Trial.fits_start {root : Group} {behaviour : Behaviour σ} {safe : σ → Prop} {world : World σ}
    (stable : safe world.store) : Trial.Fits { world } root behaviour safe :=
  ⟨stable, fun _ _ => trivial⟩

section

variable {behaviour : Behaviour σ} {safe : σ → Prop} {root : Group} {case : Case} {trial : Trial σ}
  {group : Enclosing}

/-- The duties to call the hooks of a group around a test have fixed outcomes. -/
theorem Group.HasFixedOutcomes.duties (fixed : root.HasFixedOutcomes behaviour safe)
    (member : case ∈ root.cases) (around : group ∈ case.enclosing) (kind : HookKind) :
    ∀ duty ∈ group.duties kind, HasFixedOutcome safe (duty.effect behaviour) := by
  obtain ⟨placed, found, rfl, _⟩ := Group.placed_of_mem_enclosing member around
  intro duty among
  obtain ⟨⟨hook, index⟩, numbered, rfl⟩ := List.mem_map.mp among
  exact (fixed.hooks placed found kind hook (List.fst_mem_of_mem_zipIdx numbered)).discarded

theorem Group.HasFixedOutcomes.opening (fixed : root.HasFixedOutcomes behaviour safe)
    (member : case ∈ root.cases) (around : group ∈ case.enclosing) (activation : Activation) :
    ∀ duty ∈ group.opening activation, HasFixedOutcome safe (duty.effect behaviour) := by
  intro duty among
  rw [Enclosing.opening] at among
  cases status : activation group.position with
  | pending =>
    rw [status] at among
    exact fixed.duties member around .before duty among
  | active =>
    rw [status] at among
    exact absurd among List.not_mem_nil
  | failed cause =>
    rw [status] at among
    rw [List.mem_singleton.mp among]
    exact .inr (alwaysRaises_refusal group.name cause)

/-- What there is to do for some of the groups around a test has fixed outcomes. -/
theorem Group.HasFixedOutcomes.openings (fixed : root.HasFixedOutcomes behaviour safe)
    (member : case ∈ root.cases) {groups : List Enclosing} (around : groups ⊆ case.enclosing)
    (activation : Activation) :
    ∀ duty ∈ ScenarioTree.openings activation groups, HasFixedOutcome safe (duty.effect behaviour) := by
  intro duty among
  obtain ⟨group, inside, among⟩ := List.mem_flatMap.mp among
  exact fixed.opening member (around inside) activation duty among

/-- All that a run of a test has to do has fixed outcomes. -/
theorem Group.HasFixedOutcomes.agenda (fixed : root.HasFixedOutcomes behaviour safe)
    (member : case ∈ root.cases) (activation : Activation) :
    ∀ duty ∈ case.agenda activation, HasFixedOutcome safe (duty.effect behaviour) := by
  intro duty among
  rw [Case.agenda, List.mem_append, List.mem_append, List.mem_singleton] at among
  rcases among with among | among | rfl
  · exact fixed.openings member (List.Subset.refl _) activation duty among
  · obtain ⟨group, inside, among⟩ := List.mem_flatMap.mp among
    exact fixed.duties member inside .beforeEach duty among
  · exact fixed.bodies case member

namespace Trial.Fits

/-- What there is to do for a group returns exactly when its `before` hooks do, whatever was run
before. -/
theorem opening_returns_iff (fits : trial.Fits root behaviour safe) (member : case ∈ root.cases)
    (around : group ∈ case.enclosing) :
    (∀ duty ∈ group.opening trial.activation, AlwaysReturns safe (duty.effect behaviour)) ↔
      group.HooksReturn behaviour safe .before := by
  obtain ⟨placed, found, rfl, _⟩ := Group.placed_of_mem_enclosing member around
  have fitting : (trial.activation placed.asEnclosing.position).Fits placed.asEnclosing behaviour safe :=
    fits.status placed found
  rw [Enclosing.opening]
  cases status : trial.activation placed.asEnclosing.position with
  | pending => exact Enclosing.duties_return_iff
  | active =>
    rw [status] at fitting
    exact ⟨fun _ => fitting, fun _ _ among => absurd among List.not_mem_nil⟩
  | failed cause =>
    rw [status] at fitting
    refine iff_of_false (fun returns => ?_) fitting
    exact (alwaysRaises_refusal placed.asEnclosing.name cause).not_returns fits.stable
      (returns _ (List.mem_singleton_self _))

/-- What there is to do for some of the groups around a test returns exactly when their `before` hooks
do. -/
theorem openings_return_iff (fits : trial.Fits root behaviour safe) (member : case ∈ root.cases)
    {groups : List Enclosing} (around : groups ⊆ case.enclosing) :
    (∀ duty ∈ openings trial.activation groups, AlwaysReturns safe (duty.effect behaviour)) ↔
      ∀ group ∈ groups, group.HooksReturn behaviour safe .before := by
  rw [openings, List.forall_mem_flatMap]
  exact forall₂_congr fun group inside => fits.opening_returns_iff member (around inside)

/-- All that a run of a test has to do returns exactly when the hooks around the test and its body do. -/
theorem agenda_returns_iff (fits : trial.Fits root behaviour safe) (member : case ∈ root.cases) :
    (∀ duty ∈ case.agenda trial.activation, AlwaysReturns safe (duty.effect behaviour)) ↔
      case.AllReturns behaviour safe := by
  rw [Case.agenda, List.forall_mem_append, List.forall_mem_append, List.forall_mem_singleton,
    fits.openings_return_iff member (List.Subset.refl _), List.forall_mem_flatMap, Case.AllReturns]
  constructor
  · rintro ⟨before, each, body⟩
    refine ⟨fun group inside kind => ?_, body⟩
    cases kind with
    | before => exact before group inside
    | beforeEach => exact Enclosing.duties_return_iff.mp (each group inside)
  · rintro ⟨hooks, body⟩
    exact ⟨fun group inside => hooks group inside .before,
      fun group inside => Enclosing.duties_return_iff.mpr (hooks group inside .beforeEach), body⟩

/-- A run of a test passes exactly when the hooks around the test and its body return. -/
theorem passes_iff (fits : trial.Fits root behaviour safe) (fixed : root.HasFixedOutcomes behaviour safe)
    (member : case ∈ root.cases) :
    ((case.run behaviour).run.run trial).1 = .ok () ↔ case.AllReturns behaviour safe := by
  have nested := Group.nested_of_mem_cases member
  rw [(Case.run_agenda behaviour nested trial).1, Case.progress,
    (carryOut_of_fixed (fixed.agenda member trial.activation) fits.stable).2.2,
    fits.agenda_returns_iff member]

/-- The status that a group has after it was to be entered fits its hooks. -/
theorem entered_fits (fits : trial.Fits root behaviour safe)
    (fixed : root.HasFixedOutcomes behaviour safe) {placed : Placed} (found : placed ∈ root.groups)
    (member : case ∈ root.cases) (around : placed.asEnclosing ∈ case.enclosing) {store : σ}
    (stable : safe store) :
    ((trial.activation placed.position).entered
      (carryOut behaviour (placed.asEnclosing.opening trial.activation) store).outcome).Fits
        placed.asEnclosing behaviour safe := by
  have fitting := fits.status placed found
  obtain ⟨_, ordinary, returns⟩ :=
    carryOut_of_fixed (fixed.opening member around trial.activation) stable
  rw [fits.opening_returns_iff member around] at returns
  cases status : trial.activation placed.position with
  | active =>
    rw [status] at fitting
    exact fitting
  | failed cause =>
    rw [status] at fitting
    exact fitting
  | pending =>
    generalize (carryOut behaviour (placed.asEnclosing.opening trial.activation) store).outcome = outcome
      at ordinary returns ⊢
    cases outcome with
    | ok done => exact returns.mp rfl
    | error failure =>
      -- an interrupt would leave the group active, as if its hooks had returned
      rw [Status.entered, Status.after, if_pos (ordinary failure rfl)]
      exact fun all => by cases returns.mpr all

/-- After a run of a test the status of every group still fits its hooks. -/
theorem run (fits : trial.Fits root behaviour safe) (fixed : root.HasFixedOutcomes behaviour safe)
    (member : case ∈ root.cases) :
    ((case.run behaviour).run.run trial).2.Fits root behaviour safe := by
  have nested := Group.nested_of_mem_cases member
  constructor
  case stable =>
    rw [(Case.run_agenda behaviour nested trial).2]
    exact (carryOut_of_fixed (fixed.agenda member trial.activation) fits.stable).1
  case status =>
    intro placed found
    rcases Group.mem_cases_or_outside found member with inside | outside
    · obtain ⟨inner, split⟩ := Placed.isInside_of_mem_cases inside
      obtain ⟨subset, around⟩ := Placed.around_of_mem_cases inside
      have safely := (carryOut_of_fixed (fixed.openings member subset trial.activation) fits.stable).1
      have status := Case.run_status behaviour nested split trial
      change ((case.run behaviour).run.run trial).2.activation placed.position = _ at status
      rw [status, Enclosing.statusAfter]
      cases (carryOut behaviour (openings trial.activation placed.enclosing) trial.world.store).outcome with
      | error failure => exact fits.status placed found
      | ok done => exact fits.entered_fits fixed found member around safely
    · rw [case.run_other behaviour trial outside]
      exact fits.status placed found

/-- After any runs of tests the status of every group fits its hooks. -/
theorem after (fits : trial.Fits root behaviour safe) (fixed : root.HasFixedOutcomes behaviour safe)
    {cases : List Case} (tests : ∀ case ∈ cases, case ∈ root.cases) :
    (trial.after behaviour cases).Fits root behaviour safe := by
  induction cases generalizing trial with
  | nil => exact fits
  | cons case rest ih =>
    exact ih (fits.run fixed (tests case (List.mem_cons_self ..)))
      fun test member => tests test (List.mem_cons_of_mem _ member)

/-- A run reaches a group exactly when it is one of a test of the group and the `before` hooks of the
groups around it return. -/
theorem isReached_iff (fits : trial.Fits root behaviour safe)
    (fixed : root.HasFixedOutcomes behaviour safe) (member : case ∈ root.cases) {placed : Placed} :
    placed.IsReached behaviour case trial ↔
      case ∈ placed.cases ∧ ∀ group ∈ placed.enclosing, group.HooksReturn behaviour safe .before := by
  by_cases inside : case ∈ placed.cases
  · obtain ⟨subset, _⟩ := Placed.around_of_mem_cases inside
    rw [(Placed.around_run behaviour member inside trial).1,
      (carryOut_of_fixed (fixed.openings member subset trial.activation) fits.stable).2.2,
      fits.openings_return_iff member subset]
    exact (and_iff_right inside).symm
  · exact iff_of_false (fun reached => inside reached.1) fun both => inside both.1

/-- Some runs reach a group exactly when one of them is one of a test of the group and the `before` hooks
of the groups around it return. -/
theorem isReachedIn_iff (fits : trial.Fits root behaviour safe)
    (fixed : root.HasFixedOutcomes behaviour safe) {cases : List Case}
    (tests : ∀ case ∈ cases, case ∈ root.cases) {placed : Placed} :
    placed.IsReachedIn behaviour cases trial ↔
      (∃ case ∈ cases, case ∈ placed.cases) ∧
        ∀ group ∈ placed.enclosing, group.HooksReturn behaviour safe .before := by
  induction cases generalizing trial with
  | nil => exact iff_of_false Placed.not_isReachedIn_nil (by simp)
  | cons case rest ih =>
    have member := tests case (List.mem_cons_self ..)
    rw [Placed.isReachedIn_cons, fits.isReached_iff fixed member, ih (fits.run fixed member)
      fun test among => tests test (List.mem_cons_of_mem _ among), ← or_and_right]
    simp only [List.mem_cons, or_and_right, exists_or, exists_eq_left]

/-- The `before` hooks of a pending group that runs call: none when they do not reach the group, and
otherwise what is begun of all of them from any safe state. -/
theorem called_before_eq (fits : trial.Fits root behaviour safe)
    (fixed : root.HasFixedOutcomes behaviour safe) {cases : List Case}
    (tests : ∀ case ∈ cases, case ∈ root.cases) {placed : Placed} (found : placed ∈ root.groups)
    (pending : trial.activation placed.position = .pending)
    (reached : placed.IsReachedIn behaviour cases trial) {store : σ} (stable : safe store) :
    called behaviour .before placed.position cases trial =
      (carryOut behaviour (placed.asEnclosing.duties .before) store).duties := by
  obtain ⟨earlier, case, later, rfl, unreached, first⟩ := Placed.exists_first_reached reached
  have member := tests case (List.mem_append_right _ (List.mem_cons_self ..))
  have before : ∀ test ∈ earlier, test ∈ root.cases :=
    fun test among => tests test (List.mem_append_left _ among)
  obtain ⟨subset, around⟩ := Placed.around_of_mem_cases first.1
  have safely := (carryOut_of_fixed
    (fixed.openings member subset (trial.after behaviour earlier).activation)
    (fits.after fixed before).stable).1
  rw [← (Placed.around_run behaviour member first.1 _).2] at safely
  rw [Placed.called_eq_of_first found tests pending unreached first]
  exact duties_carryOut_of_fixed (fixed.duties member around .before) safely stable

end Trial.Fits

end

/-- Two behaviours of the callables agree on a test: each hook around it returns under both or under
neither, and so does its body. Nothing is said of the hooks of other groups and of other bodies. -/
structure Case.Agrees (case : Case) (behaviour : Behaviour σ) (safe : σ → Prop)
    (other : Behaviour σ) (allowed : σ → Prop) : Prop where
  hooks : ∀ group ∈ case.enclosing, ∀ kind, ∀ hook ∈ group.hooks.ofKind kind,
    AlwaysReturns safe (hook.effect behaviour) ↔ AlwaysReturns allowed (hook.effect other)
  body : AlwaysReturns safe (case.body.effect behaviour) ↔
    AlwaysReturns allowed (case.body.effect other)

private theorem Case.Agrees.allReturns_iff {case : Case} {behaviour other : Behaviour σ}
    {safe allowed : σ → Prop} (agrees : case.Agrees behaviour safe other allowed) :
    case.AllReturns behaviour safe ↔ case.AllReturns other allowed := by
  refine and_congr (forall₂_congr fun group inside => forall_congr' fun kind => ?_) agrees.body
  exact forall₂_congr (agrees.hooks group inside kind)

/-- When the outcomes of all hooks and bodies of a tree are fixed, a run of a test passes exactly when the
hooks around it and its body return, whatever tests were run before. So the verdict is the same in any
other history, even when the bodies of other tests and the hooks of other groups do something else
there. The `before` hooks that are called are the same in histories of the same tests, whatever their
order and number. -/
theorem verdicts_independent_of_history (behaviour : Behaviour σ) {safe : σ → Prop} {root : Group}
    (fixed : root.HasFixedOutcomes behaviour safe) (world : World σ) (stable : safe world.store)
    {cases : List Case} (tests : ∀ case ∈ cases, case ∈ root.cases) :
    (∀ earlier case later, cases = earlier ++ case :: later →
      let trial := Trial.after behaviour { world } earlier
      (((case.run behaviour).run.run trial).1 = .ok () ↔ case.AllReturns behaviour safe) ∧
      ∀ (other : Behaviour σ) (allowed : σ → Prop) (start : World σ) (before : List Case),
        root.HasFixedOutcomes other allowed → allowed start.store →
        (∀ test ∈ before, test ∈ root.cases) → case.Agrees behaviour safe other allowed →
        (((case.run behaviour).run.run trial).1 = .ok () ↔
          ((case.run other).run.run (Trial.after other { world := start } before)).1 = .ok ())) ∧
    ∀ (others : List Case) (start : World σ), safe start.store →
      (∀ case, case ∈ others ↔ case ∈ cases) → ∀ placed ∈ root.groups,
        called behaviour .before placed.position cases { world } =
          called behaviour .before placed.position others { world := start } := by
  have fits : Trial.Fits { world } root behaviour safe := Trial.fits_start stable
  refine ⟨?verdicts, ?hooks⟩
  case verdicts =>
    rintro earlier case later rfl trial
    have member := tests case (List.mem_append_right _ (List.mem_cons_self ..))
    have verdict := (fits.after fixed fun test among =>
      tests test (List.mem_append_left _ among)).passes_iff fixed member
    refine ⟨verdict, fun other allowed start before fixedToo allowedFirst testsToo agrees => ?_⟩
    have verdictToo := ((Trial.fits_start allowedFirst).after fixedToo testsToo).passes_iff fixedToo member
    rw [verdict, verdictToo]
    exact agrees.allReturns_iff
  case hooks =>
    intro others start stableToo same placed found
    have fitsToo : Trial.Fits { world := start } root behaviour safe := Trial.fits_start stableToo
    have testsToo : ∀ case ∈ others, case ∈ root.cases :=
      fun case among => tests case ((same case).mp among)
    -- whether a group is reached is a matter of which tests are run, and so is what it begins with
    have alike : placed.IsReachedIn behaviour others { world := start } ↔
        placed.IsReachedIn behaviour cases { world } := by
      rw [fits.isReachedIn_iff fixed tests, fitsToo.isReachedIn_iff fixed testsToo]
      simp only [same]
    by_cases reached : placed.IsReachedIn behaviour cases { world }
    · rw [fits.called_before_eq fixed tests found rfl reached stable,
        fitsToo.called_before_eq fixed testsToo found rfl (alike.mpr reached) stable]
    · rw [Placed.called_eq_nil_of_not_reached found tests reached,
        Placed.called_eq_nil_of_not_reached found testsToo fun there => reached (alike.mp there)]

/-- A tree with a test beside a group whose hooks fail, and a test in the group. -/
def shopTree : Group :=
  ⟨"", ⟨[], [plainly 1 "reset"]⟩, [.test (.str "opens") (.invoke (plainly 2 "look")),
    .group "Cart" ⟨[plainly 3 "fill", plainly 0 "price"], []⟩
      [.test (.str "pays") (.invoke (plainly 4 "pay"))]]⟩

namespace shopTree

def opens : Case := ⟨[⟨[], "", ⟨[], [plainly 1 "reset"]⟩⟩], .str "opens", .invoke (plainly 2 "look")⟩

/-- The group whose hooks fail. -/
def cart : Placed :=
  ⟨[⟨[], "", ⟨[], [plainly 1 "reset"]⟩⟩], [1], ⟨"Cart", ⟨[plainly 3 "fill", plainly 0 "price"], []⟩,
    [.test (.str "pays") (.invoke (plainly 4 "pay"))]⟩⟩

def pays : Case :=
  ⟨[⟨[], "", ⟨[], [plainly 1 "reset"]⟩⟩, cart.asEnclosing], .str "pays", .invoke (plainly 4 "pay")⟩

theorem cases_eq : shopTree.cases = [opens, pays] := rfl

private theorem groups_eq : shopTree.groups = [Placed.root shopTree, cart] := rfl

private theorem plainly_returns (id : Nat) (name : String) : AlwaysReturns (fun _ => True)
    ((plainly (id + 1) name).effect (raisingOrDeferring .runtimeError)) :=
  fun _ _ => ⟨⟨.null, rfl⟩, trivial⟩

/-- Every call has a fixed outcome when one callable always raises an error and all others return. -/
theorem plainly_fixed (id : Nat) (name : String) : HasFixedOutcome (fun _ => True)
    ((plainly id name).effect (raisingOrDeferring .runtimeError)) := by
  cases id with
  | zero => exact .inr fun _ _ => ⟨⟨_, rfl, rfl⟩, trivial⟩
  | succ id => exact .inl (plainly_returns id name)

theorem fixed : shopTree.HasFixedOutcomes (raisingOrDeferring .runtimeError) fun _ => True where
  hooks placed found kind hook among := by
    have all : ∃ id name, hook = plainly id name := by
      rw [groups_eq, List.mem_pair] at found
      rcases found with rfl | rfl <;> cases kind
      · exact nomatch among
      · exact ⟨1, "reset", List.mem_singleton.mp among⟩
      · rcases List.mem_pair.mp among with rfl | rfl
        · exact ⟨3, "fill", rfl⟩
        · exact ⟨0, "price", rfl⟩
      · exact nomatch among
    obtain ⟨id, name, rfl⟩ := all
    exact plainly_fixed id name
  bodies case member := by
    have does : ∃ id name, case.body = .invoke (plainly id name) := by
      rw [cases_eq, List.mem_pair] at member
      rcases member with rfl | rfl
      · exact ⟨2, "look", rfl⟩
      · exact ⟨4, "pay", rfl⟩
    obtain ⟨id, name, same⟩ := does
    rw [same]
    exact (plainly_fixed id name).discarded

/-- The test in the group fails and the test beside it passes, whichever is run first, and both hooks of
the group are called in either order. -/
theorem verdicts_in_both_orders :
    let behaviour := raisingOrDeferring .runtimeError
    let start : Trial Unit := { world := { store := () } }
    shopTree.HasFixedOutcomes behaviour (fun _ => True) ∧
      (∀ case ∈ [pays, opens], case ∈ shopTree.cases) ∧
      ¬ pays.AllReturns behaviour (fun _ => True) ∧
      ((opens.run behaviour).run.run (start.after behaviour [pays])).1 = .ok () ∧
      called behaviour .before cart.position [pays, opens] start =
        called behaviour .before cart.position [opens, pays] start := by
  intro behaviour start
  have tests : ∀ case ∈ [pays, opens], case ∈ shopTree.cases := by
    rw [cases_eq]
    simp
  obtain ⟨verdicts, hooks⟩ :=
    verdicts_independent_of_history behaviour fixed { store := () } trivial tests
  have failing : ¬ pays.AllReturns behaviour fun _ => True :=
    fun all => nomatch (verdicts [] pays [opens] rfl).1.mpr all
  have passing : opens.AllReturns behaviour fun _ => True := by
    refine ⟨fun group around kind hook among => ?_,
      alwaysReturns_discarded_iff.mpr (plainly_returns 1 "look")⟩
    rw [List.mem_singleton.mp around] at among
    cases kind with
    | before => exact nomatch among
    | beforeEach =>
      rw [List.mem_singleton.mp among]
      exact plainly_returns 0 "reset"
  have same : ∀ case, case ∈ [opens, pays] ↔ case ∈ [pays, opens] := fun case => by
    rw [List.mem_pair, List.mem_pair, or_comm]
  exact ⟨fixed, tests, failing, (verdicts [pays] opens [] rfl).1.mpr passing,
    hooks [opens, pays] { store := () } trivial same cart (by rw [groups_eq]; simp)⟩

end shopTree

end ScenarioTree
