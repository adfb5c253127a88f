import ScenarioTree.Proofs.Trial.Execution

/-! # Which hooks a run calls

A run of a test calls hooks of the groups around the test only. It calls the `before` hooks of such a group
when it gets past the groups further out and the group is pending, and the group is started then. It calls
the `before_each` hooks of such a group as far as it gets.
-/

namespace ScenarioTree

variable {σ : Type}

/-- Whether a duty is to call a hook of a kind of the group at a position. -/
def Duty.isHook (kind : HookKind) (position : List Nat) : Duty → Bool
  | .hook own place _ _ => own == kind && place == position
  | _ => false

/-- The hooks of a kind of the group at a position that were called. -/
def Progress.called (progress : Progress σ) (kind : HookKind) (position : List Nat) : List Duty :=
  progress.duties.filter (Duty.isHook kind position)

/-- A run is one of a test of the group, and gets past the groups around it. -/
def Placed.IsReached (placed : Placed) (behaviour : Behaviour σ) (case : Case) (trial : Trial σ) : Prop :=
  case ∈ placed.cases ∧ ((activateAll behaviour placed.enclosing).run.run trial).1 = .ok ()

/-! ## The duties to call hooks -/

@[simp] theorem isHook_refusal (kind : HookKind) (position : List Nat) (group : String)
    (cause : Failure) : (Duty.refusal group cause).isHook kind position = false := rfl

private theorem isHook_of_mem_duties {group : Enclosing} {own : HookKind} {duty : Duty}
    (member : duty ∈ group.duties own) (kind : HookKind) (position : List Nat) :
    duty.isHook kind position = (own == kind && group.position == position) := by
  obtain ⟨⟨invocation, index⟩, _, rfl⟩ := List.mem_map.mp member
  rfl

theorem Enclosing.duties_nodup (group : Enclosing) (kind : HookKind) : (group.duties kind).Nodup := by
  have numbered : (((group.hooks.ofKind kind).zipIdx 0).map Prod.snd).Nodup := by
    rw [List.zipIdx_map_snd]
    exact List.nodup_range'
  refine (List.Nodup.of_map Prod.snd numbered).map ?_
  rintro ⟨invocation, index⟩ ⟨other, place⟩ same
  cases same
  rfl

/-- The hooks of other groups, and hooks of another kind, are not called by what there is to do for a
group. -/
theorem isHook_of_mem_opening {activation : Activation} {group : Enclosing} {duty : Duty}
    (member : duty ∈ group.opening activation) {kind : HookKind} {position : List Nat}
    (other : kind ≠ .before ∨ group.position ≠ position) : duty.isHook kind position = false := by
  rw [Enclosing.opening] at member
  cases status : activation group.position with
  | pending =>
    rw [status] at member
    rw [isHook_of_mem_duties member]
    rcases other with other | other
    · simp [other.symm]
    · simp [other]
  | active =>
    rw [status] at member
    exact absurd member List.not_mem_nil
  | failed cause =>
    rw [status] at member
    rw [List.mem_singleton.mp member]
    rfl

private theorem filter_isHook_eq_nil {duties : List Duty} {kind : HookKind} {position : List Nat}
    (none : ∀ duty ∈ duties, duty.isHook kind position = false) :
    duties.filter (Duty.isHook kind position) = [] := by
  refine List.filter_eq_nil_iff.mpr fun duty member => ?_
  rw [none duty member]
  exact Bool.false_ne_true

private theorem Enclosing.filter_isHook_duties (group : Enclosing) (kind : HookKind) :
    (group.duties kind).filter (Duty.isHook kind group.position) = group.duties kind := by
  refine List.filter_eq_self.mpr fun duty member => ?_
  rw [isHook_of_mem_duties member, beq_self_eq_true, beq_self_eq_true]
  rfl

section

variable (behaviour : Behaviour σ) {kind : HookKind} {position : List Nat}

private theorem called_carryOut_eq_nil {duties : List Duty} (store : σ)
    (none : ∀ duty ∈ duties, duty.isHook kind position = false) :
    (carryOut behaviour duties store).called kind position = [] :=
  filter_isHook_eq_nil fun duty begun =>
    none duty ((duties_carryOut_isPrefix behaviour duties store).subset begun)

/-- Of duties that only call such hooks, those that were begun are called. -/
theorem called_carryOut_eq_duties {duties : List Duty} (store : σ)
    (all : ∀ duty ∈ duties, duty.isHook kind position = true) :
    (carryOut behaviour duties store).called kind position = (carryOut behaviour duties store).duties :=
  List.filter_eq_self.mpr fun duty begun =>
    all duty ((duties_carryOut_isPrefix behaviour duties store).subset begun)

/-- Of duties after others that were carried out, those are called that are called of them from there. -/
theorem called_carryOut_append {first : List Duty} (others : List Duty) {store : σ}
    (done : (carryOut behaviour first store).outcome = .ok ()) :
    (carryOut behaviour (first ++ others) store).called kind position =
      (carryOut behaviour first store).called kind position ++
        (carryOut behaviour others (carryOut behaviour first store).store).called kind position := by
  rw [carryOut_append, Progress.next_of_ok done, Progress.called, Progress.duties, List.map_append,
    List.filter_append]
  rfl

/-- Of duties after others that fail, none is called. -/
theorem called_carryOut_append_of_error {first : List Duty} (others : List Duty) {store : σ}
    {failure : Failure} (failed : (carryOut behaviour first store).outcome = .error failure) :
    (carryOut behaviour (first ++ others) store).called kind position =
      (carryOut behaviour first store).called kind position := by
  rw [carryOut_append, Progress.next_of_error failed]

/-- Duties that call no such hook add nothing to what is called of the duties before them. -/
theorem called_carryOut_append_of_none (first : List Duty) {others : List Duty} (store : σ)
    (none : ∀ duty ∈ others, duty.isHook kind position = false) :
    (carryOut behaviour (first ++ others) store).called kind position =
      (carryOut behaviour first store).called kind position := by
  cases outcome : (carryOut behaviour first store).outcome with
  | error failure => exact called_carryOut_append_of_error behaviour others outcome
  | ok done =>
    rw [called_carryOut_append behaviour others outcome, called_carryOut_eq_nil behaviour _ none,
      List.append_nil]

end

/-! ## What one run calls -/

/-- None of what there is to do for other groups calls such a hook. -/
theorem isHook_of_mem_openings {activation : Activation} {groups : List Enclosing} {duty : Duty}
    (member : duty ∈ openings activation groups) {kind : HookKind} {position : List Nat}
    (other : kind ≠ .before ∨ ∀ group ∈ groups, group.position ≠ position) :
    duty.isHook kind position = false := by
  obtain ⟨group, among, member⟩ := List.mem_flatMap.mp member
  exact isHook_of_mem_opening member (other.imp id fun others => others group among)

private theorem isHook_of_mem_beforeEach {groups : List Enclosing} {duty : Duty}
    (member : duty ∈ groups.flatMap (Enclosing.duties · .beforeEach)) {kind : HookKind}
    {position : List Nat}
    (other : kind ≠ .beforeEach ∨ ∀ group ∈ groups, group.position ≠ position) :
    duty.isHook kind position = false := by
  obtain ⟨group, among, member⟩ := List.mem_flatMap.mp member
  rw [isHook_of_mem_duties member]
  rcases other with other | others
  · simp [other.symm]
  · simp [others group among]

section

variable (behaviour : Behaviour σ) {kind : HookKind} {position : List Nat} {case : Case}
  {outer inner : List Enclosing} {group : Enclosing}

/-- A run of a test calls no hook of a group that is not around the test. -/
theorem Case.called_eq_nil_of_outside (trial : Trial σ)
    (others : ∀ group ∈ case.enclosing, group.position ≠ position) :
    (case.progress behaviour trial).called kind position = [] := by
  apply called_carryOut_eq_nil
  intro duty member
  rw [Case.agenda, List.mem_append, List.mem_append, List.mem_singleton] at member
  rcases member with member | member | rfl
  · exact isHook_of_mem_openings member (.inr others)
  · exact isHook_of_mem_beforeEach member (.inr others)
  · rfl

/-- A run of a test calls the `before` hooks of a group around it when it gets past the groups further
out and the group is pending, and not otherwise. -/
theorem Case.called_before (nested : Nested case.enclosing)
    (split : case.enclosing = outer ++ group :: inner) (trial : Trial σ) :
    let around := carryOut behaviour (openings trial.activation outer) trial.world.store
    (case.progress behaviour trial).called .before group.position =
      match around.outcome, trial.activation group.position with
      | .ok (), .pending => (carryOut behaviour (group.duties .before) around.store).duties
      | _, _ => [] := by
  intro around
  rw [split] at nested
  obtain ⟨outside, below⟩ := nested.position_ne
  have agenda : case.agenda trial.activation = openings trial.activation outer ++
      (group.opening trial.activation ++ (openings trial.activation inner ++
        (case.enclosing.flatMap (Enclosing.duties · .beforeEach) ++ [.body case.body]))) := by
    have opened : openings trial.activation case.enclosing = openings trial.activation outer ++
        (group.opening trial.activation ++ openings trial.activation inner) := by
      rw [split, openings, List.flatMap_append, List.flatMap_cons]
      rfl
    rw [Case.agenda, opened, List.append_assoc, List.append_assoc]
  -- on either side of what there is to do for the group, nothing calls its `before` hooks
  have rest : ∀ duty ∈ openings trial.activation inner ++
      (case.enclosing.flatMap (Enclosing.duties · .beforeEach) ++ [.body case.body]),
      duty.isHook .before group.position = false := by
    intro duty member
    rw [List.mem_append, List.mem_append, List.mem_singleton] at member
    rcases member with member | member | rfl
    · exact isHook_of_mem_openings member (.inr below)
    · exact isHook_of_mem_beforeEach member (.inl (by decide))
    · rfl
  have before : around.called .before group.position = [] :=
    called_carryOut_eq_nil behaviour _ fun duty member => isHook_of_mem_openings member (.inr outside)
  rw [Case.progress, agenda]
  cases outcome : around.outcome with
  | error failure => rw [called_carryOut_append_of_error behaviour _ outcome, before]
  | ok done =>
    rw [called_carryOut_append behaviour _ outcome, before, List.nil_append,
      called_carryOut_append_of_none behaviour _ _ rest, Enclosing.opening]
    cases trial.activation group.position with
    | pending =>
      refine called_carryOut_eq_duties behaviour _ fun duty member => ?_
      rw [isHook_of_mem_duties member]
      simp
    | active => rfl
    | failed cause => exact called_carryOut_eq_nil behaviour _ (by simp)

/-- A run of a test calls the `before_each` hooks of a group around it in order, each once, as far as it
gets. -/
theorem Case.called_beforeEach_isPrefix (nested : Nested case.enclosing)
    (split : case.enclosing = outer ++ group :: inner) (trial : Trial σ) :
    (case.progress behaviour trial).called .beforeEach group.position <+: group.duties .beforeEach := by
  rw [split] at nested
  obtain ⟨outside, below⟩ := nested.position_ne
  have opened : ∀ duty ∈ openings trial.activation case.enclosing,
      duty.isHook .beforeEach group.position = false :=
    fun duty member => isHook_of_mem_openings member (.inl (by decide))
  have around : ∀ duty ∈ outer.flatMap (Enclosing.duties · .beforeEach),
      duty.isHook .beforeEach group.position = false :=
    fun duty member => isHook_of_mem_beforeEach member (.inr outside)
  have inside : ∀ duty ∈ inner.flatMap (Enclosing.duties · .beforeEach),
      duty.isHook .beforeEach group.position = false :=
    fun duty member => isHook_of_mem_beforeEach member (.inr below)
  have agenda : (case.agenda trial.activation).filter (Duty.isHook .beforeEach group.position) =
      group.duties .beforeEach := by
    rw [Case.agenda, List.filter_append, filter_isHook_eq_nil opened, split, List.flatMap_append,
      List.flatMap_cons, List.filter_append, List.filter_append, List.filter_append,
      filter_isHook_eq_nil around, filter_isHook_eq_nil inside, group.filter_isHook_duties]
    exact (List.append_nil _).trans (List.append_nil _)
  rw [← agenda]
  exact (duties_carryOut_isPrefix behaviour (case.agenda trial.activation) trial.world.store).filter _

end

section

variable (behaviour : Behaviour σ) {root : Group} {placed : Placed} {case : Case} {trial : Trial σ}

/-- What a run does to the groups around one of the groups around its test. -/
theorem Placed.around_run (member : case ∈ root.cases) (inside : case ∈ placed.cases) (trial : Trial σ) :
    let around := carryOut behaviour (openings trial.activation placed.enclosing) trial.world.store
    (placed.IsReached behaviour case trial ↔ around.outcome = .ok ()) ∧
      ((activateAll behaviour placed.enclosing).run.run trial).2.world.store = around.store := by
  obtain ⟨inner, split⟩ := Placed.isInside_of_mem_cases inside
  have nested := Group.nested_of_mem_cases member
  rw [split] at nested
  obtain ⟨outcome, world⟩ :=
    run_activateAll_openings behaviour (List.pairwise_append.mp nested).1 trial
  refine ⟨?_, congrArg World.store world⟩
  rw [Placed.IsReached, outcome]
  exact and_iff_right inside

/-- The run that reaches a pending group begins with its hooks. -/
theorem Placed.called_of_reached (member : case ∈ root.cases)
    (reached : placed.IsReached behaviour case trial)
    (pending : trial.activation placed.position = .pending) :
    (case.progress behaviour trial).called .before placed.position =
      (carryOut behaviour (placed.asEnclosing.duties .before)
        ((activateAll behaviour placed.enclosing).run.run trial).2.world.store).duties := by
  obtain ⟨inner, split⟩ := Placed.isInside_of_mem_cases reached.1
  obtain ⟨entered, store⟩ := Placed.around_run behaviour member reached.1 trial
  have called := Case.called_before behaviour (Group.nested_of_mem_cases member) split trial
  change trial.activation placed.asEnclosing.position = .pending at pending
  dsimp only at called
  rw [entered.mp reached, pending] at called
  rw [store]
  exact called

/-- A run that does not reach a group calls none of its `before` hooks. -/
theorem Placed.called_of_not_reached (found : placed ∈ root.groups) (member : case ∈ root.cases)
    (unreached : ¬ placed.IsReached behaviour case trial) :
    (case.progress behaviour trial).called .before placed.position = [] := by
  rcases Group.mem_cases_or_outside found member with inside | outside
  · obtain ⟨inner, split⟩ := Placed.isInside_of_mem_cases inside
    obtain ⟨entered, _⟩ := Placed.around_run behaviour member inside trial
    refine (Case.called_before behaviour (Group.nested_of_mem_cases member) split trial).trans ?_
    rw [entered] at unreached
    split
    · next passed _ => exact absurd passed unreached
    · rfl
  · exact Case.called_eq_nil_of_outside behaviour trial outside

/-- No run calls `before` hooks of a group that was started earlier. -/
theorem Placed.called_of_started (found : placed ∈ root.groups) (member : case ∈ root.cases)
    (started : trial.activation placed.position ≠ .pending) :
    (case.progress behaviour trial).called .before placed.position = [] := by
  rcases Group.mem_cases_or_outside found member with inside | outside
  · obtain ⟨inner, split⟩ := Placed.isInside_of_mem_cases inside
    refine (Case.called_before behaviour (Group.nested_of_mem_cases member) split trial).trans ?_
    split
    · next pending => exact absurd pending started
    · rfl
  · exact Case.called_eq_nil_of_outside behaviour trial outside

theorem Placed.pending_run_iff (found : placed ∈ root.groups) (member : case ∈ root.cases) :
    ((case.run behaviour).run.run trial).2.activation placed.position = .pending ↔
      trial.activation placed.position = .pending ∧ ¬ placed.IsReached behaviour case trial := by
  rcases Group.mem_cases_or_outside found member with inside | outside
  · obtain ⟨inner, split⟩ := Placed.isInside_of_mem_cases inside
    obtain ⟨entered, _⟩ := Placed.around_run behaviour member inside trial
    have status := Case.run_status behaviour (Group.nested_of_mem_cases member) split trial
    change ((case.run behaviour).run.run trial).2.activation placed.position = _ at status
    rw [status, entered, Enclosing.statusAfter]
    generalize carryOut behaviour (openings trial.activation placed.enclosing) trial.world.store = around
    obtain ⟨begun, outcome, store⟩ := around
    cases outcome with
    | error failure => exact (and_iff_left fun passed => by cases passed).symm
    | ok done => exact iff_of_false (Status.entered_ne_pending _ _) fun both => both.2 rfl
  · rw [case.run_other behaviour trial outside]
    have unreached : ¬ placed.IsReached behaviour case trial := fun reached =>
      outside placed.asEnclosing (Placed.around_of_mem_cases reached.1).2 rfl
    exact (and_iff_left unreached).symm

theorem Placed.started_of_reached (found : placed ∈ root.groups) (member : case ∈ root.cases)
    (reached : placed.IsReached behaviour case trial) :
    ((case.run behaviour).run.run trial).2.activation placed.position ≠ .pending :=
  fun still => ((Placed.pending_run_iff behaviour found member).mp still).2 reached

end

end ScenarioTree
