import ScenarioTree.Proofs.Fallible

/-! # Programs of declarations

Whoever declares a tree declares groups, hooks and tests in any order, the bodies of groups do the same, and
each of them may fail at any point or handle what fails inside. What such a program adds to the group in which
it runs does not depend on the group: some hooks, some children, and how it ends. A recorder that runs the
program gains just that, and its open groups stay open.
-/

namespace ScenarioTree

/-- A finite program of declarations. A group holds what its body declares before it ends or fails. -/
inductive Program where
  | done
  | group (name : String) (body : Program)
  | hook (kind : Value) (invocation : Invocation)
  | test (name : Value) (body : Body)
  | fail (failure : Failure)
  | next (first second : Program)
  | attempt (body : Program) (handle : Failure → Program)

def Program.run {σ : Type} : Program → Declaring σ Unit
  | done => pure ()
  | group name body => Declaring.group name body.run
  | hook kind invocation => Declaring.hookNamed kind invocation
  | test name body => Declaring.test name body
  | fail failure => throw failure
  | next first second => first.run >>= fun _ => second.run
  | attempt body handle => tryCatch body.run fun failure => (handle failure).run

/-- The hooks of both, kind by kind. -/
def Hooks.append (hooks others : Hooks) : Hooks :=
  ⟨hooks.before ++ others.before, hooks.beforeEach ++ others.beforeEach⟩

/-- What a program adds to the group in which it runs, and how it ends. -/
structure Gain where
  hooks : Hooks := {}
  children : List Declaration := []
  outcome : Except Failure Unit := .ok ()

namespace Gain

/-- What is added by one program and then by another. -/
def followedBy (first second : Gain) : Gain :=
  ⟨first.hooks.append second.hooks, first.children ++ second.children, second.outcome⟩

/-- A program goes on unless it failed. -/
def andThen (first second : Gain) : Gain :=
  match first.outcome with
  | .ok _ => first.followedBy second
  | .error _ => first

/-- A program goes on with what handles its failure. -/
def orElse (attempted : Gain) (handle : Failure → Gain) : Gain :=
  match attempted.outcome with
  | .ok _ => attempted
  | .error failure => attempted.followedBy (handle failure)

end Gain

def Program.gain : Program → Gain
  | done => {}
  | group name body => { children := [.group name body.gain.hooks body.gain.children], outcome := body.gain.outcome }
  | hook kind invocation =>
    match HookKind.ofValue? kind with
    | some kind => { hooks := Hooks.add {} invocation kind }
    | none => { outcome := .error (.unknownHook kind) }
  | test name body => { children := [.test name body] }
  | fail failure => { outcome := .error failure }
  | next first second => first.gain.andThen second.gain
  | attempt body handle => body.gain.orElse fun failure => (handle failure).gain

/-- The group with hooks and children added. -/
def Group.grow (group : Group) (gain : Gain) : Group :=
  ⟨group.name, group.hooks.append gain.hooks, group.children ++ gain.children⟩

/-- The recorder whose current group has hooks and children added. -/
def Recorder.grow (recorder : Recorder) (gain : Gain) : Recorder :=
  { recorder with current := recorder.current.grow gain }

namespace Hooks

@[simp] theorem append_empty (hooks : Hooks) : hooks.append {} = hooks := by simp [append]

@[simp] theorem empty_append (hooks : Hooks) : append {} hooks = hooks := by simp [append]

@[simp] theorem append_append (hooks others more : Hooks) :
    (hooks.append others).append more = hooks.append (others.append more) := by simp [append]

theorem append_add_empty (hooks : Hooks) (hook : Invocation) (kind : HookKind) :
    hooks.append (add {} hook kind) = hooks.add hook kind := by
  cases kind <;> simp [append, add]

end Hooks

@[simp] theorem Recorder.grow_grow (recorder : Recorder) (first second : Gain) :
    (recorder.grow first).grow second = recorder.grow (first.followedBy second) := by
  simp [grow, Group.grow, Gain.followedBy]

/-- When nothing is added, the recorder stays as it is. -/
theorem Recorder.grow_nothing (recorder : Recorder) (outcome : Except Failure Unit) :
    recorder.grow { outcome } = recorder := by
  simp [grow, Group.grow]

/-- An opened group is closed with what was added to it. -/
theorem Recorder.leave_grow_enter (recorder : Recorder) (name : String) (inside : Gain) :
    ((recorder.enter name).grow inside).leave =
      recorder.grow { children := [.group name inside.hooks inside.children], outcome := inside.outcome } := by
  simp [enter, grow, leave, add, Group.grow, Group.toDeclaration]

section

variable {s : Type}

/-- A computation adds what is gained: it ends so, and the state that it leaves has grown by it. -/
def Adds (grows : s → Gain → s → Prop) (computation : ExceptT Failure (StateM s) Unit) (gain : Gain) : Prop :=
  ∀ before, ∃ after, computation.run.run before = (gain.outcome, after) ∧ grows before gain after

/-- Growth of a state: it may be by nothing, and growing twice is growing by both. -/
structure Growth (grows : s → Gain → s → Prop) : Prop where
  refl : ∀ (state : s) (outcome : Except Failure Unit), grows state { outcome } state
  trans : ∀ {before middle after : s} {first second : Gain},
    grows before first middle → grows middle second after → grows before (first.followedBy second) after

namespace Growth

variable {grows : s → Gain → s → Prop} (growth : Growth grows) {first second : ExceptT Failure (StateM s) Unit}
  {gain other : Gain}

include growth

theorem done : Adds grows (pure ()) {} := fun state => ⟨state, rfl, growth.refl state _⟩

theorem fail (failure : Failure) : Adds grows (throw failure) { outcome := .error failure } :=
  fun state => ⟨state, rfl, growth.refl state _⟩

theorem next (starts : Adds grows first gain) (goesOn : Adds grows second other) :
    Adds grows (first >>= fun _ => second) (gain.andThen other) := by
  intro before
  obtain ⟨middle, ran, grown⟩ := starts before
  rw [run_bind, ran, Gain.andThen]
  cases ended : gain.outcome with
  | error failure => exact ⟨middle, by rw [ended], grown⟩
  | ok value =>
    obtain ⟨after, went, more⟩ := goesOn middle
    exact ⟨after, went, growth.trans grown more⟩

theorem attempt {handle : Failure → ExceptT Failure (StateM s) Unit} {handled : Failure → Gain}
    (starts : Adds grows first gain) (handles : ∀ failure, Adds grows (handle failure) (handled failure)) :
    Adds grows (tryCatch first handle) (gain.orElse handled) := by
  intro before
  obtain ⟨middle, ran, grown⟩ := starts before
  rw [run_tryCatch, ran, Gain.orElse]
  cases ended : gain.outcome with
  | ok value => exact ⟨middle, by rw [ended], grown⟩
  | error failure =>
    obtain ⟨after, went, more⟩ := handles failure middle
    exact ⟨after, went, growth.trans grown more⟩

end Growth

end

variable {σ : Type}

/-- A recording grows by what its current group gains. Nothing else changes: the groups around stay open, and
nothing happens in the world. -/
def Recording.Grows (before : Recording σ) (gain : Gain) (after : Recording σ) : Prop :=
  after = { before with recorder := before.recorder.grow gain }

theorem Recording.growth : Growth (Recording.Grows (σ := σ)) where
  refl recording outcome := by rw [Grows, Recorder.grow_nothing]
  trans := by
    rintro before _ _ first second rfl rfl
    rw [Grows, Recorder.grow_grow]

private theorem Program.run_adds (program : Program) :
    Adds Recording.Grows (program.run : Declaring σ Unit) program.gain := by
  induction program with
  | done => exact Recording.growth.done
  | fail failure => exact Recording.growth.fail failure
  | next first second first_ih second_ih => exact Recording.growth.next first_ih second_ih
  | attempt body handle body_ih handle_ih => exact Recording.growth.attempt body_ih handle_ih
  | test name body =>
    intro recording
    refine ⟨_, rfl, ?_⟩
    simp [Recording.Grows, gain, Recorder.add, Recorder.grow, Group.grow]
  | hook kind invocation =>
    rw [run, gain, Declaring.hookNamed]
    cases HookKind.ofValue? kind with
    | none => exact Recording.growth.fail (.unknownHook kind)
    | some kind =>
      intro recording
      refine ⟨_, rfl, ?_⟩
      simp [Recording.Grows, Recorder.addHook, Recorder.grow, Group.grow, Hooks.append_add_empty]
  | group name body ih =>
    intro recording
    obtain ⟨_, ran, rfl⟩ := ih { recording with recorder := recording.recorder.enter name }
    rw [run, Declaring.run_group, ran]
    exact ⟨_, rfl, by rw [Recorder.leave_grow_enter]; rfl⟩

/-- Running a program ends as the program does, and the recording has grown by its gain. -/
theorem Program.run_eq (program : Program) (recording : Recording σ) :
    program.run.run.run recording =
      (program.gain.outcome, { recording with recorder := recording.recorder.grow program.gain }) := by
  obtain ⟨_, ran, rfl⟩ := program.run_adds recording
  exact ran

end ScenarioTree
