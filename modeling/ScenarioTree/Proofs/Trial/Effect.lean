import ScenarioTree.Declaration.Trial
import ScenarioTree.Proofs.Fallible

/-! # The effects of calls

What a call does is described by what it does to the outside alone: the events that are observed, the
outcome, and the state that the outside is left in. The result of a call is awaited when it is deferred
work, before anything else happens, and not otherwise. Computations that only call and wait are described
by the effects of their parts, one after the other up to the first failure.
-/

namespace ScenarioTree

variable {σ α β : Type}

/-- What something does to the outside. -/
structure Effect (σ α : Type) where
  events : List Event
  outcome : Except Failure α
  store : σ

namespace Effect

/-- The effect of giving an outcome without an event. -/
def quiet (outcome : Except Failure α) (store : σ) : Effect σ α := ⟨[], outcome, store⟩

/-- The effect of one thing and then another. When the first one fails, the second one does not happen. -/
def next (first : Effect σ α) (second : α → σ → Effect σ β) : Effect σ β :=
  match first.outcome with
  | .error failure => ⟨first.events, .error failure, first.store⟩
  | .ok value =>
    let rest := second value first.store
    ⟨first.events ++ rest.events, rest.outcome, rest.store⟩

theorem next_of_ok {first : Effect σ α} {value : α} (done : first.outcome = .ok value)
    (second : α → σ → Effect σ β) : first.next second = ⟨first.events ++ (second value first.store).events,
      (second value first.store).outcome, (second value first.store).store⟩ := by
  rw [next, done]

theorem next_of_error {first : Effect σ α} {failure : Failure} (failed : first.outcome = .error failure)
    (second : α → σ → Effect σ β) : first.next second = ⟨first.events, .error failure, first.store⟩ := by
  rw [next, failed]

end Effect

/-- The effect of a call. The stand-in for a missing callable fails, and so does what cannot be
called. -/
def Invocation.calling (behaviour : Behaviour σ) (invocation : Invocation) (store : σ) :
    Effect σ Value :=
  match invocation.target with
  | .callable (.defined id name _) =>
    let (result, store) := behaviour.call id invocation.arguments store
    ⟨[.call id name invocation.arguments], result, store⟩
  | .callable (.missing key) => .quiet (.error (.standInCalled key)) store
  | other => .quiet (.error (.notInvocable other.className)) store

/-- The effect of settling a value: deferred work is awaited, anything else is its own outcome. -/
def Value.settling (behaviour : Behaviour σ) (value : Value) (store : σ) : Effect σ Value :=
  match value with
  | .deferred work label =>
    let (result, store) := behaviour.await work store
    ⟨[.await work label], result, store⟩
  | value => .quiet (.ok value) store

/-- The effect of a call whose result is settled. -/
def Invocation.effect (behaviour : Behaviour σ) (invocation : Invocation) (store : σ) :
    Effect σ Value :=
  (invocation.calling behaviour store).next (Value.settling behaviour)

def exposedEffect (subject : Value) (name : String) (store : σ) : Effect σ Value :=
  match subject.exposed? name with
  | some value => .quiet (.ok value) store
  | none => .quiet (.error (.noAttribute subject.className name)) store

def Body.effect (behaviour : Behaviour σ) : Body → σ → Effect σ Unit
  | .invoke invocation, store => (invocation.effect behaviour store).next fun _ => .quiet (.ok ())
  | .scenario subject scope context, store =>
    (exposedEffect subject "get_actual" store).next fun getActual store =>
    (Invocation.effect behaviour ⟨getActual, [scope, context]⟩ store).next fun actual store =>
    (exposedEffect subject "comparison" store).next fun comparison store =>
    (Invocation.effect behaviour ⟨comparison, [actual]⟩ store).next fun outcome store =>
    match outcome with
    | .bool false =>
      (exposedEffect subject "scenario" store).next fun name =>
        .quiet (.error (.ofRefuted name))
    | _ => .quiet (.ok ()) store

/-- A world after something was observed of the outside. -/
def World.extend (world : World σ) (events : List Event) (store : σ) : World σ :=
  { world with log := world.log ++ events, store }

@[simp] theorem World.extend_nil (world : World σ) : world.extend [] world.store = world := by
  simp [World.extend]

@[simp] theorem World.extend_extend (world : World σ) (first others : List Event) (store last : σ) :
    (world.extend first store).extend others last = world.extend (first ++ others) last := by
  simp [World.extend]

@[simp] theorem World.store_extend (world : World σ) (events : List Event) (store : σ) :
    (world.extend events store).store = store := rfl

/-- A computation does to its world what an effect tells, and nothing else. -/
def Run.Does (run : Run σ α) (effect : σ → Effect σ α) : Prop :=
  ∀ world, run.run.run world =
    ((effect world.store).outcome,
      world.extend (effect world.store).events (effect world.store).store)

namespace Run.Does

theorem pure (value : α) : (pure value : Run σ α).Does (.quiet (.ok value)) :=
  fun world => congrArg (Prod.mk _) world.extend_nil.symm

theorem throw (failure : Failure) : (throw failure : Run σ α).Does (.quiet (.error failure)) :=
  fun world => congrArg (Prod.mk _) world.extend_nil.symm

/-- A sequence does one thing after the other. -/
theorem bind {first : Run σ α} {effect : σ → Effect σ α} {rest : α → Run σ β}
    {second : α → σ → Effect σ β} (starts : first.Does effect)
    (ends : ∀ value, (rest value).Does (second value)) :
    (first >>= rest).Does fun store => (effect store).next second := by
  intro world
  rw [run_bind, starts world]
  dsimp only
  generalize effect world.store = done
  obtain ⟨events, outcome, store⟩ := done
  cases outcome with
  | error failure => rfl
  | ok value =>
    dsimp only
    rw [ends value, World.extend_extend]
    rfl

end Run.Does

section

variable (behaviour : Behaviour σ)

theorem call_does (invocation : Invocation) :
    (call behaviour invocation.target invocation.arguments).Does (invocation.calling behaviour) := by
  obtain ⟨target, arguments⟩ := invocation
  cases target with
  | callable target =>
    cases target with
    | defined id name form => exact fun world => rfl
    | missing key => exact .throw (.standInCalled key)
  | _ => exact .throw _

theorem callAndFinish_does (invocation : Invocation) :
    (callAndFinish behaviour invocation.target invocation.arguments).Does
      (invocation.effect behaviour) := by
  refine .bind (call_does behaviour invocation) fun value => ?_
  cases value with
  | deferred work label => exact fun world => rfl
  | _ => exact .pure _

private theorem exposed_does (subject : Value) (name : String) :
    (exposed subject name : Run σ Value).Does (exposedEffect subject name) := by
  intro world
  rw [exposed, exposedEffect]
  cases subject.exposed? name with
  | none => exact Run.Does.throw _ world
  | some value => exact Run.Does.pure value world

theorem runBody_does (body : Body) : (runBody behaviour body).Does (body.effect behaviour) := by
  cases body with
  | invoke invocation => exact .bind (callAndFinish_does behaviour invocation) fun _ => .pure ()
  | scenario subject scope context =>
    refine .bind (exposed_does subject "get_actual") fun getActual => ?_
    refine .bind (callAndFinish_does behaviour ⟨getActual, [scope, context]⟩) fun actual => ?_
    refine .bind (exposed_does subject "comparison") fun comparison => ?_
    refine .bind (callAndFinish_does behaviour ⟨comparison, [actual]⟩) fun outcome => ?_
    cases outcome with
    | bool holds =>
      cases holds with
      | false => exact .bind (exposed_does subject "scenario") fun name => .throw _
      | true => exact .pure ()
    | _ => exact .pure ()

end

end ScenarioTree
