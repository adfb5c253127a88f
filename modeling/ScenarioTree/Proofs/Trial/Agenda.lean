import ScenarioTree.Proofs.Trial.Activation
import ScenarioTree.Proofs.Trial.Effect

/-! # The agenda of a test

What a run of a test has to do is a list that can be told beforehand from the status of the groups around
the test: the `before` hooks of the groups that are pending, the `before_each` hooks of all of them, and
the body. The run carries the list out from its beginning, up to the first duty that fails.
-/

namespace ScenarioTree

variable {σ : Type}

/-- One thing that a run of a test has to do. -/
inductive Duty where
  /-- To call a hook: its kind, the position of its group, and its index among the hooks of its kind. -/
  | hook (kind : HookKind) (position : List Nat) (index : Nat) (invocation : Invocation)
  /-- To refuse the test because a hook of a group failed earlier. -/
  | refusal (group : String) (cause : Failure)
  | body (content : Body)

def Duty.effect (behaviour : Behaviour σ) : Duty → σ → Effect σ Unit
  | .hook _ _ _ invocation, store => (invocation.effect behaviour store).next fun _ => .quiet (.ok ())
  | .refusal group cause, store => .quiet (.error (.hookFailed group cause)) store
  | .body content, store => content.effect behaviour store

def Hooks.ofKind (hooks : Hooks) : HookKind → List Invocation
  | .before => hooks.before
  | .beforeEach => hooks.beforeEach

/-- The duties to call successive hooks, the first of them at the given index. -/
def hookDuties (kind : HookKind) (position : List Nat) (index : Nat) (hooks : List Invocation) :
    List Duty :=
  (hooks.zipIdx index).map fun (invocation, index) => .hook kind position index invocation

def Enclosing.duties (group : Enclosing) (kind : HookKind) : List Duty :=
  hookDuties kind group.position 0 (group.hooks.ofKind kind)

/-- What there is to do before a group counts as entered. -/
def Enclosing.opening (activation : Activation) (group : Enclosing) : List Duty :=
  match activation group.position with
  | .pending => group.duties .before
  | .active => []
  | .failed cause => [.refusal group.name cause]

/-- What there is to do before several groups count as entered, the outermost first. -/
def openings (activation : Activation) (groups : List Enclosing) : List Duty :=
  groups.flatMap (Enclosing.opening activation)

/-- What a run of a test has to do. -/
def Case.agenda (activation : Activation) (case : Case) : List Duty :=
  openings activation case.enclosing ++
    (case.enclosing.flatMap (Enclosing.duties · .beforeEach) ++ [.body case.body])

/-- What came of duties: those that were begun, each with the events that were observed of it, the
outcome, and the state that the outside is left in. -/
structure Progress (σ : Type) where
  begun : List (Duty × List Event)
  outcome : Except Failure Unit
  store : σ

namespace Progress

def duties (progress : Progress σ) : List Duty := progress.begun.map Prod.fst

def events (progress : Progress σ) : List Event := progress.begun.flatMap Prod.snd

def effect (progress : Progress σ) : Effect σ Unit :=
  ⟨progress.events, progress.outcome, progress.store⟩

/-- Progress with what is done next, unless there was a failure. -/
def next (first : Progress σ) (second : σ → Progress σ) : Progress σ :=
  match first.outcome with
  | .error _ => first
  | .ok () =>
    let rest := second first.store
    ⟨first.begun ++ rest.begun, rest.outcome, rest.store⟩

theorem next_of_ok {first : Progress σ} (done : first.outcome = .ok ()) (second : σ → Progress σ) :
    first.next second = ⟨first.begun ++ (second first.store).begun, (second first.store).outcome,
      (second first.store).store⟩ := by
  rw [next, done]

theorem next_of_error {first : Progress σ} {failure : Failure} (failed : first.outcome = .error failure)
    (second : σ → Progress σ) : first.next second = first := by
  rw [next, failed]

private theorem next_assoc (first : Progress σ) (second third : σ → Progress σ) :
    (first.next second).next third = first.next fun store => (second store).next third := by
  obtain ⟨begun, outcome, store⟩ := first
  cases outcome with
  | error failure => rfl
  | ok done =>
    have started (rest : σ → Progress σ) : Progress.next ⟨begun, .ok done, store⟩ rest =
      ⟨begun ++ (rest store).begun, (rest store).outcome, (rest store).store⟩ := next_of_ok rfl rest
    rw [started, started]
    cases ended : (second store).outcome with
    | error failure => rw [next_of_error rfl, next_of_error ended, ended]
    | ok done => rw [next_of_ok rfl, next_of_ok ended, List.append_assoc]

private theorem effect_next (first : Progress σ) (second : σ → Progress σ) :
    (first.next second).effect = first.effect.next fun _ store => (second store).effect := by
  obtain ⟨begun, outcome, store⟩ := first
  cases outcome with
  | error failure => rfl
  | ok done =>
    rw [next_of_ok rfl, effect, events, List.flatMap_append]
    rfl

end Progress

/-- Duties are carried out one after the other, up to the first that fails. -/
def carryOut (behaviour : Behaviour σ) : List Duty → σ → Progress σ
  | [], store => ⟨[], .ok (), store⟩
  | duty :: rest, store =>
    let effect := duty.effect behaviour store
    Progress.next ⟨[(duty, effect.events)], effect.outcome, effect.store⟩ (carryOut behaviour rest)

/-- What comes of the agenda of a test. -/
def Case.progress (behaviour : Behaviour σ) (case : Case) (trial : Trial σ) : Progress σ :=
  carryOut behaviour (case.agenda trial.activation) trial.world.store

section

variable (behaviour : Behaviour σ)

theorem carryOut_append (first others : List Duty) (store : σ) :
    carryOut behaviour (first ++ others) store =
      (carryOut behaviour first store).next (carryOut behaviour others) := by
  induction first generalizing store with
  | nil => rfl
  | cons duty rest ih =>
    rw [List.cons_append, carryOut, carryOut, Progress.next_assoc]
    congr 1
    funext middle
    exact ih middle

/-- Either all duties were carried out, or those up to and including the first that failed were
begun. -/
theorem carryOut_cut (duties : List Duty) (store : σ) :
    (carryOut behaviour duties store).outcome = .ok () ∧
        (carryOut behaviour duties store).duties = duties ∨
      ∃ done last rest failure, duties = done ++ last :: rest ∧
        (carryOut behaviour done store).outcome = .ok () ∧
        (last.effect behaviour (carryOut behaviour done store).store).outcome = .error failure ∧
        (carryOut behaviour duties store).outcome = .error failure ∧
        (carryOut behaviour duties store).duties = done ++ [last] := by
  induction duties generalizing store with
  | nil => exact .inl ⟨rfl, rfl⟩
  | cons duty rest ih =>
    cases ended : (duty.effect behaviour store).outcome with
    | error failure =>
      refine .inr ⟨[], duty, rest, failure, rfl, rfl, ended, ?_, ?_⟩
      · rw [carryOut, Progress.next_of_error ended, ended]
      · rw [carryOut, Progress.next_of_error ended]
        rfl
    | ok done =>
      have head (others : List Duty) : carryOut behaviour (duty :: others) store =
          ⟨(duty, (duty.effect behaviour store).events) ::
              (carryOut behaviour others (duty.effect behaviour store).store).begun,
            (carryOut behaviour others (duty.effect behaviour store).store).outcome,
            (carryOut behaviour others (duty.effect behaviour store).store).store⟩ := by
        rw [carryOut, Progress.next_of_ok ended]
        rfl
      rcases ih (duty.effect behaviour store).store with
        ⟨succeeded, all⟩ | ⟨done, last, others, failure, rfl, passed, failed, outcome, cut⟩
      · refine .inl ⟨by rw [head, succeeded], ?_⟩
        rw [head]
        exact congrArg (duty :: ·) all
      · refine .inr ⟨duty :: done, last, others, failure, rfl, ?_, ?_, ?_, ?_⟩
        · rw [head, passed]
        · rw [head]
          exact failed
        · rw [head, outcome]
        · rw [head]
          exact congrArg (duty :: ·) cut

/-- What is begun is a first part of what there is to do. -/
theorem duties_carryOut_isPrefix (duties : List Duty) (store : σ) :
    (carryOut behaviour duties store).duties <+: duties := by
  rcases carryOut_cut behaviour duties store with ⟨_, all⟩ | ⟨done, last, rest, _, same, _, _, _, cut⟩
  · exact ⟨[], by rw [all, List.append_nil]⟩
  · exact ⟨rest, by rw [cut, same, List.append_assoc, List.singleton_append]⟩

/-- A computation does what comes of carrying out duties. -/
def Run.CarriesOut (run : Run σ Unit) (duties : List Duty) : Prop :=
  run.Does fun store => (carryOut behaviour duties store).effect

variable {behaviour}

theorem Run.CarriesOut.nil : (pure () : Run σ Unit).CarriesOut behaviour [] := Run.Does.pure ()

theorem Run.CarriesOut.single {run : Run σ Unit} {duty : Duty}
    (does : run.Does (duty.effect behaviour)) : run.CarriesOut behaviour [duty] := by
  have same : (fun store => (carryOut behaviour [duty] store).effect) = duty.effect behaviour := by
    funext store
    change Progress.effect (Progress.next ⟨[(duty, _)], _, _⟩ (carryOut behaviour [])) = _
    generalize duty.effect behaviour store = done
    obtain ⟨events, outcome, store⟩ := done
    cases outcome with
    | error failure => simp [Progress.next, Progress.effect, Progress.events]
    | ok done => simp [Progress.next, Progress.effect, Progress.events, carryOut]
  rw [CarriesOut, same]
  exact does

theorem Run.CarriesOut.append {first rest : Run σ Unit} {duties others : List Duty}
    (starts : first.CarriesOut behaviour duties) (ends : rest.CarriesOut behaviour others) :
    (first >>= fun _ => rest).CarriesOut behaviour (duties ++ others) := by
  have same : (fun store => (carryOut behaviour (duties ++ others) store).effect) = fun store =>
      (carryOut behaviour duties store).effect.next fun _ store =>
        (carryOut behaviour others store).effect := by
    funext store
    rw [carryOut_append, Progress.effect_next]
  rw [CarriesOut, same]
  exact .bind starts fun _ => ends

/-- Calling hooks one after the other carries out the duties to call them. -/
theorem callAll_carriesOut (kind : HookKind) (position : List Nat) (index : Nat)
    (hooks : List Invocation) :
    (callAll behaviour hooks).CarriesOut behaviour (hookDuties kind position index hooks) := by
  induction hooks generalizing index with
  | nil => exact .nil
  | cons hook rest ih =>
    have called : (do
        let _ ← callAndFinish behaviour hook.target hook.arguments
        pure ()).Does (Duty.effect behaviour (.hook kind position index hook)) :=
      Run.Does.bind (callAndFinish_does behaviour hook) fun _ => .pure ()
    have both := Run.CarriesOut.append (.single called) (ih (index + 1))
    rw [bind_assoc] at both
    exact both

private theorem callAll_append (first others : List Invocation) :
    callAll behaviour (first ++ others) =
      callAll behaviour first >>= fun _ => callAll behaviour others := by
  induction first with
  | nil => rfl
  | cons hook rest ih => rw [List.cons_append, callAll, callAll, ih, bind_assoc]

/-- Calling the `before_each` hooks of groups carries out the duties to call them. -/
theorem callAll_beforeEach_carriesOut (behaviour : Behaviour σ) (groups : List Enclosing) :
    (callAll behaviour (groups.flatMap fun group => group.hooks.beforeEach)).CarriesOut behaviour
      (groups.flatMap (Enclosing.duties · .beforeEach)) := by
  induction groups with
  | nil => exact .nil
  | cons group rest ih =>
    rw [List.flatMap_cons, List.flatMap_cons, callAll_append]
    exact .append (callAll_carriesOut .beforeEach group.position 0 group.hooks.beforeEach) ih

theorem runBody_carriesOut (body : Body) :
    (runBody behaviour body).CarriesOut behaviour [.body body] :=
  .single (runBody_does behaviour body)

end

end ScenarioTree
