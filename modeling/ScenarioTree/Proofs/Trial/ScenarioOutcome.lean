import ScenarioTree.Proofs.Trial.IncompleteScenarios

/-! # The outcome of a scenario

A scenario gathers its data and compares it. Each of the two is one call whose result is settled: when it is
deferred work it is awaited, once, and what comes of it is taken as it is. The first of these steps that fails is
the last one, and the run ends with its failure; when none fails, the run fails for the outcome false alone.
-/

namespace ScenarioTree

variable {σ : Type}

/-- How a call of a callable goes whose result is settled: what is observed, the outcome, and the state that the
outside is left in. The stand-in for a missing callable is not observed. -/
inductive Callable.Settles (behaviour : Behaviour σ) (arguments : List Value) (store : σ) :
    Callable → List Event → Except Failure Value → σ → Prop where
  | standsIn (key : String) :
      Settles behaviour arguments store (.missing key) [] (.error (.standInCalled key)) store
  | raises {id : Nat} {name : String} {form : CallableForm} {failure : Failure} {after : σ}
      (called : behaviour.call id arguments store = (.error failure, after)) :
      Settles behaviour arguments store (.defined id name form) [.call id name arguments] (.error failure) after
  | returns {id : Nat} {name : String} {form : CallableForm} {value : Value} {after : σ}
      (called : behaviour.call id arguments store = (.ok value, after))
      (settled : ∀ work label, value ≠ .deferred work label) :
      Settles behaviour arguments store (.defined id name form) [.call id name arguments] (.ok value) after
  | awaits {id : Nat} {name : String} {form : CallableForm} {work : Nat} {label : String} {middle after : σ}
      {outcome : Except Failure Value}
      (called : behaviour.call id arguments store = (.ok (.deferred work label), middle))
      (awaited : behaviour.await work middle = (outcome, after)) :
      Settles behaviour arguments store (.defined id name form)
        [.call id name arguments, .await work label] outcome after

/-- How a check goes: its data is gathered, and compared when that succeeded. -/
inductive Check.Proceeds (behaviour : Behaviour σ) (check : Check) (scope context : Value) (store : σ) :
    List Event → Except Failure Value → σ → Prop where
  | ungathered {events : List Event} {failure : Failure} {after : σ}
      (gathered : check.getActual.Settles behaviour [scope, context] store events (.error failure) after) :
      Proceeds behaviour check scope context store events (.error failure) after
  | compared {events others : List Event} {actual : Value} {middle after : σ} {outcome : Except Failure Value}
      (gathered : check.getActual.Settles behaviour [scope, context] store events (.ok actual) middle)
      (comparison : check.comparison.Settles behaviour [actual] middle others outcome after) :
      Proceeds behaviour check scope context store (events ++ others) outcome after

/-- What the outcome of a check means for the scenario of that name. -/
def scenarioVerdict (name : String) : Except Failure Value → Except Failure Unit
  | .error failure => .error failure
  | .ok (.bool false) => .error (.comparisonFailed name)
  | .ok _ => .ok ()

def Check.effect (behaviour : Behaviour σ) (check : Check) (scope context : Value) (store : σ) :
    Effect σ Value :=
  (Invocation.effect behaviour ⟨.callable check.getActual, [scope, context]⟩ store).next fun actual =>
    Invocation.effect behaviour ⟨.callable check.comparison, [actual]⟩

section

variable {behaviour : Behaviour σ} {store after : σ} {events : List Event}

private theorem Value.settling_of_settled {value : Value} (settled : ∀ work label, value ≠ .deferred work label) :
    value.settling behaviour store = .quiet (.ok value) store := by
  rw [settling]
  exact settled

private theorem Callable.settles_iff {callable : Callable} {arguments : List Value} {outcome : Except Failure Value} :
    callable.Settles behaviour arguments store events outcome after ↔
      Invocation.effect behaviour ⟨.callable callable, arguments⟩ store = ⟨events, outcome, after⟩ := by
  constructor
  · intro settles
    cases settles with
    | standsIn key => rfl
    | raises called => simp [Invocation.effect, Invocation.calling, called, Effect.next]
    | returns called settled =>
      simp [Invocation.effect, Invocation.calling, called, Effect.next, Value.settling_of_settled settled, Effect.quiet]
    | awaits called awaited =>
      simp [Invocation.effect, Invocation.calling, called, Effect.next, Value.settling, awaited]
  · intro same
    cases callable with
    | missing key =>
      cases same
      exact .standsIn key
    | defined id name form =>
      cases called : behaviour.call id arguments store with
      | mk result middle =>
        simp only [Invocation.effect, Invocation.calling, called, Effect.next] at same
        cases result with
        | error failure =>
          cases same
          exact .raises called
        | ok value =>
          by_cases waits : ∃ work label, value = .deferred work label
          · obtain ⟨work, label, rfl⟩ := waits
            cases awaited : behaviour.await work middle with
            | mk result final =>
              simp only [Value.settling, awaited] at same
              cases same
              exact .awaits called awaited
          · have settled : ∀ work label, value ≠ .deferred work label :=
              fun work label deferred => waits ⟨work, label, deferred⟩
            simp only [Value.settling_of_settled settled] at same
            cases same
            exact .returns called settled

private theorem Check.proceeds_iff {check : Check} {scope context : Value} {outcome : Except Failure Value} :
    check.Proceeds behaviour scope context store events outcome after ↔
      check.effect behaviour scope context store = ⟨events, outcome, after⟩ := by
  constructor
  · intro proceeds
    cases proceeds with
    | ungathered gathered => rw [effect, Callable.settles_iff.mp gathered, Effect.next_of_error rfl]
    | compared gathered comparison =>
      rw [effect, Callable.settles_iff.mp gathered, Effect.next_of_ok rfl]
      dsimp only
      rw [Callable.settles_iff.mp comparison]
  · intro same
    rw [effect] at same
    generalize gathering : Invocation.effect behaviour ⟨.callable check.getActual, [scope, context]⟩ store = first
      at same
    obtain ⟨before, result, middle⟩ := first
    have gathered := Callable.settles_iff.mpr gathering
    cases result with
    | error failure =>
      cases same
      exact .ungathered gathered
    | ok actual =>
      rw [Effect.next_of_ok rfl] at same
      cases same
      exact .compared gathered (Callable.settles_iff.mpr rfl)

private theorem Node.exposed?_scenario {node : Node} {check : Check} (checks : node.check? = some check) :
    (Value.ofNode node).exposed? "scenario" = some (.str node.name) := by
  cases node with
  | directLeaf | conditionalLeaf | fanOutLeaf => rfl
  | _ => cases checks

/-- The effect of a scenario is that of its check, with what the outcome means. -/
theorem Body.effect_of_check? {node : Node} {check : Check} (checks : node.check? = some check)
    (scope context : Value) : (Body.scenario (.ofNode node) scope context).effect behaviour store =
      let done := check.effect behaviour scope context store
      ⟨done.events, scenarioVerdict node.name done.outcome, done.store⟩ := by
  obtain ⟨gathers, verifies⟩ := node.exposed?_of_check? checks
  simp only [effect, exposedEffect, gathers, verifies, Node.exposed?_scenario checks, Check.effect, Effect.quiet,
    Effect.next, List.nil_append]
  generalize Invocation.effect behaviour ⟨.callable check.getActual, [scope, context]⟩ store = gathering
  obtain ⟨events, outcome, middle⟩ := gathering
  cases outcome with
  | error failure => rfl
  | ok actual =>
    dsimp only
    generalize Invocation.effect behaviour ⟨.callable check.comparison, [actual]⟩ middle = comparing
    obtain ⟨others, outcome, after⟩ := comparing
    cases outcome with
    | error failure => rfl
    | ok value =>
      by_cases refuted : value = .bool false
      · subst refuted
        simp [scenarioVerdict, Failure.ofRefuted]
      · simp [scenarioVerdict]

end

private theorem Failure.comparisonFailed_tells (name : String) :
    (Failure.comparisonFailed name).className = "AssertionError" ∧
      (Failure.comparisonFailed name).message = "Comparison fail: " ++ name := ⟨rfl, rfl⟩

section

variable {behaviour : Behaviour σ} {node : Node} {check : Check} (checks : node.check? = some check)
  {scope context : Value} {world : World σ} {events : List Event} {outcome : Except Failure Value} {store : σ}

include checks

/-- A scenario runs as its check proceeds, and ends with what the outcome means. -/
theorem Check.Proceeds.run (proceeds : check.Proceeds behaviour scope context world.store events outcome store) :
    (checkScenario behaviour (.ofNode node) scope context).run.run world =
      (scenarioVerdict node.name outcome, world.extend events store) := by
  have effect : (Body.scenario (.ofNode node) scope context).effect behaviour world.store =
      ⟨events, scenarioVerdict node.name outcome, store⟩ := by
    rw [Body.effect_of_check? checks, Check.proceeds_iff.mp proceeds]
  have does := runBody_does behaviour (.scenario (.ofNode node) scope context) world
  rw [effect] at does
  exact does

/-- Declaring a scenario records a test for it under its name. -/
theorem Node.run_declareSubject (recording : Recording σ) :
    (declareSubject (.ofNode node) scope context).run.run recording = (.ok (), { recording with
      recorder := recording.recorder.add (.test (.str node.name) (.scenario (.ofNode node) scope context)) }) := by
  rw [declareSubject, exposed, Node.exposed?_scenario checks]
  rfl

end

/-- When what precedes the body of a test succeeds, the run ends as its body does. -/
theorem Case.run_eq_body {behaviour : Behaviour σ} {case : Case} {trial ready : Trial σ}
    (prepared : (case.prepare behaviour).run.run trial = (.ok (), ready)) :
    (case.run behaviour).run.run trial =
      let ended := (runBody behaviour case.body).run.run ready.world
      (ended.1, { ready with world := ended.2 }) := by
  rw [case.run_eq_prepare, run_bind_of_ok prepared, Testing.run_ofRun]

/-- A behaviour in which every callable defers work. The work of the callable 0 leaves other work behind, and any
other work comes to the given value. -/
def deferring (value : Value) : Behaviour Unit where
  call id _ store := (.ok (.deferred id "work"), store)
  await id store := (.ok (if id = 0 then .deferred 5 "left" else value), store)

/-- What gathers and verifies the data of a scenario. -/
def headingCheck : Check := ⟨.defined 0 "read" .object, .defined 1 "compare" .function⟩

/-- The scenario, which has a condition. -/
def headingLeaf : Node := .conditionalLeaf (.of "Title") headingCheck none (.defined 2 "given" .object)

/-- Its test in a group with hooks. -/
def headingTest : Case where
  enclosing := [⟨[], "", ⟨[plainly 3 "open"], [plainly 4 "reset"]⟩⟩]
  name := .str "Title"
  body := .scenario (.ofNode headingLeaf) (.str "page") .null

/-- What is observed of the scenario: the work that is left behind is handed on as it is. -/
def headingEvents : List Event :=
  [.call 0 "read" [.str "page", .null], .await 0 "work", .call 1 "compare" [.deferred 5 "left"], .await 1 "work"]

private theorem headingCheck_proceeds (value : Value) :
    headingCheck.Proceeds (deferring value) (.str "page") .null () headingEvents (.ok value) () := by
  have gathered : headingCheck.getActual.Settles (deferring value) [.str "page", .null] ()
      [.call 0 "read" [.str "page", .null], .await 0 "work"] (.ok (.deferred 5 "left")) () := .awaits rfl rfl
  have comparison : headingCheck.comparison.Settles (deferring value) [.deferred 5 "left"] ()
      [.call 1 "compare" [.deferred 5 "left"], .await 1 "work"] (.ok value) () := .awaits rfl rfl
  exact .compared gathered comparison

end ScenarioTree
