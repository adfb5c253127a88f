import ScenarioTree.Declaration.Trial

/-! # Observations

A computation is observed by its result, which may be a failure, and by the events and warnings
during it. Tests that are run one after the other are observed one by one; none of them ends the
others.
-/

namespace ScenarioTree

structure Observed (α : Type) where
  result : Except Failure α
  events : List Event := []
  warnings : List Warning := []

variable {σ α : Type}

/-- What happened to a world since an earlier state of it. -/
def World.observe (before after : World σ) (result : Except Failure α) : Observed α :=
  ⟨result, after.log.drop before.log.length, after.warnings.drop before.warnings.length⟩

def Run.observe (run : Run σ α) (world : World σ) : Observed α × World σ :=
  let (result, after) := run.run.run world
  (world.observe after result, after)

def Testing.observe (testing : Testing σ α) (trial : Trial σ) : Observed α × Trial σ :=
  let (result, after) := testing.run.run trial
  (trial.world.observe after.world result, after)

/-- Runs tests one after the other, whatever becomes of them. -/
def runCases (behaviour : Behaviour σ) :
    List Case → Trial σ → List (Observed Unit) × Trial σ
  | [], trial => ([], trial)
  | case :: rest, trial =>
    let (observed, trial) := (case.run behaviour).observe trial
    let (others, trial) := runCases behaviour rest trial
    (observed :: others, trial)

/-- A declared tree, and what was observed of its tests, depth first. -/
structure Rehearsal where
  root : Group
  runs : List (Observed Unit)

/-- Runs all tests of a declared tree, whose groups are still pending. -/
def rehearse (behaviour : Behaviour σ) (root : Group) : Run σ Rehearsal := ExceptT.mk fun world =>
  let (runs, trial) := runCases behaviour root.cases { world }
  (.ok ⟨root, runs⟩, trial.world)

end ScenarioTree
