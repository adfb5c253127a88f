import ScenarioTree.Declaration.Observed
import ScenarioTree.ModuleFile

/-! # Collecting tests

A test runner collects a feature module as a tree of its own: a collector for every declared group,
an item for every declared test. The identifier of each is that of its parent with its name behind
two colons, and an item is reported under the names that lead to it.
-/

namespace ScenarioTree

/-- What is collected from a declared tree. -/
inductive Collected where
  | collector (identifier : String) (children : List Collected)
  | item (identifier : String) (case : Case)
deriving Repr, Inhabited

def childIdentifier (parent name : String) : String := parent ++ "::" ++ name

mutual

def Declaration.collect (parent : String) (enclosing : List Enclosing) (position : List Nat) :
    Declaration → Collected
  | .test name body => .item (childIdentifier parent name.display) ⟨enclosing, name, body⟩
  | .group name hooks children =>
    .collector (childIdentifier parent name)
      (collectAll (childIdentifier parent name) (enclosing ++ [⟨position, name, hooks⟩]) position 0
        children)

/-- Successive children of a group, collected below a parent. -/
def collectAll (parent : String) (enclosing : List Enclosing) (position : List Nat) (index : Nat) :
    List Declaration → List Collected
  | [] => []
  | child :: rest =>
    child.collect parent enclosing (position ++ [index]) ::
      collectAll parent enclosing position (index + 1) rest

end

/-- A declared tree, collected as a module. -/
def Group.collect (identifier : String) (group : Group) : Collected :=
  .collector identifier
    (collectAll identifier [⟨[], group.name, group.hooks⟩] [] 0 group.children)

/-- The domain under which an item is reported. -/
def Case.domain (case : Case) : String := " > ".intercalate (case.path.map Value.display)

/-- What is reported of a collected tree. -/
inductive Line where
  | collector (identifier : String)
  | item (identifier domain : String) (run : Observed Unit)

variable {σ : Type}

mutual

/-- Runs the items of a collected tree, depth first. -/
def Collected.run (behaviour : Behaviour σ) : Collected → Trial σ → List Line × Trial σ
  | .collector identifier children, trial =>
    let (lines, trial) := runCollected behaviour children trial
    (.collector identifier :: lines, trial)
  | .item identifier case, trial =>
    let (observed, trial) := (case.run behaviour).observe trial
    ([.item identifier case.domain observed], trial)

/-- Runs the items of collected trees, one tree after the other. -/
def runCollected (behaviour : Behaviour σ) : List Collected → Trial σ → List Line × Trial σ
  | [], trial => ([], trial)
  | collected :: rest, trial =>
    let (lines, trial) := collected.run behaviour trial
    let (others, trial) := runCollected behaviour rest trial
    (lines ++ others, trial)

end

/-- What a file is collected as, if its name is one of a feature module. -/
def collectFile (behaviour : Behaviour σ) (importer : Importer) (settings : Settings)
    (filename : String) (file : ModuleFile) : Run σ (Option Collected) := do
  match Text.matchesPattern settings.filePattern filename with
  | .error fault => throw (.unsoundPattern settings.filePattern fault)
  | .ok false => pure none
  | .ok true =>
    let root ← file.declare behaviour importer settings filename
    pure (some (root.collect filename))

def runFile (behaviour : Behaviour σ) (importer : Importer) (settings : Settings)
    (filename : String) (file : ModuleFile) : Run σ (List Line) := do
  match ← collectFile behaviour importer settings filename file with
  | none => pure []
  | some collected => ExceptT.mk fun world =>
    let (lines, trial) := collected.run behaviour { world }
    (.ok lines, trial.world)

end ScenarioTree
