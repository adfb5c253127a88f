import ScenarioTree.Failure
import ScenarioTree.Schema.Relaxed

/-! # Building trees

A tree is built from a sequence of mappings and built nodes; anything but a sequence is an empty
tree. Strict building keeps a sequence of built nodes as it is, validates every other one, and
fails with a report on the first issue that can be located. Relaxed building fails only where a name cannot be
shown.
-/

namespace ScenarioTree

/-- How trees are built, and from which module. -/
structure Builder where
  strict : Bool := true
  filename : Option String := none
deriving Repr, Inhabited

/-- The built nodes of a tree, or why it could not be built, with the warnings on the way. -/
structure Built where
  models : Except Failure (List Model)
  warnings : List Warning := []

def Value.model? : Value → Option Model
  | .model m => some m
  | _ => none

namespace Builder

/-- Strict building of the items of a sequence. -/
def validate (builder : Builder) (nodes : Value) (items : List Value) :
    StateM Spent (Except Failure (List Model)) := do
  match items.mapM Value.model? with
  | some models => pure (.ok models)
  | none =>
    match ← validateTree (.list items) with
    | .valid built => pure (.ok (built.map .node))
    | .invalid issues => pure (.error (.invalidTree (.ofIssues nodes issues builder.filename)))

/-- What ends the building of a tree before it is built or refused. -/
def obstacle? (builder : Builder) (nodes : Value) : Option Obstacle :=
  if builder.strict then none else sequenceObstacle? nodes

/-- Builds a tree whose names can be shown. -/
def build (builder : Builder) (nodes : Value) : StateM Spent Built :=
  match nodes.sequenceItems? with
  | none => pure { models := .ok [] }
  | some items =>
    if builder.strict then do
      let models ← builder.validate nodes items
      pure { models }
    else
      let (models, warnings) := salvageItems items
      pure { models := .ok models, warnings }

/-- Builds a tree, or ends on the first name that cannot be shown. -/
def attempt (builder : Builder) (nodes : Value) : StateM Spent Built :=
  match builder.obstacle? nodes with
  | some ⟨error, warnings⟩ => pure { models := .error (.raised error), warnings }
  | none => builder.build nodes

end Builder

end ScenarioTree
