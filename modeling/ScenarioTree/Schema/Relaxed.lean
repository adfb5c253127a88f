import ScenarioTree.Schema.Strict
import ScenarioTree.Value.Text

/-! # Relaxed construction

Relaxed construction reads a tree by shape. Items that are no nodes are skipped, keys that the
variant of a mapping does not use are ignored, names become text, and optional callables that are
not callable are dropped. A scenario without a callable that it needs gets the stand-in that always
fails. What still cannot be a node is skipped with a warning.

It relies on names that can be shown. Where showing a name raises an error, construction ends with it.
-/

namespace ScenarioTree

/-- What relaxed construction warns about. -/
inductive Warning where
  /-- A scenario lacks the callable of the given key. -/
  | missingCallable (scenario key : String)
  /-- A node with the given name was skipped for so many issues. -/
  | skippedNode (name : Value) (issueCount : Nat)
deriving Repr, Inhabited

namespace Warning

def category : String := "NodeWarning"

def message : Warning → String
  | missingCallable scenario key =>
    "Scenario " ++ Text.quote scenario ++ " has no callable " ++ Text.quote key ++
      ", its test will fail"
  | skippedNode name issueCount =>
    "Skipping invalid node " ++ name.literal ++ ": " ++ toString issueCount ++
      " validation error(s)"

end Warning

/-- The fields whose value counts only if it is callable. -/
def droppableFields : List Field := [.before, .beforeEach, .given, .getFragment]

def titleFields : List Field := [.feature, .scenario]

def childFields : List Field := [.tests, .inherited]

/-- Whether one of several fields is read from a key. -/
def isKeyOf (fields : List Field) (key : String) : Bool :=
  fields.any fun field => field.keys.contains key

def Value.ofModels (models : List Model) : Value := .tuple (models.map .model)

/-- An entry as a variant reads it: names as text, children as built. -/
def adaptEntry (children : List Model) (key : String) (value : Value) : Value × Value :=
  if isKeyOf titleFields key then (.str key, .str value.display)
  else if isKeyOf childFields key then (.str key, .ofModels children)
  else (.str key, value)

def adaptEntries (variant : Variant) (children : List Model) (entries : List (Value × Value)) :
    List (Value × Value) :=
  entries.filterMap fun (key, value) =>
    match key with
    | .str name =>
      if (acceptedKeys variant.fields).contains name &&
          (!isKeyOf droppableFields name || value.isCallable) then
        some (adaptEntry children name value)
      else none
    | _ => none

def Field.holdsCallable (field : Field) (entries : List (Value × Value)) : Bool :=
  field.keys.any fun key => valueHas Value.isCallable key entries

def Field.remove (field : Field) (entries : List (Value × Value)) : List (Value × Value) :=
  entries.filter fun entry => !field.keys.any fun key => Value.isName key entry.1

/-- Puts the stand-in under a field that holds no callable, with a warning. -/
def Field.supply (field : Field) (scenario : String) (entries : List (Value × Value)) :
    List (Value × Value) × List Warning :=
  if field.holdsCallable entries then (entries, [])
  else
    (field.remove entries ++ [(.str field.name, .callable (.missing field.firstKey))],
      [.missingCallable scenario field.firstKey])

/-- Puts the stand-ins that an executable variant needs. -/
def supplyCallables (variant : Variant) (entries : List (Value × Value)) :
    List (Value × Value) × List Warning :=
  if variant.isExecutable then
    let scenario := match Value.named? "scenario" entries with
      | some value => value.display
      -- construction ends on the missing name then, see `ownObstacle?`; a scenario that is told by its shape has one
      | none => ""
    let (entries, first) := Field.getActual.supply scenario entries
    let (entries, second) := Field.comparison.supply scenario entries
    (entries, first ++ second)
  else (entries, [])

/-- The name by which a skipped mapping is reported: what it has under `feature` if that counts as
true, and otherwise what it has under `scenario`. -/
def reportedName (entries : List (Value × Value)) : Value :=
  let feature := (Value.named? "feature" entries).getD .null
  if feature.isTruthy then feature else (Value.named? "scenario" entries).getD .null

/-- A mapping of known variant as a node, given its built children. Nothing is left to take from
an iterator, because children are built already. -/
def salvageNode (variant : Variant) (entries : List (Value × Value)) (children : List Model) :
    Option Node × List Warning :=
  let (adapted, missing) := supplyCallables variant (adaptEntries variant children entries)
  match ((validateVariant variant adapted).run []).1 with
  | .valid node => (some node, missing)
  | .invalid issues => (none, missing ++ [.skippedNode (reportedName entries) issues.length])

mutual

/-- A value as a built node, if it can be read as one, with the warnings about it and what is
below it. -/
def salvageItem : Value → Option Model × List Warning
  | .model m => (some m, [])
  | .map entries | .proxy entries =>
    match Variant.ofShape? entries with
    | none => (none, [])
    | some variant =>
      let (children, below) := match variant.childField? with
        | some field => salvageChildrenAt field.name entries
        | none => ([], [])
      let (node, own) := salvageNode variant entries children
      (node.map .node, below ++ own)
  | _ => (none, [])
termination_by structural v => v

/-- The built children under a key of a mapping, none if there is no sequence. -/
def salvageChildrenAt (name : String) : List (Value × Value) → List Model × List Warning
  | [] => ([], [])
  | (key, value) :: rest =>
    if Value.isName name key then salvageSequence value else salvageChildrenAt name rest
termination_by structural entries => entries

/-- The built nodes of a sequence. Ranges and byte arrays have no nodes among their items. -/
def salvageSequence : Value → List Model × List Warning
  | .list items | .tuple items | .deque items => salvageItems items
  | _ => ([], [])
termination_by structural v => v

/-- The built nodes of successive items. -/
def salvageItems : List Value → List Model × List Warning
  | [] => ([], [])
  | item :: rest =>
    let (model, own) := salvageItem item
    let (models, others) := salvageItems rest
    (model.toList ++ models, own ++ others)
termination_by structural items => items

end

/-- The value that holds the children of a mapping, for the variants that have children. -/
def Variant.child? (variant : Variant) (entries : List (Value × Value)) : Option Value :=
  variant.childField?.bind fun field => Value.named? field.name entries

/-- The children that relaxed construction makes for a variant of a mapping, with the warnings about
them. -/
def Variant.salvagedChildren (variant : Variant) (entries : List (Value × Value)) :
    List Model × List Warning :=
  ((variant.child? entries).map salvageSequence).getD ([], [])

/-- What relaxed construction ends on: an error, with the warnings up to it. -/
structure Obstacle where
  error : RaisedError
  warnings : List Warning := []
deriving Repr, Inhabited

def Obstacle.after (warnings : List Warning) (obstacle : Obstacle) : Obstacle :=
  { obstacle with warnings := warnings ++ obstacle.warnings }

namespace Variant

/-- The name that a mapping has as a variant cannot be shown. -/
def titleObstacle? (variant : Variant) (entries : List (Value × Value)) : Option Obstacle :=
  (Value.named? variant.titleField.name entries).bind fun title =>
    (RaisedError.within? title.toText).map fun error => { error }

/-- A mapping cannot be warned of: it lacks a callable and has no name, or it is skipped and its name
cannot be shown. -/
def ownObstacle? (variant : Variant) (entries : List (Value × Value)) (children : List Model) :
    Option Obstacle :=
  let adapted := adaptEntries variant children entries
  let missing := (supplyCallables variant adapted).2
  if !missing.isEmpty && (Value.named? "scenario" adapted).isNone then
    some { error := ⟨.keyError, "scenario"⟩ }
  else
    match (salvageNode variant entries children).1 with
    | some _ => none
    | none =>
      (RaisedError.within? (reportedName entries).toLiteral).map fun error =>
        { error, warnings := missing }

end Variant

mutual

/-- What ends the relaxed construction of an item: its name, then what ends that of its children, then
what it is warned of. -/
def itemObstacle? : Value → Option Obstacle
  | .map entries | .proxy entries =>
    match Variant.ofShape? entries with
    | none => none
    | some variant =>
      let (children, below) := variant.salvagedChildren entries
      let inner := match variant.childField? with
        | some field => childObstacleAt? field.name entries
        | none => none
      (variant.titleObstacle? entries).or
        (inner.or ((variant.ownObstacle? entries children).map (.after below)))
  | _ => none
termination_by structural v => v

/-- What ends the relaxed construction of the children under a key of a mapping. -/
def childObstacleAt? (name : String) : List (Value × Value) → Option Obstacle
  | [] => none
  | (key, value) :: rest =>
    if Value.isName name key then sequenceObstacle? value else childObstacleAt? name rest
termination_by structural entries => entries

/-- What ends the relaxed construction of a sequence. -/
def sequenceObstacle? : Value → Option Obstacle
  | .list items | .tuple items | .deque items => itemsObstacle? items
  | _ => none
termination_by structural v => v

/-- What ends the relaxed construction of successive items. -/
def itemsObstacle? : List Value → Option Obstacle
  | [] => none
  | item :: rest => (itemObstacle? item).or ((itemsObstacle? rest).map (.after (salvageItem item).2))
termination_by structural items => items

end

end ScenarioTree
