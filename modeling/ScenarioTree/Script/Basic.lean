import ScenarioTree.Value.Mapping
import ScenarioTree.Value.Written
import ScenarioTree.World

/-! # Scripts

A script says what a callable does: it gives a value, picks from its arguments, compares, fails, or
defers work. Scripts are performed on a stage, which knows the script of every callable, the work
that was deferred, and how far every sequence of actions has come.
-/

namespace ScenarioTree

/-- The classes of errors that no handler for ordinary errors catches, by their names. -/
def interruptNames : List String :=
  ["Abort", "BaseException", "KeyboardInterrupt", "SystemExit", "GeneratorExit", "CancelledError"]

/-- The classes of errors that concern the tree itself, by their names. -/
def treeErrorNames : List String := ["TreeError", "FeatureModuleError", "HookError", "NodeSchemaError"]

/-- What the class of a name descends from. -/
def Lineage.named (name : String) : Lineage :=
  if interruptNames.contains name then .interrupt
  else if treeErrorNames.contains name then .tree
  else if name == "KeyError" then .unknownKey
  else .ordinary

/-- An error by the name of its class. A name that no class has is an unknown key. -/
def RaisedError.named (name message : String) : RaisedError :=
  if signal : name = iterationEnd then ⟨.keyError, name⟩
  else
    let tellsAbsence := name == ErrorClass.attributeError.name
    ⟨{ name, lineage := .named name, tellsAbsence, noSignal := signal }, message⟩

inductive Action where
  /-- Gives a value, the same one every time. -/
  | give (value : Value)
  | argument (index : Int)
  /-- Follows keys from an argument. -/
  | pick (index : Int) (keys : List Value)
  | collect (actions : List Action)
  | fail (kind message : String)
  /-- Tells whether the first argument is written like this. -/
  | matching (document : Json)
  /-- Fails if the first argument is not written like this. -/
  | expect (document : Json)
  | truth (index : Int)
  /-- Gives the display name of an argument. -/
  | naming (index : Int)
  | defer (action : Action)
  /-- Performs one action after the other, one at a time; the last one stays. `id` tells it apart
  from other sequences. -/
  | sequence (id : Nat) (actions : List Action)
deriving Repr, Inhabited

/-- The script of a callable. A deferring callable gives deferred work that performs its action. -/
structure Script where
  name : String
  action : Action
  defers : Bool := false
deriving Repr, Inhabited

/-- Work that is done when it is awaited: an action with the arguments of the call that deferred
it. -/
structure Deferral where
  name : String
  action : Action
  arguments : List Value := []
deriving Repr, Inhabited

/-- Where scripts are performed. Callables and deferred work are known by their positions. -/
structure Stage where
  scripts : List Script := []
  deferrals : List Deferral := []
  /-- How many actions of a sequence were performed. -/
  progress : Nat → Nat := fun _ => 0

instance : Inhabited Stage := ⟨{}⟩

abbrev Performance := ExceptT Failure (StateM Stage)

def Stage.defer (stage : Stage) (deferral : Deferral) : Value × Stage :=
  (.deferred stage.deferrals.length deferral.name,
    { stage with deferrals := stage.deferrals ++ [deferral] })

def deferWork (deferral : Deferral) : Performance Value := do
  let (value, stage) := (← get).defer deferral
  set stage
  pure value

/-- Counts one more action of a sequence and returns how many there were before. -/
def advanceSequence (id : Nat) : Performance Nat := do
  let stage ← get
  let performed := stage.progress id
  set { stage with
    progress := fun other => if other = id then performed + 1 else stage.progress other }
  pure performed

/-- What a value holds under a key: an object its attribute, a mapping its entry, and a sequence,
text or bytes its item. -/
def Value.held? (value key : Value) : Option Value :=
  match value with
  | object .. =>
    match key with
    | .str name => value.exposed? name
    | _ => none
  | map entries | proxy entries => lookup? key entries
  | list items | tuple items | deque items => (position? key).bind (itemAt? items)
  | bytes data | bytearray data => (position? key).bind (itemAt? (byteItems data))
  | range stop =>
    (position? key).bind fun i => (placeOf? stop.toNat i).map fun (place : Nat) => .int place
  | str text =>
    (position? key).bind fun i =>
      (itemAt? text.toList i).map fun c => .str (String.singleton c)
  | _ => none
where
  /-- The position that a key stands for. -/
  position? : Value → Option Int
    | int i => some i
    | bool b => some (if b then 1 else 0)
    | _ => none

def Value.pick (value : Value) : List Value → Except Failure Value
  | [] => .ok value
  | key :: rest =>
    match value.held? key with
    | some next => next.pick rest
    | none => .error (.raised ⟨.lookupError, ("no " ++ key.display)⟩)

/-- An argument of a call; a negative index counts from the last one. -/
def argumentAt (arguments : List Value) (index : Int) : Performance Value :=
  match itemAt? arguments index with
  | some value => pure value
  | none => throw .outOfRange

def isWrittenAs (arguments : List Value) (document : Json) : Performance Bool := do
  let value ← argumentAt arguments 0
  pure (value.written.same document)

def nameOf (value : Value) : Performance Value :=
  match value.exposed? "name" with
  | some name => pure name
  | none => throw (.noAttribute value.className "name")

def Performance.ofOutcome {α : Type} (outcome : Except Failure α) : Performance α :=
  ExceptT.mk (pure outcome)

mutual

def Action.perform (name : String) (arguments : List Value) : Action → Performance Value
  | .give value => pure value
  | .argument index => argumentAt arguments index
  | .pick index keys => do
    let value ← argumentAt arguments index
    Performance.ofOutcome (value.pick keys)
  | .collect actions => do
    let values ← performAll name arguments actions
    pure (.list values)
  | .fail kind message => throw (.raised (.named kind message))
  | .matching document => do
    let same ← isWrittenAs arguments document
    pure (.bool same)
  | .expect document => do
    let same ← isWrittenAs arguments document
    if same then pure .null else throw (.raised ⟨.assertionError, "mismatch"⟩)
  | .truth index => do
    let value ← argumentAt arguments index
    pure (.bool value.isTruthy)
  | .naming index => do
    let value ← argumentAt arguments index
    nameOf value
  | .defer action => deferWork ⟨name, action, arguments⟩
  | .sequence id actions => do
    let performed ← advanceSequence id
    performNth name arguments performed actions

def performAll (name : String) (arguments : List Value) :
    List Action → Performance (List Value)
  | [] => pure []
  | action :: rest => do
    let value ← action.perform name arguments
    let values ← performAll name arguments rest
    pure (value :: values)

/-- Performs the action at a position, or the last one if there are fewer. -/
def performNth (name : String) (arguments : List Value) (position : Nat) :
    List Action → Performance Value
  | [] => throw .outOfRange
  | [action] => action.perform name arguments
  | action :: other :: rest =>
    match position with
    | 0 => action.perform name arguments
    | position + 1 => performNth name arguments position (other :: rest)

end

namespace Stage

def call (id : Nat) (arguments : List Value) (stage : Stage) : Except Failure Value × Stage :=
  match stage.scripts[id]? with
  | none => (.error .outOfRange, stage)
  | some script =>
    if script.defers then
      let (value, stage) := stage.defer ⟨script.name, script.action, arguments⟩
      (.ok value, stage)
    else (script.action.perform script.name arguments).run.run stage

/-- What deferred work does when it is awaited. -/
def await (id : Nat) (stage : Stage) : Except Failure Value × Stage :=
  match stage.deferrals[id]? with
  | none => (.error .outOfRange, stage)
  | some deferral => (deferral.action.perform deferral.name deferral.arguments).run.run stage

/-- The behaviour of scripted callables. -/
def behaviour : Behaviour Stage := ⟨call, await⟩

end Stage

end ScenarioTree
