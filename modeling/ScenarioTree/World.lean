import ScenarioTree.Schema.Build

/-! # Calling

What callables and awaited work do is given from outside, over a state of its own. The world around
it records every call and every wait in order, the iterators whose items were taken, and the
warnings. A computation may fail; the world it leaves behind is kept all the same.
-/

namespace ScenarioTree

/-- What the callables of a tree and the work that they defer do, by identity. -/
structure Behaviour (σ : Type) where
  call : Nat → List Value → σ → Except Failure Value × σ
  await : Nat → σ → Except Failure Value × σ

/-- Something that happened to a callable or to deferred work. -/
inductive Event where
  | call (id : Nat) (name : String) (arguments : List Value)
  | await (id : Nat) (name : String)
deriving Repr, Inhabited

/-- The state of the callables and what was observed so far. -/
structure World (σ : Type) where
  store : σ
  log : List Event := []
  spent : Spent := []
  warnings : List Warning := []
deriving Repr, Inhabited

/-- A computation that may call and may fail. -/
abbrev Run (σ : Type) := ExceptT Failure (StateM (World σ))

variable {σ α : Type}

def record (event : Event) : Run σ Unit :=
  modify fun world => { world with log := world.log ++ [event] }

/-- Lets the outside act on its state. -/
def perform (action : σ → Except Failure α × σ) : Run σ α := ExceptT.mk fun world =>
  let (result, store) := action world.store
  (result, { world with store })

/-- Calls a value. The stand-in for a missing callable fails, and so does what cannot be called. -/
def call (behaviour : Behaviour σ) (target : Value) (arguments : List Value) : Run σ Value :=
  match target with
  | .callable (.defined id name _) => do
    record (.call id name arguments)
    perform (behaviour.call id arguments)
  | .callable (.missing key) => throw (.standInCalled key)
  | other => throw (.notInvocable other.className)

/-- The outcome of a value: deferred work is awaited, anything else is its own outcome. -/
def finish (behaviour : Behaviour σ) : Value → Run σ Value
  | .deferred id name => do
    record (.await id name)
    perform (behaviour.await id)
  | value => pure value

def callAndFinish (behaviour : Behaviour σ) (target : Value) (arguments : List Value) :
    Run σ Value := do
  finish behaviour (← call behaviour target arguments)

/-- The elements of a value that can be iterated over and is no iterator. Text yields its
characters, a mapping its keys, and a built node its fields with their names. -/
def Value.elements? : Value → Option (List Value)
  | .str text => some (text.toList.map fun c => .str (String.singleton c))
  | .bytes data | .bytearray data => some (Value.byteItems data)
  | .list items | .tuple items | .deque items | .set items => some items
  | .range stop => some (Value.rangeItems stop)
  | .map entries | .proxy entries => some (entries.map Prod.fst)
  | .model m => some (m.fields.map fun (name, value) => .tuple [.str name, value])
  | _ => none

/-- The elements of a value. Those of an iterator can be taken once. -/
def elements : Value → Run σ (List Value)
  | .iter id items => do
    let world ← get
    if world.spent.contains id then pure []
    else
      set { world with spent := id :: world.spent }
      pure items
  | value =>
    match value.elements? with
    | some items => pure items
    | none => throw (.notIterable value.className)

/-- A valid result, or the failure that it is none. -/
def ofValidated : Validated α → Run σ α
  | .valid value => pure value
  | .invalid issues => throw (.invalid issues)

/-- Builds a tree; its warnings are emitted even if it cannot be built. -/
def Builder.run (builder : Builder) (nodes : Value) : Run σ (List Model) := ExceptT.mk fun world =>
  let (built, spent) := (builder.attempt nodes).run world.spent
  (built.models, { world with spent, warnings := world.warnings ++ built.warnings })

end ScenarioTree
