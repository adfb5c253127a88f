import ScenarioTree.Error
import ScenarioTree.Node

/-! # Values

The values that a feature tree is written with and that its callables pass around. Most of them
are opaque to the interpreter; it only asks whether a value is a mapping or a sequence, whether it
counts as true, and which attributes it exposes. The entries of a mapping keep their order.
-/

namespace ScenarioTree

/-- How an object is shown, in display and in literal form. Showing it may raise an error instead. -/
structure Rendering where
  display : Except RaisedError String
  literal : Except RaisedError String
deriving Repr, Inhabited

instance : Coe String Rendering := ⟨fun text => ⟨.ok text, .ok text⟩⟩

inductive Value where
  | null
  | bool (value : Bool)
  | int (value : Int)
  | float (value : Float)
  | str (value : String)
  | bytes (data : List UInt8)
  | bytearray (data : List UInt8)
  | list (items : List Value)
  | tuple (items : List Value)
  | deque (items : List Value)
  | set (items : List Value)
  /-- A one-shot iterator over the items; `id` tells it apart from other iterators. -/
  | iter (id : Nat) (items : List Value)
  | range (stop : Int)
  | map (entries : List (Value × Value))
  /-- A mapping that is not a dictionary. -/
  | proxy (entries : List (Value × Value))
  | callable (callable : Callable)
  | object (name : String) (attributes : List (String × Value)) (truthy : Bool)
      (rendering : Rendering)
  /-- Work that is done when it is awaited; `id` tells it apart from other work. -/
  | deferred (id : Nat) (name : String)
  | model (model : Model)
deriving Repr, Inhabited

namespace Value

abbrev ofNode (node : Node) : Value := .model (.node node)

def entries? : Value → Option (List (Value × Value))
  | map entries | proxy entries => some entries
  | _ => none

/-- Whether a value is an ordered node or scope sequence. Text is none, and neither are mappings,
sets and iterators. -/
def isSequence : Value → Bool
  | list _ | tuple _ | deque _ | range _ | bytearray _ => true
  | _ => false

/-- The whole numbers below a bound. -/
def rangeItems (stop : Int) : List Value :=
  (List.range stop.toNat).map fun (n : Nat) => .int n

def byteItems (data : List UInt8) : List Value :=
  data.map fun byte => .int byte.toNat

def sequenceItems? : Value → Option (List Value)
  | list items | tuple items | deque items => some items
  | range stop => some (rangeItems stop)
  | bytearray data => some (byteItems data)
  | _ => none

/-- The items of a list or tuple, the sequences that a location can be followed through. -/
def indexedItems? : Value → Option (List Value)
  | list items | tuple items => some items
  | _ => none

def callable? : Value → Option Callable
  | callable c => some c
  | _ => none

def isCallable (v : Value) : Bool := v.callable?.isSome

/-- Whether a value counts as true. Empty collections, empty text and zeros do not. -/
def isTruthy : Value → Bool
  | null => false
  | bool value => value
  | int value => value != 0
  | float value => value != 0.0
  | str value => !value.isEmpty
  | bytes data | bytearray data => !data.isEmpty
  | list items | tuple items | deque items | set items => !items.isEmpty
  | range stop => 0 < stop
  | map entries | proxy entries => !entries.isEmpty
  | object _ _ truthy _ => truthy
  | iter .. | callable _ | deferred .. | model _ => true

def className : Value → String
  | null => "NoneType"
  | bool _ => "bool"
  | int _ => "int"
  | float _ => "float"
  | str _ => "str"
  | bytes _ => "bytes"
  | bytearray _ => "bytearray"
  | list _ => "list"
  | tuple _ => "tuple"
  | deque _ => "collections.deque"
  | set _ => "set"
  | iter .. => "list_iterator"
  | range _ => "range"
  | map _ => "dict"
  | proxy _ => "mappingproxy"
  | callable (.defined _ _ .object) => "Fn"
  | callable (.defined _ _ .function) => "function"
  | callable (.missing _) => "StandIn"
  | object .. => "Obj"
  | deferred .. => "Deferred"
  | model m => m.modelClass.name

def ofOption : Option Callable → Value
  | none => null
  | some c => callable c

end Value

/-- The fields of the common part of groups, by attribute. -/
def GroupHead.fields (head : GroupHead) : List (String × Value) :=
  [("feature", .str head.name), ("before", .ofOption head.before),
    ("before_each", .ofOption head.beforeEach)]

/-- The fields that gather and verify data, by attribute. -/
def Check.fields (check : Check) : List (String × Value) :=
  [("get_actual", .callable check.getActual), ("comparison", .callable check.comparison)]

/-- The place that a position means among so many items; a negative one counts from the end. -/
def placeOf? (count : Nat) (position : Int) : Option Nat :=
  if 0 ≤ position then if position < count then some position.toNat else none
  else if -position ≤ count then some (count - position.natAbs)
  else none

/-- An item by its position, which counts from the end if it is negative. -/
def itemAt? {α : Type} (items : List α) (position : Int) : Option α :=
  (placeOf? items.length position).bind (items[·]?)

def Value.ofNodes (nodes : List Node) : Value := .tuple (nodes.map .ofNode)

/-- The fields of a node, by attribute, in the order of their declaration. -/
def Node.fields : Node → List (String × Value)
  | .plainGroup head tests => head.fields ++ [("tests", .ofNodes tests)]
  | .fanOutGroup head fragmentSet tests =>
    head.fields ++ [("fragment_set", .callable fragmentSet), ("tests", .ofNodes tests)]
  | .directLeaf name check getFragment =>
    ("scenario", .str name) :: check.fields ++ [("get_dom_fragment", .ofOption getFragment)]
  | .conditionalLeaf name check getFragment given =>
    ("scenario", .str name) :: check.fields ++
      [("get_dom_fragment", .ofOption getFragment), ("given", .callable given)]
  | .fanOutLeaf name check fragmentSet given =>
    ("scenario", .str name) :: check.fields ++
      [("fragment_set", .callable fragmentSet), ("given", .ofOption given)]
  | .inheritingLeaf name getFragment inherited =>
    [("scenario", .str name), ("get_dom_fragment", .ofOption getFragment),
      ("inherit", .ofNodes inherited)]

def Model.fields : Model → List (String × Value)
  | .node n => n.fields
  | .outsider (.baseGroup head) => head.fields
  | .outsider (.baseLeaf name) | .outsider (.alien name) => [("scenario", .str name)]

namespace Value

/-- What a value exposes under a name. Objects expose the attributes they were made with, of which
the last one of a name counts; built nodes expose their fields, their display name, and their kind
where their class has one. -/
def exposed? (name : String) : Value → Option Value
  | object _ attributes _ _ => attributes.reverse.lookup name
  | model m =>
    match m.fields.lookup name with
    | some value => some value
    | none =>
      if name == "name" then some (.str m.name)
      else if name == "kind" then m.kind?.map .str
      else none
  | _ => none

end Value

end ScenarioTree
