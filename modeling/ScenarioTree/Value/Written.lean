import ScenarioTree.Decimal.Notation
import ScenarioTree.Json.Basic
import ScenarioTree.Text.Quoted
import ScenarioTree.Value.Basic

/-! # Written values

A value is written as JSON. What JSON has no form for is an object with a single member that names
the type. A callable, an object and deferred work are written by their names, and so is a built
node; a built node can also be written with all its fields. The items of an iterator are not shown,
and a range is written by its length.
-/

namespace ScenarioTree

/-- An object with a single member. -/
def Json.tagged (tag : String) (content : Json) : Json := .obj [(tag, content)]

/-- Bytes in hexadecimal digits. -/
def hexText (data : List UInt8) : String :=
  String.ofList (data.flatMap fun byte => Text.hex 2 byte.toNat)

def Callable.written : Callable → Json
  | .defined _ name .object => .tagged "fn" (.str name)
  | .defined _ name .function => .tagged "function" (.str name)
  | .missing key => .tagged "missing" (.str key)

def writtenOption : Option Callable → Json
  | none => .null
  | some c => c.written

/-- The kind by which a class is written: the tag of a variant, and the name of a class that has
no kind. -/
def ModelClass.writtenKind : ModelClass → String
  | .variant v => v.tag
  | .alien => "alien"
  | c => c.name

/-- A built node with something that tells more about it. -/
def Model.writtenWith (model : Model) (name : String) (content : Json) : Json :=
  .tagged "model" (.obj [("kind", .str model.modelClass.writtenKind), (name, content)])

def Model.written (model : Model) : Json := model.writtenWith "name" (.str model.name)

def writtenField (name : String) (content : Json) : Json := .arr [.str name, content]

def writtenChildren (name : String) (children : List Json) : Json :=
  writtenField name (.tagged "tuple" (.arr children))

def GroupHead.writtenFields (head : GroupHead) : List Json :=
  [writtenField "feature" (.str head.name), writtenField "before" (writtenOption head.before),
    writtenField "before_each" (writtenOption head.beforeEach)]

def Check.writtenFields (check : Check) : List Json :=
  [writtenField "get_actual" check.getActual.written,
    writtenField "comparison" check.comparison.written]

mutual

def Node.writtenFields : Node → List Json
  | .plainGroup head tests => head.writtenFields ++ [writtenChildren "tests" (detailedNodes tests)]
  | .fanOutGroup head fragmentSet tests =>
    head.writtenFields ++ [writtenField "fragment_set" fragmentSet.written,
      writtenChildren "tests" (detailedNodes tests)]
  | .directLeaf name check getFragment =>
    writtenField "scenario" (.str name) :: check.writtenFields ++
      [writtenField "get_dom_fragment" (writtenOption getFragment)]
  | .conditionalLeaf name check getFragment given =>
    writtenField "scenario" (.str name) :: check.writtenFields ++
      [writtenField "get_dom_fragment" (writtenOption getFragment),
        writtenField "given" given.written]
  | .fanOutLeaf name check fragmentSet given =>
    writtenField "scenario" (.str name) :: check.writtenFields ++
      [writtenField "fragment_set" fragmentSet.written, writtenField "given" (writtenOption given)]
  | .inheritingLeaf name getFragment inherited =>
    [writtenField "scenario" (.str name),
      writtenField "get_dom_fragment" (writtenOption getFragment),
      writtenChildren "inherit" (detailedNodes inherited)]

def detailedNodes : List Node → List Json
  | [] => []
  | node :: rest =>
    (Model.node node).writtenWith "fields" (.arr (Node.writtenFields node)) :: detailedNodes rest

end

/-- A built node with all its fields. -/
def Model.detailed (model : Model) : Json :=
  model.writtenWith "fields" (.arr (match model with
    | .node n => n.writtenFields
    | .outsider (.baseGroup head) => head.writtenFields
    | .outsider (.baseLeaf name) | .outsider (.alien name) =>
      [writtenField "scenario" (.str name)]))

namespace Value

mutual

def written : Value → Json
  | null => .null
  | bool value => .bool value
  | int value => .int value
  | float value => .tagged "float" (.str (Decimal.text value))
  | str value => .str value
  | bytes data => .tagged "bytes" (.str (hexText data))
  | bytearray data => .tagged "bytearray" (.str (hexText data))
  | list items => .arr (writtenItems items)
  | tuple items => .tagged "tuple" (.arr (writtenItems items))
  | deque items => .tagged "deque" (.arr (writtenItems items))
  | set items => .tagged "set" (.arr (writtenItems items))
  | iter .. => .tagged "iter" .null
  | range stop => .tagged "range" (.int stop.toNat)
  | map entries => .tagged "map" (.arr (writtenEntries entries))
  | proxy entries => .tagged "proxy" (.arr (writtenEntries entries))
  | callable c => c.written
  | object name .. => .tagged "obj" (.str name)
  | deferred _ name => .tagged "deferred" (.str name)
  | model m => m.written

def writtenItems : List Value → List Json
  | [] => []
  | item :: rest => written item :: writtenItems rest

def writtenEntries : List (Value × Value) → List Json
  | [] => []
  | (key, value) :: rest => .arr [written key, written value] :: writtenEntries rest

end

end Value

end ScenarioTree
