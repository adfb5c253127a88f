import ScenarioTree.Plain
import ScenarioTree.Value.Text

/-! # Masking

A value is shown as plain data: scalars stand for themselves, mappings and built nodes become
mappings with string keys, sequences become lists, and everything that exists only at run time is
replaced by a placeholder. Keys with the same display form are merged. A key that has no display form ends
masking with the error of showing it.
-/

namespace ScenarioTree

/-- What stands for a value that exists only at run time. -/
def runtimePlaceholder : String := "<runtime object>"

def maskOption : Option Callable → Plain
  | none => .null
  | some _ => .str runtimePlaceholder

def GroupHead.mask (head : GroupHead) : List (String × Plain) :=
  [("feature", .str head.name), ("before", maskOption head.before),
    ("before_each", maskOption head.beforeEach)]

def Check.masked : List (String × Plain) :=
  [("get_actual", .str runtimePlaceholder), ("comparison", .str runtimePlaceholder)]

mutual

def Node.maskFields : Node → List (String × Plain)
  | .plainGroup head tests => head.mask ++ [("tests", .list (maskNodes tests))]
  | .fanOutGroup head _ tests =>
    head.mask ++ [("fragment_set", .str runtimePlaceholder), ("tests", .list (maskNodes tests))]
  | .directLeaf name _ getFragment =>
    ("scenario", .str name) :: Check.masked ++ [("get_dom_fragment", maskOption getFragment)]
  | .conditionalLeaf name _ getFragment _ =>
    ("scenario", .str name) :: Check.masked ++
      [("get_dom_fragment", maskOption getFragment), ("given", .str runtimePlaceholder)]
  | .fanOutLeaf name _ _ given =>
    ("scenario", .str name) :: Check.masked ++
      [("fragment_set", .str runtimePlaceholder), ("given", maskOption given)]
  | .inheritingLeaf name getFragment inherited =>
    [("scenario", .str name), ("get_dom_fragment", maskOption getFragment),
      ("inherit", .list (maskNodes inherited))]

def maskNodes : List Node → List Plain
  | [] => []
  | node :: rest => .map (Node.maskFields node) :: maskNodes rest

end

def Model.maskFields : Model → List (String × Plain)
  | .node n => n.maskFields
  | .outsider (.baseGroup head) => head.mask
  | .outsider (.baseLeaf name) | .outsider (.alien name) => [("scenario", .str name)]

namespace Value

mutual

def mask : Value → Plain
  | null => .null
  | bool value => .bool value
  | int value => .int value
  | float value => .float value
  | str value => .str value
  | bytes data => .bytes data
  | bytearray data => .list (data.map fun byte => .int byte.toNat)
  | list items | tuple items | deque items => .list (maskItems items)
  | range stop => .list ((List.range stop.toNat).map fun (n : Nat) => .int n)
  | map entries | proxy entries => .map (assignAll (maskEntries entries))
  | model m => .map m.maskFields
  | set _ | iter .. | callable _ | object .. | deferred .. => .str runtimePlaceholder

def maskItems : List Value → List Plain
  | [] => []
  | item :: rest => mask item :: maskItems rest

def maskEntries : List (Value × Value) → List (String × Plain)
  | [] => []
  | (key, value) :: rest => (display key, mask value) :: maskEntries rest

end

mutual

/-- The error of showing a key in a value, the first in order. -/
def maskError? : Value → Option RaisedError
  | list items | tuple items | deque items => itemsMaskError? items
  | map entries | proxy entries => entriesMaskError? entries
  | _ => none

def itemsMaskError? : List Value → Option RaisedError
  | [] => none
  | item :: rest => (maskError? item).or (itemsMaskError? rest)

/-- The first error among entries, a key before its value. -/
def entriesMaskError? : List (Value × Value) → Option RaisedError
  | [] => none
  | (key, value) :: rest =>
    (RaisedError.within? key.toText).or ((maskError? value).or (entriesMaskError? rest))

end

/-- A value as plain data, unless one of its keys cannot be shown. -/
def masked (value : Value) : Except RaisedError Plain :=
  match value.maskError? with
  | some error => .error error
  | none => .ok value.mask

end Value

mutual

def Plain.toValue : Plain → Value
  | .null => .null
  | .bool value => .bool value
  | .int value => .int value
  | .float value => .float value
  | .str value => .str value
  | .bytes value => .bytes value
  | .list items => .list (plainItems items)
  | .map entries => .map (plainEntries entries)

def plainItems : List Plain → List Value
  | [] => []
  | item :: rest => item.toValue :: plainItems rest

def plainEntries : List (String × Plain) → List (Value × Value)
  | [] => []
  | (key, value) :: rest => (.str key, value.toValue) :: plainEntries rest

end

end ScenarioTree
