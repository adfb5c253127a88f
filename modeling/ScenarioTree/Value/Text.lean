import ScenarioTree.Decimal.Notation
import ScenarioTree.Text.Quoted
import ScenarioTree.Value.Basic

/-! # Text of values

A value has a literal form, which shows its structure and quotes text, and a display form, which
differs from it for text, for mappings that are no dictionaries, for objects, and for built nodes. Some values
have none: showing a whole number of too many digits raises an error, and so may showing an object.
-/

namespace ScenarioTree

def boolLiteral (value : Bool) : String := if value then "True" else "False"

/-- The literal form of an absent value. -/
def nullLiteral : String := "None"

def Callable.literal : Callable → String
  | .defined _ name .object => "<fn " ++ name ++ ">"
  | .defined _ name .function => "<function " ++ name ++ ">"
  | .missing key => "<missing " ++ key ++ ">"

def optionLiteral : Option Callable → String
  | none => nullLiteral
  | some c => c.literal

/-- Texts in parentheses, a single one followed by a comma. -/
def tupleLiteral : List String → String
  | [item] => "(" ++ item ++ ",)"
  | items => "(" ++ ", ".intercalate items ++ ")"

def GroupHead.literals (head : GroupHead) : List (String × String) :=
  [("feature", Text.quote head.name), ("before", optionLiteral head.before),
    ("before_each", optionLiteral head.beforeEach)]

def Check.literals (check : Check) : List (String × String) :=
  [("get_actual", check.getActual.literal), ("comparison", check.comparison.literal)]

/-- Named texts with an equals sign in each. -/
def assignments (fields : List (String × String)) : List String :=
  fields.map fun (name, text) => name ++ "=" ++ text

def construction (className : String) (fields : List (String × String)) : String :=
  className ++ "(" ++ ", ".intercalate (assignments fields) ++ ")"

mutual

def Node.literals : Node → List (String × String)
  | .plainGroup head tests => head.literals ++ [("tests", tupleLiteral (nodeLiterals tests))]
  | .fanOutGroup head fragmentSet tests =>
    head.literals ++
      [("fragment_set", fragmentSet.literal), ("tests", tupleLiteral (nodeLiterals tests))]
  | .directLeaf name check getFragment =>
    ("scenario", Text.quote name) :: check.literals ++
      [("get_dom_fragment", optionLiteral getFragment)]
  | .conditionalLeaf name check getFragment given =>
    ("scenario", Text.quote name) :: check.literals ++
      [("get_dom_fragment", optionLiteral getFragment), ("given", given.literal)]
  | .fanOutLeaf name check fragmentSet given =>
    ("scenario", Text.quote name) :: check.literals ++
      [("fragment_set", fragmentSet.literal), ("given", optionLiteral given)]
  | .inheritingLeaf name getFragment inherited =>
    [("scenario", Text.quote name), ("get_dom_fragment", optionLiteral getFragment),
      ("inherit", tupleLiteral (nodeLiterals inherited))]

def nodeLiterals : List Node → List String
  | [] => []
  | node :: rest =>
    construction (ModelClass.variant node.variant).name (Node.literals node) :: nodeLiterals rest

end

/-- The literal forms of the fields of a built node. -/
def Model.literals : Model → List (String × String)
  | .node n => n.literals
  | .outsider (.baseGroup head) => head.literals
  | .outsider (.baseLeaf name) | .outsider (.alien name) => [("scenario", Text.quote name)]

/-- The number of digits up to which a whole number is written out. -/
def digitLimit : Nat := 4300

/-- The text of a whole number. -/
def integerText (value : Int) : Except RaisedError String :=
  if (Nat.toDigits 10 value.natAbs).length ≤ digitLimit then .ok (toString value)
  else .error ⟨.valueError, "Exceeds the limit (4300 digits) for integer string conversion; " ++
    "use sys.set_int_max_str_digits() to increase the limit"⟩

namespace Value

mutual

/-- The literal form of a value, or the error that writing it raises. -/
def toLiteral : Value → Except RaisedError String
  | null => .ok nullLiteral
  | bool value => .ok (boolLiteral value)
  | int value => integerText value
  | float value => .ok (Decimal.text value)
  | str value => .ok (Text.quote value)
  | bytes data => .ok (Text.quoteBytes data)
  | bytearray data => .ok ("bytearray(" ++ Text.quoteByteArray data ++ ")")
  | list items => (toLiterals items).map fun texts => "[" ++ ", ".intercalate texts ++ "]"
  | tuple items => (toLiterals items).map tupleLiteral
  | deque items => (toLiterals items).map fun texts => "deque([" ++ ", ".intercalate texts ++ "])"
  | set [] => .ok "set()"
  | set items => (toLiterals items).map fun texts => "\x7b" ++ ", ".intercalate texts ++ "\x7d"
  | iter .. => .ok "<list_iterator>"
  | range stop => (integerText stop).map fun text => "range(0, " ++ text ++ ")"
  | map entries =>
    (toEntryLiterals entries).map fun texts => "\x7b" ++ ", ".intercalate texts ++ "\x7d"
  | proxy entries =>
    (toEntryLiterals entries).map fun texts =>
      "mappingproxy(\x7b" ++ ", ".intercalate texts ++ "\x7d)"
  | callable c => .ok c.literal
  | object _ _ _ rendering => rendering.literal
  | deferred _ name => .ok ("<deferred " ++ name ++ ">")
  | model m => .ok (construction m.modelClass.name m.literals)

/-- The literal forms of values, or the first error that writing one of them raises. -/
def toLiterals : List Value → Except RaisedError (List String)
  | [] => .ok []
  | item :: rest => do
    let text ← toLiteral item
    let texts ← toLiterals rest
    pure (text :: texts)

/-- The literal forms of entries, or the first error that writing a key or a value raises. -/
def toEntryLiterals : List (Value × Value) → Except RaisedError (List String)
  | [] => .ok []
  | (key, value) :: rest => do
    let name ← toLiteral key
    let text ← toLiteral value
    let texts ← toEntryLiterals rest
    pure ((name ++ ": " ++ text) :: texts)

end

/-- The display form of a value, or the error that showing it raises. -/
def toText : Value → Except RaisedError String
  | str value => .ok value
  | proxy entries => (map entries).toLiteral
  | object _ _ _ rendering => rendering.display
  | model m => .ok (" ".intercalate (assignments m.literals))
  | v => v.toLiteral

/-- The literal form of a value, empty if it has none. -/
def literal (v : Value) : String := v.toLiteral.toOption.getD ""

/-- The display form of a value, empty if it has none. -/
def display (v : Value) : String := v.toText.toOption.getD ""

@[simp] theorem toText_str (text : String) : (str text).toText = .ok text := rfl

@[simp] theorem display_str (text : String) : (str text).display = text := rfl

end Value

end ScenarioTree
