import ScenarioTree.Schema.Location

/-! # Issues

What can be wrong with the fields of a node or with a setting, and where.
-/

namespace ScenarioTree

/-- What is wrong with a value. -/
inductive Fault where
  | missing
  | extraForbidden
  | invalidKey
  | callableType
  | stringType
  | stringUnicode
  | stringTooShort
  | tupleType
  | listType
  | modelType (className : String)
  | invalidNode
  | frozenInstance
  | boolType
  | boolParsing
deriving Repr, DecidableEq, Inhabited

namespace Fault

def code : Fault → String
  | missing => "missing"
  | extraForbidden => "extra_forbidden"
  | invalidKey => "invalid_key"
  | callableType => "callable_type"
  | stringType => "string_type"
  | stringUnicode => "string_unicode"
  | stringTooShort => "string_too_short"
  | tupleType => "tuple_type"
  | listType => "list_type"
  | modelType _ => "model_type"
  | invalidNode => "invalid_node"
  | frozenInstance => "frozen_instance"
  | boolType => "bool_type"
  | boolParsing => "bool_parsing"

def message : Fault → String
  | missing => "Field required"
  | extraForbidden => "Extra inputs are not permitted"
  | invalidKey => "Keys should be strings"
  | callableType => "Input should be callable"
  | stringType => "Input should be a valid string"
  | stringUnicode =>
    "Input should be a valid string, unable to parse raw data as a unicode string"
  | stringTooShort => "String should have at least 1 character"
  | tupleType => "Input should be a valid tuple"
  | listType => "Input should be a valid list"
  | modelType className => "Input should be a valid dictionary or instance of " ++ className
  | invalidNode => "Node must carry a \"feature\" or a \"scenario\" key"
  | frozenInstance => "Instance is frozen"
  | boolType => "Input should be a valid boolean"
  | boolParsing => "Input should be a valid boolean, unable to interpret input"

end Fault

structure Issue where
  fault : Fault
  location : List Segment
deriving Repr, DecidableEq, Inhabited

/-- An issue, seen from one step further out. -/
def Issue.within (segment : Segment) (issue : Issue) : Issue :=
  { issue with location := segment :: issue.location }

/-- A value as it is named in a location, which stays possible when showing it raises an error. -/
def Value.safeText (value : Value) : String :=
  match value.toText with
  | .ok text => text
  | .error _ => "<unprintable " ++ value.className ++ " object>"

/-- The segment of the location of a mapping key: a whole number of 64 bits stands for itself,
any other key for its display form. -/
def Segment.ofKey : Value → Segment
  | .str name => .key name
  | .bool b => .index (if b then 1 else 0)
  | .int i =>
    if Int64.minValue.toInt ≤ i && i ≤ Int64.maxValue.toInt then .index i else .key (Value.int i).safeText
  | v => .key v.safeText

/-- A step as the location of an issue holds it. -/
def Segment.reported (segment : Segment) : Segment := .ofKey segment.toValue

end ScenarioTree
