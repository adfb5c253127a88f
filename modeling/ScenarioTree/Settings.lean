import ScenarioTree.Schema.Strict

/-! # Settings

Settings say how trees are built, which files are feature modules, and which attributes of a
module hold the tree, its context and its scope. Each is taken from an override if there is one,
otherwise from an environment variable, otherwise from its default. Unknown names are ignored.
-/

namespace ScenarioTree

structure Settings where
  strict : Bool := true
  filePattern : String := "^features_.+\\.py$"
  featuresAttribute : String := "FEATURES"
  contextAttribute : String := "CONTEXT"
  scopeAttribute : String := "SCOPE"
deriving Repr, DecidableEq, Inhabited

def trueWords : List String := ["1", "on", "t", "true", "y", "yes"]

def falseWords : List String := ["0", "off", "f", "false", "n", "no"]

/-- A truth value by its word, whose ASCII letters may have any case. -/
def validateBoolWord (word : String) : Validated Bool :=
  let lower := String.ofList (word.toList.map Char.toLower)
  if trueWords.contains lower then .valid true
  else if falseWords.contains lower then .valid false
  else .fault .boolParsing

/-- A truth value by its number, which must fit 64 bits. -/
def validateBoolNumber (i : Int) : Validated Bool :=
  if i == 0 then .valid false
  else if i == 1 then .valid true
  else if Int64.minValue.toInt ≤ i && i ≤ Int64.maxValue.toInt then .fault .boolParsing
  else .fault .boolType

/-- A truth value, or a word or number that stands for one. The least number of 64 bits does only as
an integer: as a double it might be rounded. -/
def validateBool : Value → Validated Bool
  | .bool b => .valid b
  | .int i => validateBoolNumber i
  | .float x =>
    match Value.wholeNumber? x with
    | some i => if i == Int64.minValue.toInt then .fault .boolType else validateBoolNumber i
    | none => .fault .boolType
  | .str word => validateBoolWord word
  | .bytes data =>
    match String.fromUTF8? ⟨data.toArray⟩ with
    | some word => validateBoolWord word
    | none => .fault .boolParsing
  | _ => .fault .boolType

def validateString : Value → Validated String
  | .str text => .valid text
  | .bytes data | .bytearray data =>
    match String.fromUTF8? ⟨data.toArray⟩ with
    | some text => .valid text
    | none => .fault .stringUnicode
  | _ => .fault .stringType

/-- What the names of environment variables start with, in lower case. -/
def variableStart : String := "featuretree_"

/-- The value that a setting is given: the last override of its name, or else the last environment
variable of its name in any case. A variable that is set again keeps its place. -/
def givenSetting? (environment : List (String × String)) (overrides : List (String × Value))
    (name : String) : Option Value :=
  match overrides.reverse.lookup name with
  | some value => some value
  | none =>
    let named := (assignAll environment).map fun (written, text) => (written.toLower, text)
    (named.reverse.lookup (variableStart ++ name)).map .str

/-- A setting: the value that it is given, validated, or its default. -/
def resolveSetting {α : Type} (environment : List (String × String))
    (overrides : List (String × Value)) (name : String) (validate : Value → Validated α)
    (default : α) : Validated α :=
  match givenSetting? environment overrides name with
  | some value => (validate value).within (.key name)
  | none => .valid default

/-- The settings that overrides and environment variables give, or all their issues. -/
def Settings.resolve (environment : List (String × String)) (overrides : List (String × Value)) :
    Validated Settings :=
  let defaults : Settings := {}
  let text := resolveSetting environment overrides
  Settings.mk <$> resolveSetting environment overrides "strict" validateBool defaults.strict
    <*> text "file_pattern" validateString defaults.filePattern
    <*> text "features_attribute" validateString defaults.featuresAttribute
    <*> text "context_attribute" validateString defaults.contextAttribute
    <*> text "scope_attribute" validateString defaults.scopeAttribute

/-- The settings under a switch that can only turn strictness off. -/
def Settings.switched (environment : List (String × String)) (relaxed : Bool) :
    Validated Settings :=
  Settings.resolve environment (if relaxed then [("strict", .bool false)] else [])

end ScenarioTree
