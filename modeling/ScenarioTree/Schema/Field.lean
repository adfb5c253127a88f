import ScenarioTree.Node

/-! # Fields

A field has an attribute name and may be written under several keys. When two of its keys are
present, the first in the order of declaration is the one that counts.
-/

namespace ScenarioTree

/-- A place from which a field may be read: a key, or a path into nested data. -/
inductive AliasChoice where
  | key (name : String)
  | path (steps : List String)
deriving Repr, DecidableEq

/-- The declared keys of a field. Without any, it is read from its own name. -/
structure Field where
  name : String
  aliases : List AliasChoice := []
deriving Repr, DecidableEq

namespace Field

/-- The keys among the declared places, in order. -/
def aliasKeys (field : Field) : List String :=
  field.aliases.filterMap fun choice => match choice with
    | .key name => some name
    | .path _ => none

/-- The keys under which a field is looked for, in order. -/
def keys (field : Field) : List String :=
  if field.aliases.isEmpty then [field.name] else field.aliasKeys

end Field

/-- Every key accepted by a list of fields, names and aliases, sorted and without repetition. -/
def acceptedKeys (fields : List Field) : List String :=
  ((fields.flatMap fun field => field.name :: field.aliasKeys).mergeSort fun a b => a ≤ b).eraseDups

namespace Field

def plain (name : String) : Field := { name }

/-- A field that is also read from a second spelling, which comes first. -/
def spelled (alternative name : String) : Field := ⟨name, [.key alternative, .key name]⟩

def feature : Field := plain "feature"
def before : Field := plain "before"
def beforeEach : Field := spelled "beforeEach" "before_each"
def tests : Field := plain "tests"
def fragmentSet : Field := spelled "set" "fragment_set"
def scenario : Field := plain "scenario"
def getActual : Field := spelled "getActual" "get_actual"
def comparison : Field := plain "comparison"
def getFragment : Field := spelled "getDomFragment" "get_dom_fragment"
def given : Field := plain "given"
def inherited : Field := plain "inherit"

end Field

/-- The fields of a variant, in the order of their declaration. -/
def Variant.fields : Variant → List Field
  | .plainGroup => [.feature, .before, .beforeEach, .tests]
  | .fanOutGroup => [.feature, .before, .beforeEach, .fragmentSet, .tests]
  | .directLeaf => [.scenario, .getActual, .comparison, .getFragment]
  | .conditionalLeaf => [.scenario, .getActual, .comparison, .getFragment, .given]
  | .fanOutLeaf => [.scenario, .getActual, .comparison, .fragmentSet, .given]
  | .inheritingLeaf => [.scenario, .getFragment, .inherited]

def Variant.titleField (variant : Variant) : Field := if variant.isGroup then .feature else .scenario

/-- The field of a variant that holds its children. -/
def Variant.childField? : Variant → Option Field
  | .plainGroup | .fanOutGroup => some .tests
  | .inheritingLeaf => some .inherited
  | _ => none

/-- The fields of a class, in the order of their declaration. -/
def ModelClass.fields : ModelClass → List Field
  | .variant v => v.fields
  | .baseGroup => [.feature, .before, .beforeEach]
  | .baseLeaf | .alien => [.scenario]

end ScenarioTree
