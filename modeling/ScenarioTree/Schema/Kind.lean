import ScenarioTree.Schema.Field
import ScenarioTree.Value.Mapping

/-! # Variants of plain mappings

A plain mapping names no variant. Strict construction tells it from the keys that the mapping
carries, relaxed construction from the values under them.
-/

namespace ScenarioTree

/-- Whether a mapping carries one of the keys of a field. -/
def Field.isCarried (field : Field) (entries : List (Value × Value)) : Bool :=
  field.keys.any fun key => Value.hasName key entries

/-- The variant of a mapping by its keys. A group fans out when it carries a fragment set; a
scenario fans out, delegates or is conditional, in this order. -/
def Variant.ofKeys? (entries : List (Value × Value)) : Option Variant :=
  if Field.feature.isCarried entries then
    some (if Field.fragmentSet.isCarried entries then .fanOutGroup else .plainGroup)
  else if Field.scenario.isCarried entries then
    some (if Field.fragmentSet.isCarried entries then .fanOutLeaf
      else if Field.inherited.isCarried entries then .inheritingLeaf
      else if Field.given.isCarried entries then .conditionalLeaf
      else .directLeaf)
  else none

/-- Whether the value under a string key has a property; an absent one counts as null. -/
def valueHas (property : Value → Bool) (key : String) (entries : List (Value × Value)) : Bool :=
  property ((Value.named? key entries).getD .null)

/-- The variant of a mapping by its shape. The name must count as true, the modifiers count when
they are callable or sequences, and the first match wins. -/
def Variant.ofShape? (entries : List (Value × Value)) : Option Variant :=
  if valueHas Value.isTruthy "feature" entries then
    if valueHas Value.isCallable "set" entries then some .fanOutGroup
    else if valueHas Value.isSequence "tests" entries then some .plainGroup
    else none
  else if valueHas Value.isTruthy "scenario" entries then
    some (if valueHas Value.isCallable "set" entries then .fanOutLeaf
      else if valueHas Value.isSequence "inherit" entries then .inheritingLeaf
      else if valueHas Value.isCallable "given" entries then .conditionalLeaf
      else .directLeaf)
  else none

/-- The tag of a value as a node: of a built node by its class, of a mapping by its keys. -/
def Value.kind? : Value → Option String
  | .model m => m.kind?
  | v => (v.entries?.bind Variant.ofKeys?).map Variant.tag

end ScenarioTree
