/-! # Errors

Callables raise errors of their own. An error is known by its class, which says how far it is caught, and by
the text that it was made with.
-/

namespace ScenarioTree

/-- What a class of errors descends from. -/
inductive Lineage where
  /-- The errors that concern the tree itself. -/
  | tree
  /-- The errors that tell of an unknown key. -/
  | unknownKey
  | ordinary
  /-- The errors that no handler for ordinary errors catches, such as an abort. -/
  | interrupt
deriving Repr, DecidableEq, Inhabited

/-- The name of the signal that ends an iteration. -/
def iterationEnd : String := "StopIteration"

/-- A class of errors. The signal that ends an iteration is none of them: work that waits for other work
cannot let it out. -/
structure ErrorClass where
  name : String
  lineage : Lineage := .ordinary
  /-- Its errors tell that an attribute is absent. -/
  tellsAbsence : Bool := false
  noSignal : name ≠ iterationEnd := by decide
deriving Repr, DecidableEq

/-- An error, with the text that it was made with. -/
structure RaisedError where
  errorClass : ErrorClass
  message : String
deriving Repr, DecidableEq

/-- The error in place of a result. -/
def RaisedError.within? {α : Type} : Except RaisedError α → Option RaisedError
  | .ok _ => none
  | .error error => some error

theorem RaisedError.within?_eq_some_iff {α : Type} {result : Except RaisedError α} {error : RaisedError} :
    within? result = some error ↔ result = .error error := by
  cases result <;> simp [within?]

theorem RaisedError.within?_eq_none_iff {α : Type} {result : Except RaisedError α} :
    within? result = none ↔ ∃ value, result = .ok value := by
  cases result <;> simp [within?]

namespace ErrorClass

def abort : ErrorClass := { name := "Abort", lineage := .interrupt }
def attributeError : ErrorClass := { name := "AttributeError", tellsAbsence := true }
def assertionError : ErrorClass := { name := "AssertionError" }
def keyError : ErrorClass := { name := "KeyError", lineage := .unknownKey }
def lookupError : ErrorClass := { name := "LookupError" }
def runtimeError : ErrorClass := { name := "RuntimeError" }
def syntaxError : ErrorClass := { name := "SyntaxError" }
def treeError : ErrorClass := { name := "TreeError", lineage := .tree }
def typeError : ErrorClass := { name := "TypeError" }
def valueError : ErrorClass := { name := "ValueError" }

end ErrorClass

instance : Inhabited ErrorClass := ⟨.runtimeError⟩

instance : Inhabited RaisedError := ⟨⟨.runtimeError, ""⟩⟩

end ScenarioTree
