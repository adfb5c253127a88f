import ScenarioTree.Failure

/-! # Assignments to built nodes

A built node is fixed: its fields cannot be assigned, and neither can attributes that it does not
have. Its kind belongs to its class. Only names that start with an underscore are free.
-/

namespace ScenarioTree

/-- Why an attribute of a built node cannot be assigned, if it cannot. -/
def Model.assignmentFailure? (model : Model) (name : String) : Option Failure :=
  if name == "kind" then some (.classAttribute model.modelClass.name name)
  else if name.startsWith "_" then none
  else some (.invalid [⟨.frozenInstance, [.key name]⟩])

end ScenarioTree
