import ScenarioTree.Proofs.Declaration.LinkedTree

/-! # Paths that are found by climbing

Every element of a linked tree knows the group around it. So the path of a test can be found from below, by
climbing along these links, and from above, by remembering the groups on the way down. In a tree that is listed
depth first both give the same, test by test.
-/

namespace ScenarioTree

section

variable (elements : List Element)

def groupName (number : Nat) : String :=
  match itemOf elements number with
  | some (.group name _) => name
  | _ => ""

def isTest (number : Nat) : Bool :=
  match itemOf elements number with
  | some (.test ..) => true
  | _ => false

/-- Climbing from a test along the links to the groups around gives a path: the names of the groups that are met,
the outermost first and those without a name left out, and then the name of the test. -/
def ClimbsTo (number : Nat) (path : List Value) : Prop :=
  ∃ name body around, itemOf elements number = some (.test name body) ∧ Ancestors elements number around ∧
    path = ((around.map (groupName elements)).filter (!·.isEmpty)).map .str ++ [name]

end

variable {elements : List Element}

mutual

/-- The tests of a declaration are those of its elements, and climbing from them gives their paths. -/
theorem Declaration.climbs (declaration : Declaration) {parent : Option Nat} {number : Nat} {around : List Nat}
    {enclosing : List Enclosing}
    (stand : StandAt elements number (declaration.listing parent number))
    (ancestors : Ancestors elements number around)
    (names : around.map (groupName elements) = enclosing.map Enclosing.name) (position : List Nat) :
    List.Forall₂ (ClimbsTo elements) ((List.range' number declaration.extent).filter (isTest elements))
      ((declaration.cases enclosing position).map Case.path) := by
  match declaration with
  | .test name body =>
    have found : itemOf elements number = some (.test name body) := itemOf_of_getElem? stand.head
    have passed :
        (List.range' number (Declaration.extent (.test name body))).filter (isTest elements) = [number] := by
      change [number].filter (isTest elements) = [number]
      simp [isTest, found]
    rw [passed]
    refine .cons ⟨name, body, around, found, ancestors, ?_⟩ .nil
    rw [names]
    rfl
  | .group name hooks children =>
    rw [Declaration.listing] at stand
    have found : itemOf elements number = some (.group name hooks) := itemOf_of_getElem? stand.head
    have itself : isTest elements number = false := by rw [isTest, found]
    have own : groupName elements number = name := by rw [groupName, found]
    rw [Declaration.extent, List.range'_succ, List.filter_cons_of_neg (by simp [itself])]
    refine climbsOf children stand.tail ancestors ?_ position 0
    simp [names, own]
termination_by structural declaration

private theorem climbsOf (declarations : List Declaration) {group number : Nat} {around : List Nat}
    {enclosing : List Enclosing} (stand : StandAt elements number (listingOf group number declarations))
    (ancestors : Ancestors elements group around)
    (names : (around ++ [group]).map (groupName elements) = enclosing.map Enclosing.name) (position : List Nat)
    (index : Nat) :
    List.Forall₂ (ClimbsTo elements) ((List.range' number (extentOf declarations)).filter (isTest elements))
      ((casesOf enclosing position index declarations).map Case.path) := by
  match declarations with
  | [] => exact .nil
  | declaration :: rest =>
    rw [listingOf] at stand
    have later := stand.right
    rw [declaration.length_listing] at later
    rw [extentOf, ← List.range'_append_1, List.filter_append, casesOf, List.map_append]
    refine List.rel_append ?_ (climbsOf rest later ancestors names position (index + 1))
    exact declaration.climbs stand.left (.inside stand.left.parentOf ancestors) names (position ++ [index])
termination_by structural declarations

end

/-- Climbing from the tests of a tree, depth first, gives their paths. -/
theorem Group.climbs (root : Group) :
    List.Forall₂ (ClimbsTo root.listing) ((List.range root.listing.length).filter (isTest root.listing))
      (root.cases.map Case.path) := by
  have stand : StandAt root.listing 0 (root.toDeclaration.listing none 0) := List.prefix_refl _
  have nameless : ([] : List Nat).map (groupName root.listing) = ([] : List Enclosing).map Enclosing.name := rfl
  have climbs := root.toDeclaration.climbs stand (.outermost stand.parentOf) nameless []
  have length : root.toDeclaration.extent = root.listing.length := (root.toDeclaration.length_listing none 0).symm
  rw [length, ← List.range_eq_range'] at climbs
  exact climbs

end ScenarioTree
