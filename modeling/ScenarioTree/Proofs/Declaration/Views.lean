import ScenarioTree.Collection

/-! # Views of a declared tree

A declared tree is looked at in three ways: as its tests, each with the names that lead to it; as an
outline, which nests the names; and as what a test runner collects, which nests identifiers. Each way
is a traversal of its own. When tests are named by text and no group is nameless, they show the same
tests in the same order, and under the same names.
-/

namespace ScenarioTree

mutual

/-- The names from the outermost one to each text of an outline, depth first. -/
def Plain.chains : Plain → List (List String)
  | .str text => [[text]]
  | .list items => chainsOf items
  | .map entries => chainsUnder entries
  | _ => []

def chainsOf : List Plain → List (List String)
  | [] => []
  | item :: rest => item.chains ++ chainsOf rest

/-- The chains of successive entries, each behind the key of its entry. -/
def chainsUnder : List (String × Plain) → List (List String)
  | [] => []
  | (name, value) :: rest => value.chains.map (name :: ·) ++ chainsUnder rest

end

mutual

/-- The items of what was collected, depth first: of each the identifiers from the outermost one to its
own, and the test that it holds. -/
def Collected.items (around : List String) : Collected → List (List String × Case)
  | .item identifier case => [(around ++ [identifier], case)]
  | .collector identifier children => itemsOf (around ++ [identifier]) children

/-- The items of successive trees. -/
def itemsOf (around : List String) : List Collected → List (List String × Case)
  | [] => []
  | collected :: rest => collected.items around ++ itemsOf around rest

end

mutual

/-- A declaration consists of groups whose names meet a condition and of tests that meet another one. -/
def Declaration.ConsistsOf (group : String → Prop) (test : Value → Body → Prop) : Declaration → Prop
  | .test name body => test name body
  | .group name _ children => group name ∧ ConsistOf group test children

def ConsistOf (group : String → Prop) (test : Value → Body → Prop) : List Declaration → Prop
  | [] => True
  | declaration :: rest => declaration.ConsistsOf group test ∧ ConsistOf group test rest

end

def HasTitle (name : Value) (_ : Body) : Prop := ∃ text, name = .str text

abbrev IsProper (name : String) : Prop := name ≠ ""

theorem consistOf_append {group : String → Prop} {test : Value → Body → Prop}
    {first others : List Declaration} :
    ConsistOf group test (first ++ others) ↔ ConsistOf group test first ∧ ConsistOf group test others := by
  induction first with
  | nil => simp [ConsistOf]
  | cons declaration rest ih => simp only [List.cons_append, ConsistOf, ih, and_assoc]

private theorem namesOf_append_named (enclosing : List Enclosing) {group : Enclosing}
    (named : IsProper group.name) :
    namesOf (enclosing ++ [group]) = namesOf enclosing ++ [group.name] := by
  simpa [namesOf] using named

mutual

/-- The tests of a declaration meet the condition on the tests that it consists of. -/
theorem Declaration.forall_cases {group : String → Prop} {test : Value → Body → Prop}
    (declaration : Declaration) (consists : declaration.ConsistsOf group test) (enclosing : List Enclosing)
    (position : List Nat) : ∀ case ∈ declaration.cases enclosing position, test case.name case.body := by
  match declaration with
  | .test name body => exact List.forall_mem_singleton.mpr consists
  | .group name hooks children =>
    exact forall_casesOf children consists.2 (enclosing ++ [⟨position, name, hooks⟩]) position 0
termination_by structural declaration

theorem forall_casesOf {group : String → Prop} {test : Value → Body → Prop} (declarations : List Declaration)
    (consist : ConsistOf group test declarations) (enclosing : List Enclosing) (position : List Nat)
    (index : Nat) : ∀ case ∈ casesOf enclosing position index declarations, test case.name case.body := by
  match declarations with
  | [] => exact nofun
  | child :: rest =>
    refine List.forall_mem_append.mpr ⟨?_, ?_⟩
    · exact child.forall_cases consist.1 enclosing (position ++ [index])
    · exact forall_casesOf rest consist.2 enclosing position (index + 1)
termination_by structural declarations

end

mutual

/-- A tree has as many tests as there are texts in its outline, whatever its groups are called. -/
theorem Declaration.length_cases {group : String → Prop} (declaration : Declaration)
    (named : declaration.ConsistsOf group HasTitle) (enclosing : List Enclosing) (position : List Nat) :
    (declaration.cases enclosing position).length = declaration.outline.chains.length := by
  match declaration with
  | .test name body =>
    obtain ⟨text, rfl⟩ := named
    rfl
  | .group name hooks children =>
    simp only [Declaration.cases, Declaration.outline, Plain.chains, chainsUnder, List.append_nil,
      List.length_map]
    exact length_casesOf children named.2 (enclosing ++ [⟨position, name, hooks⟩]) position 0
termination_by structural declaration

private theorem length_casesOf {group : String → Prop} (declarations : List Declaration)
    (named : ConsistOf group HasTitle declarations) (enclosing : List Enclosing) (position : List Nat)
    (index : Nat) :
    (casesOf enclosing position index declarations).length = (chainsOf (outlines declarations)).length := by
  match declarations with
  | [] => rfl
  | child :: rest =>
    simp only [casesOf, outlines, chainsOf, List.length_append]
    rw [child.length_cases named.1, length_casesOf rest named.2]
termination_by structural declarations

end

mutual

/-- The paths of tests are the chains of the outline behind the names of the groups around. -/
theorem Declaration.map_path_cases (declaration : Declaration)
    (named : declaration.ConsistsOf IsProper HasTitle) (enclosing : List Enclosing) (position : List Nat) :
    (declaration.cases enclosing position).map Case.path =
      declaration.outline.chains.map fun chain => (namesOf enclosing ++ chain).map .str := by
  match declaration with
  | .test name body =>
    obtain ⟨text, rfl⟩ := named
    simp [Declaration.cases, Declaration.outline, Value.mask, Plain.chains, Case.path, pathThrough]
  | .group name hooks children =>
    have inside := map_path_casesOf children named.2 (enclosing ++ [⟨position, name, hooks⟩]) position 0
    rw [namesOf_append_named enclosing named.1] at inside
    simp only [Declaration.cases, Declaration.outline, Plain.chains, chainsUnder, List.append_nil,
      List.map_map]
    rw [inside]
    simp [Function.comp_def]
termination_by structural declaration

private theorem map_path_casesOf (declarations : List Declaration) (named : ConsistOf IsProper HasTitle declarations)
    (enclosing : List Enclosing) (position : List Nat) (index : Nat) :
    (casesOf enclosing position index declarations).map Case.path =
      (chainsOf (outlines declarations)).map fun chain => (namesOf enclosing ++ chain).map .str := by
  match declarations with
  | [] => rfl
  | child :: rest =>
    rw [casesOf, outlines, chainsOf, List.map_append, List.map_append]
    rw [child.map_path_cases named.1, map_path_casesOf rest named.2]
termination_by structural declarations

end

mutual

/-- Below a collector whose identifier is made of the names of the groups around, the items are the tests,
and the identifiers on the way to each of them are made of its path, name by name. -/
theorem Declaration.items_collect (declaration : Declaration)
    (named : declaration.ConsistsOf IsProper HasTitle) (identifier : String) (enclosing : List Enclosing)
    (position : List Nat) :
    (declaration.collect ((namesOf enclosing).foldl childIdentifier identifier) enclosing position).items
        ((namesOf enclosing).scanl childIdentifier identifier) =
      (declaration.cases enclosing position).map fun case =>
        ((case.path.map Value.display).scanl childIdentifier identifier, case) := by
  match declaration with
  | .test name body =>
    obtain ⟨text, rfl⟩ := named
    simp [Declaration.cases, Declaration.collect, Collected.items, Case.path, pathThrough,
      List.scanl_append, Function.comp_def]
  | .group name hooks children =>
    have inside := itemsOf_collectAll children named.2 identifier
      (enclosing ++ [⟨position, name, hooks⟩]) position 0
    rw [namesOf_append_named enclosing named.1] at inside
    simp only [List.foldl_append, List.foldl_cons, List.foldl_nil, List.scanl_append] at inside
    exact inside
termination_by structural declaration

private theorem itemsOf_collectAll (declarations : List Declaration) (named : ConsistOf IsProper HasTitle declarations)
    (identifier : String) (enclosing : List Enclosing) (position : List Nat) (index : Nat) :
    itemsOf ((namesOf enclosing).scanl childIdentifier identifier)
        (collectAll ((namesOf enclosing).foldl childIdentifier identifier) enclosing position index
          declarations) =
      (casesOf enclosing position index declarations).map fun case =>
        ((case.path.map Value.display).scanl childIdentifier identifier, case) := by
  match declarations with
  | [] => rfl
  | child :: rest =>
    simp only [casesOf, collectAll, itemsOf, List.map_append]
    rw [child.items_collect named.1, itemsOf_collectAll rest named.2]
termination_by structural declarations

end

namespace Group

variable {root : Group}

/-- The tests of a tree are the texts of its outline. -/
theorem length_chains_outline {group : String → Prop} (named : ConsistOf group HasTitle root.children) :
    root.outline.chains.length = root.cases.length :=
  (length_casesOf root.children named _ [] 0).symm

theorem map_path_cases_eq_chains (rootless : root.name = "") (named : ConsistOf IsProper HasTitle root.children) :
    root.cases.map Case.path = root.outline.chains.map (List.map .str) := by
  have paths := map_path_casesOf root.children named [(Placed.root root).asEnclosing] [] 0
  have noNames : namesOf [(Placed.root root).asEnclosing] = [] := by
    simp [namesOf, Placed.asEnclosing, Placed.root, rootless]
  rw [noNames] at paths
  exact paths

/-- The items that are collected from a tree are its tests, under identifiers made of their paths. -/
theorem items_collect (rootless : root.name = "") (named : ConsistOf IsProper HasTitle root.children)
    (identifier : String) :
    (root.collect identifier).items [] = root.cases.map fun case =>
      ((case.path.map Value.display).scanl childIdentifier identifier, case) := by
  have items := itemsOf_collectAll root.children named identifier [(Placed.root root).asEnclosing] [] 0
  have noNames : namesOf [(Placed.root root).asEnclosing] = [] := by
    simp [namesOf, Placed.asEnclosing, Placed.root, rootless]
  rw [noNames] at items
  exact items

end Group

end ScenarioTree
