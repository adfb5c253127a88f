import Mathlib.Data.List.Nodup
import ScenarioTree.Declaration.Basic

/-! # Positions in a declared tree

The groups around a test lie one inside the other, so that their positions differ, and each of them is a
group of the tree that has the test among its tests. The groups of a tree have different positions, so
that a position determines its group and the groups around it.
-/

namespace ScenarioTree

mutual

/-- The tests of a declaration are inside the groups around it. -/
theorem Declaration.enclosing_of_mem_cases {enclosing : List Enclosing} {position : List Nat}
    (declaration : Declaration) {case : Case} (found : case ∈ declaration.cases enclosing position) :
    enclosing <+: case.enclosing := by
  match declaration with
  | .test name body =>
    rw [Declaration.cases, List.mem_singleton] at found
    subst found
    exact List.prefix_refl _
  | .group name hooks children =>
    rw [Declaration.cases] at found
    exact (List.prefix_append ..).trans (enclosing_of_mem_casesOf children found)
termination_by structural declaration

/-- The tests of successive children of a group are inside the groups around them. -/
theorem enclosing_of_mem_casesOf {enclosing : List Enclosing} {position : List Nat} {index : Nat}
    (children : List Declaration) {case : Case}
    (found : case ∈ casesOf enclosing position index children) : enclosing <+: case.enclosing := by
  match children with
  | [] => exact nomatch found
  | child :: rest =>
    rw [casesOf, List.mem_append] at found
    rcases found with found | found
    · exact child.enclosing_of_mem_cases found
    · exact enclosing_of_mem_casesOf rest found
termination_by structural children

end

/-- A group and the groups around it are around its tests. -/
theorem Placed.around_of_mem_cases {placed : Placed} {case : Case} (inside : case ∈ placed.cases) :
    placed.enclosing ⊆ case.enclosing ∧ placed.asEnclosing ∈ case.enclosing := by
  have around := (enclosing_of_mem_casesOf placed.group.children inside).subset
  exact ⟨fun _ outer => around (List.mem_append_left _ outer),
    around (List.mem_append_right _ (List.mem_singleton_self _))⟩

/-- Groups that lie one inside the other, the outermost first. -/
def Nested (groups : List Enclosing) : Prop :=
  groups.Pairwise fun outer inner => outer.position.length < inner.position.length

private theorem Nested.concat {groups : List Enclosing} {group : Enclosing} (nested : Nested groups)
    (inside : ∀ outer ∈ groups, outer.position.length < group.position.length) :
    Nested (groups ++ [group]) := by
  refine List.pairwise_append.mpr ⟨nested, List.pairwise_singleton _ _, ?_⟩
  intro outer member inner same
  rw [List.mem_singleton] at same
  exact same ▸ inside outer member

theorem Nested.position_ne {outer inner : List Enclosing} {group : Enclosing}
    (nested : Nested (outer ++ group :: inner)) :
    (∀ other ∈ outer, other.position ≠ group.position) ∧
      ∀ other ∈ inner, other.position ≠ group.position := by
  obtain ⟨_, around, below⟩ := List.pairwise_append.mp nested
  refine ⟨fun other member same => ?_, fun other member same => ?_⟩
  · have shorter := below other member group (List.mem_cons_self ..)
    rw [same] at shorter
    exact Nat.lt_irrefl _ shorter
  · have longer := (List.pairwise_cons.mp around).1 other member
    rw [same] at longer
    exact Nat.lt_irrefl _ longer

mutual

/-- The groups around the tests of a declaration are nested when those around the declaration are. -/
theorem Declaration.nested_of_mem_cases {enclosing : List Enclosing} {position : List Nat}
    (declaration : Declaration) {case : Case} (nested : Nested enclosing)
    (around : ∀ group ∈ enclosing, group.position.length < position.length)
    (found : case ∈ declaration.cases enclosing position) : Nested case.enclosing := by
  match declaration with
  | .test name body =>
    rw [Declaration.cases, List.mem_singleton] at found
    subst found
    exact nested
  | .group name hooks children =>
    rw [Declaration.cases] at found
    refine nested_of_mem_casesOf children (nested.concat around) (fun group member => ?_) found
    rcases List.mem_append.mp member with member | own
    · exact Nat.le_of_lt (around group member)
    · obtain rfl := List.mem_singleton.mp own
      exact Nat.le_refl _
termination_by structural declaration

/-- The groups around the tests of successive children are nested when those around the children are. -/
theorem nested_of_mem_casesOf {enclosing : List Enclosing} {position : List Nat} {index : Nat}
    (children : List Declaration) {case : Case} (nested : Nested enclosing)
    (around : ∀ group ∈ enclosing, group.position.length ≤ position.length)
    (found : case ∈ casesOf enclosing position index children) : Nested case.enclosing := by
  match children with
  | [] => exact nomatch found
  | child :: rest =>
    rw [casesOf, List.mem_append] at found
    rcases found with found | found
    · refine child.nested_of_mem_cases nested (fun group member => ?_) found
      rw [List.length_append, List.length_singleton]
      exact Nat.lt_succ_of_le (around group member)
    · exact nested_of_mem_casesOf rest nested around found
termination_by structural children

end

/-- The groups around a test of a tree are nested. -/
theorem Group.nested_of_mem_cases {root : Group} {case : Case} (found : case ∈ root.cases) :
    Nested case.enclosing := by
  have outermost : case ∈ root.toDeclaration.cases [] [] := found
  exact root.toDeclaration.nested_of_mem_cases List.Pairwise.nil nofun outermost

mutual

/-- Every group around a test that lies in a declaration is one of its groups, and has the test. -/
theorem Declaration.placed_of_mem_cases {enclosing : List Enclosing} {position : List Nat}
    (declaration : Declaration) {case : Case} {outer : List Enclosing} {group : Enclosing}
    {inner : List Enclosing} (found : case ∈ declaration.cases enclosing position)
    (split : case.enclosing = outer ++ group :: inner) (inside : enclosing.length ≤ outer.length) :
    ∃ placed ∈ declaration.groups enclosing position,
      placed.enclosing = outer ∧ placed.asEnclosing = group ∧ case ∈ placed.cases := by
  match declaration with
  | .test name body =>
    rw [Declaration.cases, List.mem_singleton] at found
    subst found
    have longer := congrArg List.length split
    simp only [List.length_append, List.length_cons] at longer
    omega
  | .group name hooks children =>
    rw [Declaration.cases] at found
    rw [Declaration.groups]
    -- the group that is asked for is this one, or it lies further inside
    by_cases own : outer.length = enclosing.length
    · obtain ⟨rest, around⟩ := enclosing_of_mem_casesOf children found
      rw [split, List.append_assoc, List.singleton_append] at around
      obtain ⟨rfl, same⟩ := List.append_inj around own.symm
      obtain ⟨rfl, -⟩ := List.cons.inj same
      exact ⟨⟨enclosing, position, ⟨name, hooks, children⟩⟩, List.mem_cons_self .., rfl, rfl, found⟩
    · have further : (enclosing ++ [Enclosing.mk position name hooks]).length ≤ outer.length := by
        rw [List.length_append, List.length_singleton]
        omega
      obtain ⟨placed, member, rest⟩ := placed_of_mem_casesOf children found split further
      exact ⟨placed, List.mem_cons_of_mem _ member, rest⟩
termination_by structural declaration

/-- The same for the tests of successive children. -/
theorem placed_of_mem_casesOf {enclosing : List Enclosing} {position : List Nat} {index : Nat}
    (children : List Declaration) {case : Case} {outer : List Enclosing} {group : Enclosing}
    {inner : List Enclosing} (found : case ∈ casesOf enclosing position index children)
    (split : case.enclosing = outer ++ group :: inner) (inside : enclosing.length ≤ outer.length) :
    ∃ placed ∈ groupsOf enclosing position index children,
      placed.enclosing = outer ∧ placed.asEnclosing = group ∧ case ∈ placed.cases := by
  match children with
  | [] => exact nomatch found
  | child :: rest =>
    rw [casesOf, List.mem_append] at found
    rw [groupsOf]
    rcases found with found | found
    · obtain ⟨placed, member, facts⟩ := child.placed_of_mem_cases found split inside
      exact ⟨placed, List.mem_append_left _ member, facts⟩
    · obtain ⟨placed, member, facts⟩ := placed_of_mem_casesOf rest found split inside
      exact ⟨placed, List.mem_append_right _ member, facts⟩
termination_by structural children

end

/-- Every group around a test of a tree is one of its groups, and has the test. -/
theorem Group.placed_of_mem_cases {root : Group} {case : Case} {outer : List Enclosing}
    {group : Enclosing} {inner : List Enclosing} (found : case ∈ root.cases)
    (split : case.enclosing = outer ++ group :: inner) :
    ∃ placed ∈ root.groups,
      placed.enclosing = outer ∧ placed.asEnclosing = group ∧ case ∈ placed.cases := by
  have outermost : case ∈ root.toDeclaration.cases [] [] := found
  exact root.toDeclaration.placed_of_mem_cases outermost split (Nat.zero_le _)

/-- Whatever is around a test of a tree is one of its groups. -/
theorem Group.placed_of_mem_enclosing {root : Group} {case : Case} {group : Enclosing}
    (found : case ∈ root.cases) (around : group ∈ case.enclosing) :
    ∃ placed ∈ root.groups, placed.asEnclosing = group ∧ case ∈ placed.cases := by
  obtain ⟨outer, inner, split⟩ := List.append_of_mem around
  obtain ⟨placed, member, _, same, inside⟩ := Group.placed_of_mem_cases found split
  exact ⟨placed, member, same, inside⟩

mutual

private theorem Declaration.prefix_of_mem_groups {enclosing : List Enclosing} {position : List Nat}
    (declaration : Declaration) {placed : Placed}
    (found : placed ∈ declaration.groups enclosing position) : position <+: placed.position := by
  match declaration with
  | .test name body => exact nomatch found
  | .group name hooks children =>
    rw [Declaration.groups] at found
    rcases List.mem_cons.mp found with rfl | found
    · exact List.prefix_refl _
    · obtain ⟨later, _, below⟩ := prefix_of_mem_groupsOf children found
      exact (List.prefix_append ..).trans below
termination_by structural declaration

/-- The groups of successive children lie at or below the positions of the children. -/
theorem prefix_of_mem_groupsOf {enclosing : List Enclosing} {position : List Nat} {index : Nat}
    (children : List Declaration) {placed : Placed}
    (found : placed ∈ groupsOf enclosing position index children) :
    ∃ later, index ≤ later ∧ position ++ [later] <+: placed.position := by
  match children with
  | [] => exact nomatch found
  | child :: rest =>
    rw [groupsOf, List.mem_append] at found
    rcases found with found | found
    · exact ⟨index, Nat.le_refl _, child.prefix_of_mem_groups found⟩
    · obtain ⟨later, bound, below⟩ := prefix_of_mem_groupsOf rest found
      exact ⟨later, Nat.le_of_succ_le bound, below⟩
termination_by structural children

end

mutual

private theorem Declaration.positions_nodup (declaration : Declaration) (enclosing : List Enclosing)
    (position : List Nat) :
    ((declaration.groups enclosing position).map Placed.position).Nodup := by
  match declaration with
  | .test name body => exact List.nodup_nil
  | .group name hooks children =>
    rw [Declaration.groups, List.map_cons]
    refine List.nodup_cons.mpr ⟨fun own => ?_, positionsOf_nodup children _ position 0⟩
    obtain ⟨placed, found, same⟩ := List.mem_map.mp own
    obtain ⟨later, _, below⟩ := prefix_of_mem_groupsOf children found
    have longer := below.length_le
    rw [same, List.length_append, List.length_singleton] at longer
    exact absurd longer (Nat.not_succ_le_self _)
termination_by structural declaration

private theorem positionsOf_nodup (children : List Declaration) (enclosing : List Enclosing)
    (position : List Nat) (index : Nat) :
    ((groupsOf enclosing position index children).map Placed.position).Nodup := by
  match children with
  | [] => exact List.nodup_nil
  | child :: rest =>
    rw [groupsOf, List.map_append]
    refine List.nodup_append.mpr ⟨child.positions_nodup enclosing _,
      positionsOf_nodup rest enclosing position (index + 1), ?_⟩
    rintro _ first _ second rfl
    obtain ⟨placed, found, own⟩ := List.mem_map.mp first
    obtain ⟨other, others, same⟩ := List.mem_map.mp second
    have here := child.prefix_of_mem_groups found
    obtain ⟨later, bound, there⟩ := prefix_of_mem_groupsOf rest others
    rw [own] at here
    rw [same] at there
    have equal := List.IsPrefix.eq_of_length (List.prefix_of_prefix_length_le here there (by simp))
      (by simp)
    have indices : index = later := by simpa using equal
    omega
termination_by structural children

end

/-- A position determines its group in the tree, with the groups around it. -/
theorem Group.eq_of_position_eq {root : Group} {placed other : Placed} (found : placed ∈ root.groups)
    (others : other ∈ root.groups) (same : placed.position = other.position) : placed = other :=
  List.inj_on_of_nodup_map (root.toDeclaration.positions_nodup [] []) found others same

/-- A test of the tree is inside a group exactly when one of the groups around the test has the position
of the group. -/
theorem Group.mem_cases_or_outside {root : Group} {placed : Placed} (found : placed ∈ root.groups)
    {case : Case} (member : case ∈ root.cases) :
    case ∈ placed.cases ∨ ∀ group ∈ case.enclosing, group.position ≠ placed.position := by
  by_cases around : ∃ group ∈ case.enclosing, group.position = placed.position
  · obtain ⟨group, inside, same⟩ := around
    obtain ⟨other, others, rfl, own⟩ := Group.placed_of_mem_enclosing member inside
    rw [Group.eq_of_position_eq others found same] at own
    exact .inl own
  · exact .inr fun group inside same => around ⟨group, inside, same⟩

end ScenarioTree
