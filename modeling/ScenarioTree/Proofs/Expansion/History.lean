import ScenarioTree.Declaration.Basic
import ScenarioTree.World

/-! # The history of a declaration

While a tree is declared, callables are asked, fragments are taken, groups are opened and closed, and
tests are declared: one move after the other. What was declared up to some moment is read off the moves
up to then. A group holds what was declared between its opening and its closing; one that was not closed
holds all that was declared after its opening.
-/

namespace ScenarioTree

/-- A move of a declaration. Fragments are taken as soon as they are given, so that a fragment set that
fails while they come one by one is a callable that fails when it is asked. -/
inductive Move where
  | asked (target : Callable) (arguments : List Value) (answer : Except Failure Value)
  | taken (source : Value) (fragments : Except Failure (List Value))
  | opened (name : String) (hooks : Hooks)
  | closed
  | tested (name : Value) (body : Body)

namespace Move

def failure? : Move → Option Failure
  | asked _ _ (.error failure) | taken _ (.error failure) => some failure
  | _ => none

def declares : Move → Bool
  | opened .. | tested .. => true
  | _ => false

/-- Whether something is asked or taken, which declares nothing. -/
def inquires : Move → Bool
  | asked .. | taken .. => true
  | _ => false

/-- What is observed of a question. The stand-in for a missing callable is not observed. -/
def event? : Move → Option Event
  | asked (.defined id name _) arguments _ => some (.call id name arguments)
  | asked (.missing _) .. | taken .. | opened .. | closed | tested .. => none

end Move

/-- The declarations on the level where the moves begin, and those on the levels around it, the nearest
first, to which the moves come when they close a group that they did not open. -/
def layers : List Move → List Declaration × List (List Declaration)
  | [] => ([], [])
  | .opened name hooks :: rest =>
    match layers rest with
    | (inside, []) => ([.group name hooks inside], [])
    | (inside, later :: outer) => (.group name hooks inside :: later, outer)
  | .closed :: rest => ([], (layers rest).1 :: (layers rest).2)
  | .tested name body :: rest => (.test name body :: (layers rest).1, (layers rest).2)
  | .asked .. :: rest | .taken .. :: rest => layers rest

def forest (moves : List Move) : List Declaration := (layers moves).1

mutual

/-- The moves that declare a declaration, depth first. -/
def Declaration.preorder : Declaration → List Move
  | .group name hooks children => .opened name hooks :: preorders children
  | .test name body => [.tested name body]

/-- The moves that declare successive declarations. -/
def preorders : List Declaration → List Move
  | [] => []
  | declaration :: rest => declaration.preorder ++ preorders rest

end

/-- The groups and tests of all levels, depth first, are those that were declared, in the order of
time. -/
theorem preorders_layers (moves : List Move) :
    preorders (layers moves).1 ++ (layers moves).2.flatMap preorders = moves.filter Move.declares := by
  induction moves with
  | nil => rfl
  | cons move rest ih =>
    cases move with
    | opened name hooks =>
      have declared : (Move.opened name hooks :: rest).filter Move.declares =
          .opened name hooks :: rest.filter Move.declares := rfl
      rw [declared, ← ih, layers]
      rcases layers rest with ⟨inside, _ | ⟨later, outer⟩⟩ <;> simp [preorders, Declaration.preorder]
    | tested name body =>
      have declared : (Move.tested name body :: rest).filter Move.declares =
          .tested name body :: rest.filter Move.declares := rfl
      rw [declared, ← ih]
      rfl
    | closed => exact ih
    | asked target arguments answer => exact ih
    | taken source fragments => exact ih

/-- Moves that close every group that they open, and no other one, and that meet no failure. -/
structure Complete (moves : List Move) : Prop where
  layers_append : ∀ later, layers (moves ++ later) = (forest moves ++ (layers later).1, (layers later).2)
  failure?_eq_none : ∀ move ∈ moves, move.failure? = none

/-- Moves that close no group that they did not open, and that end with the first failure they meet. -/
structure Interrupted (moves : List Move) (failure : Failure) : Prop where
  outer_eq_nil : (layers moves).2 = []
  last_of_failure? : ∀ {earlier move later other}, moves = earlier ++ move :: later →
    move.failure? = some other → later = [] ∧ other = failure

/-- How moves end, by the outcome of the declaration. -/
def Ended {α : Type} (moves : List Move) : Except Failure α → Prop
  | .ok _ => Complete moves
  | .error failure => Interrupted moves failure

section

variable {moves others : List Move} {failure : Failure}

theorem layers_inquiry {move : Move} (inquiry : move.inquires = true) (rest : List Move) :
    layers (move :: rest) = layers rest := by
  cases move <;> first | rfl | cases inquiry

namespace Complete

theorem nil : Complete [] where
  layers_append _ := rfl
  failure?_eq_none := nofun

theorem inquiry {move : Move} (inquiry : move.inquires = true) (answered : move.failure? = none) :
    Complete [move] where
  layers_append later := by
    rw [forest, layers_inquiry inquiry, List.singleton_append, layers_inquiry inquiry]
    rfl
  failure?_eq_none := by simpa using answered

theorem tested (name : Value) (body : Body) : Complete [.tested name body] where
  layers_append _ := rfl
  failure?_eq_none := by simp [Move.failure?]

theorem forest_append (first : Complete moves) (others : List Move) :
    forest (moves ++ others) = forest moves ++ forest others :=
  congrArg Prod.fst (first.layers_append others)

theorem append (first : Complete moves) (second : Complete others) : Complete (moves ++ others) where
  layers_append later := by
    rw [List.append_assoc, first.layers_append, second.layers_append, first.forest_append,
      List.append_assoc]
  failure?_eq_none move member := by
    rcases List.mem_append.mp member with member | member
    · exact first.failure?_eq_none move member
    · exact second.failure?_eq_none move member

theorem layers_group (inside : Complete moves) (name : String) (hooks : Hooks) (later : List Move) :
    layers (.opened name hooks :: moves ++ .closed :: later) =
      (.group name hooks (forest moves) :: (layers later).1, (layers later).2) := by
  have filled : layers (moves ++ .closed :: later) =
      (forest moves, (layers later).1 :: (layers later).2) := by
    rw [inside.layers_append, layers, List.append_nil]
  rw [List.cons_append, layers, filled]

theorem forest_group (inside : Complete moves) (name : String) (hooks : Hooks) :
    forest (.opened name hooks :: moves ++ [.closed]) = [.group name hooks (forest moves)] :=
  congrArg Prod.fst (inside.layers_group name hooks [])

theorem group (inside : Complete moves) (name : String) (hooks : Hooks) :
    Complete (.opened name hooks :: moves ++ [.closed]) where
  layers_append later := by
    rw [List.append_assoc, List.singleton_append, inside.layers_group, inside.forest_group]
    rfl
  failure?_eq_none move member := by
    simp only [List.cons_append, List.mem_cons, List.mem_append, List.not_mem_nil, or_false] at member
    rcases member with rfl | member | rfl
    · rfl
    · exact inside.failure?_eq_none move member
    · rfl

end Complete

namespace Interrupted

theorem nil (failure : Failure) : Interrupted [] failure where
  outer_eq_nil := rfl
  last_of_failure? same := by simp at same

theorem inquiry {move : Move} (inquiry : move.inquires = true) (met : move.failure? = some failure) :
    Interrupted [move] failure where
  outer_eq_nil := by rw [layers_inquiry inquiry, layers]
  last_of_failure? := by
    intro earlier other later failure' same met'
    obtain ⟨rfl, single⟩ | ⟨rest, rfl, single⟩ := List.cons_eq_append_iff.mp same
    · cases single
      exact ⟨rfl, Option.some.inj (met'.symm.trans met)⟩
    · simp at single

theorem append (first : Complete moves) (second : Interrupted others failure) :
    Interrupted (moves ++ others) failure where
  outer_eq_nil := by rw [first.layers_append, second.outer_eq_nil]
  last_of_failure? := by
    intro earlier move later other same met
    obtain ⟨rest, rfl, split⟩ | ⟨rest, split, others_eq⟩ := List.append_eq_append_iff.mp same
    · exact second.last_of_failure? split met
    · cases rest with
      | nil =>
        have from_here : others = [] ++ move :: later := others_eq.symm
        exact second.last_of_failure? from_here met
      | cons head rest =>
        cases others_eq
        have answered := first.failure?_eq_none move (by rw [split]; simp)
        rw [answered] at met
        cases met

theorem layers_group (inside : Interrupted moves failure) (name : String) (hooks : Hooks) :
    layers (.opened name hooks :: moves) = ([.group name hooks (forest moves)], []) := by
  have filled : layers moves = (forest moves, []) := Prod.ext rfl inside.outer_eq_nil
  rw [layers, filled]

theorem group (inside : Interrupted moves failure) (name : String) (hooks : Hooks) :
    Interrupted (.opened name hooks :: moves) failure where
  outer_eq_nil := by rw [inside.layers_group]
  last_of_failure? := by
    intro earlier move later other same met
    obtain ⟨rfl, single⟩ | ⟨rest, rfl, split⟩ := List.cons_eq_append_iff.mp same
    · cases single
      cases met
    · exact inside.last_of_failure? split met

/-- The failure that is met is met by the last move, and it is what the moves end with. -/
theorem eq_concat (ended : Interrupted moves failure) {move : Move} {other : Failure}
    (member : move ∈ moves) (met : move.failure? = some other) :
    ∃ earlier, moves = earlier ++ [move] ∧ other = failure := by
  obtain ⟨earlier, later, rfl⟩ := List.append_of_mem member
  obtain ⟨rfl, same⟩ := ended.last_of_failure? rfl met
  exact ⟨earlier, rfl, same⟩

end Interrupted

/-- A last question declares nothing. -/
theorem layers_concat_inquiry {move : Move} (inquiry : move.inquires = true) (moves : List Move) :
    layers (moves ++ [move]) = layers moves := by
  induction moves with
  | nil => rw [List.nil_append, layers_inquiry inquiry]
  | cons first rest ih => cases first <;> simp only [List.cons_append, layers, ih]

end

end ScenarioTree
