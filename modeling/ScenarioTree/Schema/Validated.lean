import ScenarioTree.Schema.Issue

/-! # Validated results

A validated result is a value, or all the issues that were found on the way to it. Results are
combined without stopping at the first issue, so that none is lost.
-/

namespace ScenarioTree

inductive Validated (α : Type) where
  | valid (value : α)
  | invalid (issues : List Issue)
deriving Repr, Inhabited

namespace Validated

variable {α β : Type}

def issues : Validated α → List Issue
  | valid _ => []
  | invalid issues => issues

def value? : Validated α → Option α
  | valid value => some value
  | invalid _ => none

/-- Applies a function to the value. -/
def map (f : α → β) : Validated α → Validated β
  | valid value => valid (f value)
  | invalid issues => invalid issues

/-- Applies a validated function to a validated value; the issues of both are kept. -/
def apply : Validated (α → β) → Validated α → Validated β
  | valid f, valid value => valid (f value)
  | valid _, invalid issues => invalid issues
  | invalid issues, valid _ => invalid issues
  | invalid issues, invalid others => invalid (issues ++ others)

instance : Functor Validated where
  map := map

instance : Seq Validated where
  seq f x := f.apply (x ())

/-- A result with a single issue at the place itself. -/
def fault (fault : Fault) : Validated α := invalid [⟨fault, []⟩]

/-- A result, seen from one step further out. -/
def within (segment : Segment) : Validated α → Validated α
  | valid value => valid value
  | invalid issues => invalid (issues.map (·.within segment))

/-- A result that is kept only if there are no further issues. -/
def besides (found : List Issue) : Validated α → Validated α
  | valid value => if found.isEmpty then valid value else invalid found
  | invalid issues => invalid (issues ++ found)

@[simp] theorem map_valid (f : α → β) (a : α) : f <$> valid a = valid (f a) := rfl
@[simp] theorem map_invalid (f : α → β) (is : List Issue) :
    f <$> (invalid is : Validated α) = invalid is := rfl

@[simp] theorem seq_valid (f : α → β) (a : α) : valid f <*> valid a = valid (f a) := rfl

/-- A combination is valid exactly when both parts are. -/
theorem seq_eq_valid_iff {f : Validated (α → β)} {x : Validated α} {b : β} :
    f <*> x = valid b ↔ ∃ g a, f = valid g ∧ x = valid a ∧ g a = b := by
  cases f <;> cases x <;> simp [Seq.seq, apply]

/-- A result is kept exactly when it is valid and there is nothing else to report. -/
theorem besides_eq_valid_iff {found : List Issue} {x : Validated α} {a : α} :
    x.besides found = valid a ↔ x = valid a ∧ found = [] := by
  cases x with
  | valid value =>
    cases found <;> simp [besides]
  | invalid issues => simp [besides]

@[simp] theorem within_eq_valid_iff {segment : Segment} {x : Validated α} {a : α} :
    x.within segment = valid a ↔ x = valid a := by
  cases x <;> simp [within]

end Validated

end ScenarioTree
