import ScenarioTree.Proofs.Expansion.Meaning
import ScenarioTree.Proofs.Fallible

/-! # When everything is answered

What a tree stands for can fail in two ways only: a callable that is asked raises, or what a fragment
set gives cannot be iterated over. When every callable of a tree returns, from all states of the
outside that can arise, and fragment sets return something iterable, the tree stands for declarations.
-/

namespace ScenarioTree

variable {σ α β : Type}

def Value.isIterable : Value → Bool
  | .iter .. => true
  | value => value.elements?.isSome

/-- A computation returns something suitable from every safe state of the outside, and leaves a safe
state behind. -/
def Run.Returns (run : Run σ α) (safe : σ → Prop) (suitable : α → Prop) : Prop :=
  ∀ world, safe world.store → ∃ value after,
    run.run.run world = (.ok value, after) ∧ safe after.store ∧ suitable value

/-- A callable returns something suitable whatever it is called with. -/
def Callable.Returns (behaviour : Behaviour σ) (safe : σ → Prop) (suitable : Value → Prop)
    (callable : Callable) : Prop :=
  ∀ arguments, (call behaviour (.callable callable) arguments).Returns safe suitable

mutual

/-- The conditions and getters that declaring a node asks meet one requirement, and its fragment sets
meet another. -/
def Node.Asks (question source : Callable → Prop) : Node → Prop
  | .plainGroup _ tests => AllAsk question source tests
  | .fanOutGroup _ fragmentSet tests => source fragmentSet ∧ AllAsk question source tests
  | .directLeaf _ _ getFragment => ∀ getter ∈ getFragment, question getter
  | .conditionalLeaf _ _ getFragment given =>
    question given ∧ ∀ getter ∈ getFragment, question getter
  | .fanOutLeaf _ _ fragmentSet given => source fragmentSet ∧ ∀ condition ∈ given, question condition
  | .inheritingLeaf _ getFragment inherited =>
    (∀ getter ∈ getFragment, question getter) ∧ AllAsk question source inherited

def AllAsk (question source : Callable → Prop) : List Node → Prop
  | [] => True
  | node :: rest => node.Asks question source ∧ AllAsk question source rest

end

namespace Run.Returns

variable {safe : σ → Prop} {suitable : α → Prop} {right : β → Prop}

theorem pure {value : α} (fits : suitable value) : (pure value : Run σ α).Returns safe suitable :=
  fun world stable => ⟨value, world, rfl, stable, fits⟩

/-- A sequence returns when its second part does for whatever suits it. -/
theorem bind {first : Run σ α} {next : α → Run σ β} (starts : first.Returns safe suitable)
    (ends : ∀ value, suitable value → (next value).Returns safe right) :
    (first >>= next).Returns safe right := by
  intro world stable
  obtain ⟨value, middle, returned, kept, fits⟩ := starts world stable
  obtain ⟨result, after, finished, last, correct⟩ := ends value fits middle kept
  exact ⟨result, after, by rw [run_bind_of_ok returned, finished], last, correct⟩

theorem mapM {items : List β} {action : β → Run σ α}
    (each : ∀ item ∈ items, (action item).Returns safe fun _ => True) :
    (items.mapM action).Returns safe fun _ => True := by
  induction items with
  | nil => exact pure trivial
  | cons item rest ih =>
    rw [List.mapM_cons]
    refine bind (each item (List.mem_cons_self ..)) fun _ _ => ?_
    exact bind (ih fun other member => each other (List.mem_cons_of_mem _ member))
      fun _ _ => pure trivial

end Run.Returns

/-- The elements of a value that is no iterator are those that it has. -/
theorem elements_eq_pure {value : Value} {items : List Value} (found : value.elements? = some items) :
    (elements value : Run σ (List Value)) = pure items := by
  cases value with
  | iter id items => cases found
  | _ => simp only [elements, found]

/-- An iterator gives its items once. -/
theorem run_elements_iter (id : Nat) (items : List Value) (world : World σ) :
    (elements (.iter id items)).run.run world =
      if world.spent.contains id then (.ok [], world)
      else (.ok items, { world with spent := id :: world.spent }) := by
  change (if world.spent.contains id then (pure [] : Run σ (List Value)) else _).run.run world = _
  split <;> rfl

/-- The elements of what can be iterated over are returned. -/
theorem elements_returns (safe : σ → Prop) {value : Value} (iterable : value.isIterable = true) :
    (elements value : Run σ (List Value)).Returns safe fun _ => True := by
  cases found : value.elements? with
  | some items =>
    rw [elements_eq_pure found]
    exact .pure trivial
  | none =>
    cases value with
    | iter id items =>
      intro world stable
      rw [run_elements_iter]
      split
      · exact ⟨[], world, rfl, stable, trivial⟩
      · exact ⟨items, _, rfl, stable, trivial⟩
    | _ => simp [Value.isIterable, found] at iterable

section

variable {behaviour : Behaviour σ} {safe : σ → Prop}

private theorem pickedScope_returns {getter? : Option Callable}
    (returns : ∀ getter ∈ getter?, Callable.Returns behaviour safe (fun _ => True) getter)
    (subject scope : Value) :
    (pickedScope behaviour getter? subject scope).Returns safe fun _ => True := by
  cases getter? with
  | none => exact .pure trivial
  | some getter => exact returns getter rfl _

private theorem holds_returns {given? : Option Callable}
    (returns : ∀ given ∈ given?, Callable.Returns behaviour safe (fun _ => True) given)
    (scope context index : Value) :
    (holds behaviour given? scope context index).Returns safe fun _ => True := by
  cases given? with
  | none => exact .pure trivial
  | some given => exact .bind (returns given rfl _) fun _ _ => .pure trivial

private theorem positionGroups_returns {inside : Value → Nat → Run σ (List Declaration)}
    (returns : ∀ fragment position, (inside fragment position).Returns safe fun _ => True)
    (fragments : List Value) : (positionGroups inside fragments).Returns safe fun _ => True := by
  apply Run.Returns.mapM
  intro (fragment, position) _
  exact .bind (returns fragment position) fun _ _ => .pure trivial

private theorem fragments_return {fragmentSet : Callable}
    (returns : Callable.Returns behaviour safe (fun found => found.isIterable = true) fragmentSet)
    (scope : Value) {meaning : List Value → Run σ (List Declaration)}
    (rest : ∀ found, (meaning found).Returns safe fun _ => True) :
    (call behaviour (.callable fragmentSet) [scope] >>= fun result =>
      elements result >>= meaning).Returns safe fun _ => True := by
  refine .bind (returns _) fun result iterable => ?_
  exact .bind (elements_returns safe iterable) fun found _ => rest found

end

section

variable {behaviour : Behaviour σ} {safe : σ → Prop}

/-- The requirements under which a node stands for declarations. -/
abbrev Node.IsAnswered (behaviour : Behaviour σ) (safe : σ → Prop) (node : Node) : Prop :=
  node.Asks (Callable.Returns behaviour safe fun _ => True)
    (Callable.Returns behaviour safe fun found => found.isIterable = true)

/-- The requirements under which successive nodes stand for declarations. -/
abbrev AllAnswered (behaviour : Behaviour σ) (safe : σ → Prop) (nodes : List Node) : Prop :=
  AllAsk (Callable.Returns behaviour safe fun _ => True)
    (Callable.Returns behaviour safe fun found => found.isIterable = true) nodes

mutual

/-- A node whose callables answer stands for declarations. -/
theorem Node.meaning_returns (node : Node) (answered : node.IsAnswered behaviour safe)
    (scope context index : Value) :
    (node.meaning behaviour scope context index).Returns safe fun _ => True := by
  match node with
  | .plainGroup head tests =>
    exact .bind (meanings_return tests answered scope context .null) fun _ _ => .pure trivial
  | .fanOutGroup head fragmentSet tests =>
    refine fragments_return answered.1 scope fun found => ?_
    refine .bind (positionGroups_returns (fun fragment position => ?_) found) fun _ _ => .pure trivial
    exact meanings_return tests answered.2 fragment context (.int position)
  | .directLeaf name check getFragment =>
    exact .bind (pickedScope_returns answered _ scope) fun _ _ => .pure trivial
  | .conditionalLeaf name check getFragment given =>
    have condition : ∀ asked ∈ some given, Callable.Returns behaviour safe (fun _ => True) asked := by
      rintro _ ⟨⟩
      exact answered.1
    refine .bind (holds_returns condition scope context index) fun answer _ => ?_
    cases answer with
    | false => exact .pure trivial
    | true => exact .bind (pickedScope_returns answered.2 _ scope) fun _ _ => .pure trivial
  | .fanOutLeaf name check fragmentSet given =>
    refine fragments_return answered.1 scope fun found => ?_
    refine positionGroups_returns (fun fragment position => ?_) found
    refine .bind (holds_returns answered.2 scope context index) fun answer _ => ?_
    cases answer <;> exact .pure trivial
  | .inheritingLeaf name getFragment inherited =>
    refine .bind (pickedScope_returns answered.1 _ scope) fun fragment _ => ?_
    exact .bind (meanings_return inherited answered.2 fragment context .null)
      fun _ _ => .pure trivial
termination_by structural node

/-- Successive nodes whose callables answer stand for declarations. -/
theorem meanings_return (nodes : List Node) (answered : AllAnswered behaviour safe nodes)
    (scope context index : Value) :
    (meanings behaviour scope context index nodes).Returns safe fun _ => True := by
  match nodes with
  | [] => exact .pure trivial
  | node :: rest =>
    refine .bind (node.meaning_returns answered.1 scope context index) fun _ _ => ?_
    exact .bind (meanings_return rest answered.2 scope context index) fun _ _ => .pure trivial
termination_by structural nodes

end

end

end ScenarioTree
