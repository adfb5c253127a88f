import ScenarioTree.Proofs.Schema.BuiltNodes
import ScenarioTree.Proofs.Schema.Tree

/-! # Lists put together

Strict validation looks at one item after the other, so two lists put together are valid exactly when
each of them is. Strict building departs from this in one case: it keeps a list of built nodes without
looking into it, also when an outsider is among them, and refuses the outsider as soon as there is
something to validate beside it.
-/

namespace ScenarioTree

def Value.isBuilt (value : Value) : Bool := value.model?.isSome

/-- Whether a value is a built node outside the six variants. -/
def Value.isOutsider : Value → Bool
  | .model (.outsider _) => true
  | _ => false

/-- Building a list succeeds: it gives the built nodes without a warning. -/
def Builder.Accepts (builder : Builder) (items : List Value) (spent : Spent) (models : List Model)
    (after : Spent) : Prop :=
  (builder.build (.list items)).run spent = ({ models := .ok models }, after)

section

variable {items : List Value} {spent after : Spent} {models : List Model} {nodes : List Node}

/-- Items are valid from one position on exactly when they are from any other. -/
theorem validateItems_eq_valid_iff_position (position other : Nat) :
    (validateItems position items).run spent = (.valid nodes, after) ↔
      (validateItems other items).run spent = (.valid nodes, after) := by
  induction items generalizing position other spent nodes with
  | nil => exact Iff.rfl
  | cons item rest ih =>
    simp only [run_validateItems_cons_eq_valid_iff, ih (position + 1) (other + 1)]

/-- Items put together are valid when the first ones are, and then the others. -/
theorem validateItems_append_eq_valid_iff (position other : Nat) (others : List Value) :
    (validateItems position (items ++ others)).run spent = (.valid nodes, after) ↔
      ∃ first middle second, (validateItems position items).run spent = (.valid first, middle) ∧
        (validateItems other others).run middle = (.valid second, after) ∧ nodes = first ++ second := by
  induction items generalizing position spent nodes with
  | nil =>
    constructor
    · intro ran
      exact ⟨[], spent, nodes, rfl, (validateItems_eq_valid_iff_position _ _).mp ran, rfl⟩
    · rintro ⟨first, middle, second, start, ran, rfl⟩
      cases start
      exact (validateItems_eq_valid_iff_position _ _).mp ran
  | cons item rest ih =>
    rw [List.cons_append, run_validateItems_cons_eq_valid_iff]
    constructor
    · rintro ⟨node, middle, below, own, ran, rfl⟩
      obtain ⟨first, between, second, start, ended, rfl⟩ := (ih (position + 1)).mp ran
      exact ⟨node :: first, between, second,
        run_validateItems_cons_eq_valid_iff.mpr ⟨node, middle, first, own, start, rfl⟩, ended, rfl⟩
    · rintro ⟨first, between, second, start, ended, rfl⟩
      obtain ⟨node, middle, below, own, ran, rfl⟩ := run_validateItems_cons_eq_valid_iff.mp start
      exact ⟨node, middle, below ++ second, own,
        (ih (position + 1)).mpr ⟨below, between, second, ran, ended, rfl⟩, rfl⟩

/-- Built nodes of the six variants are valid as they are. -/
theorem run_validateItems_nodes (position : Nat) (nodes : List Node) (spent : Spent) :
    (validateItems position (nodes.map .ofNode)).run spent = (.valid nodes, spent) := by
  induction nodes generalizing position with
  | nil => rfl
  | cons node rest ih =>
    rw [List.map_cons, run_validateItems_cons_eq_valid_iff]
    exact ⟨node, spent, rest, rfl, ih (position + 1), rfl⟩

theorem isOutsider_eq_false_of_validateItems {position : Nat}
    (ran : (validateItems position items).run spent = (.valid nodes, after)) :
    ∀ item ∈ items, item.isOutsider = false := by
  induction items generalizing position spent nodes with
  | nil => exact nofun
  | cons item rest ih =>
    obtain ⟨node, middle, others, own, below, rfl⟩ := run_validateItems_cons_eq_valid_iff.mp ran
    refine List.forall_mem_cons.mpr ⟨?_, ih below⟩
    cases found : item.isOutsider with
    | false => rfl
    | true =>
      cases item with
      | model m =>
        cases m with
        | outsider other => cases own
        | node kept => cases found
      | _ => cases found

/-- Built nodes without an outsider among them are nodes of the six variants. -/
theorem exists_nodes_of_isOutsider_eq_false
    (inside : ∀ item ∈ models.map Value.model, item.isOutsider = false) :
    ∃ nodes : List Node, models = nodes.map .node := by
  induction models with
  | nil => exact ⟨[], rfl⟩
  | cons model rest ih =>
    obtain ⟨own, others⟩ := List.forall_mem_cons.mp inside
    obtain ⟨nodes, rfl⟩ := ih others
    cases model with
    | outsider other => cases own
    | node kept => exact ⟨kept :: nodes, rfl⟩

private theorem map_node_injective {nodes others : List Node}
    (same : nodes.map Model.node = others.map Model.node) : nodes = others :=
  (List.map_inj_right fun _ _ => Model.node.inj).mp same

private theorem mapM_model?_eq_some_iff :
    items.mapM Value.model? = some models ↔ items = models.map Value.model :=
  ⟨eq_map_model_of_mapM_model?, fun same => same ▸ mapM_model? models⟩

private theorem exists_models_iff_isBuilt :
    (∃ models : List Model, items = models.map .model) ↔ ∀ item ∈ items, item.isBuilt = true := by
  induction items with
  | nil => exact ⟨fun _ => nofun, fun _ => ⟨[], rfl⟩⟩
  | cons item rest ih =>
    rw [List.forall_mem_cons, ← ih]
    constructor
    · rintro ⟨_ | ⟨model, models⟩, same⟩
      · cases same
      · obtain ⟨rfl, rfl⟩ := List.cons.inj same
        exact ⟨rfl, models, rfl⟩
    · rintro ⟨own, models, rfl⟩
      cases item with
      | model m => exact ⟨m :: models, rfl⟩
      | _ => cases own

end

section

variable (filename : Option String) {items : List Value} {spent after : Spent} {models : List Model}

/-- A list is accepted as it is when all of its items are built, and otherwise as what it is validated
to. -/
theorem Builder.accepts_iff :
    Builder.Accepts { filename } items spent models after ↔
      (items = models.map .model ∧ after = spent) ∨
        ∃ nodes, (validateItems 0 items).run spent = (.valid nodes, after) ∧
          models = nodes.map .node := by
  have ended := Builder.build_ends { filename } (.list items) spent
  rw [Builder.Accepts]
  generalize (Builder.build { filename } (.list items)).run spent = outcome at ended ⊢
  obtain ⟨built, final⟩ := outcome
  cases ended with
  | nothing absent => cases absent
  | salvaged isRelaxed => cases isRelaxed
  | kept _ found =>
    cases found
    constructor
    · rintro ⟨⟩
      exact .inl ⟨rfl, rfl⟩
    · rintro (⟨same, rfl⟩ | ⟨nodes, ran, rfl⟩)
      · rw [(List.map_inj_right fun _ _ => Value.model.inj).mp same]
      · obtain ⟨others, rfl⟩ :=
          exists_nodes_of_isOutsider_eq_false (isOutsider_eq_false_of_validateItems ran)
        rw [List.map_map] at ran
        cases (run_validateItems_nodes 0 others _).symm.trans ran
        rfl
  | validated _ found mixed ran =>
    cases found
    constructor
    · rintro ⟨⟩
      exact .inr ⟨_, ran, rfl⟩
    · rintro (⟨same, _⟩ | ⟨others, alike, rfl⟩)
      · cases (mapM_model?_eq_some_iff.mpr same).symm.trans mixed
      · cases ran.symm.trans alike
        rfl
  | refused _ found mixed ran =>
    cases found
    constructor
    · rintro ⟨⟩
    · rintro (⟨same, _⟩ | ⟨others, alike, _⟩)
      · cases (mapM_model?_eq_some_iff.mpr same).symm.trans mixed
      · cases ran.symm.trans alike

theorem Builder.accepts_iff_of_isOutsider_eq_false
    (inside : ∀ item ∈ items, item.isOutsider = false) :
    Builder.Accepts { filename } items spent models after ↔
      ∃ nodes, (validateItems 0 items).run spent = (.valid nodes, after) ∧
        models = nodes.map .node := by
  rw [accepts_iff]
  refine ⟨?_, .inr⟩
  rintro (⟨rfl, rfl⟩ | validated)
  · obtain ⟨nodes, rfl⟩ := exists_nodes_of_isOutsider_eq_false inside
    refine ⟨nodes, ?_, rfl⟩
    rw [List.map_map]
    exact run_validateItems_nodes 0 nodes _
  · exact validated

theorem Builder.Accepts.unique {builder : Builder} {others : List Model} {final : Spent}
    (one : builder.Accepts items spent models after)
    (another : builder.Accepts items spent others final) : models = others ∧ after = final := by
  cases one.symm.trans another
  exact ⟨rfl, rfl⟩

private theorem Builder.accepts_models (models : List Model) (spent : Spent) :
    Builder.Accepts { filename } (models.map .model) spent models spent :=
  (accepts_iff filename).mpr (.inl ⟨rfl, rfl⟩)

/-- Two lists put together are accepted exactly when each of them is, the second one after the first, and
all of their items are built or none is an outsider; what is built is then put together as well. A list is
valid exactly when it is accepted and has no outsider, so an outsider is all that is ever accepted without
being valid. -/
theorem Builder.accepts_append_iff :
    (∀ (items others : List Value) (spent : Spent) (models : List Model) (after : Spent),
      Builder.Accepts { filename } (items ++ others) spent models after ↔
        (∃ first middle second, Builder.Accepts { filename } items spent first middle ∧
          Builder.Accepts { filename } others middle second after ∧ models = first ++ second) ∧
        ((∀ item ∈ items ++ others, item.isBuilt = true) ∨
          ∀ item ∈ items ++ others, item.isOutsider = false)) ∧
    ∀ (items : List Value) (spent : Spent) (nodes : List Node) (after : Spent),
      (validateTree (.list items)).run spent = (.valid nodes, after) ↔
        Builder.Accepts { filename } items spent (nodes.map .node) after ∧
          ∀ item ∈ items, item.isOutsider = false := by
  refine ⟨fun items others spent models after => ⟨fun accepted => ?apart, ?together⟩,
    fun items spent nodes after => ⟨fun valid => ?accepted, ?valid⟩⟩
  case apart =>
    rcases (accepts_iff filename).mp accepted with ⟨same, rfl⟩ | ⟨nodes, ran, rfl⟩
    · obtain ⟨first, second, rfl, rfl, rfl⟩ := List.append_eq_map_iff.mp same
      refine ⟨⟨first, after, second, accepts_models _ _ _, accepts_models _ _ _, rfl⟩, .inl ?_⟩
      exact exists_models_iff_isBuilt.mp ⟨_, same⟩
    · obtain ⟨first, middle, second, start, ended, rfl⟩ :=
        (validateItems_append_eq_valid_iff 0 0 others).mp ran
      refine ⟨⟨_, middle, _, ?_, ?_, List.map_append⟩, .inr (isOutsider_eq_false_of_validateItems ran)⟩
      · exact (accepts_iff filename).mpr (.inr ⟨first, start, rfl⟩)
      · exact (accepts_iff filename).mpr (.inr ⟨second, ended, rfl⟩)
  case together =>
    rintro ⟨⟨first, middle, second, start, ended, rfl⟩, built | inside⟩
    · obtain ⟨models, same⟩ := exists_models_iff_isBuilt.mpr built
      obtain ⟨own, rest, rfl, rfl, rfl⟩ := List.append_eq_map_iff.mp same
      obtain ⟨rfl, rfl⟩ := start.unique (accepts_models filename own spent)
      obtain ⟨rfl, rfl⟩ := ended.unique (accepts_models filename rest _)
      rw [← List.map_append]
      exact accepts_models filename _ _
    · obtain ⟨insideFirst, insideSecond⟩ := List.forall_mem_append.mp inside
      obtain ⟨nodes, ran, rfl⟩ := (accepts_iff_of_isOutsider_eq_false filename insideFirst).mp start
      obtain ⟨rest, ran', rfl⟩ := (accepts_iff_of_isOutsider_eq_false filename insideSecond).mp ended
      refine (accepts_iff_of_isOutsider_eq_false filename inside).mpr ⟨nodes ++ rest, ?_, ?_⟩
      · exact (validateItems_append_eq_valid_iff 0 0 others).mpr ⟨nodes, middle, rest, ran, ran', rfl⟩
      · exact List.map_append.symm
  case accepted =>
    exact ⟨(accepts_iff filename).mpr (.inr ⟨nodes, valid, rfl⟩),
      isOutsider_eq_false_of_validateItems valid⟩
  case valid =>
    rintro ⟨accepted, inside⟩
    obtain ⟨others, ran, same⟩ := (accepts_iff_of_isOutsider_eq_false filename inside).mp accepted
    rwa [map_node_injective same]

end

/-- A scenario of a kind that is not known. -/
def guestScenario : Value := .model (.outsider (.alien (.of "Guest")))

def emptyGroup : Value := .map [(.str "feature", .str "Menu"), (.str "tests", .list [])]

/-- A list with an outsider alone is accepted although it is not valid, and one with a group alone is
accepted as well; put together they are refused. -/
theorem guestScenario_refused_beside_group :
    (Builder.Accepts {} [guestScenario] [] [.outsider (.alien (.of "Guest"))] [] ∧
      ¬ ∃ nodes after, (validateTree (.list [guestScenario])).run [] = (.valid nodes, after)) ∧
    (∃ models after, Builder.Accepts {} [emptyGroup] [] models after) ∧
    ¬ ∃ models after, Builder.Accepts {} ([guestScenario] ++ [emptyGroup]) [] models after := by
  refine ⟨⟨rfl, nofun⟩, ⟨_, _, rfl⟩, ?_⟩
  rintro ⟨models, after, accepted⟩
  cases accepted

end ScenarioTree
