import ScenarioTree.Proofs.Schema.Concatenation
import ScenarioTree.Proofs.Schema.Grammar

/-! # The keys of a mapping tell its variant

A mapping that is valid as one of the six variants carries the keys of that variant, so that its keys tell
the variant that accepts it. No mapping is accepted as two variants, and strict building, which asks for the
variant that the keys tell and no other, accepts a mapping exactly when some variant does.
-/

namespace ScenarioTree

/-- A mapping is accepted as a variant, and what is made of it. -/
def Variant.Accepts (variant : Variant) (value : Value) (spent : Spent) (model : Model) (after : Spent) :
    Prop :=
  (validateModel (.variant variant) value).run spent = (.valid model, after)

/-- A mapping that is valid as a variant has the shape of the variant, whatever was spent before. -/
theorem Variant.IsShapeOf.of_validateVariant {variant : Variant} {entries : List (Value × Value)}
    {spent : Spent} (valid : ((validateVariant variant entries).run spent).1.isValid = true) :
    variant.IsShapeOf entries := by
  rw [run_validateVariant] at valid
  cases inside : variant.child? entries with
  | none =>
    rw [inside] at valid
    exact .of_childless inside valid
  | some child =>
    rw [inside] at valid
    dsimp only at valid
    have sequence := nodeItems?_isSome_of_isValid (children_isValid_of_assemble inside valid)
    exact .of_children inside sequence valid

section

variable {value : Value} {entries : List (Value × Value)} (mapping : value.entries? = some entries)

include mapping

/-- A mapping is accepted as a variant when its entries are valid as the variant. -/
theorem Variant.accepts_iff {variant : Variant} {spent after : Spent} {model : Model} :
    variant.Accepts value spent model after ↔
      ∃ node, (validateVariant variant entries).run spent = (.valid node, after) ∧ model = .node node := by
  have opened : (validateModel (.variant variant) value).run spent =
      (Model.node <$> ((validateVariant variant entries).run spent).1,
        ((validateVariant variant entries).run spent).2) := by
    cases value with
    | map | proxy =>
      cases mapping
      rfl
    | _ => cases mapping
  rw [Accepts, opened]
  generalize (validateVariant variant entries).run spent = outcome
  obtain ⟨result, final⟩ := outcome
  cases result with
  | invalid issues =>
    constructor
    · intro same
      cases same
    · rintro ⟨node, same, rfl⟩
      cases same
  | valid node =>
    constructor
    · intro same
      cases same
      exact ⟨node, rfl, rfl⟩
    · rintro ⟨own, same, rfl⟩
      cases same
      rfl

theorem Variant.Accepts.ofKeys? {variant : Variant} {spent after : Spent} {model : Model}
    (accepts : variant.Accepts value spent model after) : Variant.ofKeys? entries = some variant := by
  obtain ⟨node, ran, rfl⟩ := (Variant.accepts_iff mapping).mp accepts
  have valid : ((validateVariant variant entries).run spent).1.isValid = true := by
    rw [ran]
    rfl
  exact (Variant.IsShapeOf.of_validateVariant valid).ofKeys?

/-- A mapping is a node when the variant that its keys tell accepts it. -/
theorem run_validateNode_eq_valid_iff {spent after : Spent} {node : Node} :
    (validateNode value).run spent = (.valid node, after) ↔
      ∃ variant : Variant, variant.Accepts value spent (.node node) after := by
  rw [run_validateNode_mapping mapping]
  constructor
  · intro ran
    cases told : Variant.ofKeys? entries with
    | none =>
      rw [told] at ran
      cases ran
    | some variant =>
      rw [told] at ran
      obtain ⟨valid, same⟩ := Prod.mk.inj ran
      refine ⟨variant, (Variant.accepts_iff mapping).mpr ⟨node, ?_, rfl⟩⟩
      exact Prod.ext (Validated.within_eq_valid_iff.mp valid) same
  · rintro ⟨variant, accepts⟩
    obtain ⟨own, ran, same⟩ := (Variant.accepts_iff mapping).mp accepts
    cases same
    rw [Variant.Accepts.ofKeys? mapping accepts]
    dsimp only
    rw [ran]
    rfl

theorem Builder.accepts_mapping_iff {filename : Option String} {spent after : Spent} {models : List Model} :
    Builder.Accepts { filename } [value] spent models after ↔
      ∃ node, (validateNode value).run spent = (.valid node, after) ∧ models = [.node node] := by
  have inside : ∀ item ∈ [value], item.isOutsider = false := by
    rw [List.forall_mem_singleton]
    cases value with
    | model => cases mapping
    | _ => rfl
  rw [accepts_iff_of_isOutsider_eq_false filename inside]
  constructor
  · rintro ⟨nodes, ran, rfl⟩
    obtain ⟨node, middle, others, own, rest, rfl⟩ := run_validateItems_cons_eq_valid_iff.mp ran
    cases rest
    exact ⟨node, own, rfl⟩
  · rintro ⟨node, ran, rfl⟩
    exact ⟨[node], run_validateItems_cons_eq_valid_iff.mpr ⟨node, after, [], ran, rfl, rfl⟩, rfl⟩

end

/-- When a variant accepts a mapping, the keys of the mapping tell the variant, so that at most one does. And
strict building accepts a mapping exactly when some variant does, with the same result, and with the same
iterators spent. -/
theorem Builder.accepts_iff_variant_accepts {value : Value} (isMapping : value.entries?.isSome = true) :
    (∀ (variant : Variant) (spent : Spent) (model : Model) (after : Spent),
      variant.Accepts value spent model after → value.kind? = some variant.tag) ∧
    (∀ (variant other : Variant) (spent start : Spent) (model second : Model) (after final : Spent),
      variant.Accepts value spent model after → other.Accepts value start second final → variant = other) ∧
    ∀ (filename : Option String) (spent : Spent) (models : List Model) (after : Spent),
      Builder.Accepts { filename } [value] spent models after ↔
        ∃ (variant : Variant) (model : Model), variant.Accepts value spent model after ∧ models = [model] := by
  obtain ⟨entries, mapping⟩ := Option.isSome_iff_exists.mp isMapping
  refine ⟨?told, ?unique, ?same⟩
  case told =>
    intro variant spent model after accepts
    have plain : value.kind? = (value.entries?.bind Variant.ofKeys?).map Variant.tag := by
      cases value with
      | model => cases mapping
      | _ => rfl
    rw [plain, mapping, Option.bind_some, accepts.ofKeys? mapping, Option.map_some]
  case unique =>
    intro variant other spent start model second after final accepts another
    have same := accepts.ofKeys? mapping
    rw [another.ofKeys? mapping] at same
    exact (Option.some.inj same).symm
  case same =>
    intro filename spent models after
    rw [Builder.accepts_mapping_iff mapping]
    constructor
    · rintro ⟨node, ran, rfl⟩
      obtain ⟨variant, accepts⟩ := (run_validateNode_eq_valid_iff mapping).mp ran
      exact ⟨variant, .node node, accepts, rfl⟩
    · rintro ⟨variant, model, accepts, rfl⟩
      obtain ⟨node, _, rfl⟩ := (Variant.accepts_iff mapping).mp accepts
      exact ⟨node, (run_validateNode_eq_valid_iff mapping).mpr ⟨variant, accepts⟩, rfl⟩

/-- The entries of a scenario that takes over a built one from an iterator. -/
def reusedEntries : List (Value × Value) :=
  [(.str "inherit", .iter 3 [.ofNode (.directLeaf (.of "Title") ⟨.defined 1 "read" .object,
      .defined 2 "check" .object⟩ none)]),
    (.str "get_dom_fragment", .null), (.str "scenario", .bytes [77, 101, 110, 117])]

/-- The scenario is accepted as what its keys tell and as no other variant, and the iterator is spent. -/
theorem reusedEntries_accepted :
    (Value.proxy reusedEntries).entries?.isSome = true ∧
    (∃ models, Builder.Accepts {} [.proxy reusedEntries] [] models [3]) ∧
    ∀ (variant : Variant) (model : Model) (after : Spent),
      variant.Accepts (.proxy reusedEntries) [] model after → variant = .inheritingLeaf := by
  have isMapping : (Value.proxy reusedEntries).entries?.isSome = true := rfl
  obtain ⟨_, unique, same⟩ := Builder.accepts_iff_variant_accepts isMapping
  have accepts : ∃ model, Variant.inheritingLeaf.Accepts (.proxy reusedEntries) [] model [3] := ⟨_, rfl⟩
  obtain ⟨model, accepts⟩ := accepts
  refine ⟨isMapping, ⟨[model], (same none [] _ _).mpr ⟨_, model, accepts, rfl⟩⟩, ?_⟩
  intro variant other after another
  exact unique _ _ _ _ _ _ _ _ another accepts

end ScenarioTree
