import ScenarioTree.Proofs.Schema.Reading

/-! # The entries that a variant uses

Relaxed construction tells the variant of a mapping from its values, and of the whole mapping only the
entries that this variant uses reach the node, its children and the warnings. So two mappings of one variant
that agree in these entries are built alike, whatever else they carry, and a mapping that is restricted to
them keeps its variant.
-/

namespace ScenarioTree

namespace Variant

/-- The entries of a mapping that a variant uses: those under keys of its fields, without the optional
callables that are not callable. -/
def used (variant : Variant) (entries : List (Value × Value)) : List (Value × Value) :=
  entries.filter fun (key, value) =>
    match key with
    | .str name => variant.reads name value
    | _ => false

end Variant

section

variable {variant : Variant} {entries : List (Value × Value)}

/-- A variant reads nothing but what it uses. -/
theorem adaptEntries_used (variant : Variant) (children : List Model) (entries : List (Value × Value)) :
    adaptEntries variant children (variant.used entries) = adaptEntries variant children entries := by
  rw [adaptEntries, Variant.used, List.filterMap_filter, adaptEntries]
  congr 1
  funext ⟨key, value⟩
  cases key with
  | str name =>
    change (if variant.reads name value = true then
        if variant.reads name value = true then _ else none else none) =
      if variant.reads name value = true then _ else none
    split <;> rfl
  | _ => rfl

/-- Among what is used, a mapping has under a key what it has there, if the variant reads it. -/
theorem Variant.named?_used (distinct : HasDistinctKeys entries) (name : String) :
    Value.named? name (variant.used entries) = (Value.named? name entries).filter (variant.reads name) := by
  induction entries with
  | nil => rfl
  | cons entry rest ih =>
    have below := ih (List.pairwise_cons.mp distinct).2
    obtain ⟨key, value⟩ := entry
    cases key with
    | str key =>
      have opened : variant.used ((.str key, value) :: rest) =
          if variant.reads key value then (.str key, value) :: variant.used rest else variant.used rest :=
        List.filter_cons
      rw [opened, named?_cons_str]
      by_cases same : key = name
      · subst same
        rw [distinct.named?_eq_none] at below
        rw [if_pos rfl, Option.filter]
        split
        · rw [named?_cons_str, if_pos rfl]
        · exact below
      · rw [if_neg same, ← below]
        split
        · rw [named?_cons_str, if_neg same]
        · rfl
    | _ => exact below

/-- What counts for a variant under a key of its fields is the same among what is used. -/
theorem Variant.valueHas_used (distinct : HasDistinctKeys entries) {field : Field}
    (listed : field ∈ variant.fields) {name : String} (spelled : name ∈ field.keys) {property : Value → Bool}
    (absent : property .null = false)
    (counts : ∀ value, property value = true → (!isKeyOf droppableFields name || value.isCallable) = true) :
    valueHas property name (variant.used entries) = valueHas property name entries := by
  rw [valueHas, named?_used distinct, valueHas]
  cases Value.named? name entries with
  | none => rfl
  | some value =>
    rw [Option.filter, reads_of_mem listed spelled]
    split
    · rfl
    · rename_i dropped
      rw [Option.getD_none, Option.getD_some, absent, eq_comm, Bool.eq_false_iff]
      intro has
      exact dropped (counts value has)

private theorem Variant.valueHas_used_foreign (distinct : HasDistinctKeys entries) {name : String}
    (foreign : (variant.fields.any fun field => name == field.name || field.aliasKeys.contains name) = false)
    (property : Value → Bool) : valueHas property name (variant.used entries) = property .null := by
  rw [valueHas, named?_used distinct]
  cases Value.named? name entries with
  | none => rfl
  | some value =>
    rw [Option.filter, reads, contains_acceptedKeys, foreign, Bool.false_and, if_neg Bool.false_ne_true,
      Option.getD_none]

/-- A mapping that is restricted to what its variant uses is classified alike. -/
theorem Variant.ofShape?_used (distinct : HasDistinctKeys entries)
    (told : Variant.ofShape? entries = some variant) :
    Variant.ofShape? (variant.used entries) = some variant := by
  obtain ⟨group, titled, modified⟩ := ofShape?_eq_some_iff.mp told
  have truthy {field : Field} (listed : field ∈ variant.fields) {name : String} (spelled : name ∈ field.keys)
      (kept : isKeyOf droppableFields name = false) :=
    valueHas_used distinct listed spelled (rfl : Value.isTruthy .null = false) fun _ _ => by rw [kept]; rfl
  have sequence {field : Field} (listed : field ∈ variant.fields) {name : String} (spelled : name ∈ field.keys)
      (kept : isKeyOf droppableFields name = false) :=
    valueHas_used distinct listed spelled (rfl : Value.isSequence .null = false) fun _ _ => by rw [kept]; rfl
  have callable {field : Field} (listed : field ∈ variant.fields) {name : String}
      (spelled : name ∈ field.keys) :=
    valueHas_used distinct listed spelled (rfl : Value.isCallable .null = false)
      fun _ isCallable => by rw [isCallable, Bool.or_true]
  have gone {name : String}
      (foreign : (variant.fields.any fun field => name == field.name || field.aliasKeys.contains name) = false) :=
    valueHas_used_foreign distinct foreign
  rw [ofShape?_eq_some_iff]
  cases variant with
  | fanOutGroup =>
    have feature := truthy (by decide : .feature ∈ _) (.head _) (by decide)
    have set := callable (by decide : .fragmentSet ∈ _) (.head _)
    exact ⟨feature.trans group, feature.trans titled, set.trans modified⟩
  | plainGroup =>
    have feature := truthy (by decide : .feature ∈ _) (.head _) (by decide)
    have tests := sequence (by decide : .tests ∈ _) (.head _) (by decide)
    exact ⟨feature.trans group, feature.trans titled, gone (by decide) _, tests.trans modified.2⟩
  | fanOutLeaf =>
    have scenario := truthy (by decide : .scenario ∈ _) (.head _) (by decide)
    have set := callable (by decide : .fragmentSet ∈ _) (.head _)
    exact ⟨gone (by decide) _, scenario.trans titled, set.trans modified⟩
  | inheritingLeaf =>
    have scenario := truthy (by decide : .scenario ∈ _) (.head _) (by decide)
    have inherited := sequence (by decide : .inherited ∈ _) (.head _) (by decide)
    exact ⟨gone (by decide) _, scenario.trans titled, gone (by decide) _, inherited.trans modified.2⟩
  | conditionalLeaf =>
    have scenario := truthy (by decide : .scenario ∈ _) (.head _) (by decide)
    have given := callable (by decide : .given ∈ _) (.head _)
    exact ⟨gone (by decide) _, scenario.trans titled, gone (by decide) _, gone (by decide) _,
      given.trans modified.2.2⟩
  | directLeaf =>
    have scenario := truthy (by decide : .scenario ∈ _) (.head _) (by decide)
    exact ⟨gone (by decide) _, scenario.trans titled, gone (by decide) _, gone (by decide) _,
      gone (by decide) _⟩

/-- The name under which a classified mapping is reported is that of its variant. -/
theorem reportedName_of_ofShape? (told : Variant.ofShape? entries = some variant) :
    reportedName entries = (Value.named? variant.titleField.name entries).getD .null := by
  obtain ⟨group, _⟩ := Variant.ofShape?_eq_some_iff.mp told
  rw [valueHas] at group
  rw [reportedName, group, Variant.titleField]
  split <;> rfl

/-- The fields that lead to the name and the children of a variant are read whatever is there. -/
theorem Variant.named?_used_structural (distinct : HasDistinctKeys entries) {field : Field}
    (structural : field = variant.titleField ∨ variant.childField? = some field) :
    Value.named? field.name (variant.used entries) = Value.named? field.name entries := by
  have read (value : Value) : variant.reads field.name value = true := by
    rw [reads, contains_acceptedKeys]
    rcases structural with rfl | child
    · cases variant <;> rfl
    · cases variant <;> cases child <;> rfl
  rw [named?_used distinct]
  cases Value.named? field.name entries with
  | none => rfl
  | some value => rw [Option.filter, if_pos (read value)]

/-- A classified mapping is read as its node, and warned of, by what its variant uses. -/
theorem salvageItem_used {value : Value} (mapping : value.entries? = some entries)
    (distinct : HasDistinctKeys entries) (told : Variant.ofShape? entries = some variant) :
    salvageItem value = salvageItem (.map (variant.used entries)) := by
  have children : variant.salvagedChildren (variant.used entries) = variant.salvagedChildren entries := by
    rw [Variant.salvagedChildren, Variant.salvagedChildren, Variant.child?, Variant.child?]
    cases found : variant.childField? with
    | none => rfl
    | some field => rw [Option.bind_some, Option.bind_some, Variant.named?_used_structural distinct (.inr found)]
  have retold := Variant.ofShape?_used distinct told
  have name : reportedName (variant.used entries) = reportedName entries := by
    rw [reportedName_of_ofShape? told, reportedName_of_ofShape? retold,
      Variant.named?_used_structural distinct (.inl rfl)]
  have node (models : List Model) :
      salvageNode variant (variant.used entries) models = salvageNode variant entries models := by
    rw [salvageNode, salvageNode, adaptEntries_used, name]
  have used : (Value.map (variant.used entries)).entries? = some (variant.used entries) := rfl
  rw [salvageItem_entries mapping, salvageItem_entries used, told, retold]
  dsimp only
  rw [children, node]

end

/-- Two mappings that are classified as one variant and have the same entries that the variant uses, in the
same order, are built alike, with the same warnings. A mapping that is restricted to these entries keeps its
variant, and so it is built like the mapping. -/
theorem Builder.build_of_same_used {builder : Builder} (isRelaxed : builder.strict = false) {variant : Variant}
    {value other : Value} {entries others : List (Value × Value)} (mapping : value.entries? = some entries)
    (another : other.entries? = some others) (distinct : HasDistinctKeys entries)
    (different : HasDistinctKeys others) (told : Variant.ofShape? entries = some variant)
    (alike : Variant.ofShape? others = some variant) (same : variant.used entries = variant.used others)
    (spent : Spent) :
    (builder.build (.list [value])).run spent = (builder.build (.list [other])).run spent ∧
    Variant.ofShape? (variant.used entries) = some variant ∧
    (builder.build (.list [.map (variant.used entries)])).run spent =
      (builder.build (.list [value])).run spent := by
  have read := salvageItem_used mapping distinct told
  have reread := salvageItem_used another different alike
  rw [← same] at reread
  have built (item : Value) := Builder.build_single isRelaxed (rfl : (Value.list [item]).sequenceItems? = _) spent
  refine ⟨?_, Variant.ofShape?_used distinct told, ?_⟩
  · rw [built, built, read, reread]
  · rw [built, built, read]

/-- The entries of a conditional scenario that has no comparison and also carries what loses against the
condition. -/
def crowdedEntries : List (Value × Value) :=
  [(.str "comment", .str "draft"), (.str "scenario", .str "Price"), (.str "set", .int 3),
    (.str "given", .callable (.defined 1 "given" .object)), (.int 7, .null), (.str "getDomFragment", .null),
    (.str "getActual", .callable (.defined 2 "read" .object)), (.str "feature", .str "")]

/-- The entries of the scenario alone, with the mark of a group in the middle. -/
def sparseEntries : List (Value × Value) :=
  [(.str "scenario", .str "Price"), (.str "given", .callable (.defined 1 "given" .object)),
    (.str "before", .callable (.defined 3 "open" .object)),
    (.str "getActual", .callable (.defined 2 "read" .object))]

/-- Both are built as one scenario, with one warning. -/
theorem crowdedEntries_built_like_sparse :
    HasDistinctKeys crowdedEntries ∧ HasDistinctKeys sparseEntries ∧
    Variant.ofShape? crowdedEntries = some .conditionalLeaf ∧
    Variant.ofShape? sparseEntries = some .conditionalLeaf ∧
    Variant.conditionalLeaf.used crowdedEntries = Variant.conditionalLeaf.used sparseEntries ∧
    (Builder.build { strict := false } (.list [.map crowdedEntries])).run [] =
      (Builder.build { strict := false } (.list [.proxy sparseEntries])).run [] := by
  have distinct : HasDistinctKeys crowdedEntries := by
    unfold HasDistinctKeys
    decide
  have different : HasDistinctKeys sparseEntries := by
    unfold HasDistinctKeys
    decide
  have same : Variant.conditionalLeaf.used crowdedEntries = Variant.conditionalLeaf.used sparseEntries := by
    simp only [Variant.used, Variant.reads, contains_acceptedKeys]
    rfl
  exact ⟨distinct, different, rfl, rfl, same,
    (Builder.build_of_same_used rfl rfl rfl distinct different rfl rfl same []).1⟩

end ScenarioTree
