import ScenarioTree.Proofs.Schema.Adaptation
import ScenarioTree.Proofs.Schema.BuiltNodes

/-! # Relaxed construction agrees with strict construction

On a tree that strict construction accepts, relaxed construction builds the same nodes without a
warning, if names are text, a fan-out is written under its first key, and children are ordered
sequences. The two tell variants by different means, keys and values, and these agree on shapes.
-/

namespace ScenarioTree

/-- What relaxed construction needs of an accepted mapping to read it as strict construction does. The
keys of a mapping are pairwise different always. -/
structure PlainlyWritten (entries : List (Value × Value)) : Prop where
  distinct : HasDistinctKeys entries
  named : HasTextNames entries
  unaliased : Value.hasName "fragment_set" entries = false
  ordered : ∀ field ∈ childFields, ∀ value, Value.named? field.name entries = some value →
    value.isSequence = true

section

variable {entries : List (Value × Value)} {variant : Variant}

private theorem valueHas_of_named? {property : Value → Bool} {key : String} {value : Value}
    (found : Value.named? key entries = some value) : valueHas property key entries = property value := by
  rw [valueHas, found, Option.getD_some]

private theorem valueHas_of_absent {property : Value → Bool} {key : String}
    (absent : Value.hasName key entries = false) : valueHas property key entries = property .null := by
  rw [← Value.named?_isSome, Option.isSome_eq_false_iff, Option.isNone_iff_eq_none] at absent
  rw [valueHas, absent, Option.getD_none]

/-- A property that null does not have is one of what a mapping carries. -/
theorem exists_of_valueHas {property : Value → Bool} (absent : property .null = false) {key : String}
    (has : valueHas property key entries = true) :
    ∃ value, Value.named? key entries = some value ∧ property value = true := by
  rw [valueHas] at has
  cases found : Value.named? key entries with
  | none =>
    rw [found] at has
    exact absurd has (by rw [Option.getD_none, absent]; exact Bool.false_ne_true)
  | some value =>
    rw [found] at has
    exact ⟨value, rfl, has⟩

/-- What the values of a mapping are like when it is classified as a variant. -/
theorem Variant.ofShape?_eq_some_iff :
    ofShape? entries = some variant ↔
      valueHas Value.isTruthy "feature" entries = variant.isGroup ∧
      valueHas Value.isTruthy variant.titleField.name entries = true ∧
      match variant with
      | .fanOutGroup | .fanOutLeaf => valueHas Value.isCallable "set" entries = true
      | .plainGroup => valueHas Value.isCallable "set" entries = false ∧
          valueHas Value.isSequence "tests" entries = true
      | .inheritingLeaf => valueHas Value.isCallable "set" entries = false ∧
          valueHas Value.isSequence "inherit" entries = true
      | .conditionalLeaf => valueHas Value.isCallable "set" entries = false ∧
          valueHas Value.isSequence "inherit" entries = false ∧
          valueHas Value.isCallable "given" entries = true
      | .directLeaf => valueHas Value.isCallable "set" entries = false ∧
          valueHas Value.isSequence "inherit" entries = false ∧
          valueHas Value.isCallable "given" entries = false := by
  have title : valueHas Value.isTruthy variant.titleField.name entries =
      if variant.isGroup then valueHas Value.isTruthy "feature" entries
      else valueHas Value.isTruthy "scenario" entries := by
    rw [titleField]
    split <;> rfl
  rw [ofShape?, title]
  -- What is left is a statement about six truth values.
  generalize valueHas Value.isTruthy "feature" entries = feature
  generalize valueHas Value.isTruthy "scenario" entries = scenario
  generalize valueHas Value.isCallable "set" entries = set
  generalize valueHas Value.isSequence "tests" entries = tests
  generalize valueHas Value.isSequence "inherit" entries = inherited
  generalize valueHas Value.isCallable "given" entries = given
  cases variant <;> decide +revert

private theorem Variant.IsShapeOf.exists_value (shape : variant.IsShapeOf entries) {keys : List String}
    {content : Content} (listed : .must keys content ∈ variant.slots) :
    ∃ key ∈ keys, ∃ value, Value.named? key entries = some value ∧ content.Fits value := by
  obtain ⟨key, spelled, present⟩ := (shape.filled _ listed).1 rfl
  obtain ⟨value, found⟩ := Option.isSome_iff_exists.mp ((Value.named?_isSome key entries).trans present)
  exact ⟨key, spelled, value, found, (shape.filled _ listed).2 key spelled value found⟩

private theorem Variant.IsShapeOf.hasTitle (shape : variant.IsShapeOf entries) (written : PlainlyWritten entries)
    (field : Field) (title : field ∈ titleFields) (listed : .must [field.name] .name ∈ variant.slots) :
    valueHas Value.isTruthy field.name entries = true := by
  obtain ⟨_, spelled, value, found, text, spells, nonempty⟩ := shape.exists_value listed
  cases List.mem_singleton.mp spelled
  obtain ⟨name, rfl⟩ := written.named field title value found
  cases spells
  rw [valueHas_of_named? found]
  simpa [Value.isTruthy] using nonempty

/-- The children of a mapping are a sequence also for relaxed construction. -/
theorem Variant.IsShapeOf.hasChildren (shape : variant.IsShapeOf entries)
    (written : PlainlyWritten entries) (field : Field) (children : field ∈ childFields)
    (listed : .must [field.name] .nodes ∈ variant.slots) :
    valueHas Value.isSequence field.name entries = true := by
  obtain ⟨_, spelled, value, found, _⟩ := shape.exists_value listed
  cases List.mem_singleton.mp spelled
  rw [valueHas_of_named? found]
  exact written.ordered field children value found

/-- A required callable with a single key is one also for relaxed construction. -/
theorem Variant.IsShapeOf.hasCallable (shape : variant.IsShapeOf entries) {key : String}
    (listed : .must [key] .callable ∈ variant.slots) : valueHas Value.isCallable key entries = true := by
  obtain ⟨_, spelled, value, found, isCallable⟩ := shape.exists_value listed
  cases List.mem_singleton.mp spelled
  rw [valueHas_of_named? found]
  exact isCallable

/-- A required fragment set is found under its first key. -/
theorem Variant.IsShapeOf.hasFragmentSet (shape : variant.IsShapeOf entries)
    (written : PlainlyWritten entries)
    (listed : .must ["set", "fragment_set"] .callable ∈ variant.slots) :
    valueHas Value.isCallable "set" entries = true := by
  obtain ⟨key, spelled, value, found, isCallable⟩ := shape.exists_value listed
  have unaliased := written.unaliased
  rw [← Value.named?_isSome] at unaliased
  rcases List.mem_cons.mp spelled with rfl | spelled
  · rw [valueHas_of_named? found]
    exact isCallable
  · cases List.mem_singleton.mp spelled
    rw [found] at unaliased
    cases unaliased

/-- The values of a mapping tell the variant whose shape it has. -/
theorem Variant.IsShapeOf.ofShape? (shape : variant.IsShapeOf entries)
    (written : PlainlyWritten entries) : Variant.ofShape? entries = some variant := by
  have absent {property : Value → Bool} {key : String}
      (foreign : key ∉ (variant.slots.map Slot.keys).flatten) :
      valueHas property key entries = property .null := valueHas_of_absent (shape.spelled.absent foreign)
  cases variant with
  | plainGroup =>
    have feature : valueHas Value.isTruthy "feature" entries = true :=
      shape.hasTitle written .feature (.head _) (.head _)
    have set : valueHas Value.isCallable "set" entries = false := absent (by decide)
    have tests : valueHas Value.isSequence "tests" entries = true :=
      shape.hasChildren written .tests (.head _) (.tail _ (.tail _ (.tail _ (.head _))))
    simp [Variant.ofShape?, feature, set, tests]
  | fanOutGroup =>
    have feature : valueHas Value.isTruthy "feature" entries = true :=
      shape.hasTitle written .feature (.head _) (.head _)
    have set := shape.hasFragmentSet written (.tail _ (.tail _ (.tail _ (.head _))))
    simp [Variant.ofShape?, feature, set]
  | fanOutLeaf =>
    have feature : valueHas Value.isTruthy "feature" entries = false := absent (by decide)
    have scenario : valueHas Value.isTruthy "scenario" entries = true :=
      shape.hasTitle written .scenario (.tail _ (.head _)) (.head _)
    have set := shape.hasFragmentSet written (.tail _ (.tail _ (.tail _ (.head _))))
    simp [Variant.ofShape?, feature, scenario, set]
  | inheritingLeaf =>
    have feature : valueHas Value.isTruthy "feature" entries = false := absent (by decide)
    have scenario : valueHas Value.isTruthy "scenario" entries = true :=
      shape.hasTitle written .scenario (.tail _ (.head _)) (.head _)
    have set : valueHas Value.isCallable "set" entries = false := absent (by decide)
    have inherited : valueHas Value.isSequence "inherit" entries = true :=
      shape.hasChildren written .inherited (.tail _ (.head _)) (.tail _ (.tail _ (.head _)))
    simp [Variant.ofShape?, feature, scenario, set, inherited]
  | conditionalLeaf =>
    have feature : valueHas Value.isTruthy "feature" entries = false := absent (by decide)
    have scenario : valueHas Value.isTruthy "scenario" entries = true :=
      shape.hasTitle written .scenario (.tail _ (.head _)) (.head _)
    have set : valueHas Value.isCallable "set" entries = false := absent (by decide)
    have inherited : valueHas Value.isSequence "inherit" entries = false := absent (by decide)
    have given : valueHas Value.isCallable "given" entries = true :=
      shape.hasCallable (.tail _ (.tail _ (.tail _ (.tail _ (.head _)))))
    simp [Variant.ofShape?, feature, scenario, set, inherited, given]
  | directLeaf =>
    have feature : valueHas Value.isTruthy "feature" entries = false := absent (by decide)
    have scenario : valueHas Value.isTruthy "scenario" entries = true :=
      shape.hasTitle written .scenario (.tail _ (.head _)) (.head _)
    have set : valueHas Value.isCallable "set" entries = false := absent (by decide)
    have inherited : valueHas Value.isSequence "inherit" entries = false := absent (by decide)
    have given : valueHas Value.isCallable "given" entries = false := absent (by decide)
    simp [Variant.ofShape?, feature, scenario, set, inherited, given]

/-- The children under a key of a mapping. -/
theorem salvageChildrenAt_eq (name : String) (entries : List (Value × Value)) :
    salvageChildrenAt name entries =
      ((Value.named? name entries).map salvageSequence).getD ([], []) := by
  induction entries with
  | nil => rfl
  | cons entry rest ih =>
    obtain ⟨key, value⟩ := entry
    rw [salvageChildrenAt, Value.named?, List.find?_cons]
    cases Value.isName name key with
    | true => rfl
    | false => exact ih

/-- A mapping is read in two steps: first its children, then the node of the variant that its values
tell. -/
theorem salvageItem_entries {value : Value} (mapping : value.entries? = some entries) :
    salvageItem value =
      match Variant.ofShape? entries with
      | none => (none, [])
      | some variant =>
        ((salvageNode variant entries (variant.salvagedChildren entries).1).1.map .node,
          (variant.salvagedChildren entries).2 ++
            (salvageNode variant entries (variant.salvagedChildren entries).1).2) := by
  cases value with
  | map | proxy =>
    cases mapping
    rw [salvageItem.eq_def]
    dsimp only
    cases Variant.ofShape? entries with
    | none => rfl
    | some variant =>
      dsimp only
      rw [Variant.salvagedChildren, Variant.child?]
      cases variant.childField? with
      | none => rfl
      | some field =>
        dsimp only
        rw [salvageChildrenAt_eq]
        rfl
  | _ => cases mapping

/-- A mapping of known variant without warnings below it. -/
theorem salvageItem_mapping {value : Value} {children : List Model}
    (mapping : value.entries? = some entries) (told : Variant.ofShape? entries = some variant)
    (below : variant.salvagedChildren entries = (children, [])) :
    salvageItem value =
      ((salvageNode variant entries children).1.map .node, (salvageNode variant entries children).2) := by
  rw [salvageItem_entries mapping, told]
  dsimp only
  rw [below]
  rfl

/-- Relaxed construction makes the node of a mapping that strict construction makes, when its children
are the same and without warnings. -/
theorem Variant.IsShapeOf.salvageItem_eq (shape : variant.IsShapeOf entries)
    (written : PlainlyWritten entries) {value : Value} (mapping : value.entries? = some entries)
    {node : Node} (nodes : List Node)
    (below : variant.salvagedChildren entries = (nodes.map .node, []))
    (valid : assemble variant entries ((variant.child? entries).map fun _ => .valid nodes) = .valid node) :
    salvageItem value = (some (.node node), []) := by
  rw [salvageItem_mapping mapping (shape.ofShape? written) below,
    salvageNode_eq_of_assemble shape written.distinct written.named valid]
  rfl

end

/-- Whenever strict validation makes a node of a value, relaxed construction makes the same one without a
warning, and nothing was taken from an iterator. -/
def IsReadAlike (value : Value) : Prop :=
  ∀ spent node after, (validateNode value).run spent = (.valid node, after) →
    salvageItem value = (some (.node node), []) ∧ after = spent

private theorem salvageItems_of_validateItems {items : List Value} (each : ∀ item ∈ items, IsReadAlike item)
    {position : Nat} {spent after : Spent} {nodes : List Node}
    (ran : (validateItems position items).run spent = (.valid nodes, after)) :
    salvageItems items = (nodes.map .node, []) ∧ after = spent := by
  induction items generalizing position spent nodes with
  | nil =>
    cases ran
    exact ⟨rfl, rfl⟩
  | cons item rest ih =>
    obtain ⟨node, middle, others, first, last, rfl⟩ := run_validateItems_cons_eq_valid_iff.mp ran
    obtain ⟨own, rfl⟩ := each item (List.mem_cons_self ..) spent node middle first
    obtain ⟨below, kept⟩ := ih (fun other member => each other (List.mem_cons_of_mem _ member)) last
    rw [salvageItems, own, below]
    exact ⟨rfl, kept⟩

/-- An ordered sequence that is valid is read alike when its items are. -/
theorem salvageSequence_of_validateSequence {otherwise : Fault} {value : Value} {spent after : Spent}
    {nodes : List Node} (ordered : value.isSequence = true)
    (each : ∀ items, value.nodeItems? = some items → ∀ item ∈ items, IsReadAlike item)
    (ran : (validateSequence otherwise value).run spent = (.valid nodes, after)) :
    salvageSequence value = (nodes.map .node, []) ∧ after = spent := by
  cases value with
  | list items | tuple items | deque items =>
    exact salvageItems_of_validateItems (each items rfl) ran
  | range stop =>
    change (invalidItems 0 stop.toNat, spent) = _ at ran
    obtain ⟨valid, same⟩ := Prod.mk.inj ran
    rw [invalidItems] at valid
    split at valid
    · cases valid
      exact ⟨rfl, same.symm⟩
    · cases valid
  | bytearray => cases ran
  | _ => cases ordered

/-- A mapping that is valid as some variant is read alike, when the items below it are. -/
theorem salvageItem_of_validateVariant {value : Value} {entries : List (Value × Value)}
    {variant : Variant} {spent after : Spent} {node : Node} (mapping : value.entries? = some entries)
    (written : PlainlyWritten entries)
    (each : ∀ field ∈ childFields, ∀ child items, Value.named? field.name entries = some child →
      child.nodeItems? = some items → ∀ item ∈ items, IsReadAlike item)
    (ran : (validateVariant variant entries).run spent = (.valid node, after)) :
    salvageItem value = (some (.node node), []) ∧ after = spent := by
  rw [run_validateVariant] at ran
  cases inside : variant.child? entries with
  | none =>
    rw [inside] at ran
    obtain ⟨valid, same⟩ := Prod.mk.inj ran
    have shape : variant.IsShapeOf entries :=
      .of_childless inside (Validated.isValid_iff.mpr ⟨node, valid⟩)
    refine ⟨shape.salvageItem_eq written mapping [] ?_ ?_, same.symm⟩
    · rw [Variant.salvagedChildren, inside]
      rfl
    · rw [inside]
      exact valid
  | some child =>
    rw [inside] at ran
    obtain ⟨valid, same⟩ := Prod.mk.inj ran
    have isValid := Validated.isValid_iff.mpr ⟨node, valid⟩
    have children := children_isValid_of_assemble inside isValid
    have shape : variant.IsShapeOf entries :=
      .of_children inside (nodeItems?_isSome_of_isValid children) isValid
    obtain ⟨field, childField, named⟩ := Option.bind_eq_some_iff.mp inside
    have member := Variant.mem_childFields childField
    obtain ⟨nodes, found⟩ := Validated.isValid_iff.mp children
    obtain ⟨built, unspent⟩ := salvageSequence_of_validateSequence
      (written.ordered field member child named) (each field member child · named) (Prod.ext found same)
    refine ⟨shape.salvageItem_eq written mapping nodes ?_ ?_, unspent⟩
    · rw [Variant.salvagedChildren, inside]
      exact built
    · rw [found] at valid
      rw [inside]
      exact valid

private theorem isReadAlike {value : Value} (written : value.Throughout PlainlyWritten) : IsReadAlike value := by
  induction value using Value.treeInduction with
  | leaf value plain =>
    intro spent node after ran
    rcases validateNode_leaf plain with ⟨kept, rfl⟩ | fault
    · cases ran
      exact ⟨rfl, rfl⟩
    · rw [fault] at ran
      cases ran
  | mapping value entries mapping ih =>
    cases written with
    | leaf plain =>
      rw [mapping] at plain
      cases plain
    | mapping found here below =>
      cases mapping.symm.trans found
      intro spent node after ran
      rw [run_validateNode_mapping mapping] at ran
      cases told : Variant.ofKeys? entries with
      | none =>
        rw [told] at ran
        cases ran
      | some variant =>
        rw [told] at ran
        obtain ⟨valid, same⟩ := Prod.mk.inj ran
        refine salvageItem_of_validateVariant mapping here ?_
          (Prod.ext (Validated.within_eq_valid_iff.mp valid) same)
        intro field member child items named inside item among
        exact ih field.name child items named inside item among
          (below field member child items named inside item among)

private theorem Builder.salvageItems_of_validate {builder : Builder} {root : Value} {items : List Value}
    {spent after : Spent} {built : List Model} (each : ∀ item ∈ items, IsReadAlike item)
    (accepted : (builder.validate root items).run spent = (.ok built, after)) :
    salvageItems items = (built, []) ∧ after = spent := by
  rw [Builder.validate] at accepted
  cases kept : items.mapM Value.model? with
  | some models =>
    rw [kept] at accepted
    cases accepted
    rw [eq_map_model_of_mapM_model? kept]
    exact ⟨salvageItems_models built, rfl⟩
  | none =>
    rw [kept] at accepted
    dsimp only at accepted
    rw [StateT.run_bind] at accepted
    cases ran : (validateTree (.list items)).run spent with
    | mk result final =>
      rw [ran] at accepted
      cases result with
      | invalid issues => cases accepted
      | valid nodes =>
        cases accepted
        exact salvageItems_of_validateItems each ran

/-- Whatever tree strict building accepts, relaxed building gives the same built nodes for it, emits no
warning, and leaves the same iterators, if all mappings of the tree are written plainly. -/
theorem Builder.build_relaxed_eq_strict (strict relaxed : Builder) (isStrict : strict.strict = true)
    (isRelaxed : relaxed.strict = false) (root : Value) (spent after : Spent) (built : List Model)
    (warnings : List Warning)
    (accepted : (strict.build root).run spent = ({ models := .ok built, warnings }, after))
    (written : ∀ items, root.sequenceItems? = some items → ∀ item ∈ items,
      item.Throughout PlainlyWritten) :
    (relaxed.build root).run spent = ({ models := .ok built, warnings := [] }, after) := by
  rw [Builder.build] at accepted ⊢
  cases found : root.sequenceItems? with
  | none =>
    rw [found] at accepted
    cases accepted
    rfl
  | some items =>
    rw [found] at accepted
    dsimp only at accepted ⊢
    rw [if_pos isStrict] at accepted
    rw [if_neg (by rw [isRelaxed]; exact Bool.false_ne_true)]
    have validated : (strict.validate root items).run spent = (.ok built, after) := by
      rw [StateT.run_bind] at accepted
      generalize (strict.validate root items).run spent = outcome at accepted ⊢
      obtain ⟨models, final⟩ := outcome
      cases accepted
      rfl
    obtain ⟨salvaged, rfl⟩ := Builder.salvageItems_of_validate
      (fun item member => isReadAlike (written items found item member)) validated
    rw [salvaged]
    rfl

/-- The entries of a scenario in the second spellings. -/
def headingEntries : List (Value × Value) :=
  [(.str "scenario", .str "Heading"), (.str "get_dom_fragment", .null),
    (.str "get_actual", .callable (.defined 1 "read" .object)),
    (.str "comparison", .callable (.defined 2 "check" .function))]

def footerLeaf : Node :=
  .directLeaf (.of "Footer") ⟨.defined 1 "read" .object, .defined 2 "check" .function⟩ none

/-- The entries of a group that fans out over a scenario and a built one. -/
def pageEntries : List (Value × Value) :=
  [(.str "tests", .deque [.map headingEntries, .ofNode footerLeaf]), (.str "feature", .str "Page"),
    (.str "before", .null), (.str "beforeEach", .callable (.defined 3 "open" .object)),
    (.str "set", .callable (.defined 4 "pages" .function))]

def pageNode : Node :=
  .fanOutGroup ⟨.of "Page", none, some (.defined 3 "open" .object)⟩ (.defined 4 "pages" .function)
    [.directLeaf (.of "Heading") ⟨.defined 1 "read" .object, .defined 2 "check" .function⟩ none, footerLeaf]

/-- Both ways of building read the group, which is no dictionary, as the same node. -/
theorem pageEntries_built_alike :
    (Builder.build {} (.tuple [.proxy pageEntries])).run [] = ({ models := .ok [.node pageNode] }, []) ∧
    (Value.proxy pageEntries).Throughout PlainlyWritten ∧
    (Builder.build { strict := false } (.tuple [.proxy pageEntries])).run [] =
      ({ models := .ok [.node pageNode], warnings := [] }, []) := by
  have accepted : (Builder.build {} (.tuple [.proxy pageEntries])).run [] =
    ({ models := .ok [.node pageNode] }, []) := rfl
  have heading : (Value.map headingEntries).Throughout PlainlyWritten := by
    refine .childless rfl ⟨?distinct, ?named, rfl, ?ordered⟩ rfl rfl
    case distinct =>
      unfold HasDistinctKeys
      decide
    case named =>
      simp [HasTextNames, titleFields, Field.feature, Field.scenario, Field.plain, Value.named?,
        Value.isName, headingEntries]
    case ordered =>
      simp [childFields, Field.tests, Field.inherited, Field.plain, Value.named?, Value.isName,
        headingEntries]
  have page : (Value.proxy pageEntries).Throughout PlainlyWritten := by
    refine .group rfl ⟨?distinct, ?named, rfl, ?ordered⟩ rfl rfl rfl
      (List.forall_mem_cons.mpr ⟨heading, List.forall_mem_singleton.mpr (.leaf rfl)⟩)
    case distinct =>
      unfold HasDistinctKeys
      decide
    case named =>
      simp [HasTextNames, titleFields, Field.feature, Field.scenario, Field.plain, Value.named?,
        Value.isName, pageEntries]
    case ordered =>
      simp [childFields, Field.tests, Field.inherited, Field.plain, Value.named?, Value.isName,
        pageEntries, Value.isSequence]
  refine ⟨accepted, page, ?_⟩
  refine Builder.build_relaxed_eq_strict {} { strict := false } rfl rfl _ [] [] _ [] accepted ?_
  intro items found item member
  cases found
  cases List.mem_singleton.mp member
  exact page

end ScenarioTree
