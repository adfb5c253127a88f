import ScenarioTree.Proofs.Schema.Concatenation
import ScenarioTree.Proofs.Schema.KeptScenarios
import ScenarioTree.Proofs.Schema.UsedEntries

/-! # Parents that relaxed construction keeps

A mapping that is classified as a group or as a scenario that inherits has its children built first, and then
it is validated around them. Whatever the children were written as, what was built of them is valid again, so
that the parent is kept and has them as its children, one by one. Only a built node outside the six variants
is passed on by the one and refused by the other: it takes its parent with it.
-/

namespace ScenarioTree

/-- A child of a mapping is a built node outside the six variants. -/
def Variant.HasOutsiderChild (variant : Variant) (entries : List (Value × Value)) : Prop :=
  ∃ child items, variant.child? entries = some child ∧ child.sequenceItems? = some items ∧
    ∃ item ∈ items, item.isOutsider = true

section

variable {variant : Variant} {entries : List (Value × Value)} {children : List Model}

/-- An adapted mapping spells the fields of the variant once if the mapping does. -/
theorem Variant.adaptEntries_usesSpellings (distinct : HasDistinctKeys entries)
    (once : ∀ field ∈ variant.fields, Field.IsUnambiguous field.keys entries) :
    UsesSpellings (variant.slots.map Slot.keys) (adaptEntries variant children entries) := by
  rw [← variant.map_keys]
  constructor
  · intro entry member
    obtain ⟨field, listed, key, spelled, same⟩ := exists_field_of_mem_adaptEntries member
    exact ⟨field.keys, List.mem_map_of_mem listed, key, spelled, same⟩
  · intro keys member
    obtain ⟨field, listed, rfl⟩ := List.mem_map.mp member
    exact (once field listed).adaptEntries distinct

/-- The slot of an optional callable is filled or left out in an adapted mapping. -/
theorem Variant.optional_isFilled_adaptEntries (distinct : HasDistinctKeys entries) {field : Field}
    (listed : field ∈ variant.fields) {keys : List String} (same : field.keys = keys)
    (droppable : ∀ key ∈ keys, isKeyOf droppableFields key = true ∧ isKeyOf titleFields key = false ∧
      isKeyOf childFields key = false) :
    (Slot.may keys .optionalCallable).IsFilled (adaptEntries variant children entries) := by
  subst same
  refine ⟨nofun, fun key spelled value found => .inr ?_⟩
  obtain ⟨drops, ordinary⟩ := droppable key spelled
  rw [named?_adaptEntries_callable distinct listed spelled ordinary] at found
  obtain ⟨_, counts⟩ := Option.filter_eq_some_iff.mp found
  rw [drops] at counts
  exact counts

/-- The slot of the fragment set is filled in an adapted mapping that fans out. -/
theorem Variant.fragmentSet_isFilled_adaptEntries (distinct : HasDistinctKeys entries)
    (listed : .fragmentSet ∈ variant.fields) (once : Field.IsUnambiguous Field.fragmentSet.keys entries)
    (has : valueHas Value.isCallable "set" entries = true) :
    (Slot.must ["set", "fragment_set"] .callable).IsFilled (adaptEntries variant children entries) := by
  obtain ⟨callable, carried, isCallable⟩ := exists_of_valueHas rfl has
  have found : Value.named? "set" (adaptEntries variant children entries) = some callable := by
    rw [named?_adaptEntries_callable distinct listed (.head _) (by decide), carried, Option.filter, isCallable,
      Bool.or_true, if_pos rfl]
  have present : Value.hasName "set" (adaptEntries variant children entries) = true := by
    rw [← Value.named?_isSome, found]
    rfl
  exact Slot.isFilled_of_only (.head _) found isCallable fun other alike others =>
    once.adaptEntries distinct other alike "set" (.head _) others present

section

variable (distinct : HasDistinctKeys entries) (told : Variant.ofShape? entries = some variant)

include told

/-- A classified mapping has a name. -/
theorem Variant.named?_titleField :
    Value.named? variant.titleField.name entries = some (reportedName entries) := by
  obtain ⟨_, titled, _⟩ := ofShape?_eq_some_iff.mp told
  obtain ⟨name, found, _⟩ := exists_of_valueHas rfl titled
  rw [reportedName_of_ofShape? told, found, Option.getD_some]

include distinct

/-- The slot of the name is filled in an adapted mapping when the name has text. -/
theorem Variant.title_isFilled_adaptEntries (named : (reportedName entries).display ≠ "") :
    (Slot.must [variant.titleField.name] .name).IsFilled (adaptEntries variant children entries) := by
  have under : Value.named? variant.titleField.name (adaptEntries variant children entries) =
      some (.str (reportedName entries).display) := by
    rw [named?_adaptEntries_title distinct, named?_titleField told]
    rfl
  exact Slot.isFilled_of_only (.head _) under ⟨_, rfl, named⟩ fun other alike _ => List.mem_singleton.mp alike

private theorem Variant.children_isFilled_adaptEntries {slot : Slot} (listed : slot ∈ variant.slots)
    (nodes : slot.content = .nodes) : slot.IsFilled (adaptEntries variant children entries) := by
  obtain ⟨_, _, modified⟩ := ofShape?_eq_some_iff.mp told
  rw [Slot.isFilled_nodes_iff listed nodes, child?_adaptEntries distinct]
  cases found : variant.child? entries with
  | some child => rfl
  | none =>
    cases variant with
    | plainGroup | inheritingLeaf =>
      obtain ⟨child, carried, _⟩ := exists_of_valueHas rfl modified.2
      cases (found : Value.named? _ entries = none).symm.trans carried
    | fanOutGroup =>
      simp only [slots, List.mem_cons, List.not_mem_nil, or_false] at listed
      rcases listed with rfl | rfl | rfl | rfl | rfl <;> first | rfl | cases nodes
    | fanOutLeaf | conditionalLeaf | directLeaf =>
      simp only [slots, List.mem_cons, List.not_mem_nil, or_false] at listed
      rcases listed with rfl | rfl | rfl | rfl | rfl <;> cases nodes

variable (parent : variant.childField?.isSome = true)

include parent

/-- The adapted mapping of a parent has the shape of its variant, whatever was built of its children. -/
theorem Variant.isShapeOf_adaptEntries (once : ∀ field ∈ variant.fields, Field.IsUnambiguous field.keys entries)
    (named : (reportedName entries).display ≠ "") :
    variant.IsShapeOf (adaptEntries variant children entries) := by
  refine ⟨adaptEntries_usesSpellings distinct once, fun slot listed => ?_⟩
  have title : (Slot.must [variant.titleField.name] .name).IsFilled (adaptEntries variant children entries) :=
    title_isFilled_adaptEntries distinct told named
  have below : slot.content = .nodes → slot.IsFilled (adaptEntries variant children entries) :=
    children_isFilled_adaptEntries distinct told listed
  have optional {field : Field} (inside : field ∈ variant.fields) {keys : List String}
      (same : field.keys = keys) := @optional_isFilled_adaptEntries _ _ children distinct _ inside _ same
  obtain ⟨_, _, modified⟩ := ofShape?_eq_some_iff.mp told
  cases variant with
  | plainGroup =>
    simp only [slots, List.mem_cons, List.not_mem_nil, or_false] at listed
    rcases listed with rfl | rfl | rfl | rfl
    · exact title
    · exact optional (by decide : .before ∈ _) rfl (by decide)
    · exact optional (by decide : .beforeEach ∈ _) rfl (by decide)
    · exact below rfl
  | fanOutGroup =>
    simp only [slots, List.mem_cons, List.not_mem_nil, or_false] at listed
    rcases listed with rfl | rfl | rfl | rfl | rfl
    · exact title
    · exact optional (by decide : .before ∈ _) rfl (by decide)
    · exact optional (by decide : .beforeEach ∈ _) rfl (by decide)
    · exact fragmentSet_isFilled_adaptEntries distinct (by decide) (once _ (by decide)) modified
    · exact below rfl
  | inheritingLeaf =>
    simp only [slots, List.mem_cons, List.not_mem_nil, or_false] at listed
    rcases listed with rfl | rfl | rfl
    · exact title
    · exact optional (by decide : .getFragment ∈ _) rfl (by decide)
    · exact below rfl
  | _ => cases parent

end

/-- Relaxed construction of a node with children supplies nothing. -/
theorem salvageNode_parent (parent : variant.childField?.isSome = true) :
    salvageNode variant entries children =
      match ((validateVariant variant (adaptEntries variant children entries)).run []).1 with
      | .valid node => (some node, [])
      | .invalid issues => (none, [.skippedNode (reportedName entries) issues.length]) := by
  have supplied : supplyCallables variant (adaptEntries variant children entries) =
      (adaptEntries variant children entries, []) := by
    cases variant with
    | plainGroup | fanOutGroup | inheritingLeaf => rfl
    | _ => cases parent
  rw [salvageNode, supplied]
  rfl

private theorem eq_of_given_children {children? : Option (List Node)} {segment : Segment} {nodes : List Node}
    (valid : (match children?.map Validated.valid with
      | some result => result.within segment
      | none => (Validated.fault .missing).within segment) = .valid nodes) : nodes = children?.getD [] := by
  cases children? with
  | none => cases valid
  | some own =>
    cases valid
    rfl

theorem Node.children_of_assemble (parent : variant.childField?.isSome = true) {children? : Option (List Node)}
    {node : Node} (valid : assemble variant entries (children?.map .valid) = .valid node) :
    node.children = children?.getD [] := by
  cases variant with
  | plainGroup =>
    simp only [assemble, Validated.besides_eq_valid_iff, Validated.seq_eq_valid_iff,
      Validated.map_eq_valid_iff] at valid
    obtain ⟨⟨_, nodes, ⟨_, _, rfl⟩, children, rfl⟩, _⟩ := valid
    exact eq_of_given_children children
  | fanOutGroup =>
    simp only [assemble, Validated.besides_eq_valid_iff, Validated.seq_eq_valid_iff,
      Validated.map_eq_valid_iff] at valid
    obtain ⟨⟨_, nodes, ⟨_, _, ⟨_, _, rfl⟩, _, rfl⟩, children, rfl⟩, _⟩ := valid
    split at children
    · exact eq_of_given_children children
    · rename_i absent
      rw [Option.isSome_map, Bool.not_eq_true, Option.isSome_eq_false_iff, Option.isNone_iff_eq_none] at absent
      cases children
      rw [absent]
      rfl
  | inheritingLeaf =>
    simp only [assemble, Validated.besides_eq_valid_iff, Validated.seq_eq_valid_iff,
      Validated.map_eq_valid_iff] at valid
    obtain ⟨⟨_, nodes, ⟨_, _, ⟨_, _, rfl⟩, _, rfl⟩, children, rfl⟩, _⟩ := valid
    exact eq_of_given_children children
  | _ => cases parent

section

variable (distinct : HasDistinctKeys entries) (told : Variant.ofShape? entries = some variant)
  (parent : variant.childField?.isSome = true)

include distinct parent

include told in
/-- A parent is kept with the nodes that were built of its children. -/
theorem salvageNode_of_nodes (once : ∀ field ∈ variant.fields, Field.IsUnambiguous field.keys entries)
    (named : (reportedName entries).display ≠ "") {nodes : List Node}
    (childless : variant.child? entries = none → nodes = []) :
    ∃ node : Node, node.variant = variant ∧ node.children = nodes ∧
      salvageNode variant entries (nodes.map .node) = (some node, []) := by
  have shape : variant.IsShapeOf (adaptEntries variant (nodes.map .node) entries) :=
    Variant.isShapeOf_adaptEntries distinct told parent once named
  have ran : ((validateVariant variant (adaptEntries variant (nodes.map .node) entries)).run []).1 =
      assemble variant (adaptEntries variant (nodes.map .node) entries)
        (((variant.child? entries).map fun _ => nodes).map .valid) := by
    rw [run_validateVariant, Variant.child?_adaptEntries distinct]
    cases variant.child? entries with
    | none => rfl
    | some child =>
      dsimp only [Option.map_some]
      rw [run_validateSequence_ofModels]
  have isValid : (assemble variant (adaptEntries variant (nodes.map .node) entries)
      (((variant.child? entries).map fun _ => nodes).map .valid)).isValid = true := by
    rw [assemble_isValid_iff shape.spelled]
    refine ⟨fun slot listed _ => shape.filled slot listed, fun slot listed isNodes => ?_⟩
    have filled := (Slot.isFilled_nodes_iff listed isNodes).mp (shape.filled slot listed)
    rw [Variant.child?_adaptEntries distinct] at filled
    cases found : variant.child? entries with
    | none =>
      rw [found] at filled
      exact filled
    | some child => rfl
  obtain ⟨node, valid⟩ := Validated.isValid_iff.mp isValid
  refine ⟨node, (Node.IsMadeOf.of_assemble valid).ofVariant, ?_, ?_⟩
  · rw [Node.children_of_assemble parent valid]
    cases found : variant.child? entries with
    | none => exact (childless found).symm
    | some child => rfl
  · rw [salvageNode_parent parent, ran, valid]

private theorem salvageNode_of_outsider {child : Value} (content : variant.child? entries = some child)
    {outsider : Outsider} (member : .outsider outsider ∈ children) :
    ∃ count, salvageNode variant entries children =
      (none, [.skippedNode (reportedName entries) count]) := by
  rw [salvageNode_parent parent]
  cases validated : ((validateVariant variant (adaptEntries variant children entries)).run []).1 with
  | invalid issues => exact ⟨issues.length, rfl⟩
  | valid node =>
    exfalso
    have adapted : variant.child? (adaptEntries variant children entries) = some (.ofModels children) := by
      rw [Variant.child?_adaptEntries distinct, content]
      rfl
    rw [run_validateVariant, adapted] at validated
    have isValid := children_isValid_of_assemble adapted (Validated.isValid_iff.mpr ⟨node, validated⟩)
    obtain ⟨nodes, sequence⟩ := Validated.isValid_iff.mp isValid
    have items : ((validateItems 0 (children.map Value.model)).run []).1 = .valid nodes := sequence
    have inside := isOutsider_eq_false_of_validateItems (Prod.ext items rfl)
    cases inside _ (List.mem_map_of_mem member)

end

end

/-- Successive items are read one by one. -/
theorem salvageItems_eq_flatMap (items : List Value) :
    salvageItems items =
      (items.flatMap fun item => (salvageItem item).1.toList, items.flatMap fun item => (salvageItem item).2) := by
  induction items with
  | nil => rfl
  | cons item rest ih =>
    rw [salvageItems, ih]
    rfl

theorem Builder.build_sequence {builder : Builder} (isRelaxed : builder.strict = false) (nodes : Value)
    (spent : Spent) :
    (builder.build nodes).run spent =
      ({ models := .ok (salvageSequence nodes).1, warnings := (salvageSequence nodes).2 }, spent) := by
  rw [build]
  cases found : nodes.sequenceItems? with
  | none =>
    have nothing : salvageSequence nodes = ([], []) := by
      cases nodes with
      | list | tuple | deque => cases found
      | _ => rfl
    rw [nothing]
    rfl
  | some items =>
    rw [salvageSequence_eq found]
    dsimp only
    rw [isRelaxed, if_neg Bool.false_ne_true]
    rfl

/-- What a mapping has as its children, null if it has none. -/
def Variant.content (variant : Variant) (entries : List (Value × Value)) : Value :=
  (variant.child? entries).getD .null

theorem Variant.salvagedChildren_eq (variant : Variant) (entries : List (Value × Value)) :
    variant.salvagedChildren entries = salvageSequence (variant.content entries) := by
  rw [salvagedChildren, content]
  cases variant.child? entries <;> rfl

/-- Relaxed construction reads an outsider below a mapping exactly when the mapping has one as a child. -/
theorem Variant.hasOutsiderChild_iff {variant : Variant} {entries : List (Value × Value)} :
    variant.HasOutsiderChild entries ↔
      ∃ outsider, .outsider outsider ∈ (salvageSequence (variant.content entries)).1 := by
  constructor
  · rintro ⟨child, items, found, sequence, item, member, isOutsider⟩
    rw [content, found, Option.getD_some, salvageSequence_eq sequence, salvageItems_eq_flatMap]
    cases item with
    | model model =>
      cases model with
      | outsider outsider => exact ⟨outsider, List.mem_flatMap.mpr ⟨_, member, .head _⟩⟩
      | node node => cases isOutsider
    | _ => cases isOutsider
  · rintro ⟨outsider, member⟩
    obtain ⟨items, _, sequence, item, among, read⟩ := mem_of_salvageSequence member
    cases found : variant.child? entries with
    | none =>
      rw [content, found] at sequence
      cases sequence
    | some child =>
      rw [content, found] at sequence
      refine ⟨child, items, found, sequence, item, among, ?_⟩
      rw [eq_of_outsider_mem_salvageItem read]
      rfl

/-- Built nodes without an outsider are nodes of the six variants. -/
theorem exists_nodes_of_no_outsider {models : List Model} (inside : ¬ ∃ outsider, .outsider outsider ∈ models) :
    ∃ nodes : List Node, models = nodes.map .node := by
  refine exists_nodes_of_isOutsider_eq_false fun item member => ?_
  obtain ⟨model, among, rfl⟩ := List.mem_map.mp member
  cases model with
  | node node => rfl
  | outsider outsider => exact absurd ⟨outsider, among⟩ inside

/-- A scenario that checks a title. -/
def headlineLeaf : Node := .directLeaf (.of "Title") ⟨.defined 1 "read" .object, .defined 2 "check" .object⟩ none

/-- The entries of a scenario that inherits from something that is no node, from a scenario, and from a group
that has neither tests nor a fragment set. -/
def heirEntries : List (Value × Value) :=
  [(.str "getDomFragment", .int 4), (.str "scenario", .str "Price"), (.str "given", .null),
    (.str "inherit", .tuple [.str "Title", .ofNode headlineLeaf, .map [(.str "feature", .str "Menu")]])]

/-- The entries of a group whose tests are a scenario of a kind that is not known and a scenario. -/
def hostEntries : List (Value × Value) :=
  [(.str "feature", .str "Menu"), (.str "tests", .list [guestScenario, .ofNode headlineLeaf])]

end ScenarioTree
