import ScenarioTree.Proofs.Schema.Acceptance
import ScenarioTree.Proofs.Schema.Agreement

/-! # Where built nodes come from

Strict and relaxed building make a node from the fields of a mapping in the same way. The children of such a
node are made of the items below the mapping, and its callables stand in the mapping. So, by induction over
the tree that is built, what expansion will call stands in the tree that was given: under a spelling of its
field, or in the attribute of a built node.
-/

namespace ScenarioTree

namespace Value

/-- The values that a value consists of. The keys of a mapping are no parts of it. -/
def parts : Value → List Value
  | .list items | .tuple items | .deque items | .set items | .iter _ items => items
  | .range stop => rangeItems stop
  | .bytearray data => byteItems data
  | .map entries | .proxy entries => entries.map Prod.snd
  | .model m => m.fields.map Prod.snd
  | _ => []

inductive HasPart (root : Value) : Value → Prop
  | self : HasPart root root
  | deeper {value part : Value} (above : HasPart root value) (member : part ∈ value.parts) :
      HasPart root part

theorem HasPart.mem_of_closed {root part : Value} {closed : List Value} (inside : root.HasPart part)
    (start : root ∈ closed) (step : ∀ value ∈ closed, value.parts ⊆ closed) : part ∈ closed := by
  induction inside with
  | self => exact start
  | deeper _ member ih => exact step _ ih member

private theorem mem_parts_of_nodeItems? {value item : Value} {items : List Value}
    (inside : value.nodeItems? = some items) (member : item ∈ items) : item ∈ value.parts := by
  cases value <;> cases inside <;> exact member

private theorem mem_parts_of_sequenceItems? {value item : Value} {items : List Value}
    (inside : value.sequenceItems? = some items) (member : item ∈ items) : item ∈ value.parts := by
  cases value <;> cases inside <;> exact member

private theorem mem_parts_of_entries? {value key content : Value} {entries : List (Value × Value)}
    (mapping : value.entries? = some entries) (listed : (key, content) ∈ entries) :
    content ∈ value.parts := by
  cases value <;> cases mapping <;> exact List.mem_map_of_mem (f := Prod.snd) listed

/-- The items of a sequence in a mapping are parts of what the mapping is a part of. -/
theorem HasPart.item {root value child item : Value} {entries : List (Value × Value)} {name : String}
    {items : List Value} (above : root.HasPart value) (mapping : value.entries? = some entries)
    (named : named? name entries = some child) (inside : child.nodeItems? = some items)
    (member : item ∈ items) : root.HasPart item :=
  .deeper (.deeper above (mem_parts_of_entries? mapping (mem_of_named? named)))
    (mem_parts_of_nodeItems? inside member)

/-- The children of a built node are parts of what the node is a part of. -/
theorem HasPart.child {root : Value} {node child : Node} (above : root.HasPart (.ofNode node))
    (member : child ∈ node.children) : root.HasPart (.ofNode child) := by
  have children : Value.ofNodes node.children ∈ (Value.ofNode node).parts := by
    cases node with
    | plainGroup | fanOutGroup | inheritingLeaf =>
      simp [parts, Model.fields, Node.fields, GroupHead.fields, Node.children]
    | _ => cases member
  exact .deeper (.deeper above children) (List.mem_map_of_mem member)

@[simp] theorem callable_eq_ofOption_iff {callable : Callable} {optional : Option Callable} :
    Value.callable callable = .ofOption optional ↔ optional = some callable := by
  cases optional <;> simp [Value.ofOption, eq_comm]

end Value

/-- The fields whose callables are called while a tree is expanded. -/
def askedFields : List Field := [.fragmentSet, .given, .getFragment]

/-- A callable stands in a tree: under a spelling of its field in some mapping, or in the attribute of
some built node. -/
inductive Value.Offers (root : Value) (field : Field) (callable : Callable) : Prop
  | written {value : Value} {entries : List (Value × Value)} {key : String} (part : root.HasPart value)
      (mapping : value.entries? = some entries) (spelled : key ∈ field.keys)
      (listed : (.str key, .callable callable) ∈ entries)
  | built {node : Node} (part : root.HasPart (.ofNode node))
      (listed : (field.name, .callable callable) ∈ node.fields)

/-- The callables of a mapping that expansion may call are among those that are offered. -/
def Supplies (offered : Field → Callable → Prop) (entries : List (Value × Value)) : Prop :=
  ∀ field ∈ askedFields, ∀ key ∈ field.keys, ∀ callable, (.str key, .callable callable) ∈ entries →
    offered field callable

private theorem Value.HasPart.supplies {root value : Value} {entries : List (Value × Value)}
    (part : root.HasPart value) (mapping : value.entries? = some entries) : Supplies root.Offers entries :=
  fun _ _ _ spelled _ listed => .written part mapping spelled listed

namespace Node

inductive Throughout (condition : Node → Prop) : Node → Prop
  | node {node : Node} (here : condition node) (below : ∀ child ∈ node.children, Throughout condition child) :
      Throughout condition node

theorem Throughout.mono {first second : Node → Prop} (weaker : ∀ node, first node → second node)
    {node : Node} (holds : node.Throughout first) : node.Throughout second := by
  induction holds with
  | node here _ ih => exact .node (weaker _ here) ih

theorem sizeOf_child_lt {node child : Node} (member : child ∈ node.children) :
    sizeOf child < sizeOf node := by
  cases node with
  | plainGroup | fanOutGroup | inheritingLeaf =>
    have smaller := List.sizeOf_lt_of_mem member
    simp only [children] at smaller
    simp
    omega
  | _ => cases member

/-- A condition that all nodes meet holds throughout every node. -/
theorem throughout_of_forall {condition : Node → Prop} (all : ∀ node, condition node) (node : Node) :
    node.Throughout condition := by
  refine .node (all node) fun child member => ?_
  have smaller := sizeOf_child_lt member
  exact throughout_of_forall all child
termination_by sizeOf node

/-- The callables of a node that expansion calls are among those that are offered. -/
def IsFurnished (offered : Field → Callable → Prop) (node : Node) : Prop :=
  ∀ field ∈ askedFields, ∀ callable, (field.name, .callable callable) ∈ node.fields → offered field callable

/-- What a node of a variant has of the mapping that it was made of: callables that stand under spellings of
their fields. The origin of its children is told apart. -/
structure IsMadeOf (variant : Variant) (entries : List (Value × Value)) (origin : Node → Prop)
    (node : Node) : Prop where
  ofVariant : node.variant = variant
  asked : ∀ field ∈ askedFields, ∀ callable, (field.name, .callable callable) ∈ node.fields →
    ∃ key ∈ field.keys, (.str key, .callable callable) ∈ entries
  below : ∀ child ∈ node.children, origin child

/-- A node that was made of a mapping is furnished by what the mapping supplies. -/
theorem IsMadeOf.isFurnished {variant : Variant} {entries : List (Value × Value)} {origin : Node → Prop}
    {node : Node} {offered : Field → Callable → Prop} (made : node.IsMadeOf variant entries origin)
    (supplies : Supplies offered entries) : node.IsFurnished offered := by
  intro field asked callable listed
  obtain ⟨key, spelled, found⟩ := made.asked field asked callable listed
  exact supplies field asked key spelled callable found

end Node

theorem Validated.map_eq_valid_iff {α β : Type} {f : α → β} {result : Validated α} {value : β} :
    f <$> result = valid value ↔ ∃ origin, result = valid origin ∧ f origin = value := by
  cases result <;> simp

theorem validateCallable_eq_valid_iff {value : Value} {callable : Callable} :
    validateCallable value = .valid callable ↔ value = .callable callable := by
  cases value <;> simp [validateCallable, Value.callable?, Validated.fault]

private theorem validateOptional_eq_valid_some_iff {value : Value} {callable : Callable} :
    validateOptional value = .valid (some callable) ↔ value = .callable callable := by
  cases value <;> simp [validateOptional, validateCallable, Value.callable?, Validated.fault]

namespace Field

variable {α : Type} {field : Field} {entries : List (Value × Value)} {validate : Value → Validated α}

theorem exists_named_of_required {result : α} (valid : field.required validate entries = .valid result) :
    ∃ key ∈ field.keys, ∃ value, Value.named? key entries = some value ∧ validate value = .valid result := by
  rw [required] at valid
  cases picked : field.pick? entries with
  | none =>
    rw [picked] at valid
    cases valid
  | some found =>
    rw [picked] at valid
    obtain ⟨spelled, named⟩ := mem_keys_of_pick? picked
    exact ⟨found.1, spelled, found.2, named, Validated.within_eq_valid_iff.mp valid⟩

private theorem exists_of_required {result : α} (valid : field.required validate entries = .valid result) :
    ∃ key ∈ field.keys, ∃ value, (.str key, value) ∈ entries ∧ validate value = .valid result := by
  obtain ⟨key, spelled, value, named, read⟩ := exists_named_of_required valid
  exact ⟨key, spelled, value, Value.mem_of_named? named, read⟩

/-- An optional field is absent, or it is read from what is under one of its keys. -/
theorem exists_of_optional {absent result : α}
    (valid : field.optional validate absent entries = .valid result) :
    result = absent ∨
      ∃ key ∈ field.keys, ∃ value, (.str key, value) ∈ entries ∧ validate value = .valid result := by
  rw [optional] at valid
  cases picked : field.pick? entries with
  | none =>
    rw [picked] at valid
    cases valid
    exact .inl rfl
  | some found =>
    rw [picked] at valid
    obtain ⟨spelled, named⟩ := mem_keys_of_pick? picked
    exact .inr ⟨found.1, spelled, found.2, Value.mem_of_named? named, Validated.within_eq_valid_iff.mp valid⟩

private theorem mem_of_callable {callable : Callable}
    (valid : field.required validateCallable entries = .valid callable) :
    ∃ key ∈ field.keys, (.str key, .callable callable) ∈ entries := by
  obtain ⟨key, spelled, value, listed, found⟩ := exists_of_required valid
  cases validateCallable_eq_valid_iff.mp found
  exact ⟨key, spelled, listed⟩

private theorem mem_of_optionalCallable {optional : Option Callable}
    (valid : field.optional validateOptional none entries = .valid optional) (callable : Callable)
    (present : optional = some callable) : ∃ key ∈ field.keys, (.str key, .callable callable) ∈ entries := by
  subst present
  rcases exists_of_optional valid with absent | ⟨key, spelled, value, listed, found⟩
  · cases absent
  · cases validateOptional_eq_valid_some_iff.mp found
    exact ⟨key, spelled, listed⟩

theorem name_fragmentSet : fragmentSet.name = "fragment_set" := rfl
theorem name_given : given.name = "given" := rfl
theorem name_getFragment : getFragment.name = "get_dom_fragment" := rfl

end Field

private theorem mem_of_givenChildren {children? : Option (Validated (List Node))} {segment : Segment}
    {nodes : List Node}
    (valid : (match children? with
      | some result => result.within segment
      | none => (Validated.fault .missing).within segment) = .valid nodes) :
    ∀ child ∈ nodes, ∃ given, children? = some (.valid given) ∧ child ∈ given := by
  intro child member
  cases children? with
  | none => cases valid
  | some result => exact ⟨nodes, congrArg some (Validated.within_eq_valid_iff.mp valid), member⟩

theorem Node.IsMadeOf.of_assemble {variant : Variant} {entries : List (Value × Value)}
    {children? : Option (Validated (List Node))} {node : Node}
    (valid : assemble variant entries children? = .valid node) :
    node.IsMadeOf variant entries fun child => ∃ nodes, children? = some (.valid nodes) ∧ child ∈ nodes := by
  cases variant <;>
    simp only [assemble, Validated.besides_eq_valid_iff, Validated.seq_eq_valid_iff,
      Validated.map_eq_valid_iff] at valid
  case plainGroup =>
    obtain ⟨⟨_, tests, ⟨head, heads, rfl⟩, children, rfl⟩, _⟩ := valid
    refine ⟨rfl, ?_, mem_of_givenChildren children⟩
    simp [askedFields, fields, GroupHead.fields, Field.name_fragmentSet, Field.name_given,
      Field.name_getFragment]
  case fanOutGroup =>
    obtain ⟨⟨_, tests, ⟨_, fragmentSet, ⟨head, heads, rfl⟩, source, rfl⟩, children, rfl⟩, _⟩ := valid
    refine ⟨rfl, ?_, ?_⟩
    · simpa [askedFields, fields, GroupHead.fields, Field.name_fragmentSet, Field.name_given,
        Field.name_getFragment] using Field.mem_of_callable source
    · split at children
      · exact mem_of_givenChildren children
      · cases children
        exact List.forall_mem_nil _
  case directLeaf =>
    obtain ⟨⟨_, getFragment, ⟨_, check, ⟨name, named, rfl⟩, _, rfl⟩, getter, rfl⟩, _⟩ := valid
    refine ⟨rfl, ?_, List.forall_mem_nil _⟩
    simpa [askedFields, fields, Check.fields, Field.name_fragmentSet, Field.name_given,
      Field.name_getFragment] using Field.mem_of_optionalCallable getter
  case conditionalLeaf =>
    obtain ⟨⟨_, given, ⟨_, getFragment, ⟨_, check, ⟨name, named, rfl⟩, _, rfl⟩, getter, rfl⟩, condition,
      rfl⟩, _⟩ := valid
    refine ⟨rfl, ?_, List.forall_mem_nil _⟩
    simpa [askedFields, fields, Check.fields, Field.name_fragmentSet, Field.name_given,
      Field.name_getFragment] using
        And.intro (Field.mem_of_callable condition) (Field.mem_of_optionalCallable getter)
  case fanOutLeaf =>
    obtain ⟨⟨_, given, ⟨_, fragmentSet, ⟨_, check, ⟨name, named, rfl⟩, _, rfl⟩, source, rfl⟩, condition,
      rfl⟩, _⟩ := valid
    refine ⟨rfl, ?_, List.forall_mem_nil _⟩
    simpa [askedFields, fields, Check.fields, Field.name_fragmentSet, Field.name_given,
      Field.name_getFragment] using
        And.intro (Field.mem_of_callable source) (Field.mem_of_optionalCallable condition)
  case inheritingLeaf =>
    obtain ⟨⟨_, inherited, ⟨_, getFragment, ⟨name, named, rfl⟩, getter, rfl⟩, children, rfl⟩, _⟩ := valid
    refine ⟨rfl, ?_, mem_of_givenChildren children⟩
    simpa [askedFields, fields, Value.ofNodes, Field.name_fragmentSet, Field.name_given,
      Field.name_getFragment] using Field.mem_of_optionalCallable getter

/-- A value is validated as a node when some iterators are spent. -/
def Value.IsValidatedAs (value : Value) (node : Node) : Prop :=
  ∃ spent after, (validateNode value).run spent = (.valid node, after)

private theorem mem_of_validateItems {items : List Value} {position : Nat} {spent after : Spent}
    {nodes : List Node} (ran : (validateItems position items).run spent = (.valid nodes, after)) :
    ∀ node ∈ nodes, ∃ item ∈ items, item.IsValidatedAs node := by
  induction items generalizing position spent nodes with
  | nil =>
    cases ran
    exact List.forall_mem_nil _
  | cons item rest ih =>
    obtain ⟨first, middle, others, own, last, rfl⟩ := run_validateItems_cons_eq_valid_iff.mp ran
    refine List.forall_mem_cons.mpr ⟨⟨item, List.mem_cons_self .., spent, middle, own⟩, ?_⟩
    intro node member
    obtain ⟨other, listed, validated⟩ := ih last node member
    exact ⟨other, List.mem_cons_of_mem _ listed, validated⟩

private theorem mem_of_validateSequence {otherwise : Fault} {value : Value} {spent after : Spent}
    {nodes : List Node} (ran : (validateSequence otherwise value).run spent = (.valid nodes, after)) :
    ∀ node ∈ nodes, ∃ items, value.nodeItems? = some items ∧ ∃ item ∈ items, item.IsValidatedAs node := by
  intro node member
  cases left : value.remaining? spent with
  | none =>
    obtain ⟨issues, refused⟩ := run_validateSequence_none otherwise (Value.nodeItems?_eq_none left)
    cases refused.symm.trans ran
  | some items =>
    obtain ⟨all, inside, among⟩ := Value.mem_of_remaining? left
    rw [run_validateSequence otherwise left] at ran
    obtain ⟨item, listed, validated⟩ := mem_of_validateItems ran node member
    exact ⟨all, inside, item, among item listed, validated⟩

/-- What a valid node has of the mapping, and of the sequence below it. -/
theorem Node.IsMadeOf.of_validateVariant {variant : Variant} {entries : List (Value × Value)}
    {spent after : Spent} {node : Node}
    (ran : (validateVariant variant entries).run spent = (.valid node, after)) :
    node.IsMadeOf variant entries fun child => ∃ value items, variant.child? entries = some value ∧
      value.nodeItems? = some items ∧ ∃ item ∈ items, item.IsValidatedAs child := by
  rw [run_validateVariant] at ran
  cases found : variant.child? entries with
  | none =>
    rw [found] at ran
    have made := IsMadeOf.of_assemble (Prod.mk.inj ran).1
    refine { made with below := fun child member => ?_ }
    obtain ⟨nodes, none, _⟩ := made.below child member
    cases none
  | some value =>
    rw [found] at ran
    have made := IsMadeOf.of_assemble (Prod.mk.inj ran).1
    refine { made with below := fun child member => ?_ }
    obtain ⟨nodes, valid, listed⟩ := made.below child member
    obtain ⟨items, inside, item, among, validated⟩ :=
      mem_of_validateSequence (Prod.ext (Option.some.inj valid) rfl) child listed
    exact ⟨value, items, rfl, inside, item, among, validated⟩

section

variable {root : Value}

/-- A built node in a tree is furnished by the tree. -/
theorem Node.throughout_of_part {node : Node} (part : root.HasPart (.ofNode node)) :
    node.Throughout (IsFurnished root.Offers) := by
  refine .node (fun field _ callable listed => .built part listed) fun child member => ?_
  have smaller := sizeOf_child_lt member
  exact throughout_of_part (part.child member)
termination_by sizeOf node

/-- A part of a tree that is validated as a node is furnished by the tree. -/
theorem Value.IsValidatedAs.throughout {value : Value} {node : Node} (validated : value.IsValidatedAs node)
    (part : root.HasPart value) : node.Throughout (Node.IsFurnished root.Offers) := by
  induction value using Value.treeInduction generalizing node with
  | leaf value plain =>
    obtain ⟨spent, after, ran⟩ := validated
    rcases validateNode_leaf plain with ⟨kept, rfl⟩ | fault
    · cases ran
      exact Node.throughout_of_part part
    · rw [fault] at ran
      cases ran
  | mapping value entries mapping ih =>
    obtain ⟨spent, after, ran⟩ := validated
    rw [run_validateNode_mapping mapping] at ran
    cases told : Variant.ofKeys? entries with
    | none =>
      rw [told] at ran
      cases ran
    | some variant =>
      rw [told] at ran
      obtain ⟨valid, same⟩ := Prod.mk.inj ran
      have madeOf := Node.IsMadeOf.of_validateVariant (Prod.ext (Validated.within_eq_valid_iff.mp valid) same)
      refine .node (madeOf.isFurnished (part.supplies mapping)) fun child listed => ?_
      obtain ⟨content, items, found, inside, item, member, below⟩ := madeOf.below child listed
      obtain ⟨field, _, named⟩ := Option.bind_eq_some_iff.mp found
      exact ih field.name content items named inside item member below
        (part.item mapping named inside member)

end

/-- What is under a key of an adapted mapping was under it before, unless it is adapted to the key. -/
theorem mem_of_mem_adaptEntries {variant : Variant} {children : List Model} {entries : List (Value × Value)}
    {key : String} {value : Value} (listed : (.str key, value) ∈ adaptEntries variant children entries) :
    ∃ source, (.str key, source) ∈ entries ∧ (adaptEntry children key source).2 = value := by
  obtain ⟨⟨spelled, source⟩, member, adapted⟩ := List.mem_filterMap.mp listed
  cases spelled with
  | str name =>
    dsimp only at adapted
    split at adapted
    · rw [adaptEntry_eq] at adapted
      obtain ⟨same, content⟩ := Prod.mk.inj (Option.some.inj adapted)
      cases same
      exact ⟨source, member, content⟩
    · cases adapted
  | _ => cases adapted

/-- Only under its own name does a field get anything when it is supplied. -/
theorem Field.mem_of_mem_supply {field : Field} {scenario key : String} {entries : List (Value × Value)}
    {value : Value} (listed : (.str key, value) ∈ (field.supply scenario entries).1)
    (foreign : key ≠ field.name) : (.str key, value) ∈ entries := by
  rw [supply] at listed
  split at listed
  · exact listed
  · rcases List.mem_append.mp listed with kept | supplied
    · exact (List.mem_filter.mp kept).1
    · cases List.mem_singleton.mp supplied
      exact absurd rfl foreign

/-- Stand-ins are put under the names of the fields that they stand in for. -/
theorem mem_of_mem_supplyCallables {variant : Variant} {key : String} {entries : List (Value × Value)}
    {value : Value} (listed : (.str key, value) ∈ (supplyCallables variant entries).1)
    (foreign : key ≠ "get_actual" ∧ key ≠ "comparison") : (.str key, value) ∈ entries := by
  unfold supplyCallables at listed
  split at listed
  · exact Field.mem_of_mem_supply (Field.mem_of_mem_supply listed foreign.2) foreign.1
  · exact listed

/-- The mapping from which relaxed construction makes a node of a variant. -/
def Variant.adapted (variant : Variant) (entries : List (Value × Value)) (children : List Model) :
    List (Value × Value) :=
  (supplyCallables variant (adaptEntries variant children entries)).1

section

variable {variant : Variant} {entries : List (Value × Value)} {children : List Model}

/-- A node of relaxed construction is one that is validated of the adapted mapping. -/
theorem Node.IsMadeOf.of_salvageNode {node : Node}
    (salvaged : (salvageNode variant entries children).1 = some node) :
    node.IsMadeOf variant (variant.adapted entries children) fun child => ∃ value items,
      variant.child? (variant.adapted entries children) = some value ∧
        value.nodeItems? = some items ∧ ∃ item ∈ items, item.IsValidatedAs child := by
  have valid : ((validateVariant variant (variant.adapted entries children)).run []).1 = .valid node := by
    rw [salvageNode] at salvaged
    dsimp only at salvaged
    rw [Variant.adapted]
    split at salvaged
    · rename_i valid
      cases salvaged
      exact valid
    · cases salvaged
  exact .of_validateVariant (Prod.ext valid rfl)

/-- An adapted mapping supplies what the mapping does. -/
theorem Supplies.adapted {offered : Field → Callable → Prop} (supplies : Supplies offered entries) :
    Supplies offered (variant.adapted entries children) := by
  have ordinary : ∀ field ∈ askedFields, ∀ key ∈ field.keys,
      (key ≠ "get_actual" ∧ key ≠ "comparison") ∧
        isKeyOf titleFields key = false ∧ isKeyOf childFields key = false := by decide
  intro field asked key spelled callable listed
  obtain ⟨foreign, noTitle, noChildren⟩ := ordinary field asked key spelled
  obtain ⟨source, member, same⟩ := mem_of_mem_adaptEntries (mem_of_mem_supplyCallables listed foreign)
  rw [adaptEntry, noTitle, noChildren] at same
  cases same
  exact supplies field asked key spelled callable member

/-- The children of an adapted mapping are those that were built. -/
theorem Variant.eq_ofModels_of_child? {value : Value}
    (found : variant.child? (variant.adapted entries children) = some value) :
    value = .ofModels children := by
  have ordinary : ∀ field ∈ childFields, (field.name ≠ "get_actual" ∧ field.name ≠ "comparison") ∧
      isKeyOf titleFields field.name = false ∧ isKeyOf childFields field.name = true := by decide
  obtain ⟨field, child, named⟩ := Option.bind_eq_some_iff.mp found
  obtain ⟨foreign, noTitle, isChild⟩ := ordinary field (mem_childFields child)
  obtain ⟨source, _, same⟩ :=
    mem_of_mem_adaptEntries (mem_of_mem_supplyCallables (Value.mem_of_named? named) foreign)
  rw [adaptEntry, noTitle, isChild] at same
  exact same.symm

end

/-- Every built node of successive items is one of them. -/
theorem mem_of_salvageItems {items : List Value} {model : Model} (member : model ∈ (salvageItems items).1) :
    ∃ item ∈ items, model ∈ (salvageItem item).1 := by
  induction items with
  | nil => cases member
  | cons item rest ih =>
    rw [salvageItems] at member
    rcases List.mem_append.mp member with own | others
    · exact ⟨item, List.mem_cons_self .., Option.mem_toList.mp own⟩
    · obtain ⟨other, listed, found⟩ := ih others
      exact ⟨other, List.mem_cons_of_mem _ listed, found⟩

theorem mem_of_salvageSequence {value : Value} {model : Model}
    (member : model ∈ (salvageSequence value).1) :
    ∃ items, value.nodeItems? = some items ∧ value.sequenceItems? = some items ∧
      ∃ item ∈ items, model ∈ (salvageItem item).1 := by
  cases value with
  | list items | tuple items | deque items => exact ⟨items, rfl, rfl, mem_of_salvageItems member⟩
  | _ => cases member

/-- What building gives of a tree is, or is made of, a part of the tree. -/
theorem Builder.source_of_build {builder : Builder} {root : Value} {spent : Spent} {models : List Model}
    (built : ((builder.build root).run spent).1.models = .ok models) {model : Model}
    (member : model ∈ models) :
    ∃ part, root.HasPart part ∧ (part = .model model ∨
      (∃ node, model = .node node ∧ part.IsValidatedAs node) ∨ model ∈ (salvageItem part).1) := by
  have part {item : Value} {items : List Value} (found : root.sequenceItems? = some items)
      (member : item ∈ items) : root.HasPart item :=
    .deeper .self (Value.mem_parts_of_sequenceItems? found member)
  have ended := builder.build_ends root spent
  generalize (builder.build root).run spent = outcome at ended built
  obtain ⟨result, after⟩ := outcome
  cases ended with
  | nothing _ =>
    cases built
    cases member
  | kept _ found =>
    cases built
    exact ⟨.model model, part found (List.mem_map_of_mem member), .inl rfl⟩
  | validated _ found _ ran =>
    cases built
    obtain ⟨node, listed, rfl⟩ := List.mem_map.mp member
    obtain ⟨_, inside, item, among, validated⟩ := mem_of_validateSequence ran node listed
    cases inside
    exact ⟨item, part found among, .inr (.inl ⟨node, rfl, validated⟩)⟩
  | refused => cases built
  | salvaged _ found =>
    cases built
    obtain ⟨item, among, salvaged⟩ := mem_of_salvageItems member
    exact ⟨item, part found among, .inr (.inr salvaged)⟩

/-- A mapping is read as a node, so that only an outsider is read as one. -/
theorem eq_of_outsider_mem_salvageItem {value : Value} {outsider : Outsider}
    (salvaged : .outsider outsider ∈ (salvageItem value).1) : value = .model (.outsider outsider) := by
  cases value with
  | model own =>
    cases salvaged
    rfl
  | map entries | proxy entries =>
    rw [salvageItem_entries rfl] at salvaged
    split at salvaged
    · cases salvaged
    · obtain ⟨_, _, same⟩ := Option.map_eq_some_iff.mp salvaged
      cases same
  | _ => cases salvaged

/-- The outsiders that building gives of a tree are parts of the tree. -/
theorem Builder.hasPart_of_outsider {builder : Builder} {root : Value} {spent : Spent}
    {models : List Model} (built : ((builder.build root).run spent).1.models = .ok models)
    {outsider : Outsider} (member : .outsider outsider ∈ models) :
    root.HasPart (.model (.outsider outsider)) := by
  obtain ⟨part, inside, rfl | ⟨_, same, _⟩ | salvaged⟩ := source_of_build built member
  · exact inside
  · cases same
  · exact eq_of_outsider_mem_salvageItem salvaged ▸ inside

/-- The children of a node that relaxed construction makes of a mapping are read from the items below the
mapping. -/
theorem Node.exists_salvageItem_of_child {value : Value} {entries : List (Value × Value)}
    (mapping : value.entries? = some entries) {node child : Node}
    (salvaged : .node node ∈ (salvageItem value).1) (member : child ∈ node.children) :
    ∃ variant sequence items, Variant.ofShape? entries = some variant ∧
      variant.child? entries = some sequence ∧ sequence.nodeItems? = some items ∧
      sequence.sequenceItems? = some items ∧ ∃ item ∈ items, .node child ∈ (salvageItem item).1 := by
  rw [salvageItem_entries mapping] at salvaged
  cases told : Variant.ofShape? entries with
  | none =>
    rw [told] at salvaged
    cases salvaged
  | some variant =>
    rw [told] at salvaged
    obtain ⟨own, built, same⟩ := Option.map_eq_some_iff.mp salvaged
    cases same
    obtain ⟨value, items, found, inside, item, among, spent, after, ran⟩ :=
      (IsMadeOf.of_salvageNode built).below child member
    cases Variant.eq_ofModels_of_child? found
    cases inside
    obtain ⟨model, below, rfl⟩ := List.mem_map.mp among
    -- An outsider among the children is never valid.
    cases model with
    | outsider outsider => cases outsider <;> cases ran
    | node kept =>
      cases ran
      rw [Variant.salvagedChildren] at below
      cases content : variant.child? entries with
      | none =>
        rw [content] at below
        cases below
      | some sequence =>
        rw [content] at below
        obtain ⟨items, inside, found⟩ := mem_of_salvageSequence below
        exact ⟨variant, sequence, items, rfl, content, inside, found⟩

section

variable {root : Value}

/-- A part of a tree that is read as a node is furnished by the tree. -/
theorem Node.throughout_of_salvageItem {value : Value} (part : root.HasPart value) {node : Node}
    (salvaged : .node node ∈ (salvageItem value).1) : node.Throughout (IsFurnished root.Offers) := by
  induction value using Value.treeInduction generalizing node with
  | leaf value plain =>
    cases value with
    | model own =>
      cases salvaged
      exact Node.throughout_of_part part
    | map | proxy => cases plain
    | _ => cases salvaged
  | mapping value entries mapping ih =>
    have supplied : node.IsFurnished root.Offers := by
      rw [salvageItem_entries mapping] at salvaged
      split at salvaged
      · cases salvaged
      · obtain ⟨own, built, same⟩ := Option.map_eq_some_iff.mp salvaged
        cases same
        exact (Node.IsMadeOf.of_salvageNode built).isFurnished (part.supplies mapping).adapted
    refine .node supplied fun child member => ?_
    obtain ⟨variant, sequence, items, _, content, inside, _, item, among, found⟩ :=
      Node.exists_salvageItem_of_child mapping salvaged member
    obtain ⟨field, _, named⟩ := Option.bind_eq_some_iff.mp content
    exact ih field.name sequence items named inside item among
      (part.item mapping named inside among) found

/-- Whatever nodes building gives of a tree are furnished by the tree. -/
theorem Builder.throughout_of_build {builder : Builder} {spent : Spent} {models : List Model}
    (built : ((builder.build root).run spent).1.models = .ok models) {node : Node}
    (member : .node node ∈ models) : node.Throughout (Node.IsFurnished root.Offers) := by
  obtain ⟨part, inside, rfl | ⟨_, same, validated⟩ | salvaged⟩ := source_of_build built member
  · exact Node.throughout_of_part inside
  · cases same
    exact validated.throughout inside
  · exact Node.throughout_of_salvageItem inside salvaged

end

/-- A built node is one of the six variants and furnished by a tree, as are all nodes below it. -/
def Model.IsFurnishedBy (root : Value) (model : Model) : Prop :=
  ∃ node, model = .node node ∧ node.Throughout (Node.IsFurnished root.Offers)

/-- Whatever building gives of a tree without outsiders is of the six variants and furnished by the
tree. -/
theorem Builder.build_isFurnishedBy {builder : Builder} {root : Value} {spent : Spent}
    {models : List Model} (known : ∀ outsider, ¬ root.HasPart (.model (.outsider outsider)))
    (built : ((builder.build root).run spent).1.models = .ok models) :
    ∀ model ∈ models, model.IsFurnishedBy root := by
  intro model member
  cases model with
  | node node => exact ⟨node, rfl, throughout_of_build built member⟩
  | outsider outsider => exact absurd (hasPart_of_outsider built member) (known outsider)

end ScenarioTree
