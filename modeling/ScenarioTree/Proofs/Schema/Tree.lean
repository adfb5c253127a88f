import ScenarioTree.Schema.Relaxed

/-! # Values as trees

A mapping is the node of a tree whose children are the items of the sequences under the keys of its
child fields. What strict validation and relaxed construction do with a mapping is said here in terms
of the values under its keys, so that proofs go from a mapping to the items below it by one induction.
-/

namespace ScenarioTree

namespace Value

/-- The items of a value that strict validation takes for a sequence of nodes. -/
def nodeItems? : Value → Option (List Value)
  | list items | tuple items | deque items | set items | iter _ items => some items
  | range stop => some (rangeItems stop)
  | _ => none

/-- The items that are left in such a value: a spent iterator has none. -/
def remaining? (spent : Spent) : Value → Option (List Value)
  | iter id items => some (if spent.contains id then [] else items)
  | value => value.nodeItems?

/-- The spent iterators after the items of a value were taken. -/
def spend (spent : Spent) : Value → Spent
  | iter id _ => if spent.contains id then spent else id :: spent
  | _ => spent

theorem mem_of_named? {name : String} {entries : List (Value × Value)} {value : Value}
    (found : named? name entries = some value) : (.str name, value) ∈ entries := by
  obtain ⟨⟨key, value⟩, first, rfl⟩ := Option.map_eq_some_iff.mp found
  have named := List.find?_some first
  cases key with
  | str other =>
    cases eq_of_beq named
    exact List.mem_of_find?_eq_some first
  | _ => cases named

theorem named?_isSome (name : String) (entries : List (Value × Value)) :
    (named? name entries).isSome = hasName name entries := by
  rw [named?, Option.isSome_map, hasName, Bool.eq_iff_iff, List.find?_isSome, List.any_eq_true]

theorem sizeOf_named?_lt {value child : Value} {entries : List (Value × Value)} {name : String}
    (mapping : value.entries? = some entries) (found : named? name entries = some child) :
    sizeOf child < sizeOf value := by
  have inside := List.sizeOf_lt_of_mem (mem_of_named? found)
  have entry : sizeOf (Value.str name, child) = 1 + sizeOf (Value.str name) + sizeOf child := rfl
  cases value <;> cases mapping <;> simp <;> omega

theorem exists_int_of_mem_rangeItems {stop : Int} {item : Value} (member : item ∈ rangeItems stop) :
    ∃ number, item = .int number := by
  obtain ⟨position, _, rfl⟩ := List.mem_map.mp member
  exact ⟨position, rfl⟩

theorem exists_int_of_mem_byteItems {data : List UInt8} {item : Value} (member : item ∈ byteItems data) :
    ∃ number, item = .int number := by
  obtain ⟨byte, _, rfl⟩ := List.mem_map.mp member
  exact ⟨byte.toNat, rfl⟩

/-- The items of a sequence are smaller than it, as far as they are mappings. -/
theorem sizeOf_item_lt {value item : Value} {items : List Value} (inside : value.nodeItems? = some items)
    (member : item ∈ items) (mapping : item.entries?.isSome = true) : sizeOf item < sizeOf value := by
  have smaller := List.sizeOf_lt_of_mem member
  cases value with
  | range stop =>
    cases inside
    obtain ⟨_, rfl⟩ := exists_int_of_mem_rangeItems member
    cases mapping
  | list | tuple | deque | set | iter =>
    cases inside
    simp
    omega
  | _ => cases inside

/-- Induction over the trees that values are: what holds of values that are no mappings, and of a
mapping when it holds of the items of all sequences in it, holds of all values. -/
@[elab_as_elim]
theorem treeInduction {motive : Value → Prop} (value : Value)
    (leaf : ∀ value, value.entries? = none → motive value)
    (mapping : ∀ value entries, value.entries? = some entries →
      (∀ name child items, named? name entries = some child → child.nodeItems? = some items →
        ∀ item ∈ items, motive item) → motive value) : motive value := by
  cases found : value.entries? with
  | none => exact leaf value found
  | some entries =>
    refine mapping value entries found fun name child items named inside item member => ?_
    cases isMapping : item.entries? with
    | none => exact leaf item isMapping
    | some _ =>
      have below : sizeOf item < sizeOf child := by
        apply sizeOf_item_lt inside member
        rw [isMapping]
        rfl
      have smaller := sizeOf_named?_lt found named
      exact treeInduction item leaf mapping
termination_by sizeOf value

/-- A condition on the entries of mappings holds throughout the tree that a value is. -/
inductive Throughout (condition : List (Value × Value) → Prop) : Value → Prop
  | leaf {value : Value} (plain : value.entries? = none) : Throughout condition value
  | mapping {value : Value} {entries : List (Value × Value)} (found : value.entries? = some entries)
      (here : condition entries)
      (below : ∀ field ∈ childFields, ∀ child items, named? field.name entries = some child →
        child.nodeItems? = some items → ∀ item ∈ items, Throughout condition item) :
      Throughout condition value

/-- A condition holds throughout a mapping without children when it holds of the mapping. -/
theorem Throughout.childless {condition : List (Value × Value) → Prop} {value : Value}
    {entries : List (Value × Value)} (found : value.entries? = some entries) (here : condition entries)
    (tests : named? "tests" entries = none) (inherited : named? "inherit" entries = none) :
    value.Throughout condition := by
  refine .mapping found here (List.forall_mem_cons.mpr ⟨?tests, List.forall_mem_singleton.mpr ?inherited⟩)
  case tests =>
    intro child items named
    cases tests.symm.trans named
  case inherited =>
    intro child items named
    cases inherited.symm.trans named

/-- A condition holds throughout a group when it holds of the group and throughout its tests. -/
theorem Throughout.group {condition : List (Value × Value) → Prop} {value child : Value}
    {entries : List (Value × Value)} {items : List Value} (found : value.entries? = some entries)
    (here : condition entries) (tests : named? "tests" entries = some child)
    (inside : child.nodeItems? = some items) (inherited : named? "inherit" entries = none)
    (below : ∀ item ∈ items, item.Throughout condition) : value.Throughout condition := by
  refine .mapping found here (List.forall_mem_cons.mpr ⟨?tests, List.forall_mem_singleton.mpr ?inherited⟩)
  case tests =>
    intro child items named within
    cases tests.symm.trans named
    cases inside.symm.trans within
    exact below
  case inherited =>
    intro child items named
    cases inherited.symm.trans named

end Value

theorem Variant.mem_childFields {variant : Variant} {field : Field}
    (found : variant.childField? = some field) : field ∈ childFields := by
  cases variant <;> cases found <;> simp [childFields]

section

variable {value : Value} {entries : List (Value × Value)}

theorem validateNode_mapping (mapping : value.entries? = some entries) :
    validateNode value =
      match Variant.ofKeys? entries with
      | none => pure (.fault .invalidNode)
      | some variant => Validated.within (.key variant.tag) <$> validateVariant variant entries := by
  cases value with
  | map | proxy =>
    cases mapping
    rw [validateNode]
    cases Variant.ofKeys? entries with
    | none => rfl
    | some variant =>
      unfold validateVariant
      dsimp only
      cases variant.childField? <;> rfl
  | _ => cases mapping

/-- Only mappings and built nodes of the six variants are nodes. -/
theorem validateNode_leaf (plain : value.entries? = none) :
    (∃ node, value = .ofNode node) ∨ validateNode value = pure (.fault .invalidNode) := by
  cases value with
  | map | proxy => cases plain
  | model m =>
    cases m with
    | node node => exact .inl ⟨node, rfl⟩
    | outsider => exact .inr rfl
  | _ => exact .inr rfl

/-- The children of a mapping are those under the key, validated as a sequence. -/
theorem validateChildrenAt_eq (name : String) (entries : List (Value × Value)) :
    validateChildrenAt name entries =
      match Value.named? name entries with
      | some child => some <$> validateSequence .tupleType child
      | none => pure none := by
  induction entries with
  | nil => rfl
  | cons entry rest ih =>
    obtain ⟨key, value⟩ := entry
    rw [validateChildrenAt, Value.named?, List.find?_cons]
    cases Value.isName name key with
    | true => rfl
    | false => exact ih

/-- One more item that is no node comes first. -/
theorem invalidItems_succ (position count : Nat) :
    List.cons <$> (Validated.fault .invalidNode : Validated Node).within (.index position) <*>
        invalidItems (position + 1) count =
      invalidItems position (count + 1) := by
  have shifted : (List.range (count + 1)).map (fun (i : Nat) =>
        (⟨.invalidNode, [.index (position + i)]⟩ : Issue)) =
      ⟨.invalidNode, [.index position]⟩ :: (List.range count).map fun (i : Nat) =>
        ⟨.invalidNode, [.index (position + 1 + i)]⟩ := by
    rw [List.range_succ_eq_map, List.map_cons, List.map_map]
    simp only [Function.comp_def, List.map_inj_left, List.cons.injEq]
    refine ⟨by simp, fun index _ => ?_⟩
    congr 3
    omega
  rw [invalidItems, invalidItems, if_neg (Nat.succ_ne_zero count), shifted]
  cases count <;> rfl

private theorem validateItems_eq_invalidItems {items : List Value} (position : Nat)
    (foreign : ∀ item ∈ items, validateNode item = pure (.fault .invalidNode)) :
    validateItems position items = pure (invalidItems position items.length) := by
  induction items generalizing position with
  | nil => rfl
  | cons item rest ih =>
    rw [validateItems, foreign item (List.mem_cons_self ..), pure_bind,
      ih (position + 1) fun other member => foreign other (List.mem_cons_of_mem _ member), pure_bind,
      invalidItems_succ]
    rfl

/-- A sequence is validated item by item, and its items are taken first. -/
theorem run_validateSequence (otherwise : Fault) {spent : Spent} {items : List Value}
    (left : value.remaining? spent = some items) :
    (validateSequence otherwise value).run spent = (validateItems 0 items).run (value.spend spent) := by
  cases value with
  | list | tuple | deque | set =>
    cases left
    rfl
  | iter id items =>
    cases left
    change (if spent.contains id then (pure (.valid []) : StateM Spent (Validated (List Node)))
      else _).run spent = _
    rw [Value.spend]
    split <;> rfl
  | range stop =>
    cases left
    rw [validateItems_eq_invalidItems]
    · rw [Value.rangeItems, List.length_map, List.length_range]
      rfl
    · intro item member
      obtain ⟨_, rfl⟩ := Value.exists_int_of_mem_rangeItems member
      rfl
  | _ => cases left

/-- Every built node has fields. -/
theorem Model.fields_ne_nil (model : Model) : model.fields.length ≠ 0 := by
  obtain ⟨node⟩ | ⟨outsider⟩ := model
  · cases node <;> simp [Model.fields, Node.fields, GroupHead.fields]
  · cases outsider <;> simp [Model.fields, GroupHead.fields]

theorem run_validateSequence_none (otherwise : Fault) {spent : Spent}
    (foreign : value.nodeItems? = none) :
    ∃ issues, (validateSequence otherwise value).run spent = (.invalid issues, spent) := by
  cases value with
  | list | tuple | deque | set | iter | range => cases foreign
  | model m =>
    have found : invalidItems 0 m.fields.length = .invalid _ := if_neg m.fields_ne_nil
    exact ⟨_, congrArg (·, spent) found⟩
  | _ => exact ⟨_, rfl⟩

/-- A mapping is validated as a variant in two steps: first its children, then all fields. -/
theorem run_validateVariant (variant : Variant) (entries : List (Value × Value)) (spent : Spent) :
    (validateVariant variant entries).run spent =
      match variant.child? entries with
      | some child =>
        (assemble variant entries (some ((validateSequence .tupleType child).run spent).1),
          ((validateSequence .tupleType child).run spent).2)
      | none => (assemble variant entries none, spent) := by
  unfold validateVariant Variant.child?
  cases variant.childField? with
  | none => rfl
  | some field =>
    simp only [validateChildrenAt_eq, Option.bind_some]
    cases Value.named? field.name entries <;> rfl

/-- A mapping of no known variant is no node, and nothing is taken from it. -/
theorem run_validateNode_mapping (mapping : value.entries? = some entries) (spent : Spent) :
    (validateNode value).run spent =
      match Variant.ofKeys? entries with
      | none => (.fault .invalidNode, spent)
      | some variant =>
        (((validateVariant variant entries).run spent).1.within (.key variant.tag),
          ((validateVariant variant entries).run spent).2) := by
  rw [validateNode_mapping mapping]
  cases Variant.ofKeys? entries <;> rfl

theorem run_validateItems_cons (position : Nat) (item : Value) (rest : List Value) (spent : Spent) :
    (validateItems position (item :: rest)).run spent =
      (List.cons <$> ((validateNode item).run spent).1.within (.index position) <*>
          ((validateItems (position + 1) rest).run ((validateNode item).run spent).2).1,
        ((validateItems (position + 1) rest).run ((validateNode item).run spent).2).2) := rfl

/-- Successive items are valid when the first one is, and then the others. -/
theorem run_validateItems_cons_eq_valid_iff {position : Nat} {item : Value} {rest : List Value}
    {spent after : Spent} {nodes : List Node} :
    (validateItems position (item :: rest)).run spent = (.valid nodes, after) ↔
      ∃ node middle others, (validateNode item).run spent = (.valid node, middle) ∧
        (validateItems (position + 1) rest).run middle = (.valid others, after) ∧
        nodes = node :: others := by
  rw [run_validateItems_cons]
  constructor
  · intro ran
    obtain ⟨valid, same⟩ := Prod.mk.inj ran
    obtain ⟨append, others, first, last, rfl⟩ := Validated.seq_eq_valid_iff.mp valid
    cases found : ((validateNode item).run spent).1 with
    | invalid issues =>
      rw [found] at first
      cases first
    | valid node =>
      rw [found] at first
      cases first
      exact ⟨node, _, others, Prod.ext found rfl, Prod.ext last same, rfl⟩
  · rintro ⟨node, middle, others, own, below, rfl⟩
    rw [own, below]
    rfl

end

end ScenarioTree
