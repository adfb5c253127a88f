import ScenarioTree.Proofs.Schema.Grammar

/-! # Validation accepts the grammar

Strict validation finds a list of values valid exactly when all of them are nodes by the grammar. The
iterators make this more than one induction: what was taken from an iterator earlier is not validated
again. Nothing gets lost by that, because the items of an iterator that was taken from are nodes, or
they are just being validated, and then the iterator is not among them.
-/

namespace ScenarioTree

/-- Validating items one by one only spends further iterators when validating each of them does. -/
theorem validateItems_grows {items : List Value}
    (each : ∀ item ∈ items, ∀ spent, spent ⊆ ((validateNode item).run spent).2) (position : Nat)
    (spent : Spent) : spent ⊆ ((validateItems position items).run spent).2 := by
  induction items generalizing position spent with
  | nil => exact List.Subset.refl _
  | cons item rest ih =>
    rw [run_validateItems_cons]
    exact List.Subset.trans (each item (List.mem_cons_self ..) spent)
      (ih (fun other member => each other (List.mem_cons_of_mem _ member)) _ _)

private theorem Value.subset_spend (value : Value) (spent : Spent) : spent ⊆ value.spend spent := by
  cases value with
  | iter id items =>
    rw [spend]
    split
    · exact List.Subset.refl _
    · exact List.subset_cons_self _ _
  | _ => exact List.Subset.refl _

theorem Value.mem_of_remaining? {value : Value} {spent : Spent} {items : List Value}
    (left : value.remaining? spent = some items) :
    ∃ all, value.nodeItems? = some all ∧ ∀ item ∈ items, item ∈ all := by
  cases value with
  | iter id all =>
    cases left
    refine ⟨all, rfl, fun item member => ?_⟩
    split at member
    · cases member
    · exact member
  | _ => exact ⟨items, left, fun item member => member⟩

private theorem Value.remaining?_isSome (value : Value) (spent : Spent) :
    (value.remaining? spent).isSome = value.nodeItems?.isSome := by
  cases value <;> rfl

/-- A value without items to take is no sequence; those of a spent iterator are none, but it is one. -/
theorem Value.nodeItems?_eq_none {value : Value} {spent : Spent} (left : value.remaining? spent = none) :
    value.nodeItems? = none := by
  rw [← Option.not_isSome_iff_eq_none, ← value.remaining?_isSome spent, left]
  exact Bool.false_ne_true

private theorem validateSequence_grows (otherwise : Fault) {value : Value}
    (each : ∀ items, value.nodeItems? = some items → ∀ item ∈ items, ∀ spent,
      spent ⊆ ((validateNode item).run spent).2) (spent : Spent) :
    spent ⊆ ((validateSequence otherwise value).run spent).2 := by
  cases left : value.remaining? spent with
  | some items =>
    obtain ⟨all, inside, among⟩ := Value.mem_of_remaining? left
    rw [run_validateSequence otherwise left]
    exact List.Subset.trans (value.subset_spend spent)
      (validateItems_grows (fun item member => each all inside item (among item member)) 0 _)
  | none =>
    obtain ⟨issues, ran⟩ := run_validateSequence_none otherwise (Value.nodeItems?_eq_none left)
    rw [ran]
    exact List.Subset.refl _

/-- Validation never forgets a spent iterator. -/
theorem validateNode_grows (value : Value) (spent : Spent) :
    spent ⊆ ((validateNode value).run spent).2 := by
  induction value using Value.treeInduction generalizing spent with
  | leaf value plain =>
    rcases validateNode_leaf plain with ⟨node, rfl⟩ | fault
    · exact List.Subset.refl _
    · rw [fault]
      exact List.Subset.refl _
  | mapping value entries mapping below =>
    rw [run_validateNode_mapping mapping]
    cases Variant.ofKeys? entries with
    | none => exact List.Subset.refl _
    | some variant =>
      dsimp only
      rw [run_validateVariant]
      cases found : variant.child? entries with
      | none => exact List.Subset.refl _
      | some child =>
        obtain ⟨field, _, named⟩ := Option.bind_eq_some_iff.mp found
        exact validateSequence_grows _ (below field.name child · named) spent

section

variable {start : Spent}

/-- What is left of a sequence was left before more iterators were spent. -/
theorem Value.mem_remaining?_of_subset {value : Value} {spent : Spent} {items : List Value}
    (more : start ⊆ spent) (left : value.remaining? spent = some items) :
    ∃ earlier, value.remaining? start = some earlier ∧ ∀ item ∈ items, item ∈ earlier := by
  cases value with
  | iter id all =>
    cases left
    refine ⟨_, rfl, fun item member => ?_⟩
    split at member
    · cases member
    · rename_i fresh
      rw [if_neg]
      · exact member
      · intro known
        exact fresh (List.contains_iff_mem.mpr (more (List.contains_iff_mem.mp known)))
  | _ => exact ⟨items, left, fun item member => member⟩

private theorem validateItems_isValid {items : List Value}
    (each : ∀ item ∈ items, ∀ spent, start ⊆ spent →
      ((validateNode item).run spent).1.isValid = true) (position : Nat) {spent : Spent}
    (more : start ⊆ spent) : ((validateItems position items).run spent).1.isValid = true := by
  induction items generalizing position spent with
  | nil => rfl
  | cons item rest ih =>
    have first := each item (List.mem_cons_self ..) spent more
    have others := ih (fun other member => each other (List.mem_cons_of_mem _ member)) (position + 1)
      (List.Subset.trans more (validateNode_grows item spent))
    rw [run_validateItems_cons, Validated.isValid_seq, Validated.isValid_map, Validated.isValid_within, first, others]
    rfl

/-- A sequence is valid when all items are that were left in it at the start. -/
theorem validateSequence_isValid (otherwise : Fault) {value : Value} {spent : Spent}
    (sequence : value.nodeItems?.isSome = true)
    (each : ∀ items, value.remaining? start = some items → ∀ item ∈ items, ∀ spent, start ⊆ spent →
      ((validateNode item).run spent).1.isValid = true) (more : start ⊆ spent) :
    ((validateSequence otherwise value).run spent).1.isValid = true := by
  rw [← value.remaining?_isSome spent] at sequence
  obtain ⟨items, left⟩ := Option.isSome_iff_exists.mp sequence
  obtain ⟨earlier, before, among⟩ := Value.mem_remaining?_of_subset more left
  rw [run_validateSequence otherwise left]
  exact validateItems_isValid (fun item member => each earlier before item (among item member)) 0
    (List.Subset.trans more (value.subset_spend spent))

/-- A node is valid, also after more iterators were spent. -/
theorem IsNode.isValid {value : Value} (node : IsNode start value) :
    ∀ spent, start ⊆ spent → ((validateNode value).run spent).1.isValid = true := by
  induction node with
  | built node => exact fun _ _ => rfl
  | @written value entries variant mapping shape _ ih =>
    intro spent more
    have others : ∀ slot ∈ variant.slots, slot.content ≠ .nodes → slot.IsFilled entries :=
      fun slot listed _ => shape.filled slot listed
    rw [run_validateNode_mapping mapping, shape.ofKeys?]
    dsimp only
    rw [Validated.isValid_within, run_validateVariant]
    cases found : variant.child? entries with
    | none =>
      dsimp only
      refine (assemble_isValid_iff shape.spelled).mpr ⟨others, fun slot listed nodes => ?_⟩
      have filled := (Slot.isFilled_nodes_iff listed nodes).mp (shape.filled slot listed)
      rw [found] at filled
      exact filled
    | some child =>
      obtain ⟨slot, listed, nodes, key, spelled, named⟩ := Variant.child?_eq_some_iff.mp found
      have filled := (Slot.isFilled_nodes_iff listed nodes).mp (shape.filled slot listed)
      rw [found] at filled
      dsimp only
      refine (assemble_isValid_iff shape.spelled).mpr ⟨others, fun _ _ _ => ?_⟩
      exact validateSequence_isValid _ filled (ih slot listed nodes key spelled child · named) more

/-- The iterators among the children of a mapping hold what belongs to their identity. -/
def IteratorsHold (contents : Nat → List Value) (entries : List (Value × Value)) : Prop :=
  ∀ field ∈ childFields, ∀ id items, Value.named? field.name entries = some (.iter id items) →
    items = contents id

variable {contents : Nat → List Value}

/-- The items that belong to an iterator are nodes. -/
def Settled (start : Spent) (contents : Nat → List Value) (id : Nat) : Prop :=
  ∀ item ∈ contents id, IsNode start item

/-- Every iterator that was spent since the start is settled, or it is larger than the bound, so that it
is no part of what is smaller. -/
structure Accounted (start : Spent) (contents : Nat → List Value) (bound : Nat) (spent : Spent) :
    Prop where
  more : start ⊆ spent
  settled : ∀ id ∈ spent, id ∈ start ∨ Settled start contents id ∨
    bound ≤ sizeOf (Value.iter id (contents id))

/-- Validating a value shows that it is a node, and that so are the items of the iterators that are
spent by it. -/
def Shows (start : Spent) (contents : Nat → List Value) (spent after : Spent) : Prop :=
  ∀ id ∈ after, id ∈ spent ∨ Settled start contents id

theorem Accounted.after {bound : Nat} {spent after : Spent}
    (accounted : Accounted start contents bound spent) (grows : spent ⊆ after)
    (shows : Shows start contents spent after) : Accounted start contents bound after where
  more := List.Subset.trans accounted.more grows
  settled id member := by
    rcases shows id member with earlier | settled
    · exact accounted.settled id earlier
    · exact .inr (.inl settled)

/-- While its items are validated, an iterator is accounted for by its own size. -/
theorem Accounted.spend {value : Value} {bound : Nat} {spent : Spent}
    (holds : ∀ id items, value = .iter id items → items = contents id) (smaller : sizeOf value < bound)
    (accounted : Accounted start contents bound spent) :
    Accounted start contents (sizeOf value) (value.spend spent) where
  more := List.Subset.trans accounted.more (value.subset_spend spent)
  settled id member := by
    have known : id ∈ spent → id ∈ start ∨ Settled start contents id ∨
        sizeOf value ≤ sizeOf (Value.iter id (contents id)) := by
      intro earlier
      rcases accounted.settled id earlier with before | settled | larger
      · exact .inl before
      · exact .inr (.inl settled)
      · exact .inr (.inr (by omega))
    cases value with
    | iter own items =>
      rw [Value.spend] at member
      split at member
      · exact known member
      · rcases List.mem_cons.mp member with rfl | earlier
        · rw [← holds id items rfl]
          exact .inr (.inr (Nat.le_refl _))
        · exact known earlier
    | _ => exact known member

private theorem isNode_of_validateItems {items : List Value} {bound : Nat}
    (each : ∀ item ∈ items, ∀ spent, Accounted start contents bound spent →
      ((validateNode item).run spent).1.isValid = true →
      IsNode start item ∧ Shows start contents spent ((validateNode item).run spent).2)
    (position : Nat) {spent : Spent} (accounted : Accounted start contents bound spent)
    (valid : ((validateItems position items).run spent).1.isValid = true) :
    (∀ item ∈ items, IsNode start item) ∧
      Shows start contents spent ((validateItems position items).run spent).2 := by
  induction items generalizing position spent with
  | nil => exact ⟨nofun, fun id member => .inl member⟩
  | cons item rest ih =>
    rw [run_validateItems_cons, Validated.isValid_seq, Validated.isValid_map, Validated.isValid_within,
      Bool.and_eq_true] at valid
    obtain ⟨node, first⟩ := each item (List.mem_cons_self ..) spent accounted valid.1
    obtain ⟨nodes, others⟩ := ih (fun other member => each other (List.mem_cons_of_mem _ member))
      (position + 1) (accounted.after (validateNode_grows item spent) first) valid.2
    refine ⟨List.forall_mem_cons.mpr ⟨node, nodes⟩, fun id member => ?_⟩
    rcases others id member with earlier | settled
    · exact first id earlier
    · exact .inr settled

/-- The items that were left in an iterator at the start are nodes, when those that are left now are. If
it was spent since the start, they are nodes by what is known of it. -/
theorem isNode_of_iterator {id bound : Nat} {spent after : Spent}
    (smaller : sizeOf (Value.iter id (contents id)) < bound)
    (accounted : Accounted start contents bound spent)
    (nodes : ∀ item ∈ (if spent.contains id then [] else contents id), IsNode start item)
    (shows : Shows start contents ((Value.iter id (contents id)).spend spent) after) :
    (∀ items, (Value.iter id (contents id)).remaining? start = some items →
      ∀ item ∈ items, IsNode start item) ∧ Shows start contents spent after := by
  by_cases known : spent.contains id = true
  · have same : (Value.iter id (contents id)).spend spent = spent := if_pos known
    rw [same] at shows
    refine ⟨fun items left item member => ?_, shows⟩
    cases left
    split at member
    · cases member
    · rename_i fresh
      rcases accounted.settled id (List.contains_iff_mem.mp known) with before | settled | larger
      · exact absurd (List.contains_iff_mem.mpr before) fresh
      · exact settled item member
      · omega
  · have same : (Value.iter id (contents id)).spend spent = id :: spent := if_neg known
    rw [same] at shows
    rw [if_neg known] at nodes
    refine ⟨fun items left item member => ?_, fun other member => ?_⟩
    · cases left
      split at member
      · cases member
      · exact nodes item member
    · rcases shows other member with earlier | settled
      · rcases List.mem_cons.mp earlier with rfl | earlier
        · exact .inr nodes
        · exact .inl earlier
      · exact .inr settled

/-- The items that were left in a valid sequence at the start are nodes. -/
theorem isNode_of_validateSequence (otherwise : Fault) {value : Value} {bound : Nat} {spent : Spent}
    (holds : ∀ id items, value = .iter id items → items = contents id) (smaller : sizeOf value < bound)
    (each : ∀ items, value.nodeItems? = some items → ∀ item ∈ items, ∀ spent,
      Accounted start contents (sizeOf value) spent →
      ((validateNode item).run spent).1.isValid = true →
      IsNode start item ∧ Shows start contents spent ((validateNode item).run spent).2)
    (accounted : Accounted start contents bound spent)
    (valid : ((validateSequence otherwise value).run spent).1.isValid = true) :
    value.nodeItems?.isSome = true ∧
    (∀ items, value.remaining? start = some items → ∀ item ∈ items, IsNode start item) ∧
      Shows start contents spent ((validateSequence otherwise value).run spent).2 := by
  have sequence := nodeItems?_isSome_of_isValid valid
  obtain ⟨items, left⟩ : ∃ items, value.remaining? spent = some items := by
    rw [← Option.isSome_iff_exists, value.remaining?_isSome, sequence]
  obtain ⟨all, inside, among⟩ := Value.mem_of_remaining? left
  rw [run_validateSequence otherwise left] at valid ⊢
  obtain ⟨nodes, shows⟩ := isNode_of_validateItems
    (fun item member => each all inside item (among item member)) 0 (accounted.spend holds smaller) valid
  refine ⟨sequence, ?_⟩
  cases value with
  | iter id own =>
    cases left
    cases holds id own rfl
    exact isNode_of_iterator smaller accounted nodes shows
  | _ =>
    refine ⟨fun items left => ?_, shows⟩
    rename_i before
    cases before.symm.trans left
    exact nodes

/-- A mapping that is valid as some variant is a node, when this holds of the items below it. -/
theorem isNode_of_validateVariant {value : Value} {entries : List (Value × Value)} {variant : Variant}
    {bound : Nat} {spent : Spent} (mapping : value.entries? = some entries)
    (holds : IteratorsHold contents entries) (smaller : sizeOf value < bound)
    (each : ∀ field ∈ childFields, ∀ child items, Value.named? field.name entries = some child →
      child.nodeItems? = some items → ∀ item ∈ items, ∀ spent,
      Accounted start contents (sizeOf child) spent →
      ((validateNode item).run spent).1.isValid = true →
      IsNode start item ∧ Shows start contents spent ((validateNode item).run spent).2)
    (accounted : Accounted start contents bound spent)
    (valid : ((validateVariant variant entries).run spent).1.isValid = true) :
    IsNode start value ∧ Shows start contents spent ((validateVariant variant entries).run spent).2 := by
  rw [run_validateVariant] at valid ⊢
  cases inside : variant.child? entries with
  | none =>
    rw [inside] at valid
    dsimp only at valid ⊢
    refine ⟨.written mapping (.of_childless inside valid) ?_, fun id member => .inl member⟩
    intro slot listed nodes key spelled child items named
    have found := Variant.child?_eq_some_iff.mpr ⟨slot, listed, nodes, key, spelled, named⟩
    rw [inside] at found
    cases found
  | some child =>
    rw [inside] at valid
    dsimp only at valid ⊢
    obtain ⟨field, childField, named⟩ := Option.bind_eq_some_iff.mp inside
    have member := Variant.mem_childFields childField
    have below : sizeOf child < bound := Nat.lt_trans (Value.sizeOf_named?_lt mapping named) smaller
    have own : ∀ id items, child = .iter id items → items = contents id :=
      fun id items same => holds field member id items (same ▸ named)
    obtain ⟨sequence, items, shows⟩ := isNode_of_validateSequence .tupleType own below
      (each field member child · named) accounted (children_isValid_of_assemble inside valid)
    refine ⟨.written mapping (.of_children inside sequence valid) ?_, shows⟩
    intro slot listed nodes key spelled other found named left
    have same := Variant.child?_eq_some_iff.mpr ⟨slot, listed, nodes, key, spelled, named⟩
    rw [inside] at same
    cases same
    exact items found left

private theorem isNode_of_validateNode {value : Value} (holds : value.Throughout (IteratorsHold contents))
    {bound : Nat} (smaller : value.entries?.isSome = true → sizeOf value < bound) {spent : Spent}
    (accounted : Accounted start contents bound spent)
    (valid : ((validateNode value).run spent).1.isValid = true) :
    IsNode start value ∧ Shows start contents spent ((validateNode value).run spent).2 := by
  induction value using Value.treeInduction generalizing bound spent with
  | leaf value plain =>
    rcases validateNode_leaf plain with ⟨node, rfl⟩ | fault
    · exact ⟨.built node, fun id member => .inl member⟩
    · rw [fault] at valid
      cases valid
  | mapping value entries mapping ih =>
    cases holds with
    | leaf plain =>
      rw [mapping] at plain
      cases plain
    | mapping found here below =>
      cases mapping.symm.trans found
      rw [run_validateNode_mapping mapping] at valid ⊢
      cases told : Variant.ofKeys? entries with
      | none =>
        rw [told] at valid
        cases valid
      | some variant =>
        rw [told] at valid
        dsimp only at valid ⊢
        rw [Validated.isValid_within] at valid
        have small : sizeOf value < bound := smaller (by rw [mapping]; rfl)
        refine isNode_of_validateVariant mapping here small ?_ accounted valid
        intro field member child items named inside item among spent accounted valid
        exact ih field.name child items named inside item among
          (below field member child items named inside item among)
          (Value.sizeOf_item_lt inside among) accounted valid

/-- A list is valid exactly when all of its values are nodes by the grammar, each iterator among them
with what was left in it at the start; and a mapping has at most one shape. That an iterator holds what
belongs to its identity says that it is one thing wherever it occurs. -/
theorem validateTree_valid_iff_isNode (items : List Value) (start : Spent)
    (contents : Nat → List Value) (holds : ∀ item ∈ items, item.Throughout (IteratorsHold contents)) :
    ((∃ nodes after, (validateTree (.list items)).run start = (.valid nodes, after)) ↔
      ∀ item ∈ items, IsNode start item) ∧
    ∀ (entries : List (Value × Value)) (variant other : Variant), variant.IsShapeOf entries →
      other.IsShapeOf entries → variant = other := by
  refine ⟨?_, fun entries variant other => Variant.IsShapeOf.unique⟩
  have accepted : (∃ nodes after, (validateTree (.list items)).run start = (.valid nodes, after)) ↔
      ((validateTree (.list items)).run start).1.isValid = true := by
    generalize (validateTree (.list items)).run start = outcome
    obtain ⟨result, after⟩ := outcome
    cases result with
    | valid nodes => exact ⟨fun _ => rfl, fun _ => ⟨nodes, after, rfl⟩⟩
    | invalid issues => exact ⟨nofun, nofun⟩
  rw [accepted]
  constructor
  · intro valid
    have none : ∀ id own, Value.list items = .iter id own → own = contents id :=
      fun _ _ same => nomatch same
    have each : ∀ own, (Value.list items).nodeItems? = some own → ∀ item ∈ own, ∀ spent,
        Accounted start contents (sizeOf (Value.list items)) spent →
        ((validateNode item).run spent).1.isValid = true →
        IsNode start item ∧ Shows start contents spent ((validateNode item).run spent).2 := by
      intro own inside item member spent accounted valid
      cases inside
      exact isNode_of_validateNode (holds item member) (Value.sizeOf_item_lt rfl member) accounted valid
    have accounted : Accounted start contents (sizeOf (Value.list items) + 1) start :=
      ⟨List.Subset.refl start, fun id member => .inl member⟩
    have shown :=
      isNode_of_validateSequence .listType none (Nat.lt_succ_self _) each accounted valid
    exact shown.2.1 items rfl
  · intro nodes
    refine validateSequence_isValid .listType rfl (fun own left item member => ?_) (List.Subset.refl start)
    cases left
    exact (nodes item member).isValid

def linkEntries : List (Value × Value) :=
  [(.str "scenario", .str "Link"), (.str "get_actual", .callable (.defined 1 "read" .object)),
    (.str "comparison", .callable (.defined 2 "check" .function)), (.str "getDomFragment", .null)]

/-- Two groups that share an iterator over a scenario. The name of the second one is given by bytes. -/
def sharedTree : List Value :=
  [.map [(.str "tests", .iter 5 [.map linkEntries]), (.str "feature", .str "Menu")],
    .proxy [(.str "feature", .bytes [77, 111, 114, 101]), (.str "tests", .iter 5 [.map linkEntries]),
      (.str "set", .callable (.defined 3 "fragments" .function)), (.str "before_each", .null)]]

/-- The second group gets nothing from the iterator, and its scenario is a node all the same. -/
theorem sharedTree_isNode :
    (∀ item ∈ sharedTree, item.Throughout (IteratorsHold fun _ => [.map linkEntries])) ∧
    ∀ item ∈ sharedTree, IsNode [] item := by
  have scenario : (Value.map linkEntries).Throughout (IteratorsHold fun _ => [.map linkEntries]) := by
    refine .childless rfl ?_ rfl rfl
    simp [IteratorsHold, childFields, Field.tests, Field.inherited, Field.plain, Value.named?,
      Value.isName, linkEntries]
  have group {value : Value} {entries : List (Value × Value)} (mapping : value.entries? = some entries)
      (tests : Value.named? "tests" entries = some (.iter 5 [.map linkEntries]))
      (inherited : Value.named? "inherit" entries = none) :
      value.Throughout (IteratorsHold fun _ => [.map linkEntries]) := by
    refine .group mapping ?_ tests rfl inherited (List.forall_mem_singleton.mpr scenario)
    simp [IteratorsHold, childFields, Field.tests, Field.inherited, Field.plain, tests, inherited]
  have holds : ∀ item ∈ sharedTree, item.Throughout (IteratorsHold fun _ => [.map linkEntries]) := by
    rw [sharedTree, List.forall_mem_cons, List.forall_mem_singleton]
    exact ⟨group rfl rfl rfl, group rfl rfl rfl⟩
  exact ⟨holds, (validateTree_valid_iff_isNode sharedTree [] _ holds).1.mp ⟨_, _, rfl⟩⟩

end

end ScenarioTree
