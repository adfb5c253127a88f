import ScenarioTree.Proofs.Schema.Origin

/-! # What relaxed building reads of a tree

Relaxed building reads the items of a tree, and below a mapping that counts as a node the items of its
children, at every depth. The warnings about what is read are among the warnings about the tree, and every
node of the built tree is what something that was read stands for.
-/

namespace ScenarioTree

/-- The parts of a tree that relaxed building reads as nodes: its items, the items of the children of a
mapping that is read as a variant, and the children of a node that is built already. -/
inductive Value.Reads (root : Value) : Value → Prop
  | item {items : List Value} {item : Value} (sequence : root.sequenceItems? = some items)
      (member : item ∈ items) : Reads root item
  | inside {outer child item : Value} {entries : List (Value × Value)} {variant : Variant}
      {items : List Value} (above : Reads root outer) (mapping : outer.entries? = some entries)
      (told : Variant.ofShape? entries = some variant) (content : variant.child? entries = some child)
      (sequence : child.sequenceItems? = some items) (member : item ∈ items) : Reads root item
  | built {node child : Node} (above : Reads root (.ofNode node)) (member : child ∈ node.children) :
      Reads root (.ofNode child)

/-- Numbers are read as nothing. -/
theorem salvageItems_of_numbers {items : List Value} (numbers : ∀ item ∈ items, ∃ number, item = .int number) :
    salvageItems items = ([], []) := by
  induction items with
  | nil => rfl
  | cons item rest ih =>
    obtain ⟨⟨number, rfl⟩, others⟩ := List.forall_mem_cons.mp numbers
    rw [salvageItems, ih others]
    rfl

/-- A sequence is read item by item, whatever kind of sequence it is. -/
theorem salvageSequence_eq {value : Value} {items : List Value} (sequence : value.sequenceItems? = some items) :
    salvageSequence value = salvageItems items := by
  cases value with
  | list | tuple | deque =>
    cases sequence
    rfl
  | range stop =>
    cases sequence
    exact (salvageItems_of_numbers fun _ => Value.exists_int_of_mem_rangeItems).symm
  | bytearray data =>
    cases sequence
    exact (salvageItems_of_numbers fun _ => Value.exists_int_of_mem_byteItems).symm
  | _ => cases sequence

/-- The warnings about an item stand together among the warnings about all items. -/
theorem salvageItem_warnings_among {item : Value} {items : List Value} (member : item ∈ items) :
    (salvageItem item).2 <:+: (salvageItems items).2 := by
  induction items with
  | nil => cases member
  | cons first rest ih =>
    rw [salvageItems]
    rcases List.mem_cons.mp member with rfl | later
    · exact (List.prefix_append ..).isInfix
    · exact (ih later).trans (List.suffix_append ..).isInfix

/-- The warnings about whatever is read stand together among the warnings about the tree. -/
theorem Value.Reads.warnings_among {root item : Value} (read : root.Reads item) {items : List Value}
    (found : root.sequenceItems? = some items) : (salvageItem item).2 <:+: (salvageItems items).2 := by
  induction read with
  | item sequence member =>
    cases found.symm.trans sequence
    exact salvageItem_warnings_among member
  | inside above mapping told content sequence member ih =>
    refine (salvageItem_warnings_among member).trans (.trans ?_ ih)
    rw [salvageItem_entries mapping, told, ← salvageSequence_eq sequence]
    refine List.IsPrefix.isInfix ?_
    dsimp only [Variant.salvagedChildren]
    rw [content]
    exact List.prefix_append ..
  | built above member ih => exact List.nil_infix

theorem Builder.build_single {builder : Builder} (isRelaxed : builder.strict = false) {nodes item : Value}
    (single : nodes.sequenceItems? = some [item]) (spent : Spent) :
    (builder.build nodes).run spent =
      ({ models := .ok (salvageItem item).1.toList, warnings := (salvageItem item).2 }, spent) := by
  have read : salvageItems [item] = ((salvageItem item).1.toList, (salvageItem item).2) := by
    simp [salvageItems]
  rw [build, single]
  dsimp only
  rw [isRelaxed, if_neg Bool.false_ne_true, read]
  rfl

theorem Builder.warnings_among {builder : Builder} (isRelaxed : builder.strict = false) {root item : Value}
    (read : root.Reads item) (spent : Spent) :
    (salvageItem item).2 <:+: ((builder.build root).run spent).1.warnings := by
  have ended := builder.build_ends root spent
  generalize (builder.build root).run spent = outcome at ended ⊢
  obtain ⟨result, after⟩ := outcome
  cases ended with
  | nothing absent =>
    -- Nothing is read of what is no sequence.
    exfalso
    induction read with
    | item sequence _ => cases absent.symm.trans sequence
    | inside _ _ _ _ _ _ ih => exact ih
    | built _ _ ih => exact ih
  | kept isStrict => cases isRelaxed.symm.trans isStrict
  | validated isStrict => cases isRelaxed.symm.trans isStrict
  | refused isStrict => cases isRelaxed.symm.trans isStrict
  | salvaged _ found => exact read.warnings_among found

/-- A node is what a part of a tree that is read stands for. -/
def Node.IsReadFrom (root : Value) (node : Node) : Prop :=
  ∃ part, root.Reads part ∧ .node node ∈ (salvageItem part).1

/-- A built node that is read stands for itself, and so do all nodes below it. -/
theorem Node.throughout_of_built {root : Value} {node : Node} (read : root.Reads (.ofNode node)) :
    node.Throughout (IsReadFrom root) := by
  refine .node ⟨_, read, rfl⟩ fun child member => ?_
  have smaller := sizeOf_child_lt member
  exact throughout_of_built (read.built member)
termination_by sizeOf node

/-- What a part that is read stands for has all its nodes from parts that are read. -/
theorem Node.throughout_of_reads {root part : Value} (read : root.Reads part) {node : Node}
    (salvaged : .node node ∈ (salvageItem part).1) : node.Throughout (IsReadFrom root) := by
  induction part using Value.treeInduction generalizing node with
  | leaf part plain =>
    cases part with
    | model own =>
      cases salvaged
      exact throughout_of_built read
    | map | proxy => cases plain
    | _ => cases salvaged
  | mapping part entries mapping ih =>
    refine .node ⟨_, read, salvaged⟩ fun child member => ?_
    obtain ⟨variant, child, items, told, content, inside, sequence, item, among, found⟩ :=
      exists_salvageItem_of_child mapping salvaged member
    obtain ⟨field, _, named⟩ := Option.bind_eq_some_iff.mp content
    exact ih field.name child items named inside item among
      (read.inside mapping told content sequence among) found

/-- The nodes of a tree that is built relaxedly, at every depth, are what its parts stand for. -/
theorem Builder.throughout_isReadFrom {builder : Builder} (isRelaxed : builder.strict = false) {root : Value}
    {spent : Spent} {models : List Model} (built : ((builder.build root).run spent).1.models = .ok models)
    {node : Node} (member : .node node ∈ models) : node.Throughout (Node.IsReadFrom root) := by
  have ended := builder.build_ends root spent
  generalize (builder.build root).run spent = outcome at ended built
  obtain ⟨result, after⟩ := outcome
  cases ended with
  | nothing =>
    cases built
    cases member
  | kept isStrict => cases isRelaxed.symm.trans isStrict
  | validated isStrict => cases isRelaxed.symm.trans isStrict
  | refused isStrict => cases isRelaxed.symm.trans isStrict
  | salvaged _ found =>
    cases built
    obtain ⟨item, among, salvaged⟩ := mem_of_salvageItems member
    exact Node.throughout_of_reads (.item found among) salvaged

end ScenarioTree
