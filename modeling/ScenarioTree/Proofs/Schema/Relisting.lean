import ScenarioTree.Proofs.Schema.Accounting
import ScenarioTree.Proofs.Schema.OffendingKeys

/-! # Trees with lists for all sequences

Nodes are given in lists, tuples or deques. A tree in which all of these are lists, at the root and under the
keys of children, is a normal form of the tree: two trees that differ only in the types of these sequences have
the same one. Validation and relaxed construction make the same of a tree and of its normal form, and the two
look the same when they are masked.
-/

namespace ScenarioTree

namespace Value

/-- Whether a key is that of the children of a mapping. -/
def isChildKey (key : Value) : Bool := childFields.any fun field => isName field.name key

mutual

/-- A value with a list in the place of every list, tuple and deque in which nodes are given: the value itself,
the items of a collection, and what mappings have under the keys of children. -/
def relisted : Value → Value
  | list items | tuple items | deque items => list (relistedItems items)
  | set items => set (relistedItems items)
  | iter id items => iter id (relistedItems items)
  | map entries => map (relistedEntries entries)
  | proxy entries => proxy (relistedEntries entries)
  | value => value
termination_by structural value => value

def relistedItems : List Value → List Value
  | [] => []
  | item :: rest => item.relisted :: relistedItems rest
termination_by structural items => items

/-- Entries, the children among them with lists for their sequences. -/
def relistedEntries : List (Value × Value) → List (Value × Value)
  | [] => []
  | (key, value) :: rest =>
    (key, if key.isChildKey then value.relisted else value) :: relistedEntries rest
termination_by structural entries => entries

end

/-- An entry, with lists for its sequences if it is one of children. -/
def relistedEntry (entry : Value × Value) : Value × Value :=
  (entry.1, if entry.1.isChildKey then entry.2.relisted else entry.2)

theorem relistedItems_eq_map (items : List Value) : relistedItems items = items.map relisted := by
  induction items with
  | nil => rfl
  | cons item rest ih => rw [relistedItems, ih, List.map_cons]

private theorem relistedEntries_eq_map (entries : List (Value × Value)) :
    relistedEntries entries = entries.map relistedEntry := by
  induction entries with
  | nil => rfl
  | cons entry rest ih => rw [relistedEntries, ih, List.map_cons, relistedEntry]

/-- Numbers have no sequences inside. -/
theorem relistedItems_of_numbers {items : List Value} (numbers : ∀ item ∈ items, ∃ number, item = .int number) :
    relistedItems items = items := by
  have same : ∀ item ∈ items, item.relisted = id item := by
    intro item member
    obtain ⟨number, rfl⟩ := numbers item member
    rfl
  rw [relistedItems_eq_map, List.map_congr_left same, List.map_id]

@[simp] theorem entries?_relisted (value : Value) :
    value.relisted.entries? = value.entries?.map relistedEntries := by
  cases value <;> rfl

private theorem relisted_mapping {value : Value} {entries : List (Value × Value)}
    (mapping : value.entries? = some entries) :
    value.relisted.entries? = some (relistedEntries entries) := by
  rw [entries?_relisted, mapping, Option.map_some]

@[simp] theorem isSequence_relisted (value : Value) : value.relisted.isSequence = value.isSequence := by
  cases value <;> rfl

@[simp] theorem isCallable_relisted (value : Value) : value.relisted.isCallable = value.isCallable := by
  cases value <;> rfl

@[simp] theorem isTruthy_relisted (value : Value) : value.relisted.isTruthy = value.isTruthy := by
  cases value with
  | list items | tuple items | deque items | set items => cases items <;> rfl
  | map entries | proxy entries => cases entries <;> rfl
  | _ => rfl

@[simp] theorem model?_relisted (value : Value) : value.relisted.model? = value.model? := by
  cases value <;> rfl

theorem sequenceItems?_relisted (value : Value) :
    value.relisted.sequenceItems? = value.sequenceItems?.map relistedItems := by
  cases value with
  | range => exact congrArg some (relistedItems_of_numbers fun _ => exists_int_of_mem_rangeItems).symm
  | bytearray => exact congrArg some (relistedItems_of_numbers fun _ => exists_int_of_mem_byteItems).symm
  | _ => rfl

/-- What is looked for by its key is found in its place. -/
theorem find?_relistedEntries (wanted : Value → Bool) (entries : List (Value × Value)) :
    (relistedEntries entries).find? (fun entry => wanted entry.1) =
      (entries.find? fun entry => wanted entry.1).map relistedEntry := by
  rw [relistedEntries_eq_map, List.find?_map]
  rfl

@[simp] theorem hasName_relistedEntries (name : String) (entries : List (Value × Value)) :
    hasName name (relistedEntries entries) = hasName name entries := by
  rw [hasName, relistedEntries_eq_map, List.any_map]
  rfl

private theorem named?_relistedEntries (name : String) (entries : List (Value × Value)) :
    named? name (relistedEntries entries) =
      (named? name entries).map fun value => if (Value.str name).isChildKey then value.relisted else value := by
  rw [named?, named?, find?_relistedEntries, Option.map_map, Option.map_map]
  cases found : entries.find? fun entry => isName name entry.1 with
  | none => rfl
  | some entry =>
    obtain ⟨key, value⟩ := entry
    have isNamed : isName name key = true := by
      have chosen := List.find?_some found
      exact chosen
    cases key with
    | str other => cases eq_of_beq isNamed; rfl
    | _ => cases isNamed

/-- What is not under the key of children is as it was. -/
theorem named?_relistedEntries_foreign {name : String} (foreign : (Value.str name).isChildKey = false)
    (entries : List (Value × Value)) : named? name (relistedEntries entries) = named? name entries := by
  rw [named?_relistedEntries, foreign]
  exact Option.map_id'

/-- The children are found with lists for their sequences. -/
theorem named?_relistedEntries_child {field : Field} (isChild : field ∈ childFields)
    (entries : List (Value × Value)) :
    named? field.name (relistedEntries entries) = (named? field.name entries).map relisted := by
  have isKey : (Value.str field.name).isChildKey = true :=
    List.any_eq_true.mpr ⟨field, isChild, beq_self_eq_true _⟩
  rw [named?_relistedEntries, isKey]
  rfl

end Value

section

open Value

variable {entries : List (Value × Value)}

private theorem Variant.child?_relistedEntries (variant : Variant) (entries : List (Value × Value)) :
    variant.child? (relistedEntries entries) = (variant.child? entries).map relisted := by
  rw [child?, child?]
  cases isChild : variant.childField? with
  | none => rfl
  | some field => exact named?_relistedEntries_child (mem_childFields isChild) entries

private theorem Field.isCarried_relistedEntries (field : Field) (entries : List (Value × Value)) :
    field.isCarried (relistedEntries entries) = field.isCarried entries := by
  simp only [isCarried, hasName_relistedEntries]

private theorem Variant.ofKeys?_relistedEntries (entries : List (Value × Value)) :
    ofKeys? (relistedEntries entries) = ofKeys? entries := by
  simp only [ofKeys?, Field.isCarried_relistedEntries]

private theorem valueHas_relistedEntries {property : Value → Bool}
    (kept : ∀ value : Value, property value.relisted = property value) (key : String)
    (entries : List (Value × Value)) :
    valueHas property key (relistedEntries entries) = valueHas property key entries := by
  rw [valueHas, valueHas, named?_relistedEntries]
  cases named? key entries with
  | none => rfl
  | some value =>
    rw [Option.map_some, Option.getD_some, Option.getD_some]
    split
    · exact kept value
    · rfl

private theorem Variant.ofShape?_relistedEntries (entries : List (Value × Value)) :
    ofShape? (relistedEntries entries) = ofShape? entries := by
  simp only [ofShape?, valueHas_relistedEntries isTruthy_relisted, valueHas_relistedEntries isCallable_relisted,
    valueHas_relistedEntries isSequence_relisted]

/-- A field is found under the same key. -/
theorem Field.pick?_fst_relistedEntries (field : Field) (entries : List (Value × Value)) :
    (field.pick? (relistedEntries entries)).map Prod.fst = (field.pick? entries).map Prod.fst := by
  rw [pick?, pick?]
  induction field.keys with
  | nil => rfl
  | cons key rest ih =>
    rw [List.findSome?_cons, List.findSome?_cons, named?_relistedEntries]
    cases named? key entries with
    | none => exact ih
    | some value => rfl

/-- A field of anything but children is found as it was. -/
theorem Field.pick?_relistedEntries {field : Field}
    (foreign : ∀ key ∈ field.keys, (Value.str key).isChildKey = false) (entries : List (Value × Value)) :
    field.pick? (relistedEntries entries) = field.pick? entries := by
  rw [pick?, pick?]
  generalize field.keys = keys at foreign
  induction keys with
  | nil => rfl
  | cons key rest ih =>
    obtain ⟨own, others⟩ := List.forall_mem_cons.mp foreign
    rw [List.findSome?_cons, List.findSome?_cons, named?_relistedEntries_foreign own, ih others]

/-- The same keys are left over. -/
theorem extraIssues_relistedEntries (fields : List Field) (entries : List (Value × Value)) :
    extraIssues fields (relistedEntries entries) = extraIssues fields entries := by
  rw [extraIssues, extraIssues]
  simp only [Field.pick?_fst_relistedEntries]
  rw [unusedIssues, relistedEntries_eq_map, List.filterMap_map]
  rfl

private theorem assemble_relistedEntries (variant : Variant) (entries : List (Value × Value))
    (children? : Option (Validated (List Node))) :
    assemble variant (relistedEntries entries) children? = assemble variant entries children? := by
  -- The fields of children are not picked here: what is under their keys is the result that is given.
  simp (disch := decide) only [assemble, validateHead, validateCheck, Field.required, Field.optional,
    extraIssues_relistedEntries, Field.pick?_relistedEntries]

theorem validateItems_relisted {items : List Value}
    (each : ∀ item ∈ items, validateNode item.relisted = validateNode item) (position : Nat) :
    validateItems position (relistedItems items) = validateItems position items := by
  induction items generalizing position with
  | nil => rfl
  | cons item rest ih =>
    obtain ⟨own, others⟩ := List.forall_mem_cons.mp each
    rw [relistedItems, validateItems, validateItems, own, ih others]

private theorem validateSequence_relisted (otherwise : Fault) {value : Value}
    (each : ∀ items, value.nodeItems? = some items →
      ∀ item ∈ items, validateNode item.relisted = validateNode item) :
    validateSequence otherwise value.relisted = validateSequence otherwise value := by
  cases value with
  | list items | tuple items | deque items | set items => exact validateItems_relisted (each items rfl) 0
  | iter id items =>
    rw [relisted, validateSequence, validateSequence, validateItems_relisted (each items rfl)]
  | _ => rfl

/-- Whatever was spent, a value is validated as with lists for its sequences. -/
theorem validateNode_relisted (value : Value) : validateNode value.relisted = validateNode value := by
  induction value using treeInduction with
  | leaf value plain =>
    cases value with
    | map | proxy => cases plain
    | _ => rfl
  | mapping value entries mapping ih =>
    rw [validateNode_mapping (relisted_mapping mapping), validateNode_mapping mapping, Variant.ofKeys?_relistedEntries]
    cases Variant.ofKeys? entries with
    | none => rfl
    | some variant =>
      suffices same : validateVariant variant (relistedEntries entries) = validateVariant variant entries by
        dsimp only
        rw [same]
      unfold validateVariant
      simp only [assemble_relistedEntries, validateChildrenAt_eq]
      cases isChild : variant.childField? with
      | none => rfl
      | some field =>
        dsimp only
        rw [named?_relistedEntries_child (Variant.mem_childFields isChild)]
        cases named : named? field.name entries with
        | none => rfl
        | some child =>
          dsimp only [Option.map_some]
          rw [validateSequence_relisted _ fun items inside => ih field.name child items named inside]

/-- The adapted entries are the same: the children among them are those that are built. -/
theorem adaptEntries_relistedEntries (variant : Variant) (children : List Model)
    (entries : List (Value × Value)) :
    adaptEntries variant children (relistedEntries entries) = adaptEntries variant children entries := by
  rw [adaptEntries, adaptEntries, relistedEntries_eq_map, List.filterMap_map]
  congr 1
  funext entry
  obtain ⟨key, value⟩ := entry
  cases key with
  | str name =>
    cases isChild : (Value.str name).isChildKey with
    | false =>
      rw [Function.comp_apply, relistedEntry, isChild]
      rfl
    | true =>
      have adapted : adaptEntry children name value.relisted = adaptEntry children name value := by
        obtain ⟨field, listed, named⟩ := List.any_eq_true.mp isChild
        cases eq_of_beq named
        rcases List.mem_cons.mp listed with rfl | listed
        · rfl
        · cases List.mem_singleton.mp listed
          rfl
      rw [Function.comp_apply, relistedEntry, isChild]
      dsimp only
      rw [if_pos rfl, adapted, isCallable_relisted]
  | _ => rfl

private theorem salvageNode_relistedEntries (variant : Variant) (entries : List (Value × Value))
    (children : List Model) :
    salvageNode variant (relistedEntries entries) children = salvageNode variant entries children := by
  have reported : reportedName (relistedEntries entries) = reportedName entries := by
    rw [reportedName, reportedName, named?_relistedEntries_foreign rfl, named?_relistedEntries_foreign rfl]
  rw [salvageNode, salvageNode, adaptEntries_relistedEntries, reported]

private theorem salvageItems_relisted {items : List Value}
    (each : ∀ item ∈ items, salvageItem item.relisted = salvageItem item) :
    salvageItems (relistedItems items) = salvageItems items := by
  have reads : (items.map relisted).map salvageItem = items.map salvageItem := by
    rw [List.map_map]
    exact List.map_congr_left each
  rw [salvageItems_eq_reads, salvageItems_eq_reads, relistedItems_eq_map, reads]

theorem salvageSequence_relisted {value : Value}
    (each : ∀ items, value.sequenceItems? = some items →
      ∀ item ∈ items, salvageItem item.relisted = salvageItem item) :
    salvageSequence value.relisted = salvageSequence value := by
  rw [salvageSequence_eq_getD, salvageSequence_eq_getD, sequenceItems?_relisted]
  cases sequence : value.sequenceItems? with
  | none => rfl
  | some items => exact salvageItems_relisted (each items sequence)

/-- A value is read as with lists for its sequences. -/
theorem salvageItem_relisted (value : Value) : salvageItem value.relisted = salvageItem value := by
  induction value using treeInduction with
  | leaf value plain =>
    cases value with
    | map | proxy => cases plain
    | _ => rfl
  | mapping value entries mapping ih =>
    have below (variant : Variant) :
        variant.salvagedChildren (relistedEntries entries) = variant.salvagedChildren entries := by
      rw [Variant.salvagedChildren, Variant.salvagedChildren, Variant.child?_relistedEntries]
      cases found : variant.child? entries with
      | none => rfl
      | some child =>
        obtain ⟨field, _, named⟩ := Option.bind_eq_some_iff.mp found
        refine salvageSequence_relisted fun items sequence item member => ?_
        rcases nodeItems?_or_numbers sequence with inside | numbers
        · exact ih field.name child items named inside item member
        · obtain ⟨number, rfl⟩ := numbers item member
          rfl
    rw [salvageItem_entries (relisted_mapping mapping), salvageItem_entries mapping, Variant.ofShape?_relistedEntries]
    cases Variant.ofShape? entries with
    | none => rfl
    | some variant =>
      dsimp only
      rw [below, salvageNode_relistedEntries]

end

namespace Value

mutual

/-- A value looks as with lists for its sequences. -/
theorem mask_relisted (value : Value) : value.relisted.mask = value.mask := by
  match value with
  | list items | tuple items | deque items =>
    rw [relisted, mask, mask, maskItems_relisted items]
  | map entries | proxy entries => rw [relisted, mask, mask, maskEntries_relisted entries]
  | set _ | iter _ _ | null | bool _ | int _ | float _ | str _ | bytes _ | bytearray _ | range _ | callable _
  | object _ _ _ _ | deferred _ _ | model _ => rfl
termination_by structural value

private theorem maskItems_relisted (items : List Value) : maskItems (relistedItems items) = maskItems items := by
  match items with
  | [] => rfl
  | item :: rest => rw [relistedItems, maskItems, maskItems, mask_relisted item, maskItems_relisted rest]
termination_by structural items

private theorem maskEntries_relisted (entries : List (Value × Value)) :
    maskEntries (relistedEntries entries) = maskEntries entries := by
  match entries with
  | [] => rfl
  | (key, value) :: rest =>
    have own : (if key.isChildKey then value.relisted else value).mask = value.mask := by
      split
      · exact mask_relisted value
      · rfl
    rw [relistedEntries, maskEntries, maskEntries, own, maskEntries_relisted rest]
termination_by structural entries

end

end Value

end ScenarioTree
