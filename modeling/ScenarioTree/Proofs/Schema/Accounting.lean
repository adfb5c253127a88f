import Mathlib.Data.List.Forall2
import ScenarioTree.Proofs.Schema.Obstacles
import ScenarioTree.Proofs.Schema.Scenarios

/-! # Relaxed building accounts for every item

Relaxed building fails only on a name that cannot be shown, and changes nothing in the world but the warnings.
Each item stands for itself: it is kept, it is passed over in silence, or it counts as a node. What counts as a
node is warned about from below, its children first and then the callables that it lacks; then it is either
built or skipped with one more warning. So what is built is in the order of the items, and the warnings are in
the order in which the nodes of a tree are left.
-/

namespace ScenarioTree

/-- What relaxed building warns of when a mapping lacks callables that its variant needs. -/
def Variant.standIns (variant : Variant) (entries : List (Value × Value)) : List Warning :=
  if variant.isExecutable then standInWarnings entries else []

/-- The items of the children of a mapping, none where there is no sequence. -/
def Variant.childItems (variant : Variant) (entries : List (Value × Value)) : List Value :=
  ((variant.child? entries).bind Value.sequenceItems?).getD []

/-- What an item contributes to a tree that is built relaxedly: at most one built node, and warnings. -/
inductive Value.Contributes : Value → Option Model → List Warning → Prop
  /-- A built node is kept as it is. -/
  | kept (model : Model) : Contributes (.model model) (some model) []
  /-- What is neither built nor a mapping of some shape is passed over. -/
  | passedOver {item : Value} (unbuilt : item.model? = none)
      (unread : item.entries?.bind Variant.ofShape? = none) : Contributes item none []
  /-- A mapping is built as a node of its variant, of what its children contribute. -/
  | built {item : Value} {entries : List (Value × Value)} {variant : Variant}
      {reads : List (Option Model × List Warning)} {node : Node} (mapping : item.entries? = some entries)
      (told : Variant.ofShape? entries = some variant)
      (below : List.Forall₂ (fun child read => Contributes child read.1 read.2) (variant.childItems entries)
        reads)
      (ofVariant : node.variant = variant) (children : node.children.map .node = reads.filterMap Prod.fst) :
      Contributes item (some (.node node)) (reads.flatMap Prod.snd ++ variant.standIns entries)
  /-- A mapping is skipped, with a warning after those about its children and its callables. -/
  | skipped {item : Value} {entries : List (Value × Value)} {variant : Variant}
      {reads : List (Option Model × List Warning)} (mapping : item.entries? = some entries)
      (told : Variant.ofShape? entries = some variant)
      (below : List.Forall₂ (fun child read => Contributes child read.1 read.2) (variant.childItems entries)
        reads)
      (count : Nat) :
      Contributes item none
        (reads.flatMap Prod.snd ++ (variant.standIns entries ++ [.skippedNode (reportedName entries) count]))

namespace Value.Contributes

variable {item : Value} {model? : Option Model} {warnings : List Warning}

/-- A built node contributes itself, and nothing else. -/
theorem of_model {model : Model} (contributes : (Value.model model).Contributes model? warnings) :
    model? = some model ∧ warnings = [] := by
  cases contributes with
  | kept => exact ⟨rfl, rfl⟩
  | passedOver unbuilt => cases unbuilt
  | built mapping => cases mapping
  | skipped mapping => cases mapping

/-- What is neither built nor a mapping of some shape contributes nothing. -/
theorem of_unread (contributes : item.Contributes model? warnings) (unbuilt : item.model? = none)
    (unread : item.entries?.bind Variant.ofShape? = none) : model? = none ∧ warnings = [] := by
  cases contributes with
  | kept => cases unbuilt
  | passedOver => exact ⟨rfl, rfl⟩
  | built mapping told | skipped mapping told =>
    rw [mapping, Option.bind_some, told] at unread
    cases unread

end Value.Contributes

/-- Successive items are read one by one, in order. -/
theorem salvageItems_eq_reads (items : List Value) :
    salvageItems items =
      ((items.map salvageItem).filterMap Prod.fst, (items.map salvageItem).flatMap Prod.snd) := by
  rw [salvageItems_eq_flatMap, List.filterMap_map, List.flatMap_map, List.filterMap_eq_flatMap_toList]
  rfl

/-- A sequence is read as its items, and anything else as nothing. -/
theorem salvageSequence_eq_getD (value : Value) :
    salvageSequence value = salvageItems (value.sequenceItems?.getD []) := by
  cases sequence : value.sequenceItems? with
  | some items => exact salvageSequence_eq sequence
  | none =>
    cases value with
    | list | tuple | deque => cases sequence
    | _ => rfl

private theorem Variant.salvagedChildren_eq_items (variant : Variant) (entries : List (Value × Value)) :
    variant.salvagedChildren entries = salvageItems (variant.childItems entries) := by
  rw [salvagedChildren_eq, salvageSequence_eq_getD, content, childItems]
  cases variant.child? entries <;> rfl

/-- The items of the children of a mapping are numbers, or items that strict building reads too. -/
theorem Variant.mem_childItems {variant : Variant} {entries : List (Value × Value)} {child : Value}
    (member : child ∈ variant.childItems entries) :
    (∃ number, child = .int number) ∨ ∃ field ∈ childFields, ∃ content items,
      Value.named? field.name entries = some content ∧ content.nodeItems? = some items ∧ child ∈ items := by
  rw [childItems] at member
  cases inside : (variant.child? entries).bind Value.sequenceItems? with
  | none =>
    rw [inside] at member
    cases member
  | some items =>
    rw [inside] at member
    obtain ⟨content, found, sequence⟩ := Option.bind_eq_some_iff.mp inside
    obtain ⟨field, isField, named⟩ := Option.bind_eq_some_iff.mp found
    rcases nodeItems?_or_numbers sequence with inside | numbers
    · exact .inr ⟨field, Variant.mem_childFields isField, content, items, named, inside, member⟩
    · exact .inl (numbers child member)

private theorem forall₂_salvageItem {items : List Value}
    (each : ∀ item ∈ items, item.Contributes (salvageItem item).1 (salvageItem item).2) :
    List.Forall₂ (fun item read => item.Contributes read.1 read.2) items (items.map salvageItem) :=
  List.forall₂_map_right_iff.mpr (List.forall₂_same.mpr each)

section

variable {entries : List (Value × Value)} {variant : Variant} {children : List Model}

/-- The nodes that a valid sequence of built ones consists of are these. -/
theorem eq_map_node_of_ofModels {otherwise : Fault} {nodes : List Node} {spent : Spent}
    (valid : ((validateSequence otherwise (.ofModels children)).run spent).1 = .valid nodes) :
    nodes.map .node = children := by
  have items : ((validateItems 0 (children.map Value.model)).run spent).1 = .valid nodes := valid
  obtain ⟨others, rfl⟩ :=
    exists_nodes_of_isOutsider_eq_false (isOutsider_eq_false_of_validateItems (Prod.ext items rfl))
  rw [run_validateSequence_ofModels] at valid
  cases valid
  rfl

/-- A node that is built of a parent has all the children that were built for it. -/
theorem children_of_validateVariant (distinct : HasDistinctKeys entries)
    (parent : variant.childField?.isSome = true)
    (childless : variant.child? entries = none → children = []) {node : Node}
    (valid : ((validateVariant variant (adaptEntries variant children entries)).run []).1 = .valid node) :
    node.children.map .node = children := by
  rw [run_validateVariant, Variant.child?_adaptEntries distinct] at valid
  cases found : variant.child? entries with
  | none =>
    rw [found] at valid
    have none : assemble variant (adaptEntries variant children entries)
        ((none : Option (List Node)).map .valid) = .valid node := valid
    rw [childless found, Node.children_of_assemble parent none]
    rfl
  | some child =>
    rw [found] at valid
    dsimp only [Option.map_some] at valid
    have adapted : variant.child? (adaptEntries variant children entries) = some (.ofModels children) := by
      rw [Variant.child?_adaptEntries distinct, found]
      rfl
    obtain ⟨nodes, sequence⟩ := Validated.isValid_iff.mp
      (children_isValid_of_assemble adapted (Validated.isValid_iff.mpr ⟨node, valid⟩))
    rw [sequence] at valid
    have some : assemble variant (adaptEntries variant children entries)
        ((some nodes).map .valid) = .valid node := valid
    rw [Node.children_of_assemble parent some]
    exact eq_map_node_of_ofModels sequence

/-- A mapping that is classified is built as a node of its variant with all the children that were built for
it, or skipped. Before that, there is a warning for every callable that it lacks. -/
theorem salvageNode_cases (distinct : HasDistinctKeys entries)
    (childless : variant.child? entries = none → children = []) :
    (∃ node : Node, node.variant = variant ∧ node.children.map .node = children ∧
      salvageNode variant entries children = (some node, variant.standIns entries)) ∨
    ∃ count, salvageNode variant entries children =
      (none, variant.standIns entries ++ [.skippedNode (reportedName entries) count]) := by
  cases executable : variant.isExecutable with
  | true =>
    have unfolded : variant.standIns entries = standInWarnings entries := if_pos executable
    rw [unfolded, childless (variant.child?_eq_none executable entries)]
    rcases salvageNode_scenario_cases executable distinct with ⟨node, isScenario, made⟩ | skipped
    · refine .inl ⟨node, isScenario.ofVariant, ?_, made⟩
      obtain ⟨check, checks, _⟩ := isScenario.supplied
      cases node <;> first | rfl | cases checks
    · exact .inr skipped
  | false =>
    have parent : variant.childField?.isSome = true := by
      cases variant <;> first | rfl | cases executable
    have unfolded : variant.standIns entries = [] := if_neg (by rw [executable]; exact Bool.false_ne_true)
    rw [unfolded]
    cases validated : ((validateVariant variant (adaptEntries variant children entries)).run []).1 with
    | valid node =>
      have made : salvageNode variant entries children = (some node, []) := by
        rw [salvageNode_parent parent, validated]
      exact .inl ⟨node, (Node.IsMadeOf.of_salvageNode (congrArg Prod.fst made)).ofVariant,
        children_of_validateVariant distinct parent childless validated, made⟩
    | invalid issues =>
      refine .inr ⟨issues.length, ?_⟩
      rw [salvageNode_parent parent, validated]
      rfl

end

private theorem Value.Throughout.contributes {item : Value} (distinct : item.Throughout HasDistinctKeys) :
    item.Contributes (salvageItem item).1 (salvageItem item).2 := by
  induction distinct with
  | @leaf item plain =>
    have unread : item.entries?.bind Variant.ofShape? = none := by
      rw [plain]
      rfl
    cases item with
    | model model => exact .kept model
    | map | proxy => cases plain
    | _ => exact .passedOver rfl unread
  | @mapping item entries mapping here below ih =>
    rw [salvageItem_entries mapping]
    cases told : Variant.ofShape? entries with
    | none =>
      have unbuilt : item.model? = none := by
        cases item with
        | model => cases mapping
        | _ => rfl
      refine .passedOver unbuilt ?_
      rw [mapping]
      exact told
    | some variant =>
      have each : ∀ child ∈ variant.childItems entries,
          child.Contributes (salvageItem child).1 (salvageItem child).2 := by
        intro child member
        rcases Variant.mem_childItems member with
          ⟨number, rfl⟩ | ⟨field, isField, content, items, named, inside, among⟩
        · exact .passedOver rfl rfl
        · exact ih field isField content items named inside child among
      have reads := forall₂_salvageItem each
      have below := variant.salvagedChildren_eq_items entries
      rw [salvageItems_eq_reads] at below
      have childless (absent : variant.child? entries = none) : (variant.salvagedChildren entries).1 = [] := by
        rw [Variant.salvagedChildren, absent]
        rfl
      dsimp only
      rcases salvageNode_cases here childless with ⟨node, ofVariant, children, made⟩ | ⟨count, skipped⟩
      · rw [made, below]
        rw [below] at children
        exact .built mapping told reads ofVariant children
      · rw [skipped, below]
        exact .skipped mapping told reads count

/-- How relaxed building ends within an item: with the error of showing a name, which is the name of the item
itself, as a text or in a warning, or a name below it; and with what was warned of until then. -/
inductive Value.Ends : Value → RaisedError → List Warning → Prop
  | named {item : Value} {entries : List (Value × Value)} {variant : Variant} {error : RaisedError}
      (mapping : item.entries? = some entries) (told : Variant.ofShape? entries = some variant)
      (hidden : (reportedName entries).toText = .error error) : Ends item error []
  | within {item child : Value} {entries : List (Value × Value)} {variant : Variant} {text : String}
      {earlier later : List Value} {reads : List (Option Model × List Warning)} {error : RaisedError}
      {warnings : List Warning} (mapping : item.entries? = some entries)
      (told : Variant.ofShape? entries = some variant) (shown : (reportedName entries).toText = .ok text)
      (items : variant.childItems entries = earlier ++ child :: later)
      (before : List.Forall₂ (fun child read => child.Contributes read.1 read.2) earlier reads)
      (inside : Ends child error warnings) : Ends item error (reads.flatMap Prod.snd ++ warnings)
  | skipped {item : Value} {entries : List (Value × Value)} {variant : Variant} {text : String}
      {reads : List (Option Model × List Warning)} {error : RaisedError}
      (mapping : item.entries? = some entries) (told : Variant.ofShape? entries = some variant)
      (shown : (reportedName entries).toText = .ok text)
      (below : List.Forall₂ (fun child read => child.Contributes read.1 read.2) (variant.childItems entries)
        reads)
      (unbuilt : (salvageItem item).1 = none) (hidden : (reportedName entries).toLiteral = .error error) :
      Ends item error (reads.flatMap Prod.snd ++ variant.standIns entries)

/-- What is put in for missing callables is what is warned of. -/
theorem Variant.supplied_eq_standIns {variant : Variant} {entries : List (Value × Value)}
    (distinct : HasDistinctKeys entries) (children : List Model) :
    (supplyCallables variant (adaptEntries variant children entries)).2 = variant.standIns entries := by
  rw [standIns]
  cases executable : variant.isExecutable with
  | true =>
    rw [variant.supplyCallables_eq executable distinct]
    rfl
  | false =>
    rw [supplyCallables, executable]
    rfl

private theorem Variant.childObstacle?_eq (variant : Variant) (entries : List (Value × Value)) :
    (variant.child? entries).bind sequenceObstacle? = itemsObstacle? (variant.childItems entries) := by
  rw [childItems]
  cases variant.child? entries with
  | none => rfl
  | some child =>
    rw [Option.bind_some, Option.bind_some]
    cases sequence : child.sequenceItems? with
    | none => exact sequenceObstacle?_of_none sequence
    | some items => exact sequenceObstacle?_eq sequence

/-- What stops an item is how building ends within it. -/
theorem Value.Throughout.ends {item : Value} (distinct : item.Throughout HasDistinctKeys) {obstacle : Obstacle}
    (met : itemObstacle? item = some obstacle) : item.Ends obstacle.error obstacle.warnings := by
  induction distinct generalizing obstacle with
  | @leaf item plain => cases (itemObstacle?_of_plain plain).symm.trans met
  | @mapping item entries mapping here below ih =>
    rw [itemObstacle?_entries mapping] at met
    cases told : Variant.ofShape? entries with
    | none =>
      rw [told] at met
      cases met
    | some variant =>
      rw [told] at met
      dsimp only at met
      rw [variant.titleObstacle?_eq told, variant.ownObstacle?_eq told, variant.childObstacle?_eq] at met
      have whole : ∀ child ∈ variant.childItems entries, child.Throughout HasDistinctKeys := by
        intro child member
        rcases Variant.mem_childItems member with
          ⟨number, rfl⟩ | ⟨field, isField, content, items, named, inside, among⟩
        · exact .leaf rfl
        · exact below field isField content items named inside child among
      rcases Option.or_eq_some_iff.mp met with title | ⟨shown, met⟩
      · obtain ⟨error, hidden, rfl⟩ := Option.map_eq_some_iff.mp title
        exact .named mapping told (RaisedError.within?_eq_some_iff.mp hidden)
      obtain ⟨text, shown⟩ := RaisedError.within?_eq_none_iff.mp (Option.map_eq_none_iff.mp shown)
      rcases Option.or_eq_some_iff.mp met with inner | ⟨_, own⟩
      · obtain ⟨earlier, child, later, own, items, _, stops, rfl⟩ := itemsObstacle?_eq_some_iff.mp inner
        have among : child ∈ variant.childItems entries := items ▸ List.mem_append_right _ (.head _)
        have before := forall₂_salvageItem fun other member =>
          (whole other (items ▸ List.mem_append_left _ member)).contributes
        have ends : child.Ends own.error own.warnings := by
          rcases Variant.mem_childItems among with
            ⟨number, rfl⟩ | ⟨field, isField, content, listed, named, inside, among⟩
          · cases stops
          · exact ih field isField content listed named inside child among stops
        rw [salvageItems_eq_reads]
        exact .within mapping told shown items before ends
      · obtain ⟨skipped, warned, rfl⟩ := Option.map_eq_some_iff.mp own
        split at warned
        · cases warned
        rename_i unbuilt
        obtain ⟨error, hidden, rfl⟩ := Option.map_eq_some_iff.mp warned
        have salvaged : (salvageItem item).1 = none := by
          rw [salvageItem_entries mapping, told]
          dsimp only
          rw [unbuilt]
          rfl
        have reads := forall₂_salvageItem fun child member => (whole child member).contributes
        have ends := Ends.skipped mapping told shown reads salvaged (RaisedError.within?_eq_some_iff.mp hidden)
        rw [variant.supplied_eq_standIns here, Variant.salvagedChildren_eq_items, salvageItems_eq_reads]
        exact ends

/-- The group is skipped: a node has no outsider among its children. -/
theorem hostEntries_contributes {model? : Option Model} {warnings : List Warning}
    (contributes : (Value.map hostEntries).Contributes model? warnings) :
    model? = none ∧ ∃ count, warnings = [.skippedNode (.str "Menu") count] := by
  have told : Variant.ofShape? hostEntries = some .plainGroup := rfl
  cases contributes with
  | passedOver _ unread => cases told.symm.trans unread
  | @built _ _ _ _ node mapping other below ofVariant children =>
    cases mapping
    cases told.symm.trans other
    rcases below with _ | ⟨guest, _⟩
    rw [List.filterMap_cons, guest.of_model.1] at children
    obtain ⟨child, _, _, same, _⟩ := List.map_eq_cons_iff.mp children
    cases same
  | skipped mapping other below count =>
    cases mapping
    cases told.symm.trans other
    rcases below with _ | ⟨guest, _ | ⟨kept, _ | _⟩⟩
    refine ⟨rfl, count, ?_⟩
    rw [List.flatMap_cons, List.flatMap_cons, guest.of_model.2, kept.of_model.2]
    rfl

/-- The items of a tree: a number, a built scenario, and a group with an outsider among its tests. -/
def hostTree : Value := .deque [.int 3, .ofNode headlineLeaf, .map hostEntries]

private theorem hostTree_shown (part : Value) (read : hostTree.Reads part) (error : RaisedError) :
    ¬ part.HidesName error := by
  have seen : part.entries? = none ∨ part = .map hostEntries := by
    induction read with
    | item sequence member =>
      cases sequence
      rcases List.mem_cons.mp member with rfl | member
      · exact .inl rfl
      rcases List.mem_cons.mp member with rfl | member
      · exact .inl rfl
      · exact .inr (List.mem_singleton.mp member)
    | inside above mapping told content sequence member ih =>
      rcases ih with plain | rfl
      · cases plain.symm.trans mapping
      cases mapping
      have group : Variant.ofShape? hostEntries = some .plainGroup := rfl
      cases group.symm.trans told
      cases content
      cases sequence
      rcases List.mem_cons.mp member with rfl | member
      · exact .inl rfl
      · rw [List.mem_singleton.mp member]
        exact .inl rfl
    | built => exact .inl rfl
  rintro ⟨entries, variant, mapping, _, hidden⟩
  rcases seen with plain | rfl
  · cases plain.symm.trans mapping
  · cases mapping
    rcases hidden with text | literal
    · cases text
    · cases literal

end ScenarioTree
