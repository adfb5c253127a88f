import ScenarioTree.Proofs.Schema.KeptParents

/-! # What relaxed building ends on

The names of a tree are the only thing that relaxed building relies on. It shows the name of whatever counts as
a node, once as the text of the node and once more when the node is skipped; where showing a name raises an
error, that is the end of it. The lookup of a name that a scenario may lack is never such an end.
-/

namespace ScenarioTree

variable {entries : List (Value × Value)} {variant : Variant} {children : List Model}

/-- Numbers stop nothing. -/
theorem itemsObstacle?_of_numbers {items : List Value} (numbers : ∀ item ∈ items, ∃ number, item = .int number) :
    itemsObstacle? items = none := by
  induction items with
  | nil => rfl
  | cons item rest ih =>
    obtain ⟨⟨number, rfl⟩, others⟩ := List.forall_mem_cons.mp numbers
    rw [itemsObstacle?, ih others]
    rfl

theorem sequenceObstacle?_eq {value : Value} {items : List Value} (sequence : value.sequenceItems? = some items) :
    sequenceObstacle? value = itemsObstacle? items := by
  cases value with
  | list | tuple | deque =>
    cases sequence
    rfl
  | range stop =>
    cases sequence
    exact (itemsObstacle?_of_numbers fun _ => Value.exists_int_of_mem_rangeItems).symm
  | bytearray data =>
    cases sequence
    exact (itemsObstacle?_of_numbers fun _ => Value.exists_int_of_mem_byteItems).symm
  | _ => cases sequence

theorem sequenceObstacle?_of_none {value : Value} (absent : value.sequenceItems? = none) :
    sequenceObstacle? value = none := by
  cases value with
  | list | tuple | deque => cases absent
  | _ => rfl

private theorem childObstacleAt?_eq (name : String) (entries : List (Value × Value)) :
    childObstacleAt? name entries = (Value.named? name entries).bind sequenceObstacle? := by
  induction entries with
  | nil => rfl
  | cons entry rest ih =>
    obtain ⟨key, value⟩ := entry
    rw [childObstacleAt?, Value.named?, List.find?_cons]
    cases Value.isName name key with
    | true => rfl
    | false => exact ih

/-- A mapping is stopped by its name, by its children, or by what is warned of it. -/
theorem itemObstacle?_entries {value : Value} (mapping : value.entries? = some entries) :
    itemObstacle? value =
      match Variant.ofShape? entries with
      | none => none
      | some variant =>
        (variant.titleObstacle? entries).or
          (((variant.child? entries).bind sequenceObstacle?).or
            ((variant.ownObstacle? entries (variant.salvagedChildren entries).1).map
              (.after (variant.salvagedChildren entries).2))) := by
  cases value with
  | map | proxy =>
    cases mapping
    rw [itemObstacle?.eq_def]
    dsimp only
    cases Variant.ofShape? entries with
    | none => rfl
    | some variant =>
      dsimp only
      rw [Variant.child?]
      cases variant.childField? with
      | none => rfl
      | some field =>
        dsimp only
        rw [childObstacleAt?_eq, Option.bind_some]
  | _ => cases mapping

theorem itemObstacle?_of_plain {value : Value} (plain : value.entries? = none) : itemObstacle? value = none := by
  cases value with
  | map | proxy => cases plain
  | _ => rfl

/-- Successive items are stopped by the first of them that is stopped. -/
theorem itemsObstacle?_eq_some_iff {items : List Value} {obstacle : Obstacle} :
    itemsObstacle? items = some obstacle ↔ ∃ earlier item later own, items = earlier ++ item :: later ∧
      (∀ other ∈ earlier, itemObstacle? other = none) ∧ itemObstacle? item = some own ∧
      obstacle = own.after (salvageItems earlier).2 := by
  induction items generalizing obstacle with
  | nil => simp [itemsObstacle?]
  | cons first rest ih =>
    rw [itemsObstacle?]
    cases here : itemObstacle? first with
    | some own =>
      rw [Option.some_or, Option.some_inj]
      constructor
      · rintro rfl
        exact ⟨[], first, rest, own, rfl, List.forall_mem_nil _, here, rfl⟩
      · rintro ⟨_ | ⟨other, earlier⟩, item, later, own', same, clear, met, rfl⟩
        · cases same
          cases here.symm.trans met
          rfl
        · cases same
          cases here.symm.trans (clear first (.head _))
    | none =>
      rw [Option.none_or, Option.map_eq_some_iff]
      constructor
      · rintro ⟨inner, met, rfl⟩
        obtain ⟨earlier, item, later, own, rfl, clear, stops, rfl⟩ := ih.mp met
        refine ⟨first :: earlier, item, later, own, rfl, List.forall_mem_cons.mpr ⟨here, clear⟩, stops, ?_⟩
        simp [Obstacle.after, salvageItems, List.append_assoc]
      · rintro ⟨_ | ⟨other, earlier⟩, item, later, own, same, clear, met, rfl⟩
        · cases same
          cases here.symm.trans met
        · cases same
          refine ⟨own.after (salvageItems earlier).2, ih.mpr ⟨earlier, item, later, own, rfl, fun other among =>
            clear other (.tail _ among), met, rfl⟩, ?_⟩
          simp [Obstacle.after, salvageItems, List.append_assoc]

/-- A mapping that is classified as a scenario has a name among its adapted entries. -/
theorem Variant.named?_scenario_isSome (told : Variant.ofShape? entries = some variant)
    (executable : variant.isExecutable = true) :
    (Value.named? "scenario" (adaptEntries variant children entries)).isSome = true := by
  obtain ⟨name, found, _⟩ := variant.exists_name_of_ofShape? executable told
  have read : variant.reads "scenario" name = true := by
    rw [reads, contains_acceptedKeys]
    cases variant with
    | fanOutLeaf | conditionalLeaf | directLeaf => rfl
    | _ => cases executable
  have kept : adaptEntry children "scenario" name ∈ adaptEntries variant children entries :=
    List.mem_filterMap.mpr ⟨_, Value.mem_of_named? found, if_pos read⟩
  rw [Value.named?_isSome, Value.hasName, List.any_eq_true]
  exact ⟨_, kept, rfl⟩

/-- What is put in for missing callables is put into scenarios only. -/
theorem Variant.isExecutable_of_supplied (supplied : (supplyCallables variant entries).2 ≠ []) :
    variant.isExecutable = true := by
  cases executable : variant.isExecutable with
  | true => rfl
  | false => exact absurd (by rw [supplyCallables, executable]; rfl) supplied

section

variable (told : Variant.ofShape? entries = some variant)

include told

theorem Variant.titleObstacle?_eq :
    variant.titleObstacle? entries =
      (RaisedError.within? (reportedName entries).toText).map fun error => { error } := by
  rw [titleObstacle?, named?_titleField told, Option.bind_some]

/-- A classified mapping is stopped by what is warned of it only when it is skipped. -/
theorem Variant.ownObstacle?_eq :
    variant.ownObstacle? entries children =
      match (salvageNode variant entries children).1 with
      | some _ => none
      | none => (RaisedError.within? (reportedName entries).toLiteral).map fun error =>
          { error, warnings := (supplyCallables variant (adaptEntries variant children entries)).2 } := by
  refine if_neg fun unnamed => ?_
  obtain ⟨missing, absent⟩ := Bool.and_eq_true_iff.mp unnamed
  have executable : variant.isExecutable = true :=
    isExecutable_of_supplied fun none => by
      rw [none] at missing
      cases missing
  rw [Option.isNone_iff_eq_none] at absent
  have present : (Value.named? "scenario" (adaptEntries variant children entries)).isSome = true :=
    variant.named?_scenario_isSome told executable
  rw [absent] at present
  cases present

end

/-- What has a text that is not empty is shown by it. -/
theorem Value.toText_of_display {value : Value} (nonempty : value.display ≠ "") :
    value.toText = .ok value.display := by
  rw [display] at nonempty ⊢
  generalize value.toText = shown at nonempty ⊢
  cases shown with
  | ok text => rfl
  | error error => exact absurd rfl nonempty

private theorem display_reportedName (told : Variant.ofShape? entries = some variant)
    (executable : variant.isExecutable = true) : (reportedName entries).display = scenarioName entries := by
  have named := variant.named?_titleField told
  rw [variant.titleField_of_isExecutable executable] at named
  change Value.named? "scenario" entries = _ at named
  rw [scenarioName, named]

/-- Nothing stops a scenario that has a name with text and is kept. -/
theorem itemObstacle?_of_kept {item : Value} (mapping : item.entries? = some entries)
    (told : Variant.ofShape? entries = some variant) (executable : variant.isExecutable = true)
    (nonempty : scenarioName entries ≠ "") {node : Node}
    (kept : (salvageNode variant entries []).1 = some node) : itemObstacle? item = none := by
  have title : variant.titleObstacle? entries = none := by
    rw [← display_reportedName told executable] at nonempty
    rw [variant.titleObstacle?_eq told, Value.toText_of_display nonempty]
    rfl
  have childless := variant.child?_eq_none executable entries
  rw [itemObstacle?_entries mapping, told]
  dsimp only
  rw [title, childless, Variant.salvagedChildren, childless, variant.ownObstacle?_eq told]
  dsimp only [Option.map_none, Option.getD_none]
  rw [kept]
  rfl

/-- Nothing stops a node whose name can be shown, in either form, if nothing stops its children. -/
theorem itemObstacle?_of_shown {item : Value} (mapping : item.entries? = some entries)
    (told : Variant.ofShape? entries = some variant) {text literal : String}
    (shown : (reportedName entries).toText = .ok text) (written : (reportedName entries).toLiteral = .ok literal)
    (below : (variant.child? entries).bind sequenceObstacle? = none) : itemObstacle? item = none := by
  rw [itemObstacle?_entries mapping, told]
  dsimp only
  rw [variant.titleObstacle?_eq told, variant.ownObstacle?_eq told, below, shown, written]
  split <;> rfl

theorem Builder.obstacle?_single (builder : Builder) {nodes item : Value}
    (single : nodes.sequenceItems? = some [item]) (clear : itemObstacle? item = none) :
    builder.obstacle? nodes = none := by
  rw [obstacle?, sequenceObstacle?_eq single, itemsObstacle?, clear, ite_eq_left_iff]
  exact fun _ => rfl

/-- The items of a sequence are those that strict building reads too, or numbers. -/
theorem nodeItems?_or_numbers {value : Value} {items : List Value}
    (sequence : value.sequenceItems? = some items) :
    value.nodeItems? = some items ∨ ∀ item ∈ items, ∃ number, item = .int number := by
  cases value with
  | list | tuple | deque | range => exact .inl sequence
  | bytearray data =>
    cases sequence
    exact .inr fun _ => Value.exists_int_of_mem_byteItems
  | _ => cases sequence

/-- An item counts as a node, and its name cannot be shown. -/
def Value.HidesName (item : Value) (error : RaisedError) : Prop :=
  ∃ entries variant, item.entries? = some entries ∧ Variant.ofShape? entries = some variant ∧
    ((reportedName entries).toText = .error error ∨ (reportedName entries).toLiteral = .error error)

/-- What stops an item is a name that cannot be shown, of the item or of something that is read below it. -/
theorem itemObstacle?_source {root item : Value} {obstacle : Obstacle} (read : root.Reads item)
    (met : itemObstacle? item = some obstacle) : ∃ part, root.Reads part ∧ part.HidesName obstacle.error := by
  induction item using Value.treeInduction generalizing obstacle with
  | leaf item plain => cases (itemObstacle?_of_plain plain).symm.trans met
  | mapping item entries mapping ih =>
    rw [itemObstacle?_entries mapping] at met
    cases told : Variant.ofShape? entries with
    | none =>
      rw [told] at met
      cases met
    | some variant =>
      rw [told] at met
      dsimp only at met
      rw [variant.titleObstacle?_eq told, variant.ownObstacle?_eq told] at met
      rcases Option.or_eq_some_iff.mp met with title | ⟨_, met⟩
      · obtain ⟨error, withheld, rfl⟩ := Option.map_eq_some_iff.mp title
        exact ⟨item, read, entries, variant, mapping, told,
          .inl (RaisedError.within?_eq_some_iff.mp withheld)⟩
      rcases Option.or_eq_some_iff.mp met with inner | ⟨_, own⟩
      · obtain ⟨child, content, stopped⟩ := Option.bind_eq_some_iff.mp inner
        cases sequence : child.sequenceItems? with
        | none => cases (sequenceObstacle?_of_none sequence).symm.trans stopped
        | some items =>
          rw [sequenceObstacle?_eq sequence] at stopped
          obtain ⟨earlier, inside, later, met, rfl, _, stops, rfl⟩ := itemsObstacle?_eq_some_iff.mp stopped
          have among : inside ∈ earlier ++ inside :: later := List.mem_append_right _ (.head _)
          rcases nodeItems?_or_numbers sequence with listed | numbers
          · obtain ⟨field, _, named⟩ := Option.bind_eq_some_iff.mp content
            obtain ⟨part, seen, hides⟩ := ih field.name child _ named listed inside among
              (read.inside mapping told content sequence among) stops
            exact ⟨part, seen, hides⟩
          · obtain ⟨number, rfl⟩ := numbers inside among
            cases stops
      · obtain ⟨skipped, warned, rfl⟩ := Option.map_eq_some_iff.mp own
        split at warned
        · cases warned
        · obtain ⟨error, withheld, rfl⟩ := Option.map_eq_some_iff.mp warned
          exact ⟨item, read, entries, variant, mapping, told,
            .inr (RaisedError.within?_eq_some_iff.mp withheld)⟩

/-- Only relaxed building is stopped, by a name that it reads and that cannot be shown. -/
theorem Builder.source_of_obstacle? {builder : Builder} {root : Value} {obstacle : Obstacle}
    (met : builder.obstacle? root = some obstacle) :
    builder.strict = false ∧ ∃ part, root.Reads part ∧ part.HidesName obstacle.error := by
  rw [obstacle?] at met
  split at met
  · cases met
  · rename_i relaxed
    refine ⟨Bool.not_eq_true _ ▸ relaxed, ?_⟩
    cases sequence : root.sequenceItems? with
    | none => cases (sequenceObstacle?_of_none sequence).symm.trans met
    | some items =>
      rw [sequenceObstacle?_eq sequence] at met
      obtain ⟨earlier, item, later, own, rfl, _, stops, rfl⟩ := itemsObstacle?_eq_some_iff.mp met
      obtain ⟨part, seen, hides⟩ :=
        itemObstacle?_source (.item sequence (List.mem_append_right _ (.head _))) stops
      exact ⟨part, seen, hides⟩

/-- Relaxed building ends with a tree and the warnings about whatever it reads, or else on a name that it reads and
that cannot be shown. -/
theorem Builder.warned_or_hidden {builder : Builder} (isRelaxed : builder.strict = false) {root item : Value}
    (read : root.Reads item) (spent : Spent) :
    ((∃ models, ((builder.attempt root).run spent).1.models = .ok models) ∧
      (salvageItem item).2 <:+: ((builder.attempt root).run spent).1.warnings) ∨
    ∃ part error, root.Reads part ∧ part.HidesName error ∧
      ((builder.attempt root).run spent).1.models = .error (.raised error) := by
  cases met : builder.obstacle? root with
  | some obstacle =>
    obtain ⟨_, part, seen, hides⟩ := source_of_obstacle? met
    rw [attempt_of_some met]
    exact .inr ⟨part, obstacle.error, seen, hides, rfl⟩
  | none =>
    rw [attempt_of_none met]
    refine .inl ⟨?_, warnings_among isRelaxed read spent⟩
    cases built : ((builder.build root).run spent).1.models with
    | ok models => exact ⟨models, rfl⟩
    | error failure => cases isRelaxed.symm.trans (isStrict_of_refused built).1

/-- How an object is shown that answers with a number: not at all. -/
def numberRendering : Rendering where
  display := .error ⟨.typeError, "__str__ returned non-string (type int)"⟩
  literal := .error ⟨.typeError, "__repr__ returned non-string (type int)"⟩

/-- A group whose name lists an object that cannot be shown. -/
def hiddenGroup : Value :=
  .map [(.str "feature", .list [.object "page" [] true numberRendering]), (.str "tests", .list [])]

/-- The name of the group is in the way of relaxed building. -/
theorem hiddenGroup_stops : Builder.obstacle? { strict := false } (.list [hiddenGroup]) =
    some { error := ⟨.typeError, "__repr__ returned non-string (type int)"⟩ } := rfl

end ScenarioTree
