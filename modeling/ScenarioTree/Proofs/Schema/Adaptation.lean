import ScenarioTree.Proofs.Schema.Grammar

/-! # Adapted mappings

Relaxed construction adapts a mapping to the variant that it has by shape and then validates it. What
the adapted mapping has under a key is what the mapping has there, as the variant reads it. For this
the keys of a mapping have to be pairwise different, as those of every mapping are: otherwise dropping
an entry could uncover another one.
-/

namespace ScenarioTree

/-- The keys of a mapping are pairwise different. -/
def HasDistinctKeys (entries : List (Value × Value)) : Prop :=
  entries.Pairwise fun entry other => Value.sameKey entry.1 other.1 = false

def Variant.reads (variant : Variant) (key : String) (value : Value) : Bool :=
  (acceptedKeys variant.fields).contains key && (!isKeyOf droppableFields key || value.isCallable)

theorem contains_acceptedKeys (fields : List Field) (key : String) :
    (acceptedKeys fields).contains key =
      fields.any fun field => key == field.name || field.aliasKeys.contains key := by
  rw [Bool.eq_iff_iff, List.contains_iff_mem, acceptedKeys, List.mem_eraseDups, List.mem_mergeSort,
    List.mem_flatMap]
  simp

theorem mem_acceptedKeys {fields : List Field} {field : Field} (listed : field ∈ fields) {key : String}
    (spelled : key ∈ field.keys) : key ∈ acceptedKeys fields := by
  rw [← List.contains_iff_mem, contains_acceptedKeys, List.any_eq_true]
  refine ⟨field, listed, ?_⟩
  rw [Field.keys] at spelled
  split at spelled
  · simp [List.mem_singleton.mp spelled]
  · simp [spelled]

/-- Under a spelling of its fields, a variant reads everything, or only a callable. -/
theorem Variant.reads_of_mem {variant : Variant} {field : Field} (listed : field ∈ variant.fields) {key : String}
    (spelled : key ∈ field.keys) (value : Value) :
    variant.reads key value = (!isKeyOf droppableFields key || value.isCallable) := by
  rw [reads, List.contains_iff_mem.mpr (mem_acceptedKeys listed spelled), Bool.true_and]

/-- Whatever is accepted for a field is a spelling of it. -/
theorem Variant.accepted_fields (variant : Variant) : ∀ field ∈ variant.fields,
    field.name ∈ field.keys ∧ ∀ key ∈ field.aliasKeys, key ∈ field.keys := by
  cases variant <;> decide

theorem adaptEntry_eq (children : List Model) (key : String) (value : Value) :
    adaptEntry children key value = (.str key, (adaptEntry children key value).2) := by
  unfold adaptEntry
  split
  · rfl
  · split <;> rfl

section

variable {entries : List (Value × Value)} {variant : Variant} {children : List Model}

theorem named?_cons_str (name key : String) (value : Value) (rest : List (Value × Value)) :
    Value.named? name ((.str key, value) :: rest) =
      if key = name then some value else Value.named? name rest := by
  change Option.map Prod.snd (match key == name with
    | true => some (Value.str key, value)
    | false => rest.find? fun entry => Value.isName name entry.1) = _
  by_cases same : key = name
  · rw [if_pos same, beq_iff_eq.mpr same]
    rfl
  · rw [if_neg same, beq_eq_false_iff_ne.mpr same]
    rfl

theorem adaptEntries_cons_str (key : String) (value : Value) (rest : List (Value × Value)) :
    adaptEntries variant children ((.str key, value) :: rest) =
      if variant.reads key value then
        (.str key, (adaptEntry children key value).2) :: adaptEntries variant children rest
      else adaptEntries variant children rest := by
  rw [← adaptEntry_eq]
  unfold adaptEntries Variant.reads
  rw [List.filterMap_cons]
  dsimp only
  cases (acceptedKeys variant.fields).contains key && (!isKeyOf droppableFields key || value.isCallable) <;>
    rfl

/-- The keys of a mapping are different, so that the one that comes first is found nowhere else. -/
theorem HasDistinctKeys.named?_eq_none {name : String} {value : Value} {rest : List (Value × Value)}
    (distinct : HasDistinctKeys ((.str name, value) :: rest)) : Value.named? name rest = none := by
  obtain ⟨different, _⟩ := List.pairwise_cons.mp distinct
  rw [← Option.not_isSome_iff_eq_none, Option.isSome_iff_exists]
  rintro ⟨other, named⟩
  have unlike := different _ (Value.mem_of_named? named)
  simp [Value.sameKey] at unlike

/-- An adapted mapping has under a key what the mapping has there, as far as the variant reads it. -/
theorem named?_adaptEntries (distinct : HasDistinctKeys entries) (name : String) :
    Value.named? name (adaptEntries variant children entries) =
      ((Value.named? name entries).filter (variant.reads name)).map fun value =>
        (adaptEntry children name value).2 := by
  induction entries with
  | nil => rfl
  | cons entry rest ih =>
    have below := ih (List.pairwise_cons.mp distinct).2
    obtain ⟨key, value⟩ := entry
    cases key with
    | str key =>
      rw [adaptEntries_cons_str, named?_cons_str]
      by_cases same : key = name
      · subst same
        rw [distinct.named?_eq_none] at below
        cases read : variant.reads key value with
        | true => simp [named?_cons_str, Option.filter, read]
        | false => simp [Option.filter, read, below]
      · rw [if_neg same]
        split
        · rw [named?_cons_str, if_neg same, below]
        · exact below
    | _ => exact below

/-- Under a spelling of a field, an adapted mapping has what the mapping has there, unless it is dropped. -/
theorem named?_adaptEntries_of_mem (distinct : HasDistinctKeys entries) {field : Field}
    (listed : field ∈ variant.fields) {key : String} (spelled : key ∈ field.keys) :
    Value.named? key (adaptEntries variant children entries) =
      ((Value.named? key entries).filter fun value => !isKeyOf droppableFields key || value.isCallable).map
        fun value => (adaptEntry children key value).2 := by
  rw [named?_adaptEntries distinct, funext (Variant.reads_of_mem listed spelled)]

/-- If the key is for neither a name nor children, it has it there as it is. -/
theorem named?_adaptEntries_callable (distinct : HasDistinctKeys entries) {field : Field}
    (listed : field ∈ variant.fields) {key : String} (spelled : key ∈ field.keys)
    (ordinary : isKeyOf titleFields key = false ∧ isKeyOf childFields key = false) :
    Value.named? key (adaptEntries variant children entries) =
      (Value.named? key entries).filter fun value => !isKeyOf droppableFields key || value.isCallable := by
  have kept : (fun value => (adaptEntry children key value).2) = id := by
    funext value
    rw [adaptEntry, ordinary.1, ordinary.2]
    rfl
  rw [named?_adaptEntries_of_mem distinct listed spelled, kept, Option.map_id, id]

theorem named?_adaptEntries_title (distinct : HasDistinctKeys entries) :
    Value.named? variant.titleField.name (adaptEntries variant children entries) =
      (Value.named? variant.titleField.name entries).map fun name => .str name.display := by
  have listed : variant.titleField ∈ variant.fields ∧ variant.titleField.name ∈ variant.titleField.keys ∧
      isKeyOf droppableFields variant.titleField.name = false := by
    cases variant <;> decide
  have adapted : (fun value => (adaptEntry children variant.titleField.name value).2) =
      fun name => .str name.display := by
    cases variant <;> rfl
  rw [named?_adaptEntries_of_mem distinct listed.1 listed.2.1, listed.2.2, adapted]
  cases Value.named? variant.titleField.name entries <;> rfl

private theorem hasName_of_adaptEntries (distinct : HasDistinctKeys entries) {name : String}
    (present : Value.hasName name (adaptEntries variant children entries) = true) :
    Value.hasName name entries = true := by
  rw [← Value.named?_isSome, named?_adaptEntries distinct, Option.isSome_map] at present
  rw [← Value.named?_isSome]
  exact Option.isSome_of_isSome_filter _ _ present

theorem Field.IsUnambiguous.adaptEntries {keys : List String} (distinct : HasDistinctKeys entries)
    (unambiguous : Field.IsUnambiguous keys entries) :
    Field.IsUnambiguous keys (adaptEntries variant children entries) := by
  intro key spelled other alike present others
  exact unambiguous key spelled other alike (hasName_of_adaptEntries distinct present)
    (hasName_of_adaptEntries distinct others)

/-- A field of an adapted mapping has the value of the field of the mapping, as the variant reads it. -/
theorem Field.pick?_adaptEntries {field : Field} (distinct : HasDistinctKeys entries)
    (unambiguous : IsUnambiguous field.keys entries) :
    field.pick? (adaptEntries variant children entries) =
      ((field.pick? entries).filter fun found => variant.reads found.1 found.2).map fun found =>
        (found.1, (adaptEntry children found.1 found.2).2) := by
  cases picked : field.pick? entries with
  | none =>
    refine pick?_eq_none_iff.mpr fun key spelled => ?_
    rw [named?_adaptEntries distinct, pick?_eq_none_iff.mp picked key spelled]
    rfl
  | some found =>
    obtain ⟨key, value⟩ := found
    obtain ⟨spelled, named⟩ := mem_keys_of_pick? picked
    cases read : variant.reads key value with
    | true =>
      have adapted : Value.named? key (adaptEntries variant children entries) =
          some (adaptEntry children key value).2 := by
        rw [named?_adaptEntries distinct, named, Option.filter, if_pos read, Option.map_some]
      rw [(pick?_eq_some_iff (unambiguous.adaptEntries distinct)).mpr ⟨spelled, adapted⟩, Option.filter,
        if_pos read, Option.map_some]
    | false =>
      rw [Option.filter, if_neg (by rw [read]; exact Bool.false_ne_true)]
      refine pick?_eq_none_iff.mpr fun other alike => ?_
      rw [named?_adaptEntries distinct]
      cases found : Value.named? other entries with
      | none => rfl
      | some content =>
        have same := (pick?_eq_some_iff unambiguous).mpr ⟨alike, found⟩
        rw [picked] at same
        cases same
        rw [Option.filter, if_neg (by rw [read]; exact Bool.false_ne_true)]
        rfl

/-- A required field is the same in the adapted mapping when what it has is read as it is. -/
theorem Field.required_adaptEntries {α : Type} {field : Field} {validate : Value → Validated α}
    (distinct : HasDistinctKeys entries) (unambiguous : IsUnambiguous field.keys entries)
    (kept : ∀ key ∈ field.keys, ∀ value, Value.named? key entries = some value →
      variant.reads key value = true ∧ (adaptEntry children key value).2 = value) :
    field.required validate (adaptEntries variant children entries) = field.required validate entries := by
  rw [required, required, pick?_adaptEntries distinct unambiguous]
  cases picked : field.pick? entries with
  | none => rfl
  | some found =>
    obtain ⟨spelled, named⟩ := mem_keys_of_pick? picked
    obtain ⟨read, same⟩ := kept found.1 spelled found.2 named
    rw [Option.filter, if_pos read, Option.map_some, same]

/-- An optional field is the same in the adapted mapping when what it has is read as it is, or is left
out and means the same as its absence. -/
theorem Field.optional_adaptEntries {α : Type} {field : Field} {validate : Value → Validated α}
    {absent : α} (distinct : HasDistinctKeys entries) (unambiguous : IsUnambiguous field.keys entries)
    (kept : ∀ key ∈ field.keys, ∀ value, Value.named? key entries = some value →
      if variant.reads key value then (adaptEntry children key value).2 = value
      else validate value = .valid absent) :
    field.optional validate absent (adaptEntries variant children entries) =
      field.optional validate absent entries := by
  rw [optional, optional, pick?_adaptEntries distinct unambiguous]
  cases picked : field.pick? entries with
  | none => rfl
  | some found =>
    obtain ⟨spelled, named⟩ := mem_keys_of_pick? picked
    have same := kept found.1 spelled found.2 named
    rw [Option.filter]
    split at same
    · rename_i read
      rw [if_pos read, Option.map_some, same]
    · rename_i dropped
      rw [if_neg dropped]
      change Validated.valid absent = (validate found.2).within (.key found.1)
      rw [same]
      rfl

/-- Every key of an adapted mapping is one of the mapping. -/
theorem key_mem_of_mem_adaptEntries {entry : Value × Value}
    (member : entry ∈ adaptEntries variant children entries) : ∃ source ∈ entries, source.1 = entry.1 := by
  obtain ⟨⟨key, value⟩, listed, adapted⟩ := List.mem_filterMap.mp member
  refine ⟨(key, value), listed, ?_⟩
  cases key with
  | str key =>
    dsimp only at adapted
    split at adapted
    · rw [adaptEntry_eq] at adapted
      cases adapted
      rfl
    · cases adapted
  | _ => cases adapted

/-- The keys of an adapted mapping are spellings of the fields of the variant. -/
theorem exists_field_of_mem_adaptEntries {entry : Value × Value}
    (member : entry ∈ adaptEntries variant children entries) :
    ∃ field ∈ variant.fields, ∃ key ∈ field.keys, entry.1 = .str key := by
  obtain ⟨⟨key, value⟩, _, read⟩ := List.mem_filterMap.mp member
  cases key with
  | str name =>
    dsimp only at read
    split at read
    · rename_i accepted
      obtain ⟨accepted, _⟩ := Bool.and_eq_true_iff.mp accepted
      rw [contains_acceptedKeys, List.any_eq_true] at accepted
      obtain ⟨field, listed, spelled⟩ := accepted
      obtain ⟨own, aliases⟩ := variant.accepted_fields field listed
      rw [adaptEntry_eq] at read
      cases read
      refine ⟨field, listed, name, ?_, rfl⟩
      rcases Bool.or_eq_true_iff.mp spelled with same | other
      · exact eq_of_beq same ▸ own
      · exact aliases name (List.contains_iff_mem.mp other)
    · cases read
  | _ => cases read

theorem UsesSpellings.adaptEntries {spellings : List (List String)} (distinct : HasDistinctKeys entries)
    (uses : UsesSpellings spellings entries) :
    UsesSpellings spellings (adaptEntries variant children entries) where
  known entry member := by
    obtain ⟨source, listed, same⟩ := key_mem_of_mem_adaptEntries member
    rw [← same]
    exact uses.known source listed
  unambiguous keys listed := (uses.unambiguous keys listed).adaptEntries distinct

/-- What a slot requires or admits as a callable is read as it is, and null for its absence is dropped. -/
theorem Variant.reads_eq {key : String} {slot : Slot} (listed : slot ∈ variant.slots)
    (spelled : key ∈ slot.keys) (value : Value) :
    variant.reads key value = (!isKeyOf droppableFields key || value.isCallable) := by
  have keys : slot.keys ∈ variant.fields.map Field.keys := by
    rw [variant.map_keys]
    exact List.mem_map_of_mem listed
  obtain ⟨field, inside, same⟩ := List.mem_map.mp keys
  exact reads_of_mem inside (same ▸ spelled) value

/-- A callable that a slot requires is read as it is. -/
theorem Variant.IsShapeOf.callable_kept (shape : variant.IsShapeOf entries) {keys : List String}
    (listed : .must keys .callable ∈ variant.slots) {key : String} (spelled : key ∈ keys)
    (ordinary : isKeyOf titleFields key = false ∧ isKeyOf childFields key = false) {value : Value}
    (found : Value.named? key entries = some value) :
    variant.reads key value = true ∧ (adaptEntry children key value).2 = value := by
  have isCallable : value.isCallable = true := (shape.filled _ listed).2 key spelled value found
  rw [Variant.reads_eq listed spelled, isCallable, Bool.or_true, adaptEntry, ordinary.1, ordinary.2]
  exact ⟨rfl, rfl⟩

def HasTextNames (entries : List (Value × Value)) : Prop :=
  ∀ field ∈ titleFields, ∀ value, Value.named? field.name entries = some value → ∃ text, value = .str text

section

variable (children) (shape : variant.IsShapeOf entries) (distinct : HasDistinctKeys entries)
  (field : Field) (keys : List String) (same : field.keys = keys)

include shape distinct same

private theorem Variant.IsShapeOf.name_adaptEntries (named : HasTextNames entries) (title : field ∈ titleFields)
    (ordinary : ∀ key ∈ keys, key = field.name ∧ isKeyOf titleFields key = true ∧
      isKeyOf droppableFields key = false) (listed : .must keys .name ∈ variant.slots) :
    field.required validateName (adaptEntries variant children entries) =
      field.required validateName entries := by
  subst same
  have unambiguous := shape.spelled.unambiguous _ (List.mem_map_of_mem listed)
  refine Field.required_adaptEntries distinct unambiguous fun key spelled value found => ?_
  obtain ⟨rfl, isTitle, kept⟩ := ordinary key spelled
  obtain ⟨text, rfl⟩ := named field title value found
  rw [Variant.reads_eq listed spelled, kept, adaptEntry, isTitle]
  exact ⟨rfl, rfl⟩

private theorem Variant.IsShapeOf.callable_adaptEntries
    (ordinary : ∀ key ∈ keys, isKeyOf titleFields key = false ∧ isKeyOf childFields key = false)
    (listed : .must keys .callable ∈ variant.slots) :
    field.required validateCallable (adaptEntries variant children entries) =
      field.required validateCallable entries := by
  subst same
  have unambiguous := shape.spelled.unambiguous _ (List.mem_map_of_mem listed)
  exact Field.required_adaptEntries distinct unambiguous fun key spelled value found =>
    shape.callable_kept listed spelled (ordinary key spelled) found

private theorem Variant.IsShapeOf.optionalCallable_adaptEntries
    (ordinary : ∀ key ∈ keys, isKeyOf titleFields key = false ∧ isKeyOf childFields key = false ∧
      isKeyOf droppableFields key = true) (listed : .may keys .optionalCallable ∈ variant.slots) :
    field.optional validateOptional none (adaptEntries variant children entries) =
      field.optional validateOptional none entries := by
  subst same
  have unambiguous := shape.spelled.unambiguous _ (List.mem_map_of_mem listed)
  refine Field.optional_adaptEntries distinct unambiguous fun key spelled value found => ?_
  obtain ⟨noTitle, noChildren, droppable⟩ := ordinary key spelled
  rw [Variant.reads_eq listed spelled, droppable, Bool.not_true, Bool.false_or, adaptEntry, noTitle,
    noChildren]
  rcases (shape.filled _ listed).2 key spelled value found with rfl | isCallable
  · rfl
  · rw [if_pos isCallable]
    rfl

end

private theorem assemble_adaptEntries (shape : variant.IsShapeOf entries) (distinct : HasDistinctKeys entries)
    (named : HasTextNames entries) (children? : Option (Validated (List Node))) :
    assemble variant (adaptEntries variant children entries) children? =
      assemble variant entries children? := by
  have issues : extraIssues variant.fields (adaptEntries variant children entries) =
      extraIssues variant.fields entries := by
    have uses := shape.spelled
    rw [← variant.map_keys] at uses
    rw [(extraIssues_eq_nil_iff_uses variant.fields_disjoint).mpr uses,
      (extraIssues_eq_nil_iff_uses variant.fields_disjoint).mpr (uses.adaptEntries distinct)]
  have name := shape.name_adaptEntries children distinct
  have callable := shape.callable_adaptEntries children distinct
  have optional := shape.optionalCallable_adaptEntries children distinct
  have feature := name .feature ["feature"] rfl named (.head _) (by decide)
  have scenario := name .scenario ["scenario"] rfl named (.tail _ (.head _)) (by decide)
  have fragmentSet := callable .fragmentSet ["set", "fragment_set"] rfl (by decide)
  have getActual := callable .getActual ["getActual", "get_actual"] rfl (by decide)
  have comparison := callable .comparison ["comparison"] rfl (by decide)
  have before := optional .before ["before"] rfl (by decide)
  have beforeEach := optional .beforeEach ["beforeEach", "before_each"] rfl (by decide)
  have getFragment := optional .getFragment ["getDomFragment", "get_dom_fragment"] rfl (by decide)
  cases variant with
  | plainGroup =>
    simp only [assemble, validateHead, issues, feature (.head _), before (.tail _ (.head _)),
      beforeEach (.tail _ (.tail _ (.head _)))]
  | fanOutGroup =>
    simp only [assemble, validateHead, issues, feature (.head _), before (.tail _ (.head _)),
      beforeEach (.tail _ (.tail _ (.head _))), fragmentSet (.tail _ (.tail _ (.tail _ (.head _))))]
  | fanOutLeaf =>
    have given := optional .given ["given"] rfl (by decide)
    simp only [assemble, validateCheck, issues, scenario (.head _), getActual (.tail _ (.head _)),
      comparison (.tail _ (.tail _ (.head _))), fragmentSet (.tail _ (.tail _ (.tail _ (.head _)))),
      given (.tail _ (.tail _ (.tail _ (.tail _ (.head _)))))]
  | inheritingLeaf =>
    simp only [assemble, issues, scenario (.head _), getFragment (.tail _ (.head _))]
  | conditionalLeaf =>
    have given := callable .given ["given"] rfl (by decide)
    simp only [assemble, validateCheck, issues, scenario (.head _), getActual (.tail _ (.head _)),
      comparison (.tail _ (.tail _ (.head _))), getFragment (.tail _ (.tail _ (.tail _ (.head _)))),
      given (.tail _ (.tail _ (.tail _ (.tail _ (.head _)))))]
  | directLeaf =>
    simp only [assemble, validateCheck, issues, scenario (.head _), getActual (.tail _ (.head _)),
      comparison (.tail _ (.tail _ (.head _))), getFragment (.tail _ (.tail _ (.tail _ (.head _))))]

/-- No stand-in is put under a field that a shape requires. -/
theorem Variant.IsShapeOf.supply_adaptEntries (shape : variant.IsShapeOf entries)
    (distinct : HasDistinctKeys entries) (field : Field) {keys : List String} (same : field.keys = keys)
    (ordinary : ∀ key ∈ keys, isKeyOf titleFields key = false ∧ isKeyOf childFields key = false)
    (listed : .must keys .callable ∈ variant.slots) (scenario : String) :
    field.supply scenario (adaptEntries variant children entries) =
      (adaptEntries variant children entries, []) := by
  subst same
  obtain ⟨key, spelled, present⟩ := (shape.filled _ listed).1 rfl
  obtain ⟨value, found⟩ := Option.isSome_iff_exists.mp ((Value.named?_isSome key entries).trans present)
  obtain ⟨read, kept⟩ := shape.callable_kept listed spelled (ordinary key spelled) found
  have adapted : Value.named? key (adaptEntries variant children entries) = some value := by
    rw [named?_adaptEntries distinct, found, Option.filter, if_pos read, Option.map_some, kept]
  have holds : field.holdsCallable (adaptEntries variant children entries) = true := by
    refine List.any_eq_true.mpr ⟨key, spelled, ?_⟩
    rw [valueHas, adapted]
    exact (shape.filled _ listed).2 key spelled value found
  exact if_pos holds

private theorem supplyCallables_adaptEntries (shape : variant.IsShapeOf entries)
    (distinct : HasDistinctKeys entries) :
    supplyCallables variant (adaptEntries variant children entries) =
      (adaptEntries variant children entries, []) := by
  have supplied (first : .must ["getActual", "get_actual"] .callable ∈ variant.slots)
      (second : .must ["comparison"] .callable ∈ variant.slots) :
      supplyCallables variant (adaptEntries variant children entries) =
        (adaptEntries variant children entries, []) := by
    have getActual := @shape.supply_adaptEntries _ _ children distinct .getActual _ rfl (by decide) first
    have comparison := @shape.supply_adaptEntries _ _ children distinct .comparison _ rfl (by decide) second
    unfold supplyCallables
    split
    · simp only [getActual, comparison, List.append_nil]
    · rfl
  cases variant with
  | fanOutLeaf | conditionalLeaf | directLeaf =>
    exact supplied (.tail _ (.head _)) (.tail _ (.tail _ (.head _)))
  | _ => rfl

/-- The children of an adapted mapping are those that were built. -/
theorem Variant.child?_adaptEntries (distinct : HasDistinctKeys entries) :
    variant.child? (adaptEntries variant children entries) =
      (variant.child? entries).map fun _ => Value.ofModels children := by
  rw [child?, child?]
  cases found : variant.childField? with
  | none => rfl
  | some field =>
    rw [Option.bind_some, Option.bind_some, named?_adaptEntries distinct]
    have reads (value : Value) : variant.reads field.name value = true := by
      obtain ⟨slot, listed, _, keys⟩ := Variant.slot_nodes_iff.mpr ⟨field, found, rfl⟩
      rw [Variant.reads_eq listed (by rw [keys]; exact List.mem_singleton_self _)]
      cases variant <;> cases found <;> rfl
    have adapted (value : Value) : (adaptEntry children field.name value).2 = Value.ofModels children := by
      cases variant <;> cases found <;> rfl
    cases Value.named? field.name entries with
    | none => rfl
    | some value =>
      rw [Option.filter, if_pos (reads value), Option.map_some, Option.map_some, adapted]

end

/-- Built nodes of the six variants are valid children. -/
theorem run_validateSequence_ofModels (otherwise : Fault) (nodes : List Node) (spent : Spent) :
    (validateSequence otherwise (.ofModels (nodes.map .node))).run spent = (.valid nodes, spent) := by
  have items (position : Nat) :
      validateItems position ((nodes.map Model.node).map Value.model) = pure (.valid nodes) := by
    induction nodes generalizing position with
    | nil => rfl
    | cons node rest ih =>
      rw [List.map_cons, List.map_cons, validateItems, ih]
      rfl
  change (validateItems 0 ((nodes.map Model.node).map Value.model)).run spent = _
  rw [items]
  rfl

/-- Relaxed construction makes the same node of a mapping, without a warning, when its children are the
same. -/
theorem salvageNode_eq_of_assemble {entries : List (Value × Value)} {variant : Variant} {node : Node}
    {nodes : List Node} (shape : variant.IsShapeOf entries) (distinct : HasDistinctKeys entries)
    (named : HasTextNames entries)
    (valid : assemble variant entries ((variant.child? entries).map fun _ => .valid nodes) = .valid node) :
    salvageNode variant entries (nodes.map .node) = (some node, []) := by
  have same : ((validateVariant variant (adaptEntries variant (nodes.map .node) entries)).run []).1 =
      .valid node := by
    rw [run_validateVariant, Variant.child?_adaptEntries distinct]
    cases found : variant.child? entries with
    | none =>
      rw [found] at valid
      exact (assemble_adaptEntries shape distinct named _).trans valid
    | some child =>
      rw [found] at valid
      dsimp only [Option.map_some]
      rw [run_validateSequence_ofModels]
      exact (assemble_adaptEntries shape distinct named _).trans valid
  rw [salvageNode, supplyCallables_adaptEntries shape distinct]
  dsimp only
  rw [same]

end ScenarioTree
