import ScenarioTree.Proofs.Schema.Scenarios

/-! # Scenarios that relaxed construction keeps

A mapping that is classified as a scenario with data of its own becomes a node of its variant, whatever else
it carries. Two things stand in the way: a name that counts as true and has no text, and a field that is kept
under two spellings. Everything else that would be invalid is left out or made good before validation.
-/

namespace ScenarioTree

/-- Whether relaxed construction keeps what a mapping carries under a spelling of a field. Where a callable
is optional, anything else is dropped; where a callable is needed and there is none, all spellings are. -/
def Field.keeps (field : Field) (entries : List (Value × Value)) (key : String) : Bool :=
  if isKeyOf droppableFields key then valueHas Value.isCallable key entries
  else Value.hasName key entries && (!neededFields.contains field || field.holdsCallable entries)

def Field.IsKeptOnce (field : Field) (entries : List (Value × Value)) : Prop :=
  ∀ key ∈ field.keys, ∀ other ∈ field.keys, field.keeps entries key = true →
    field.keeps entries other = true → key = other

section

variable {variant : Variant} {entries : List (Value × Value)}

/-- The modifiers of a scenario are what it is classified by. -/
theorem Variant.modifiers_of_ofShape? (told : Variant.ofShape? entries = some variant) :
    (variant = .fanOutLeaf → valueHas Value.isCallable "set" entries = true) ∧
      (variant = .conditionalLeaf → valueHas Value.isCallable "given" entries = true) := by
  obtain ⟨_, _, modified⟩ := ofShape?_eq_some_iff.mp told
  constructor
  · rintro rfl
    exact modified
  · rintro rfl
    exact modified.2.2

variable (executable : variant.isExecutable = true) (distinct : HasDistinctKeys entries)

include executable distinct

/-- Under the spelling of a field that is not needed, the adapted mapping has what the mapping has there,
unless only a callable counts and it is none. -/
theorem Variant.named?_adapted_optional {field : Field} (listed : field ∈ variant.fields)
    (optional : field ∉ neededFields) {key : String} (spelled : key ∈ field.keys) :
    Value.named? key (variant.adapted entries []) =
      ((Value.named? key entries).filter fun value =>
        !isKeyOf droppableFields key || value.isCallable).map fun value =>
          (adaptEntry [] key value).2 := by
  have foreign : ∀ other ∈ neededFields, key ∉ other.keys := by
    intro other needed alike
    have inside := (variant.needed_fields executable other needed).1
    exact optional (variant.fields_disjoint field listed other inside key spelled alike ▸ needed)
  rw [variant.named?_adapted_other executable distinct foreign, named?_adaptEntries_of_mem distinct listed spelled]

/-- A needed field without a callable has its stand-in under its name and nothing under other keys. -/
theorem Variant.eq_name_of_hasName_adapted {field : Field} (needed : field ∈ neededFields)
    (lacks : field.holdsCallable entries = false) {key : String} (spelled : key ∈ field.keys)
    (present : Value.hasName key (variant.adapted entries []) = true) : key = field.name := by
  rw [← Value.named?_isSome, variant.named?_adapted_needed _ executable distinct needed spelled, lacks,
    if_neg Bool.false_ne_true] at present
  split at present
  · assumption
  · cases present

/-- What the adapted mapping has under a spelling of any other field was kept. -/
theorem Variant.keeps_of_hasName_adapted {field : Field} (listed : field ∈ variant.fields)
    (holds : field ∈ neededFields → field.holdsCallable entries = true) {key : String}
    (spelled : key ∈ field.keys) (present : Value.hasName key (variant.adapted entries []) = true) :
    field.keeps entries key = true := by
  rw [← Value.named?_isSome] at present
  rw [Field.keeps]
  by_cases needed : field ∈ neededFields
  · obtain ⟨_, _, ordinary⟩ := variant.needed_fields executable field needed
    rw [variant.named?_adapted_needed _ executable distinct needed spelled, if_pos (holds needed)] at present
    rw [(ordinary key spelled).2.2, if_neg Bool.false_ne_true, holds needed, ← Value.named?_isSome, present,
      Bool.or_true, Bool.and_true]
  · rw [variant.named?_adapted_optional executable distinct listed needed spelled, Option.isSome_map,
      Option.isSome_iff_exists] at present
    obtain ⟨content, kept⟩ := present
    obtain ⟨carried, counts⟩ := Option.filter_eq_some_iff.mp kept
    have absent : neededFields.contains field = false := by
      rw [← Bool.not_eq_true, List.contains_iff_mem]
      exact needed
    split
    · rename_i droppable
      rw [droppable] at counts
      rw [valueHas, carried]
      exact counts
    · rw [← Value.named?_isSome, carried, absent]
      rfl

/-- The keys of the adapted mapping are spellings of the fields of the variant. -/
theorem Variant.exists_field_of_mem_adapted {entry : Value × Value}
    (member : entry ∈ variant.adapted entries []) :
    ∃ field ∈ variant.fields, ∃ key ∈ field.keys, entry.1 = .str key := by
  have supplied {field : Field} {scenario : String} {others : List (Value × Value)}
      (inside : entry ∈ (field.supply scenario others).1) : entry ∈ others ∨ entry.1 = .str field.name := by
    rw [Field.supply] at inside
    split at inside
    · exact .inl inside
    · rcases List.mem_append.mp inside with kept | standIn
      · exact .inl (List.mem_filter.mp kept).1
      · exact .inr (congrArg Prod.fst (List.mem_singleton.mp standIn))
  have ownName (field : Field) (needed : field ∈ neededFields) (same : entry.1 = .str field.name) :
      ∃ field ∈ variant.fields, ∃ key ∈ field.keys, entry.1 = .str key := by
    obtain ⟨listed, own, _⟩ := variant.needed_fields executable field needed
    exact ⟨field, listed, field.name, own, same⟩
  rw [adapted, variant.supplyCallables_eq executable distinct] at member
  rcases supplied member with earlier | same
  · rcases supplied earlier with source | same
    · exact exists_field_of_mem_adaptEntries source
    · exact ownName .getActual (by decide) same
  · exact ownName .comparison (by decide) same

/-- The adapted mapping has no other keys than those of the shape, and no field is spelled twice in it. -/
theorem Variant.adapted_usesSpellings (once : ∀ field ∈ variant.fields, field.IsKeptOnce entries) :
    UsesSpellings (variant.slots.map Slot.keys) (variant.adapted entries []) := by
  rw [← variant.map_keys]
  constructor
  · intro entry member
    obtain ⟨field, listed, key, spelled, same⟩ :=
      variant.exists_field_of_mem_adapted executable distinct member
    exact ⟨field.keys, List.mem_map_of_mem listed, key, spelled, same⟩
  · intro keys member key spelled other alike present others
    obtain ⟨field, listed, rfl⟩ := List.mem_map.mp member
    by_cases lacks : field ∈ neededFields ∧ field.holdsCallable entries = false
    · obtain ⟨needed, lacks⟩ := lacks
      rw [variant.eq_name_of_hasName_adapted executable distinct needed lacks spelled present,
        variant.eq_name_of_hasName_adapted executable distinct needed lacks alike others]
    · have holds (needed : field ∈ neededFields) : field.holdsCallable entries = true :=
        Bool.not_eq_false _ ▸ fun without => lacks ⟨needed, without⟩
      exact once field listed key spelled other alike
        (variant.keeps_of_hasName_adapted executable distinct listed holds spelled present)
        (variant.keeps_of_hasName_adapted executable distinct listed holds alike others)

private theorem Variant.needed_isFilled {field : Field} (needed : field ∈ neededFields)
    (once : field.IsKeptOnce entries) :
    (Slot.must field.keys .callable).IsFilled (variant.adapted entries []) := by
  obtain ⟨listed, own, ordinary⟩ := variant.needed_fields executable field needed
  have under {key : String} (spelled : key ∈ field.keys) :=
    variant.named?_adapted_needed [] executable distinct needed spelled
  cases holds : field.holdsCallable entries with
  | false =>
    have standIn : Value.named? field.name (variant.adapted entries []) =
        some (.callable (.missing field.firstKey)) := by
      rw [under own, holds, if_neg Bool.false_ne_true, if_pos rfl]
    exact Slot.isFilled_of_only own standIn rfl fun other alike present =>
      variant.eq_name_of_hasName_adapted executable distinct needed holds alike present
  | true =>
    obtain ⟨key, spelled, has⟩ := List.any_eq_true.mp holds
    obtain ⟨callable, carried, isCallable⟩ := exists_of_valueHas rfl has
    have found : Value.named? key (variant.adapted entries []) = some callable := by
      rw [under spelled, if_pos holds, carried]
    have present : Value.hasName key (variant.adapted entries []) = true := by
      rw [← Value.named?_isSome, found]
      rfl
    have keeps {other : String} (alike : other ∈ field.keys) :=
      variant.keeps_of_hasName_adapted executable distinct listed (fun _ => holds) alike
    exact Slot.isFilled_of_only spelled found isCallable fun other alike others =>
      once other alike key spelled (keeps alike others) (keeps spelled present)

/-- What stands under a key that only counts with a callable is one. -/
theorem Variant.isCallable_of_droppable {field : Field} (listed : field ∈ variant.fields) {keys : List String}
    (same : field.keys = keys) (optional : field ∉ neededFields)
    (droppable : ∀ key ∈ keys, isKeyOf droppableFields key = true ∧ isKeyOf titleFields key = false ∧
      isKeyOf childFields key = false) :
    ∀ key ∈ keys, ∀ value, Value.named? key (variant.adapted entries []) = some value →
      value.isCallable = true := by
  subst same
  intro key spelled value found
  obtain ⟨drops, noTitle, noChildren⟩ := droppable key spelled
  rw [variant.named?_adapted_optional executable distinct listed optional spelled] at found
  obtain ⟨content, kept, adapted⟩ := Option.map_eq_some_iff.mp found
  obtain ⟨_, counts⟩ := Option.filter_eq_some_iff.mp kept
  rw [adaptEntry, noTitle, noChildren] at adapted
  cases adapted
  rw [drops] at counts
  exact counts

/-- The slot of an optional callable is filled or left out. -/
theorem Variant.optional_isFilled {field : Field} (listed : field ∈ variant.fields) {keys : List String}
    (same : field.keys = keys) (optional : field ∉ neededFields)
    (droppable : ∀ key ∈ keys, isKeyOf droppableFields key = true ∧ isKeyOf titleFields key = false ∧
      isKeyOf childFields key = false) :
    (Slot.may keys .optionalCallable).IsFilled (variant.adapted entries []) :=
  ⟨nofun, fun key spelled value found => .inr
    (variant.isCallable_of_droppable executable distinct listed same optional droppable key spelled value found)⟩

private theorem Variant.name_isFilled (carried : Value.hasName "scenario" entries = true)
    (nonempty : scenarioName entries ≠ "") :
    (Slot.must ["scenario"] .name).IsFilled (variant.adapted entries []) := by
  have under : Value.named? "scenario" (variant.adapted entries []) = some (.str (scenarioName entries)) := by
    obtain ⟨name, found⟩ := Option.isSome_iff_exists.mp ((Value.named?_isSome _ _).trans carried)
    rw [variant.named?_adapted_other executable distinct (by decide),
      variant.named?_adaptEntries_scenario executable distinct, scenarioName, found]
    rfl
  exact Slot.isFilled_of_only (.head _) under ⟨_, rfl, nonempty⟩ fun other alike _ => List.mem_singleton.mp alike

private theorem Variant.named?_adapted_callable {field : Field} (listed : field ∈ variant.fields) {key : String}
    (spelled : key ∈ field.keys) (optional : field ∉ neededFields)
    (ordinary : isKeyOf titleFields key = false ∧ isKeyOf childFields key = false)
    (has : valueHas Value.isCallable key entries = true) :
    ∃ value, Value.named? key (variant.adapted entries []) = some value ∧ value.isCallable = true := by
  obtain ⟨value, carried, isCallable⟩ := exists_of_valueHas rfl has
  refine ⟨value, ?_, isCallable⟩
  rw [variant.named?_adapted_optional executable distinct listed optional spelled, carried, Option.filter,
    isCallable, Bool.or_true, if_pos rfl, Option.map_some, adaptEntry, ordinary.1, ordinary.2]
  rfl

/-- The slot of the fragment set is filled when the mapping fans out. -/
theorem Variant.fragmentSet_isFilled (listed : .fragmentSet ∈ variant.fields)
    (once : Field.fragmentSet.IsKeptOnce entries)
    (has : valueHas Value.isCallable "set" entries = true) :
    (Slot.must ["set", "fragment_set"] .callable).IsFilled (variant.adapted entries []) := by
  obtain ⟨callable, found, isCallable⟩ := variant.named?_adapted_callable executable distinct listed
    (.head _ : "set" ∈ Field.fragmentSet.keys) (by decide) (by decide) has
  have present : Value.hasName "set" (variant.adapted entries []) = true := by
    rw [← Value.named?_isSome, found]
    rfl
  have keeps {key : String} (spelled : key ∈ Field.fragmentSet.keys) :=
    variant.keeps_of_hasName_adapted executable distinct listed (fun needed => absurd needed (by decide)) spelled
  exact Slot.isFilled_of_only (.head _) found isCallable fun other alike others =>
    once other alike "set" (.head _) (keeps alike others) (keeps (.head _) present)

/-- The adapted mapping of a scenario has the shape of its variant when the name has text and every field is
kept once. -/
theorem Variant.isShapeOf_adapted (told : Variant.ofShape? entries = some variant)
    (once : ∀ field ∈ variant.fields, field.IsKeptOnce entries) (nonempty : scenarioName entries ≠ "") :
    variant.IsShapeOf (variant.adapted entries []) := by
  refine ⟨variant.adapted_usesSpellings executable distinct once, ?_⟩
  have carried : Value.hasName "scenario" entries = true := by
    obtain ⟨name, found, _⟩ := Variant.exists_name_of_ofShape? executable told
    rw [← Value.named?_isSome, found]
    rfl
  have name := variant.name_isFilled executable distinct carried nonempty
  have needed {field : Field} (needed : field ∈ neededFields) :=
    variant.needed_isFilled executable distinct needed
      (once field (variant.needed_fields executable field needed).1)
  have getActual := needed (.head _ : .getActual ∈ neededFields)
  have comparison := needed (.tail _ (.head _) : .comparison ∈ neededFields)
  have optional {field : Field} (listed : field ∈ variant.fields) {keys : List String}
      (same : field.keys = keys) := variant.optional_isFilled executable distinct listed same
  obtain ⟨fansOut, conditional⟩ := Variant.modifiers_of_ofShape? told
  intro slot listed
  cases variant with
  | fanOutLeaf =>
    simp only [slots, List.mem_cons, List.not_mem_nil, or_false] at listed
    rcases listed with rfl | rfl | rfl | rfl | rfl
    · exact name
    · exact getActual
    · exact comparison
    · exact fragmentSet_isFilled executable distinct (by decide) (once _ (by decide)) (fansOut rfl)
    · exact optional (by decide : .given ∈ _) rfl (by decide) (by decide)
  | conditionalLeaf =>
    simp only [slots, List.mem_cons, List.not_mem_nil, or_false] at listed
    have given : Field.given ∈ Variant.conditionalLeaf.fields := by decide
    obtain ⟨callable, found, isCallable⟩ := named?_adapted_callable executable distinct given
      (.head _ : "given" ∈ Field.given.keys) (by decide) (by decide) (conditional rfl)
    rcases listed with rfl | rfl | rfl | rfl | rfl
    · exact name
    · exact getActual
    · exact comparison
    · exact optional (by decide : .getFragment ∈ _) rfl (by decide) (by decide)
    · exact Slot.isFilled_of_only (.head _) found isCallable fun other alike _ => List.mem_singleton.mp alike
  | directLeaf =>
    simp only [slots, List.mem_cons, List.not_mem_nil, or_false] at listed
    rcases listed with rfl | rfl | rfl | rfl
    · exact name
    · exact getActual
    · exact comparison
    · exact optional (by decide : .getFragment ∈ _) rfl (by decide) (by decide)
  | _ => cases executable

end

end ScenarioTree
