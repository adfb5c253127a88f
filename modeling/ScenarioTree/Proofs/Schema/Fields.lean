import ScenarioTree.Proofs.Schema.Tree

/-! # Fields of mappings

When the fields of a mapping are valid is said here once for each way of reading a field. No entry is
left over exactly when every key is a spelling of one of the fields and no field is spelled twice; then
it does not matter in which order the spellings of a field are tried.
-/

namespace ScenarioTree

variable {α β : Type}

namespace Validated

/-- Whether a result is a value. -/
def isValid : Validated α → Bool
  | valid _ => true
  | invalid _ => false

theorem isValid_iff {result : Validated α} : result.isValid = true ↔ ∃ value, result = .valid value := by
  cases result <;> simp [isValid]

@[simp] theorem isValid_valid (value : α) : (valid value).isValid = true := rfl

@[simp] theorem isValid_fault (fault : Fault) :
    (Validated.fault fault : Validated α).isValid = false := rfl

@[simp] theorem isValid_map (f : α → β) (result : Validated α) :
    (f <$> result).isValid = result.isValid := by
  cases result <;> rfl

@[simp] theorem isValid_seq (f : Validated (α → β)) (result : Validated α) :
    (f <*> result).isValid = (f.isValid && result.isValid) := by
  cases f <;> cases result <;> rfl

@[simp] theorem isValid_within (segment : Segment) (result : Validated α) :
    (result.within segment).isValid = result.isValid := by
  cases result <;> rfl

@[simp] theorem isValid_besides (found : List Issue) (result : Validated α) :
    (result.besides found).isValid = (result.isValid && found.isEmpty) := by
  cases result <;> cases found <;> rfl

end Validated

theorem nodeItems?_isSome_of_isValid {otherwise : Fault} {value : Value} {spent : Spent}
    (valid : ((validateSequence otherwise value).run spent).1.isValid = true) :
    value.nodeItems?.isSome = true := by
  cases inside : value.nodeItems? with
  | some items => rfl
  | none =>
    obtain ⟨issues, ran⟩ : ∃ issues, (validateSequence otherwise value).run spent =
      (.invalid issues, spent) := run_validateSequence_none otherwise inside
    rw [ran] at valid
    cases valid

/-- The text that a value spells: a string its own, and bytes the one that they encode. -/
def Value.Spells (text : String) : Value → Prop
  | .str name => name = text
  | .bytes data | .bytearray data => text.toUTF8.data.toList = data
  | _ => False

private theorem validateText_eq_valid_iff {text : String} {name : DisplayName} :
    validateText text = .valid name ↔ text = name.text := by
  obtain ⟨written, nonempty⟩ := name
  unfold validateText
  split
  · next empty =>
    subst empty
    exact iff_of_false nofun fun same => nonempty same.symm
  · simp

/-- Bytes are read as the text that they encode. -/
theorem fromUTF8?_eq_some_iff {data : List UInt8} {text : String} :
    String.fromUTF8? ⟨data.toArray⟩ = some text ↔ text.toUTF8.data.toList = data := by
  constructor
  · intro read
    unfold String.fromUTF8? at read
    split at read
    · cases read
      rfl
    · cases read
  · rintro rfl
    exact dif_pos text.isValidUTF8

theorem validateName_eq_valid_iff {value : Value} {name : DisplayName} :
    validateName value = .valid name ↔ value.Spells name.text := by
  cases value with
  | str text => exact validateText_eq_valid_iff
  | bytes data | bytearray data =>
    rw [validateName, Value.Spells, ← fromUTF8?_eq_some_iff]
    cases String.fromUTF8? ⟨data.toArray⟩ with
    | none => simp [Validated.fault]
    | some text =>
      rw [Option.some.injEq]
      exact validateText_eq_valid_iff
  | _ => simp [validateName, Value.Spells, Validated.fault]

theorem validateName_isValid (value : Value) :
    (validateName value).isValid = true ↔ ∃ text, value.Spells text ∧ text ≠ "" := by
  simp only [Validated.isValid_iff, validateName_eq_valid_iff]
  constructor
  · rintro ⟨name, spells⟩
    exact ⟨name.text, spells, name.nonempty⟩
  · rintro ⟨text, spells, nonempty⟩
    exact ⟨⟨text, nonempty⟩, spells⟩

theorem validateCallable_isValid (value : Value) :
    (validateCallable value).isValid = value.isCallable := by
  cases value <;> rfl

theorem validateOptional_isValid (value : Value) :
    (validateOptional value).isValid = true ↔ value = .null ∨ value.isCallable = true := by
  cases value with
  | null => simp [validateOptional, Validated.isValid]
  | _ => simp [validateOptional, validateCallable_isValid]

namespace Field

theorem mem_keys_of_pick? {field : Field} {entries : List (Value × Value)} {key : String} {value : Value}
    (picked : field.pick? entries = some (key, value)) :
    key ∈ field.keys ∧ Value.named? key entries = some value := by
  obtain ⟨other, member, found⟩ := List.exists_of_findSome?_eq_some picked
  obtain ⟨content, named, same⟩ := Option.map_eq_some_iff.mp found
  cases same
  exact ⟨member, named⟩

theorem pick?_eq_none_iff {field : Field} {entries : List (Value × Value)} :
    field.pick? entries = none ↔ ∀ key ∈ field.keys, Value.named? key entries = none := by
  rw [pick?, List.findSome?_eq_none_iff]
  simp only [Option.map_eq_none_iff]

/-- No two spellings of a field are present. -/
def IsUnambiguous (keys : List String) (entries : List (Value × Value)) : Prop :=
  ∀ key ∈ keys, ∀ other ∈ keys, Value.hasName key entries = true → Value.hasName other entries = true →
    key = other

/-- An unambiguous field has the value under whichever of its keys is present. -/
theorem pick?_eq_some_iff {field : Field} {entries : List (Value × Value)}
    (unambiguous : IsUnambiguous field.keys entries) {key : String} {value : Value} :
    field.pick? entries = some (key, value) ↔
      key ∈ field.keys ∧ Value.named? key entries = some value := by
  refine ⟨mem_keys_of_pick?, fun ⟨member, named⟩ => ?_⟩
  cases picked : field.pick? entries with
  | none =>
    rw [pick?_eq_none_iff.mp picked key member] at named
    cases named
  | some found =>
    obtain ⟨other, content⟩ := found
    obtain ⟨listed, present⟩ := mem_keys_of_pick? picked
    have same : key = other := by
      apply unambiguous key member other listed
      · rw [← Value.named?_isSome, named]
        rfl
      · rw [← Value.named?_isSome, present]
        rfl
    subst same
    rw [named] at present
    cases present
    rfl

end Field

/-- Every key of a mapping is one of the given spellings, of which no two of one field are present. -/
structure UsesSpellings (spellings : List (List String)) (entries : List (Value × Value)) : Prop where
  known : ∀ entry ∈ entries, ∃ keys ∈ spellings, ∃ key ∈ keys, entry.1 = .str key
  unambiguous : ∀ keys ∈ spellings, Field.IsUnambiguous keys entries

theorem UsesSpellings.absent {spellings : List (List String)} {entries : List (Value × Value)}
    (uses : UsesSpellings spellings entries) {name : String} (foreign : name ∉ spellings.flatten) :
    Value.hasName name entries = false := by
  rw [Value.hasName, List.any_eq_false]
  intro entry member named
  obtain ⟨keys, listed, key, spelled, same⟩ := uses.known entry member
  rw [same] at named
  cases eq_of_beq named
  exact foreign (List.mem_flatten_of_mem listed spelled)

/-- No entry is left over exactly when every key is the one that some field picked. -/
theorem extraIssues_eq_nil_iff {fields : List Field} {entries : List (Value × Value)} :
    extraIssues fields entries = [] ↔ ∀ entry ∈ entries, ∃ field ∈ fields, ∃ key value,
      entry.1 = .str key ∧ field.pick? entries = some (key, value) := by
  rw [extraIssues, unusedIssues, List.filterMap_eq_nil_iff]
  refine forall₂_congr fun entry _ => ?_
  obtain ⟨key, content⟩ := entry
  cases key with
  | str name => simp
  | _ => simp

/-- Nothing is left over exactly when the keys are spellings of the fields, each field spelled once. -/
theorem extraIssues_eq_nil_iff_uses {fields : List Field} {entries : List (Value × Value)}
    (disjoint : ∀ field ∈ fields, ∀ other ∈ fields, ∀ key ∈ field.keys, key ∈ other.keys →
      field = other) :
    extraIssues fields entries = [] ↔ UsesSpellings (fields.map Field.keys) entries := by
  rw [extraIssues_eq_nil_iff]
  constructor
  · intro used
    -- A key that is present was picked by a field, and only its own field can pick it.
    have picks : ∀ field ∈ fields, ∀ key ∈ field.keys, Value.hasName key entries = true →
        ∃ value, field.pick? entries = some (key, value) := by
      intro field member key spelled present
      obtain ⟨value, named⟩ := Option.isSome_iff_exists.mp ((Value.named?_isSome key entries).trans present)
      obtain ⟨picker, listed, other, content, same, picked⟩ := used _ (Value.mem_of_named? named)
      cases same
      cases disjoint field member picker listed key spelled (Field.mem_keys_of_pick? picked).1
      exact ⟨content, picked⟩
    refine ⟨fun entry member => ?_, fun keys listed key spelled other alike present others => ?_⟩
    · obtain ⟨field, listed, key, value, same, picked⟩ := used entry member
      exact ⟨field.keys, List.mem_map_of_mem listed, key, (Field.mem_keys_of_pick? picked).1, same⟩
    · obtain ⟨field, member, rfl⟩ := List.mem_map.mp listed
      obtain ⟨value, picked⟩ := picks field member key spelled present
      obtain ⟨content, chosen⟩ := picks field member other alike others
      rw [picked] at chosen
      cases chosen
      rfl
  · intro uses entry member
    obtain ⟨keys, listed, key, spelled, same⟩ := uses.known entry member
    obtain ⟨field, inside, rfl⟩ := List.mem_map.mp listed
    have present : Value.hasName key entries = true := by
      rw [Value.hasName, List.any_eq_true]
      exact ⟨entry, member, by rw [same]; exact beq_self_eq_true key⟩
    obtain ⟨value, named⟩ := Option.isSome_iff_exists.mp ((Value.named?_isSome key entries).trans present)
    exact ⟨field, inside, key, value, same,
      (Field.pick?_eq_some_iff (uses.unambiguous _ listed)).mpr ⟨spelled, named⟩⟩

end ScenarioTree
