import ScenarioTree.Proofs.Schema.Adaptation

/-! # Spellings of fields

A field may be written under several keys. In a mapping that writes every field once, a field has the
value of the only entry whose key spells it. What validation makes of such a mapping is a matter of these
values and of the number of entries that spell no field; the keys only tell where an issue is.
-/

namespace ScenarioTree

namespace Field

def all : List Field :=
  [feature, before, beforeEach, tests, fragmentSet, scenario, getActual, comparison, getFragment, given,
    inherited]

def spells (field : Field) (key : Value) : Bool := field.keys.any fun name => Value.isName name key

/-- What the first entry has that spells a field. -/
def value? (field : Field) (entries : List (Value × Value)) : Option Value :=
  (entries.find? fun entry => field.spells entry.1).map Prod.snd

theorem all_disjoint : ∀ field ∈ all, ∀ other ∈ all, ∀ key ∈ field.keys, key ∈ other.keys →
    field = other := by
  decide

theorem childFields_subset_all : childFields ⊆ all := by decide

theorem keys_of_mem_childFields : ∀ field ∈ childFields, field.keys = [field.name] := by decide

private theorem spells_eq_true_iff {field : Field} {key : Value} :
    field.spells key = true ↔ ∃ name ∈ field.keys, key = .str name := by
  rw [spells, List.any_eq_true]
  refine exists_congr fun name => and_congr_right fun _ => ?_
  cases key <;> simp [Value.isName]

theorem spells_str {field : Field} {name : String} :
    field.spells (.str name) = true ↔ name ∈ field.keys := by
  simp [spells_eq_true_iff]

theorem isCarried_eq_isSome (field : Field) (entries : List (Value × Value)) :
    field.isCarried entries = (field.value? entries).isSome := by
  rw [isCarried, value?, Option.isSome_map, Bool.eq_iff_iff, List.find?_isSome, List.any_eq_true]
  simp only [Value.hasName, spells, List.any_eq_true]
  grind

theorem named?_eq_value? {field : Field} {name : String} (single : field.keys = [name])
    (entries : List (Value × Value)) : Value.named? name entries = field.value? entries := by
  rw [Value.named?, value?]
  simp only [spells, single, List.any_cons, List.any_nil, Bool.or_false]

end Field

theorem Variant.fields_subset_all (variant : Variant) : variant.fields ⊆ Field.all := by
  cases variant <;> decide

/-- No two entries of a mapping spell the same field. -/
def SpelledOnce (entries : List (Value × Value)) : Prop :=
  entries.Pairwise fun entry other => ∀ field ∈ Field.all,
    field.spells entry.1 = true → field.spells other.1 = false

namespace SpelledOnce

variable {entries : List (Value × Value)} {field : Field}

private theorem find?_eq_some_iff (once : SpelledOnce entries) (listed : field ∈ Field.all)
    {chosen : Value × Value → Bool} (spelled : ∀ entry, chosen entry = true → field.spells entry.1 = true)
    {entry : Value × Value} : entries.find? chosen = some entry ↔ entry ∈ entries ∧ chosen entry = true := by
  refine ⟨fun found => ⟨List.mem_of_find?_eq_some found, List.find?_some found⟩, ?_⟩
  rintro ⟨member, own⟩
  induction entries with
  | nil => cases member
  | cons first rest ih =>
    obtain ⟨apart, others⟩ := List.pairwise_cons.mp once
    rw [List.find?_cons]
    rcases List.mem_cons.mp member with rfl | below
    · rw [own]
    · have other : chosen first = false := by
        rw [← Bool.not_eq_true]
        intro also
        have unlike := apart entry below field listed (spelled first also)
        rw [spelled entry own] at unlike
        cases unlike
      rw [other]
      exact ih others below

private theorem find?_spells_eq_some_iff (once : SpelledOnce entries) (listed : field ∈ Field.all)
    {entry : Value × Value} :
    (entries.find? fun entry => field.spells entry.1) = some entry ↔
      entry ∈ entries ∧ field.spells entry.1 = true :=
  once.find?_eq_some_iff listed fun _ spelled => spelled

theorem named?_eq_some_iff (once : SpelledOnce entries) (listed : field ∈ Field.all) {key : String}
    (spelled : key ∈ field.keys) {value : Value} :
    Value.named? key entries = some value ↔ (.str key, value) ∈ entries := by
  refine ⟨Value.mem_of_named?, fun member => ?_⟩
  have among (entry : Value × Value) (named : Value.isName key entry.1 = true) :
      field.spells entry.1 = true := List.any_eq_true.mpr ⟨key, spelled, named⟩
  rw [Value.named?, (once.find?_eq_some_iff listed among).mpr ⟨member, beq_self_eq_true key⟩]
  rfl

private theorem value?_eq_some_iff (once : SpelledOnce entries) (listed : field ∈ Field.all) {value : Value} :
    field.value? entries = some value ↔ ∃ key ∈ field.keys, Value.named? key entries = some value := by
  simp only [Field.value?, Option.map_eq_some_iff, once.find?_spells_eq_some_iff listed]
  constructor
  · rintro ⟨⟨key, value⟩, ⟨member, spelled⟩, rfl⟩
    obtain ⟨name, listedName, rfl⟩ := Field.spells_eq_true_iff.mp spelled
    exact ⟨name, listedName, (once.named?_eq_some_iff listed listedName).mpr member⟩
  · rintro ⟨key, spelled, named⟩
    exact ⟨(.str key, value), ⟨Value.mem_of_named? named, Field.spells_str.mpr spelled⟩, rfl⟩

private theorem isUnambiguous (once : SpelledOnce entries) (listed : field ∈ Field.all) :
    Field.IsUnambiguous field.keys entries := by
  intro key spelled other alike present others
  obtain ⟨value, named⟩ := Option.isSome_iff_exists.mp ((Value.named?_isSome key entries).trans present)
  obtain ⟨content, namedOther⟩ :=
    Option.isSome_iff_exists.mp ((Value.named?_isSome other entries).trans others)
  have first := (once.find?_spells_eq_some_iff listed).mpr
    ⟨Value.mem_of_named? named, Field.spells_str.mpr spelled⟩
  have second := (once.find?_spells_eq_some_iff listed).mpr
    ⟨Value.mem_of_named? namedOther, Field.spells_str.mpr alike⟩
  rw [first] at second
  cases second
  rfl

/-- The value of a field does not depend on the order in which its keys are tried. -/
theorem pick?_map_snd (once : SpelledOnce entries) (listed : field ∈ Field.all) :
    (field.pick? entries).map Prod.snd = field.value? entries := by
  ext value
  rw [once.value?_eq_some_iff listed, Option.map_eq_some_iff]
  constructor
  · rintro ⟨⟨key, value⟩, picked, rfl⟩
    exact ⟨key, Field.mem_keys_of_pick? picked⟩
  · rintro ⟨key, found⟩
    exact ⟨(key, value), (Field.pick?_eq_some_iff (once.isUnambiguous listed)).mpr found, rfl⟩

/-- One of the keys of a field holds a callable when the value of the field is one. -/
theorem holdsCallable (once : SpelledOnce entries) (listed : field ∈ Field.all) :
    field.holdsCallable entries = (field.value? entries).any Value.isCallable := by
  rw [Bool.eq_iff_iff, Field.holdsCallable, List.any_eq_true, Option.any_eq_true]
  constructor
  · rintro ⟨key, spelled, isCallable⟩
    rw [valueHas] at isCallable
    cases named : Value.named? key entries with
    | none =>
      rw [named] at isCallable
      cases isCallable
    | some value =>
      rw [named] at isCallable
      exact ⟨value, (once.value?_eq_some_iff listed).mpr ⟨key, spelled, named⟩, isCallable⟩
  · rintro ⟨value, found, isCallable⟩
    obtain ⟨key, spelled, named⟩ := (once.value?_eq_some_iff listed).mp found
    refine ⟨key, spelled, ?_⟩
    rwa [valueHas, named]

/-- The entries that validation leaves over are those that spell no field. -/
theorem length_extraIssues (once : SpelledOnce entries) {fields : List Field}
    (listed : fields ⊆ Field.all) :
    (extraIssues fields entries).length =
      entries.countP fun entry => !fields.any fun field => field.spells entry.1 := by
  rw [extraIssues, unusedIssues, List.length_filterMap_eq_countP]
  refine List.countP_congr fun entry member => ?_
  obtain ⟨key, value⟩ := entry
  cases key with
  | str name =>
    have used : (fields.filterMap fun field => (field.pick? entries).map Prod.fst).contains name =
        fields.any fun field => field.spells (.str name) := by
      rw [Bool.eq_iff_iff, List.contains_iff_mem, List.mem_filterMap, List.any_eq_true]
      refine exists_congr fun field => and_congr_right fun inside => ?_
      rw [Field.spells_str, Option.map_eq_some_iff]
      constructor
      · rintro ⟨⟨key, content⟩, picked, rfl⟩
        exact (Field.mem_keys_of_pick? picked).1
      · intro spelled
        have named := (once.named?_eq_some_iff (listed inside) spelled).mpr member
        exact ⟨(name, value),
          (Field.pick?_eq_some_iff (once.isUnambiguous (listed inside))).mpr ⟨spelled, named⟩, rfl⟩
    dsimp only
    rw [used]
    cases fields.any fun field => field.spells (.str name) <;> simp
  | _ => simp [Field.spells, Value.isName]

end SpelledOnce

/-- Two results are the same value, or they have as many issues as each other. -/
def Validated.Alike {α : Type} : Validated α → Validated α → Prop
  | valid value, valid other => value = other
  | invalid issues, invalid others => issues.length = others.length
  | _, _ => False

namespace Validated.Alike

variable {α β : Type} {result other : Validated α}

@[refl] theorem refl (result : Validated α) : result.Alike result := by
  cases result <;> rfl

theorem map (f : α → β) (alike : result.Alike other) : (f <$> result).Alike (f <$> other) := by
  cases result <;> cases other <;> first | exact alike | exact congrArg f alike

theorem seq {f g : Validated (α → β)} (functions : f.Alike g) (alike : result.Alike other) :
    (f <*> result).Alike (g <*> other) := by
  cases f <;> cases g <;> cases result <;> cases other <;>
    simp_all [Seq.seq, Validated.apply, Validated.Alike]

theorem within (segment another : Segment) (alike : result.Alike other) :
    (result.within segment).Alike (other.within another) := by
  cases result <;> cases other <;> simp_all [Validated.within, Validated.Alike]

theorem besides {found issues : List Issue} (same : found.length = issues.length)
    (alike : result.Alike other) : (result.besides found).Alike (other.besides issues) := by
  have empty : found.isEmpty = issues.isEmpty := by
    rw [Bool.eq_iff_iff, List.isEmpty_iff_length_eq_zero, List.isEmpty_iff_length_eq_zero, same]
  match result, other, alike with
  | valid value, valid _, rfl =>
    rw [Validated.besides, Validated.besides, empty]
    split
    · rfl
    · exact same
  | invalid own, invalid others, alike =>
    change (own ++ found).length = (others ++ issues).length
    rw [List.length_append, List.length_append, same, alike]

private theorem childrenAt (field : Field) {children? childrenOther? : Option (Validated (List Node))} :
    Option.Rel Validated.Alike children? childrenOther? → Validated.Alike
      (match children? with
        | some children => children.within (.key field.name)
        | none => (Validated.fault .missing).within (.key field.name))
      (match childrenOther? with
        | some children => children.within (.key field.name)
        | none => (Validated.fault .missing).within (.key field.name))
  | .none => rfl
  | .some alike => .within _ _ alike

end Validated.Alike

section

variable {α : Type} {entries others : List (Value × Value)} {field : Field} (once : SpelledOnce entries)
  (onceOther : SpelledOnce others)

include once onceOther

/-- A field with the same value has it in both mappings, or in none. -/
theorem Field.pick?_rel (listed : field ∈ all) (same : field.value? entries = field.value? others) :
    Option.Rel (fun found other => found.2 = other.2) (field.pick? entries) (field.pick? others) := by
  rw [← once.pick?_map_snd listed, ← onceOther.pick?_map_snd listed] at same
  cases picked : field.pick? entries with
  | none =>
    rw [picked, Option.map_none, eq_comm, Option.map_eq_none_iff] at same
    rw [same]
    exact .none
  | some found =>
    rw [picked, Option.map_some, eq_comm, Option.map_eq_some_iff] at same
    obtain ⟨other, pickedOther, content⟩ := same
    rw [pickedOther]
    exact .some content.symm

/-- A required field is validated alike in mappings where it has the same value. -/
theorem Field.required_alike (validate : Value → Validated α) (listed : field ∈ all)
    (same : field.value? entries = field.value? others) :
    (field.required validate entries).Alike (field.required validate others) := by
  have picks := Field.pick?_rel once onceOther listed same
  rw [required, required]
  generalize field.pick? entries = picked at picks ⊢
  generalize field.pick? others = pickedOther at picks ⊢
  cases picks with
  | none => rfl
  | some content =>
    dsimp only
    rw [content]
    exact .within _ _ (.refl _)

/-- An optional field is validated alike in mappings where it has the same value, if any. -/
theorem Field.optional_alike (validate : Value → Validated α) (absent : α) (listed : field ∈ all)
    (same : field.value? entries = field.value? others) :
    (field.optional validate absent entries).Alike (field.optional validate absent others) := by
  have picks := Field.pick?_rel once onceOther listed same
  rw [optional, optional]
  generalize field.pick? entries = picked at picks ⊢
  generalize field.pick? others = pickedOther at picks ⊢
  cases picks with
  | none => rfl
  | some content =>
    dsimp only
    rw [content]
    exact .within _ _ (.refl _)

/-- The node of a variant is made alike of mappings whose fields have the same values, whose children are
alike, and which have as many other entries. -/
theorem assemble_alike (variant : Variant)
    (same : ∀ field ∈ variant.fields, field ∉ childFields → field.value? entries = field.value? others)
    (left : (entries.countP fun entry => !variant.fields.any fun field => field.spells entry.1) =
      others.countP fun entry => !variant.fields.any fun field => field.spells entry.1)
    {children? childrenOther? : Option (Validated (List Node))}
    (children : Option.Rel Validated.Alike children? childrenOther?) :
    (assemble variant entries children?).Alike (assemble variant others childrenOther?) := by
  have extra : (extraIssues variant.fields entries).length = (extraIssues variant.fields others).length := by
    rw [once.length_extraIssues variant.fields_subset_all,
      onceOther.length_extraIssues variant.fields_subset_all, left]
  have name (field : Field) (listed : field ∈ variant.fields) (ordinary : field ∉ childFields) :=
    Field.required_alike once onceOther validateName (variant.fields_subset_all listed)
      (same field listed ordinary)
  have callable (field : Field) (listed : field ∈ variant.fields) (ordinary : field ∉ childFields) :=
    Field.required_alike once onceOther validateCallable (variant.fields_subset_all listed)
      (same field listed ordinary)
  have optional (field : Field) (listed : field ∈ variant.fields) (ordinary : field ∉ childFields) :=
    Field.optional_alike once onceOther validateOptional none (variant.fields_subset_all listed)
      (same field listed ordinary)
  have head (feature : .feature ∈ variant.fields) (before : .before ∈ variant.fields)
      (beforeEach : .beforeEach ∈ variant.fields) : (validateHead entries).Alike (validateHead others) :=
    .seq (.seq (.map _ (name _ feature (by decide))) (optional _ before (by decide)))
      (optional _ beforeEach (by decide))
  have check (getActual : .getActual ∈ variant.fields) (comparison : .comparison ∈ variant.fields) :
      (validateCheck entries).Alike (validateCheck others) :=
    .seq (.map _ (callable _ getActual (by decide))) (callable _ comparison (by decide))
  unfold assemble
  refine .besides extra ?_
  cases variant with
  | plainGroup =>
    exact .seq (.map _ (head (by decide) (by decide) (by decide))) (.childrenAt .tests children)
  | fanOutGroup =>
    refine .seq (.seq (.map _ (head (by decide) (by decide) (by decide)))
      (callable .fragmentSet (by decide) (by decide))) ?_
    cases children with
    | none => rfl
    | some alike => exact .within _ _ alike
  | directLeaf =>
    exact .seq (.seq (.map _ (name .scenario (by decide) (by decide))) (check (by decide) (by decide)))
      (optional .getFragment (by decide) (by decide))
  | conditionalLeaf =>
    exact .seq (.seq (.seq (.map _ (name .scenario (by decide) (by decide))) (check (by decide) (by decide)))
      (optional .getFragment (by decide) (by decide))) (callable .given (by decide) (by decide))
  | fanOutLeaf =>
    exact .seq (.seq (.seq (.map _ (name .scenario (by decide) (by decide))) (check (by decide) (by decide)))
      (callable .fragmentSet (by decide) (by decide))) (optional .given (by decide) (by decide))
  | inheritingLeaf =>
    exact .seq (.seq (.map _ (name .scenario (by decide) (by decide)))
      (optional .getFragment (by decide) (by decide))) (.childrenAt .inherited children)

end

end ScenarioTree
