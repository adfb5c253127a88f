import Mathlib.Data.List.Forall2
import ScenarioTree.Proofs.Schema.Obstacles
import ScenarioTree.Proofs.Schema.Spelling

/-! # Respelled trees

A tree is respelled by writing some of its fields under other keys of the same fields, here and there and
at any depth. Strict construction makes the same nodes of a respelled tree, or refuses both, because every
step of it goes by the values of fields. Relaxed construction tells a fan-out by one key only, so it
makes the same nodes, with the same warnings, when the callables of fan-outs keep their keys.
-/

namespace ScenarioTree

/-- What may become of an entry when a mapping is respelled: its key becomes another one of the same
field, if the field is free to change with this value, or what it holds is respelled, if it holds
children. -/
inductive EntryRespelled (free : Field → Value → Prop) (Below : Value → Value → Prop) :
    Value × Value → Value × Value → Prop
  | same (entry : Value × Value) : EntryRespelled free Below entry entry
  | key {field : Field} {name other : String} {value : Value} (listed : field ∈ Field.all)
      (spelled : name ∈ field.keys) (alike : other ∈ field.keys) (allowed : free field value) :
      EntryRespelled free Below (.str name, value) (.str other, value)
  | below {field : Field} {child other : Value} (listed : field ∈ childFields)
      (respelled : Below child other) :
      EntryRespelled free Below (.str field.name, child) (.str field.name, other)

/-- A value becomes another one when mappings in it, as far as they can be nodes, are respelled. -/
inductive Value.Respelled (free : Field → Value → Prop) : Value → Value → Prop
  | same (value : Value) : Respelled free value value
  | list {items others : List Value} (each : List.Forall₂ (Respelled free) items others) :
      Respelled free (.list items) (.list others)
  | tuple {items others : List Value} (each : List.Forall₂ (Respelled free) items others) :
      Respelled free (.tuple items) (.tuple others)
  | deque {items others : List Value} (each : List.Forall₂ (Respelled free) items others) :
      Respelled free (.deque items) (.deque others)
  | set {items others : List Value} (each : List.Forall₂ (Respelled free) items others) :
      Respelled free (.set items) (.set others)
  | iter {id : Nat} {items others : List Value} (each : List.Forall₂ (Respelled free) items others) :
      Respelled free (.iter id items) (.iter id others)
  | map {entries others : List (Value × Value)}
      (each : List.Forall₂ (EntryRespelled free (Respelled free)) entries others) :
      Respelled free (.map entries) (.map others)
  | proxy {entries others : List (Value × Value)}
      (each : List.Forall₂ (EntryRespelled free (Respelled free)) entries others) :
      Respelled free (.proxy entries) (.proxy others)

section

variable {free : Field → Value → Prop} {Below : Value → Value → Prop}

namespace EntryRespelled

variable {entry other : Value × Value} {field : Field}

private theorem spells_eq (respelled : EntryRespelled free Below entry other) (listed : field ∈ Field.all) :
    field.spells entry.1 = field.spells other.1 := by
  cases respelled with
  | same => rfl
  | below => rfl
  | @key another name second value own spelled alike =>
    have moves {first second : String} (one : first ∈ another.keys) (two : second ∈ another.keys) :
        field.spells (.str first) = true → field.spells (.str second) = true := by
      rw [Field.spells_str, Field.spells_str]
      intro inside
      rwa [Field.all_disjoint field listed another own first inside one]
    exact Bool.eq_iff_iff.mpr ⟨moves spelled alike, moves alike spelled⟩

/-- An entry keeps its value, unless it holds children. -/
theorem value_eq (respelled : EntryRespelled free Below entry other) (listed : field ∈ Field.all)
    (spelled : field.spells entry.1 = true) :
    entry.2 = other.2 ∨ field ∈ childFields ∧ Below entry.2 other.2 := by
  cases respelled with
  | same => exact .inl rfl
  | key => exact .inl rfl
  | @below holder child other inside respelled =>
    have own : holder.name ∈ holder.keys := by
      rw [Field.keys_of_mem_childFields holder inside]
      exact List.mem_singleton_self _
    have same := Field.all_disjoint field listed holder (Field.childFields_subset_all inside) holder.name
      (Field.spells_str.mp spelled) own
    exact .inr ⟨same ▸ inside, respelled⟩

end EntryRespelled

private theorem exists_mem_of_forall₂ {α β : Type} {related : α → β → Prop} {items : List α} {others : List β}
    (each : List.Forall₂ related items others) {other : β} (member : other ∈ others) :
    ∃ item ∈ items, related item other := by
  induction each with
  | nil => cases member
  | cons own each ih =>
    rcases List.mem_cons.mp member with rfl | below
    · exact ⟨_, List.mem_cons_self .., own⟩
    · obtain ⟨item, among, found⟩ := ih below
      exact ⟨item, List.mem_cons_of_mem _ among, found⟩

/-- A mapping that writes every field once, and a respelled one. -/
structure Respells (free : Field → Value → Prop) (Below : Value → Value → Prop)
    (entries others : List (Value × Value)) : Prop where
  once : SpelledOnce entries
  each : List.Forall₂ (EntryRespelled free Below) entries others

namespace Respells

variable {entries others : List (Value × Value)} {field : Field}

/-- A respelled mapping writes every field once, too. -/
theorem onceOther (respells : Respells free Below entries others) : SpelledOnce others := by
  obtain ⟨once, each⟩ := respells
  induction each with
  | nil => exact .nil
  | @cons entry other rest below own each ih =>
    obtain ⟨apart, within⟩ := List.pairwise_cons.mp once
    refine List.pairwise_cons.mpr ⟨fun later member field listed spelled => ?_, ih within⟩
    obtain ⟨source, among, respelled⟩ := exists_mem_of_forall₂ each member
    rw [← respelled.spells_eq listed]
    exact apart source among field listed (by rwa [own.spells_eq listed])

/-- A field has the same value in both mappings, unless it is one of children. -/
theorem value?_rel (respells : Respells free Below entries others) (listed : field ∈ Field.all) :
    Option.Rel (fun value other => value = other ∨ field ∈ childFields ∧ Below value other)
      (field.value? entries) (field.value? others) := by
  have each := respells.each
  clear respells
  induction each with
  | nil => exact .none
  | @cons entry other rest below own each ih =>
    rw [Field.value?, Field.value?, List.find?_cons, List.find?_cons, ← own.spells_eq listed]
    cases spelled : field.spells entry.1 with
    | true => exact .some (own.value_eq listed spelled)
    | false => exact ih

private theorem value?_eq (respells : Respells free Below entries others) (listed : field ∈ Field.all)
    (ordinary : field ∉ childFields) : field.value? entries = field.value? others := by
  have same := respells.value?_rel listed
  generalize field.value? entries = value at same ⊢
  generalize field.value? others = other at same ⊢
  cases same with
  | none => rfl
  | some own =>
    rcases own with rfl | ⟨children, _⟩
    · rfl
    · exact absurd children ordinary

private theorem isCarried_eq (respells : Respells free Below entries others) (listed : field ∈ Field.all) :
    field.isCarried entries = field.isCarried others := by
  rw [Field.isCarried_eq_isSome, Field.isCarried_eq_isSome]
  have same := respells.value?_rel listed
  generalize field.value? entries = value at same ⊢
  generalize field.value? others = other at same ⊢
  cases same <;> rfl

/-- As many entries spell no field of a list in both mappings. -/
theorem countP_eq (respells : Respells free Below entries others) {fields : List Field}
    (listed : fields ⊆ Field.all) :
    (entries.countP fun entry => !fields.any fun field => field.spells entry.1) =
      others.countP fun entry => !fields.any fun field => field.spells entry.1 := by
  have each := respells.each
  clear respells
  induction each with
  | nil => rfl
  | @cons entry other rest below own each ih =>
    have same : (fields.any fun field => field.spells entry.1) =
        fields.any fun field => field.spells other.1 := by
      rw [Bool.eq_iff_iff, List.any_eq_true, List.any_eq_true]
      exact exists_congr fun field => and_congr_right fun inside => by rw [own.spells_eq (listed inside)]
    rw [List.countP_cons, List.countP_cons, ih, same]

/-- Both mappings are of the same variant by their keys. -/
theorem ofKeys?_eq (respells : Respells free Below entries others) :
    Variant.ofKeys? entries = Variant.ofKeys? others := by
  have carried (field : Field) (listed : field ∈ Field.all) := respells.isCarried_eq listed
  rw [Variant.ofKeys?, Variant.ofKeys?, carried .feature (by decide), carried .scenario (by decide),
    carried .fragmentSet (by decide), carried .inherited (by decide), carried .given (by decide)]

/-- The children of both mappings are the same, or respelled. -/
theorem child?_rel (respells : Respells free Below entries others) (variant : Variant) :
    Option.Rel (fun child other => child = other ∨ Below child other) (variant.child? entries)
      (variant.child? others) := by
  rw [Variant.child?, Variant.child?]
  cases found : variant.childField? with
  | none => exact .none
  | some field =>
    have inside := Variant.mem_childFields found
    have single := Field.keys_of_mem_childFields field inside
    rw [Option.bind_some, Option.bind_some, Field.named?_eq_value? single, Field.named?_eq_value? single]
    have same := respells.value?_rel (Field.childFields_subset_all inside)
    generalize field.value? entries = value at same ⊢
    generalize field.value? others = other at same ⊢
    cases same with
    | none => exact .none
    | some own => exact .some (own.imp_right And.right)

end Respells

/-- Two validations take the same from iterators, and their results are alike. -/
def RunsAlike {α : Type} (first second : StateM Spent (Validated α)) : Prop :=
  ∀ spent, ((first.run spent).1).Alike (second.run spent).1 ∧ (first.run spent).2 = (second.run spent).2

theorem RunsAlike.refl {α : Type} (validation : StateM Spent (Validated α)) :
    RunsAlike validation validation :=
  fun _ => ⟨.refl _, rfl⟩

/-- A respelled mapping is validated alike as any variant, if its children are. -/
theorem Respells.validateVariant_alike {entries others : List (Value × Value)}
    (respells : Respells free Below entries others) (variant : Variant)
    (below : ∀ child other, variant.child? entries = some child → Below child other →
      RunsAlike (validateSequence .tupleType child) (validateSequence .tupleType other)) :
    RunsAlike (validateVariant variant entries) (validateVariant variant others) := by
  intro spent
  have assembled {children? childrenOther? : Option (Validated (List Node))}
      (children : Option.Rel Validated.Alike children? childrenOther?) :=
    assemble_alike respells.once respells.onceOther variant
      (fun field listed ordinary => respells.value?_eq (variant.fields_subset_all listed) ordinary)
      (respells.countP_eq variant.fields_subset_all) children
  rw [run_validateVariant, run_validateVariant]
  have same := respells.child?_rel variant
  generalize variant.child? entries = child? at same below ⊢
  generalize variant.child? others = other? at same ⊢
  cases same with
  | none => exact ⟨assembled .none, rfl⟩
  | @some child other own =>
    have alike : RunsAlike (validateSequence .tupleType child) (validateSequence .tupleType other) := by
      rcases own with rfl | respelled
      · exact .refl _
      · exact below child other rfl respelled
    exact ⟨assembled (.some (alike spent).1), (alike spent).2⟩

end

section

variable {free : Field → Value → Prop}

/-- What is no mapping is validated as before when it is respelled. -/
theorem Value.Respelled.leaf {value other : Value} (respelled : value.Respelled free other)
    (plain : value.entries? = none) : validateNode value = validateNode other := by
  cases respelled with
  | map | proxy => cases plain
  | _ => rfl

theorem Value.Respelled.mapping {value other : Value} {entries : List (Value × Value)}
    (respelled : value.Respelled free other) (mapping : value.entries? = some entries) :
    ∃ others, other.entries? = some others ∧
      List.Forall₂ (EntryRespelled free (Respelled free)) entries others := by
  cases respelled with
  | same => exact ⟨entries, mapping, List.forall₂_same.mpr fun entry _ => .same entry⟩
  | map each | proxy each =>
    cases mapping
    exact ⟨_, rfl, each⟩
  | _ => cases mapping

private theorem validateItems_alike {items others : List Value}
    (each : List.Forall₂ (Value.Respelled free) items others)
    (alike : ∀ item ∈ items, ∀ other, item.Respelled free other →
      RunsAlike (validateNode item) (validateNode other)) (position : Nat) :
    RunsAlike (validateItems position items) (validateItems position others) := by
  induction each generalizing position with
  | nil => exact .refl _
  | @cons item other rest below own each ih =>
    intro spent
    obtain ⟨node, same⟩ := alike item (List.mem_cons_self ..) other own spent
    obtain ⟨nodes, ended⟩ := ih (fun later member => alike later (List.mem_cons_of_mem _ member))
      (position + 1) ((validateNode other).run spent).2
    rw [run_validateItems_cons, run_validateItems_cons, same]
    exact ⟨.seq (.map _ (.within _ _ node)) nodes, ended⟩

private theorem Value.Respelled.validateSequence_alike {value other : Value} (respelled : value.Respelled free other)
    (otherwise : Fault)
    (alike : ∀ items, value.nodeItems? = some items → ∀ item ∈ items, ∀ other, item.Respelled free other →
      RunsAlike (validateNode item) (validateNode other)) :
    RunsAlike (validateSequence otherwise value) (validateSequence otherwise other) := by
  cases respelled with
  | same => exact .refl _
  | map | proxy => exact .refl (pure (.fault otherwise))
  | list each | tuple each | deque each | set each => exact validateItems_alike each (alike _ rfl) 0
  | @iter id items others each =>
    have ran (items : List Value) (spent : Spent) :
        (validateSequence otherwise (.iter id items)).run spent =
          if spent.contains id then (.valid [], spent) else (validateItems 0 items).run (id :: spent) := by
      rw [@run_validateSequence (.iter id items) otherwise spent _ rfl, Value.spend]
      split <;> rfl
    intro spent
    rw [ran, ran]
    split
    · exact ⟨rfl, rfl⟩
    · exact validateItems_alike each (alike _ rfl) 0 (id :: spent)

/-- A respelled value is validated alike, if every mapping in it writes every field once. -/
theorem Value.Respelled.validateNode_alike {value other : Value} (respelled : value.Respelled free other)
    (once : value.Throughout SpelledOnce) : RunsAlike (validateNode value) (validateNode other) := by
  induction value using Value.treeInduction generalizing other with
  | leaf value plain =>
    rw [respelled.leaf plain]
    exact .refl _
  | mapping value entries mapping ih =>
    cases once with
    | leaf plain =>
      rw [mapping] at plain
      cases plain
    | mapping found here below =>
      cases mapping.symm.trans found
      obtain ⟨others, mappingOther, each⟩ := respelled.mapping mapping
      have respells : Respells free (Value.Respelled free) entries others := ⟨here, each⟩
      intro spent
      rw [run_validateNode_mapping mapping, run_validateNode_mapping mappingOther, ← respells.ofKeys?_eq]
      cases Variant.ofKeys? entries with
      | none => exact ⟨rfl, rfl⟩
      | some variant =>
        have validated : RunsAlike (validateVariant variant entries) (validateVariant variant others) := by
          refine respells.validateVariant_alike variant fun child other inside respelled => ?_
          obtain ⟨field, childField, named⟩ := Option.bind_eq_some_iff.mp inside
          refine respelled.validateSequence_alike _ fun items inside item member other respelled => ?_
          exact ih field.name child items named inside item member respelled
            (below field (Variant.mem_childFields childField) child items named inside item member)
        exact ⟨.within _ _ (validated spent).1, (validated spent).2⟩

end

section

variable {free : Field → Value → Prop} {Below : Value → Value → Prop} {entries others : List (Value × Value)}
  (fixed : ∀ value, free .fragmentSet value → value.isCallable = false)

/-- A property of the value of a field with one key is the same of both mappings, if respelling below the
field keeps it. -/
theorem Respells.valueHas_eq (respells : Respells free Below entries others) {property : Value → Bool}
    {field : Field} (listed : field ∈ Field.all) (single : field.keys = [field.name])
    (kept : ∀ value other, Below value other → property value = property other) :
    valueHas property field.name entries = valueHas property field.name others := by
  rw [valueHas, valueHas, Field.named?_eq_value? single, Field.named?_eq_value? single]
  have same := respells.value?_rel listed
  generalize field.value? entries = value at same ⊢
  generalize field.value? others = other at same ⊢
  cases same with
  | none => rfl
  | some own =>
    rcases own with rfl | ⟨_, below⟩
    · rfl
    · exact kept _ _ below

include fixed in
/-- An entry with a callable that fans out is kept as it is. -/
theorem EntryRespelled.eq_of_callable {entry other : Value × Value} {key : String} {callable : Callable}
    (respelled : EntryRespelled free Below entry other) (spelled : key ∈ Field.fragmentSet.keys)
    (found : entry = (.str key, .callable callable) ∨ other = (.str key, .callable callable)) :
    entry = other := by
  cases respelled with
  | same => rfl
  | @key field name another value listed own alike allowed =>
    have callable : field = .fragmentSet ∧ value.isCallable = true := by
      rcases found with same | same <;> cases same
      · exact ⟨Field.all_disjoint field listed .fragmentSet (by decide) key own spelled, rfl⟩
      · exact ⟨Field.all_disjoint field listed .fragmentSet (by decide) key alike spelled, rfl⟩
    have refused := fixed value (callable.1 ▸ allowed)
    rw [callable.2] at refused
    cases refused
  | @below field child another listed =>
    have same : key = field.name := by rcases found with same | same <;> cases same <;> rfl
    subst same
    simp only [childFields, List.mem_cons, List.not_mem_nil, or_false] at listed
    rcases listed with rfl | rfl <;> exact absurd spelled (by decide)

include fixed in
/-- A callable under the first key of fan-outs is there in both mappings. -/
theorem Respells.hasFragmentSet_eq (respells : Respells free Below entries others) :
    valueHas Value.isCallable "set" entries = valueHas Value.isCallable "set" others := by
  have holds {entries : List (Value × Value)} (once : SpelledOnce entries) :
      valueHas Value.isCallable "set" entries = true ↔
        ∃ callable, (.str "set", .callable callable) ∈ entries := by
    rw [valueHas]
    constructor
    · intro isCallable
      cases named : Value.named? "set" entries with
      | none =>
        rw [named] at isCallable
        cases isCallable
      | some value =>
        rw [named] at isCallable
        cases value with
        | callable callable => exact ⟨callable, Value.mem_of_named? named⟩
        | _ => cases isCallable
    · rintro ⟨callable, member⟩
      have listed : Field.fragmentSet ∈ Field.all := by decide
      rw [(once.named?_eq_some_iff listed (List.mem_cons_self ..)).mpr member]
      rfl
  rw [Bool.eq_iff_iff, holds respells.once, holds respells.onceOther]
  refine exists_congr fun callable => ⟨fun member => ?_, fun member => ?_⟩
  · obtain ⟨other, among, respelled⟩ := exists_mem_of_forall₂ respells.each.flip member
    rwa [← respelled.eq_of_callable fixed (by decide) (.inl rfl)] at among
  · obtain ⟨entry, among, respelled⟩ := exists_mem_of_forall₂ respells.each member
    rwa [respelled.eq_of_callable fixed (by decide) (.inr rfl)] at among

private theorem Value.Respelled.isSequence_eq {value other : Value} (respelled : value.Respelled free other) :
    value.isSequence = other.isSequence := by
  cases respelled <;> rfl

private theorem Value.Respelled.isCallable_eq {value other : Value} (respelled : value.Respelled free other) :
    value.isCallable = other.isCallable := by
  cases respelled <;> rfl

private theorem Value.Respelled.isTruthy_eq {value other : Value} (respelled : value.Respelled free other) :
    value.isTruthy = other.isTruthy := by
  cases respelled with
  | same => rfl
  | iter => rfl
  | _ each => cases each <;> rfl

include fixed in
/-- Both mappings are of the same variant by their values. -/
theorem Respells.ofShape?_eq (respells : Respells free (Value.Respelled free) entries others) :
    Variant.ofShape? entries = Variant.ofShape? others := by
  have truthy (field : Field) (listed : field ∈ Field.all) (single : field.keys = [field.name]) :
      valueHas Value.isTruthy field.name entries = valueHas Value.isTruthy field.name others :=
    respells.valueHas_eq listed single fun _ _ respelled => respelled.isTruthy_eq
  have sequence (field : Field) (listed : field ∈ Field.all) (single : field.keys = [field.name]) :
      valueHas Value.isSequence field.name entries = valueHas Value.isSequence field.name others :=
    respells.valueHas_eq listed single fun _ _ respelled => respelled.isSequence_eq
  have feature : valueHas Value.isTruthy "feature" entries = valueHas Value.isTruthy "feature" others :=
    truthy .feature (by decide) rfl
  have scenario : valueHas Value.isTruthy "scenario" entries = valueHas Value.isTruthy "scenario" others :=
    truthy .scenario (by decide) rfl
  have tests : valueHas Value.isSequence "tests" entries = valueHas Value.isSequence "tests" others :=
    sequence .tests (by decide) rfl
  have inherited : valueHas Value.isSequence "inherit" entries =
      valueHas Value.isSequence "inherit" others := sequence .inherited (by decide) rfl
  have given : valueHas Value.isCallable "given" entries = valueHas Value.isCallable "given" others :=
    @respells.valueHas_eq _ _ _ _ _ .given (by decide) rfl fun _ _ respelled => respelled.isCallable_eq
  rw [Variant.ofShape?, Variant.ofShape?, feature, scenario, tests, inherited, given,
    respells.hasFragmentSet_eq fixed]

end

section

variable {free : Field → Value → Prop} {Below : Value → Value → Prop} {entries others : List (Value × Value)}
  {variant : Variant} {children : List Model}

private theorem Field.mem_keys_iff {field : Field} (listed : field ∈ all) {key : String} :
    key ∈ field.keys ↔ key = field.name ∨ key ∈ field.aliasKeys := by
  have named : ∀ field ∈ all, field.aliases = [] ∨ field.name ∈ field.aliasKeys := by decide
  rw [keys]
  rcases named field listed with none | own
  · simp [aliasKeys, none]
  · rw [if_neg]
    · exact ⟨.inr, fun found => found.elim (fun same => same ▸ own) id⟩
    · intro empty
      rw [aliasKeys, List.isEmpty_iff.mp empty] at own
      cases own

private theorem Variant.accepts_eq (variant : Variant) {field : Field} (listed : field ∈ Field.all)
    {key : String} (spelled : key ∈ field.keys) :
    (acceptedKeys variant.fields).contains key = variant.fields.contains field := by
  rw [Bool.eq_iff_iff, List.contains_iff_mem, List.contains_iff_mem]
  refine ⟨fun accepted => ?_, fun inside => mem_acceptedKeys inside spelled⟩
  rw [← List.contains_iff_mem, contains_acceptedKeys, List.any_eq_true] at accepted
  obtain ⟨other, inside, read⟩ := accepted
  have another := variant.fields_subset_all inside
  have own := (Field.mem_keys_iff another).mpr (by simpa using read)
  rwa [Field.all_disjoint field listed other another key spelled own]

private theorem isKeyOf_spelled : ∀ fields ∈ [droppableFields, titleFields, childFields], ∀ field ∈ Field.all,
    ∀ key ∈ field.keys, ∀ other ∈ field.keys, isKeyOf fields key = isKeyOf fields other := by
  decide

/-- An entry is adapted alike under all keys of its field. -/
theorem EntryRespelled.adapt {name other : String} {value another : Value}
    (respelled : EntryRespelled free Below (.str name, value) (.str other, another)) :
    variant.reads name value = variant.reads other another ∧
      (adaptEntry children name value).2 = (adaptEntry children other another).2 ∧
      ∀ content, EntryRespelled (fun _ _ => True) (· = ·) (.str name, content) (.str other, content) := by
  cases respelled with
  | same => exact ⟨rfl, rfl, fun content => .same _⟩
  | @key field _ _ _ listed spelled alike =>
    refine ⟨?_, ?_, fun content => .key listed spelled alike trivial⟩
    · rw [Variant.reads, Variant.reads, variant.accepts_eq listed spelled,
        variant.accepts_eq listed alike,
        isKeyOf_spelled droppableFields (.head _) field listed name spelled other alike]
    · rw [adaptEntry, adaptEntry,
        isKeyOf_spelled titleFields (.tail _ (.head _)) field listed name spelled other alike,
        isKeyOf_spelled childFields (.tail _ (.tail _ (.head _))) field listed name spelled other alike]
      split
      · rfl
      · split <;> rfl
  | @below field _ _ inside =>
    have told : ∀ field ∈ childFields, isKeyOf droppableFields field.name = false ∧
        isKeyOf titleFields field.name = false ∧ isKeyOf childFields field.name = true := by
      decide
    obtain ⟨kept, untitled, holder⟩ := told field inside
    refine ⟨?_, ?_, fun content => .same _⟩
    · rw [Variant.reads, Variant.reads, kept]
      rfl
    · rw [adaptEntry, adaptEntry, untitled, holder]
      rfl

theorem SpelledOnce.adaptEntries (once : SpelledOnce entries) :
    SpelledOnce (adaptEntries variant children entries) := by
  induction entries with
  | nil => exact .nil
  | cons entry rest ih =>
    obtain ⟨apart, within⟩ := List.pairwise_cons.mp once
    obtain ⟨key, value⟩ := entry
    cases key with
    | str name =>
      rw [adaptEntries_cons_str]
      split
      · refine List.pairwise_cons.mpr ⟨fun later member => ?_, ih within⟩
        obtain ⟨source, among, same⟩ := key_mem_of_mem_adaptEntries member
        rw [← same]
        exact apart source among
      · exact ih within
    | _ => exact ih within

/-- Adapted mappings are respelled as the mappings are, and hold the same children. -/
theorem Respells.adaptEntries (respells : Respells free Below entries others) :
    Respells (fun _ _ => True) (· = ·) (adaptEntries variant children entries)
      (adaptEntries variant children others) := by
  refine ⟨respells.once.adaptEntries, ?_⟩
  have each := respells.each
  clear respells
  induction each with
  | nil => exact .nil
  | @cons entry other rest below own each ih =>
    have step {name another : String} {value content : Value}
        (own : EntryRespelled free Below (.str name, value) (.str another, content)) :
        List.Forall₂ (EntryRespelled (fun _ _ => True) (· = ·))
          (ScenarioTree.adaptEntries variant children ((.str name, value) :: rest))
          (ScenarioTree.adaptEntries variant children ((.str another, content) :: below)) := by
      obtain ⟨read, adapted, respelled⟩ := @own.adapt _ _ variant children
      rw [adaptEntries_cons_str, adaptEntries_cons_str, read, adapted]
      split
      · exact .cons (respelled _) ih
      · exact ih
    cases own with
    | same =>
      obtain ⟨key, value⟩ := entry
      cases key with
      | str name => exact step (.same _)
      | _ => exact ih
    | key listed spelled alike allowed => exact step (.key listed spelled alike allowed)
    | below listed respelled => exact step (.below listed respelled)

/-- The entries that spell no key of a field are those that are left without it. -/
theorem Respells.remove (respells : Respells free Below entries others) {field : Field}
    (listed : field ∈ Field.all) :
    List.Forall₂ (EntryRespelled free Below) (field.remove entries) (field.remove others) := by
  have each := respells.each
  clear respells
  induction each with
  | nil => exact .nil
  | @cons entry other rest below own each ih =>
    change List.Forall₂ _ ((entry :: rest).filter fun entry => !field.spells entry.1)
      ((other :: below).filter fun entry => !field.spells entry.1)
    rw [List.filter_cons, List.filter_cons, own.spells_eq listed]
    split
    · exact .cons own ih
    · exact ih

/-- A stand-in is put under a field of both mappings, or of none. -/
theorem Respells.supply (respells : Respells free Below entries others) {field : Field}
    (listed : field ∈ Field.all) (ordinary : field ∉ childFields) (scenario : String) :
    Respells free Below (field.supply scenario entries).1 (field.supply scenario others).1 ∧
      (field.supply scenario entries).2 = (field.supply scenario others).2 := by
  have held : field.holdsCallable entries = field.holdsCallable others := by
    rw [respells.once.holdsCallable listed, respells.onceOther.holdsCallable listed,
      respells.value?_eq listed ordinary]
  rw [Field.supply, Field.supply, held]
  split
  · exact ⟨respells, rfl⟩
  · refine ⟨⟨?once, ?each⟩, rfl⟩
    case once =>
      refine List.pairwise_append.mpr
        ⟨respells.once.sublist List.filter_sublist, List.pairwise_singleton .., ?_⟩
      intro entry member standIn last other listedOther spelled
      cases List.mem_singleton.mp last
      rw [← Bool.not_eq_true]
      intro also
      have own := (Field.mem_keys_iff listed).mpr (.inl rfl)
      have same := Field.all_disjoint other listedOther field listed _ (Field.spells_str.mp also) own
      have removed : (!field.spells entry.1) = true := (List.mem_filter.mp member).2
      rw [← same, spelled] at removed
      cases removed
    case each => exact List.rel_append (respells.remove listed) (.cons (.same _) .nil)

private theorem Respells.named?_eq (respells : Respells free Below entries others) (field : Field) (name : String)
    (single : field.keys = [name]) (listed : field ∈ Field.all) (ordinary : field ∉ childFields) :
    Value.named? name entries = Value.named? name others := by
  rw [Field.named?_eq_value? single, Field.named?_eq_value? single, respells.value?_eq listed ordinary]

/-- The same stand-ins are put into both mappings. -/
theorem Respells.supplyCallables (respells : Respells free Below entries others) :
    Respells free Below (supplyCallables variant entries).1 (supplyCallables variant others).1 ∧
      (ScenarioTree.supplyCallables variant entries).2 = (ScenarioTree.supplyCallables variant others).2 := by
  rw [ScenarioTree.supplyCallables, ScenarioTree.supplyCallables,
    respells.named?_eq .scenario "scenario" rfl (by decide) (by decide)]
  split
  · have first (scenario : String) :=
      respells.supply (by decide : .getActual ∈ Field.all) (by decide) scenario
    have second (scenario : String) :=
      (first scenario).1.supply (by decide : .comparison ∈ Field.all) (by decide) scenario
    exact ⟨(second _).1, congrArg₂ (· ++ ·) (first _).2 (second _).2⟩
  · exact ⟨respells, rfl⟩

private theorem Respells.supplied_eq (respells : Respells free Below entries others) :
    (ScenarioTree.supplyCallables variant (ScenarioTree.adaptEntries variant children entries)).2 =
      (ScenarioTree.supplyCallables variant (ScenarioTree.adaptEntries variant children others)).2 :=
  (@Respells.supplyCallables _ _ _ _ variant (@respells.adaptEntries _ _ _ _ variant children)).2

private theorem Respells.reportedName_eq (respells : Respells free Below entries others) :
    reportedName entries = reportedName others := by
  rw [reportedName, reportedName, respells.named?_eq .feature "feature" rfl (by decide) (by decide),
    respells.named?_eq .scenario "scenario" rfl (by decide) (by decide)]

/-- Relaxed construction makes the same node of a respelled mapping, with the same warnings. -/
theorem Respells.salvageNode_eq (respells : Respells free Below entries others) :
    salvageNode variant entries children = salvageNode variant others children := by
  obtain ⟨supplied, warned⟩ :=
    @Respells.supplyCallables _ _ _ _ variant (@respells.adaptEntries _ _ _ _ variant children)
  have validated := supplied.validateVariant_alike variant (fun _ _ _ same => same ▸ .refl _) []
  unfold salvageNode
  dsimp only
  rw [warned, respells.reportedName_eq]
  generalize ((validateVariant variant _).run []).1 = result at validated ⊢
  generalize ((validateVariant variant _).run []).1 = another at validated ⊢
  match result, another, validated.1 with
  | .valid _, .valid _, rfl => rfl
  | .invalid issues, .invalid others, same =>
    dsimp only
    rw [same]

end

section

variable {free : Field → Value → Prop}
  (fixed : ∀ value, free .fragmentSet value → value.isCallable = false)

/-- Relaxed construction reads two items alike: as the same node, with the same warnings, unless the same ends
it. -/
structure Value.ReadAlike (value other : Value) : Prop where
  salvaged : salvageItem value = salvageItem other
  stopped : itemObstacle? value = itemObstacle? other

private theorem salvageItems_respelled {items others : List Value}
    (each : List.Forall₂ (Value.Respelled free) items others)
    (same : ∀ item ∈ items, ∀ other, item.Respelled free other → item.ReadAlike other) :
    salvageItems items = salvageItems others ∧ itemsObstacle? items = itemsObstacle? others := by
  induction each with
  | nil => exact ⟨rfl, rfl⟩
  | cons own each ih =>
    obtain ⟨salvaged, stopped⟩ := same _ (List.mem_cons_self ..) _ own
    obtain ⟨below, inner⟩ := ih fun later member => same later (List.mem_cons_of_mem _ member)
    rw [salvageItems, salvageItems, itemsObstacle?, itemsObstacle?, salvaged, stopped, below, inner]
    exact ⟨rfl, rfl⟩

theorem Value.Respelled.salvageSequence_eq {value other : Value} (respelled : value.Respelled free other)
    (same : ∀ items, value.nodeItems? = some items → ∀ item ∈ items, ∀ other, item.Respelled free other →
      item.ReadAlike other) :
    salvageSequence value = salvageSequence other ∧ sequenceObstacle? value = sequenceObstacle? other := by
  cases respelled with
  | same => exact ⟨rfl, rfl⟩
  | list each | tuple each | deque each => exact salvageItems_respelled each (same _ rfl)
  | set | iter | map | proxy => exact ⟨by simp only [salvageSequence], rfl⟩

/-- The children of respelled mappings are read alike when what is respelled is. -/
theorem Respells.children_alike {entries others : List (Value × Value)}
    (respells : Respells free (Value.Respelled free) entries others) (variant : Variant)
    (alike : ∀ child other, variant.child? entries = some child → child.Respelled free other →
      salvageSequence child = salvageSequence other ∧ sequenceObstacle? child = sequenceObstacle? other) :
    variant.salvagedChildren entries = variant.salvagedChildren others ∧
      (variant.child? entries).bind sequenceObstacle? = (variant.child? others).bind sequenceObstacle? := by
  have same := respells.child?_rel variant
  rw [Variant.salvagedChildren, Variant.salvagedChildren]
  generalize variant.child? entries = child? at same alike ⊢
  generalize variant.child? others = other? at same ⊢
  cases same with
  | none => exact ⟨rfl, rfl⟩
  | some own =>
    rcases own with rfl | respelled
    · exact ⟨rfl, rfl⟩
    · obtain ⟨salvaged, stopped⟩ := alike _ _ rfl respelled
      exact ⟨congrArg (fun found => (some found).getD ([], [])) salvaged, stopped⟩

include fixed in
/-- Relaxed construction reads a respelled value alike, if every mapping in it writes every field once. -/
theorem Value.Respelled.readAlike {value other : Value} (respelled : value.Respelled free other)
    (once : value.Throughout SpelledOnce) : value.ReadAlike other := by
  induction value using Value.treeInduction generalizing other with
  | leaf value plain =>
    cases respelled with
    | map | proxy => cases plain
    | _ => exact ⟨rfl, rfl⟩
  | mapping value entries mapping ih =>
    cases once with
    | leaf plain =>
      rw [mapping] at plain
      cases plain
    | mapping found here below =>
      cases mapping.symm.trans found
      obtain ⟨others, mappingOther, each⟩ := respelled.mapping mapping
      have respells : Respells free (Value.Respelled free) entries others := ⟨here, each⟩
      have shape := respells.ofShape?_eq fixed
      cases told : Variant.ofShape? entries with
      | none =>
        have toldOther := shape.symm.trans told
        constructor
        · rw [salvageItem_entries mapping, salvageItem_entries mappingOther, told, toldOther]
        · rw [itemObstacle?_entries mapping, itemObstacle?_entries mappingOther, told, toldOther]
      | some variant =>
        have toldOther := shape.symm.trans told
        obtain ⟨children, inner⟩ := respells.children_alike variant fun child other inside respelled => by
          obtain ⟨field, childField, named⟩ := Option.bind_eq_some_iff.mp inside
          refine respelled.salvageSequence_eq fun items inside item member other respelled => ?_
          exact ih field.name child items named inside item member respelled
            (below field (Variant.mem_childFields childField) child items named inside item member)
        constructor
        · rw [salvageItem_entries mapping, salvageItem_entries mappingOther, told, toldOther]
          dsimp only
          rw [children, respells.salvageNode_eq]
        · rw [itemObstacle?_entries mapping, itemObstacle?_entries mappingOther, told, toldOther]
          dsimp only
          rw [variant.titleObstacle?_eq told, variant.titleObstacle?_eq toldOther, inner, children,
            variant.ownObstacle?_eq told, variant.ownObstacle?_eq toldOther, respells.salvageNode_eq,
            respells.reportedName_eq, respells.supplied_eq]

private theorem Value.Respelled.sequenceItems?_rel {root other : Value} (respelled : root.Respelled free other) :
    Option.Rel (List.Forall₂ (Value.Respelled free)) root.sequenceItems? other.sequenceItems? := by
  cases respelled with
  | same =>
    cases root.sequenceItems? with
    | none => exact .none
    | some items => exact .some (List.forall₂_same.mpr fun item _ => .same item)
  | list each | tuple each | deque each => exact .some each
  | set | iter | map | proxy => exact .none

end

/-- Two outcomes are the same, or both are refusals of a tree. -/
inductive OutcomesAlike {α : Type} : Except Failure α → Except Failure α → Prop
  | same (outcome : Except Failure α) : OutcomesAlike outcome outcome
  | refused (report other : Report) :
      OutcomesAlike (.error (.invalidTree report)) (.error (.invalidTree other))

/-- Two builds have the same outcome but for what refusals report, and the same effects. -/
structure BuildsAlike (first second : Built × Spent) : Prop where
  models : OutcomesAlike first.1.models second.1.models
  warnings : first.1.warnings = second.1.warnings
  spent : first.2 = second.2

namespace Builder

/-- A field may change its key for a builder, except that relaxed building needs the key of a callable that
fans out. -/
def MayRespell (builder : Builder) (field : Field) (value : Value) : Prop :=
  builder.strict = true ∨ (field = .fragmentSet → value.isCallable = false)

section

variable {free : Field → Value → Prop} {items others : List Value}

/-- Built nodes are not respelled. -/
theorem mapM_model?_respelled (each : List.Forall₂ (Value.Respelled free) items others) :
    items.mapM Value.model? = others.mapM Value.model? := by
  induction each with
  | nil => rfl
  | cons own each ih =>
    rw [List.mapM_cons, List.mapM_cons, ih]
    cases own <;> rfl

/-- Strict building of respelled items makes the same nodes, or refuses both. -/
theorem validate_respelled (builder : Builder) (root other : Value)
    (each : List.Forall₂ (Value.Respelled free) items others)
    (once : ∀ item ∈ items, item.Throughout SpelledOnce) (spent : Spent) :
    OutcomesAlike ((builder.validate root items).run spent).1 ((builder.validate other others).run spent).1 ∧
      ((builder.validate root items).run spent).2 = ((builder.validate other others).run spent).2 := by
  rw [validate, validate, mapM_model?_respelled each]
  cases others.mapM Value.model? with
  | some models => exact ⟨.same _, rfl⟩
  | none =>
    have alike : RunsAlike (validateTree (.list items)) (validateTree (.list others)) :=
      validateItems_alike each
        (fun item member _ respelled => respelled.validateNode_alike (once item member)) 0
    have validated := alike spent
    dsimp only
    rw [StateT.run_bind, StateT.run_bind]
    generalize (validateTree (.list items)).run spent = outcome at validated ⊢
    generalize (validateTree (.list others)).run spent = another at validated ⊢
    obtain ⟨result, after⟩ := outcome
    obtain ⟨resultOther, afterOther⟩ := another
    obtain ⟨results, rfl⟩ := validated
    cases result with
    | valid nodes =>
      cases resultOther with
      | valid others =>
        cases results
        exact ⟨.same _, rfl⟩
      | invalid issues => cases results
    | invalid issues =>
      cases resultOther with
      | valid others => cases results
      | invalid others => exact ⟨.refused _ _, rfl⟩

end

/-- A respelled tree is built as the tree is. -/
theorem build_respelled (builder : Builder) {root other : Value}
    (respelled : root.Respelled builder.MayRespell other)
    (once : ∀ items, root.sequenceItems? = some items → ∀ item ∈ items, item.Throughout SpelledOnce)
    (spent : Spent) : BuildsAlike ((builder.build root).run spent) ((builder.build other).run spent) := by
  have items := respelled.sequenceItems?_rel
  rw [build, build]
  generalize root.sequenceItems? = items? at items once ⊢
  generalize other.sequenceItems? = others? at items ⊢
  cases items with
  | none => exact ⟨.same _, rfl, rfl⟩
  | @some items others each =>
    dsimp only
    split
    case isTrue strict =>
      obtain ⟨models, taken⟩ := builder.validate_respelled root other each (once items rfl) spent
      rw [StateT.run_bind, StateT.run_bind]
      exact ⟨models, rfl, taken⟩
    case isFalse relaxed =>
      have fixed (value : Value) (allowed : builder.MayRespell .fragmentSet value) :
          value.isCallable = false := (allowed.resolve_left relaxed) rfl
      rw [(salvageItems_respelled each fun item member _ respelled =>
        respelled.readAlike fixed (once items rfl item member)).1]
      exact ⟨.same _, rfl, rfl⟩

/-- The same ends the building of a respelled tree. -/
theorem obstacle?_respelled (builder : Builder) {root other : Value}
    (respelled : root.Respelled builder.MayRespell other)
    (once : ∀ items, root.sequenceItems? = some items → ∀ item ∈ items, item.Throughout SpelledOnce) :
    builder.obstacle? root = builder.obstacle? other := by
  have items := respelled.sequenceItems?_rel
  rw [obstacle?, obstacle?]
  split
  case isTrue strict => rfl
  case isFalse relaxed =>
    have fixed (value : Value) (allowed : builder.MayRespell .fragmentSet value) :
        value.isCallable = false := (allowed.resolve_left relaxed) rfl
    cases found : root.sequenceItems? with
    | none =>
      rw [found] at items
      cases foundOther : other.sequenceItems? with
      | none => rw [sequenceObstacle?_of_none found, sequenceObstacle?_of_none foundOther]
      | some =>
        rw [foundOther] at items
        cases items
    | some listed =>
      rw [found] at items
      cases foundOther : other.sequenceItems? with
      | none =>
        rw [foundOther] at items
        cases items
      | some others =>
        rw [foundOther] at items
        cases items with
        | some each =>
          rw [sequenceObstacle?_eq found, sequenceObstacle?_eq foundOther]
          exact (salvageItems_respelled each fun item member _ respelled =>
            respelled.readAlike fixed (once listed found item member)).2

/-- Building a respelled tree ends as building the tree does. -/
theorem attempt_respelled (builder : Builder) {root other : Value}
    (respelled : root.Respelled builder.MayRespell other)
    (once : ∀ items, root.sequenceItems? = some items → ∀ item ∈ items, item.Throughout SpelledOnce)
    (spent : Spent) : BuildsAlike ((builder.attempt root).run spent) ((builder.attempt other).run spent) := by
  have stopped := builder.obstacle?_respelled respelled once
  cases met : builder.obstacle? root with
  | none =>
    rw [attempt_of_none met, attempt_of_none (stopped.symm.trans met)]
    exact builder.build_respelled respelled once spent
  | some obstacle =>
    rw [attempt_of_some met, attempt_of_some (stopped.symm.trans met)]
    exact ⟨.same _, rfl, rfl⟩

end Builder

end ScenarioTree
