import ScenarioTree.Proofs.Schema.Fields

/-! # The grammar of nodes

A node is a built node of one of the six variants, or a mapping of one of six shapes. A shape is a list
of slots; a slot has its spellings, what may stand there, and whether something must. The grammar is
spelled out here without the fields that validation goes by, and a mapping has at most one shape.
-/

namespace ScenarioTree

inductive Content where
  | name
  | callable
  /-- A callable, or null for its absence. -/
  | optionalCallable
  /-- A sequence of nodes. -/
  | nodes
deriving DecidableEq

/-- Whether a value may stand in a slot. Of a sequence of nodes only its class is told here. -/
def Content.Fits : Content → Value → Prop
  | .name, value => ∃ text, value.Spells text ∧ text ≠ ""
  | .callable, value => value.isCallable = true
  | .optionalCallable, value => value = .null ∨ value.isCallable = true
  | .nodes, value => value.nodeItems?.isSome = true

structure Slot where
  keys : List String
  content : Content
  isRequired : Bool

namespace Slot

def must (keys : List String) (content : Content) : Slot := ⟨keys, content, true⟩

def may (keys : List String) (content : Content) : Slot := ⟨keys, content, false⟩

@[simp] theorem content_must (keys : List String) (content : Content) :
    (must keys content).content = content := rfl
@[simp] theorem content_may (keys : List String) (content : Content) :
    (may keys content).content = content := rfl
@[simp] theorem isRequired_must (keys : List String) (content : Content) :
    (must keys content).isRequired = true := rfl
@[simp] theorem isRequired_may (keys : List String) (content : Content) :
    (may keys content).isRequired = false := rfl

/-- What stands in the slot fits, and something does if it must. -/
def IsFilled (slot : Slot) (entries : List (Value × Value)) : Prop :=
  (slot.isRequired = true → ∃ key ∈ slot.keys, Value.hasName key entries = true) ∧
    ∀ key ∈ slot.keys, ∀ value, Value.named? key entries = some value → slot.content.Fits value

/-- A slot is filled when what fits stands under one of its spellings, and nothing under any other. -/
theorem isFilled_of_only {keys : List String} {content : Content} {entries : List (Value × Value)} {key : String}
    {value : Value} (spelled : key ∈ keys) (found : Value.named? key entries = some value)
    (fits : content.Fits value)
    (only : ∀ other ∈ keys, Value.hasName other entries = true → other = key) :
    (must keys content).IsFilled entries := by
  constructor
  · intro _
    refine ⟨key, spelled, ?_⟩
    rw [← Value.named?_isSome, found]
    rfl
  · intro other alike content named
    have present : Value.hasName other entries = true := by
      rw [← Value.named?_isSome, named]
      rfl
    rw [only other alike present, found] at named
    cases named
    exact fits

end Slot

def Variant.slots : Variant → List Slot
  | .plainGroup =>
    [.must ["feature"] .name, .may ["before"] .optionalCallable,
      .may ["beforeEach", "before_each"] .optionalCallable, .must ["tests"] .nodes]
  | .fanOutGroup =>
    [.must ["feature"] .name, .may ["before"] .optionalCallable,
      .may ["beforeEach", "before_each"] .optionalCallable,
      .must ["set", "fragment_set"] .callable, .may ["tests"] .nodes]
  | .fanOutLeaf =>
    [.must ["scenario"] .name, .must ["getActual", "get_actual"] .callable,
      .must ["comparison"] .callable, .must ["set", "fragment_set"] .callable,
      .may ["given"] .optionalCallable]
  | .inheritingLeaf =>
    [.must ["scenario"] .name, .may ["getDomFragment", "get_dom_fragment"] .optionalCallable,
      .must ["inherit"] .nodes]
  | .conditionalLeaf =>
    [.must ["scenario"] .name, .must ["getActual", "get_actual"] .callable,
      .must ["comparison"] .callable, .may ["getDomFragment", "get_dom_fragment"] .optionalCallable,
      .must ["given"] .callable]
  | .directLeaf =>
    [.must ["scenario"] .name, .must ["getActual", "get_actual"] .callable,
      .must ["comparison"] .callable, .may ["getDomFragment", "get_dom_fragment"] .optionalCallable]

structure Variant.IsShapeOf (variant : Variant) (entries : List (Value × Value)) : Prop where
  spelled : UsesSpellings (variant.slots.map Slot.keys) entries
  filled : ∀ slot ∈ variant.slots, slot.IsFilled entries

/-- A value is a node: it is built, or it is a mapping of some shape and the items that are left in its
sequences are nodes. -/
inductive IsNode (spent : Spent) : Value → Prop
  | built (node : Node) : IsNode spent (.ofNode node)
  | written {value : Value} {entries : List (Value × Value)} {variant : Variant}
      (mapping : value.entries? = some entries) (shape : variant.IsShapeOf entries)
      (below : ∀ slot ∈ variant.slots, slot.content = .nodes → ∀ key ∈ slot.keys, ∀ child items,
        Value.named? key entries = some child → child.remaining? spent = some items →
          ∀ item ∈ items, IsNode spent item) :
      IsNode spent value

/-- The spellings of a shape are those of the fields. -/
theorem Variant.map_keys (variant : Variant) :
    variant.fields.map Field.keys = variant.slots.map Slot.keys := by
  cases variant <;> rfl

theorem Variant.fields_disjoint (variant : Variant) :
    ∀ field ∈ variant.fields, ∀ other ∈ variant.fields, ∀ key ∈ field.keys, key ∈ other.keys →
      field = other := by
  cases variant <;> decide

theorem Variant.slot_nodes_iff {variant : Variant} {keys : List String} :
    (∃ slot ∈ variant.slots, slot.content = .nodes ∧ slot.keys = keys) ↔
      ∃ field, variant.childField? = some field ∧ keys = [field.name] := by
  cases variant <;> simp [Variant.slots, Slot.must, Slot.may, Variant.childField?, eq_comm, Field.tests,
    Field.inherited, Field.plain]

/-- The children of a mapping are what stands in the slot for nodes. -/
theorem Variant.child?_eq_some_iff {variant : Variant} {entries : List (Value × Value)} {child : Value} :
    variant.child? entries = some child ↔
      ∃ slot ∈ variant.slots, slot.content = .nodes ∧ ∃ key ∈ slot.keys,
        Value.named? key entries = some child := by
  rw [Variant.child?, Option.bind_eq_some_iff]
  constructor
  · rintro ⟨field, found, named⟩
    obtain ⟨slot, listed, nodes, keys⟩ := Variant.slot_nodes_iff.mpr ⟨field, found, rfl⟩
    exact ⟨slot, listed, nodes, field.name, by rw [keys]; exact List.mem_singleton_self _, named⟩
  · rintro ⟨slot, listed, nodes, key, spelled, named⟩
    obtain ⟨field, found, keys⟩ := Variant.slot_nodes_iff.mp ⟨slot, listed, nodes, rfl⟩
    rw [keys, List.mem_singleton] at spelled
    exact ⟨field, found, spelled ▸ named⟩

/-- The slot for nodes is filled when the children are a sequence, or none have to be there. -/
theorem Slot.isFilled_nodes_iff {variant : Variant} {entries : List (Value × Value)} {slot : Slot}
    (listed : slot ∈ variant.slots) (nodes : slot.content = .nodes) :
    slot.IsFilled entries ↔
      match variant.child? entries with
      | some child => child.nodeItems?.isSome = true
      | none => slot.isRequired = false := by
  obtain ⟨field, found, keys⟩ := Variant.slot_nodes_iff.mp ⟨slot, listed, nodes, rfl⟩
  have child : variant.child? entries = Value.named? field.name entries := by
    rw [Variant.child?, found, Option.bind_some]
  rw [IsFilled, keys, nodes, child]
  simp only [List.mem_singleton, forall_eq, exists_eq_left, ← Value.named?_isSome]
  cases Value.named? field.name entries <;> simp [Content.Fits]

section

variable {α : Type} {entries : List (Value × Value)}

theorem Variant.IsShapeOf.isCarried {variant : Variant} (shape : variant.IsShapeOf entries)
    {field : Field} {content : Content} (listed : .must field.keys content ∈ variant.slots) :
    field.isCarried entries = true := by
  obtain ⟨key, spelled, present⟩ := (shape.filled _ listed).1 rfl
  exact List.any_eq_true.mpr ⟨key, spelled, present⟩

private theorem Variant.IsShapeOf.not_isCarried {variant : Variant} (shape : variant.IsShapeOf entries)
    {field : Field} (foreign : ∀ key ∈ field.keys, key ∉ (variant.slots.map Slot.keys).flatten) :
    field.isCarried entries = false := by
  rw [Field.isCarried, List.any_eq_false]
  intro key spelled
  rw [shape.spelled.absent (foreign key spelled)]
  exact Bool.false_ne_true

theorem Variant.IsShapeOf.ofKeys? {variant : Variant} (shape : variant.IsShapeOf entries) :
    Variant.ofKeys? entries = some variant := by
  cases variant with
  | plainGroup =>
    have feature : Field.feature.isCarried entries = true := shape.isCarried (.head _)
    have set : Field.fragmentSet.isCarried entries = false := shape.not_isCarried (by decide)
    simp [Variant.ofKeys?, feature, set]
  | fanOutGroup =>
    have feature : Field.feature.isCarried entries = true := shape.isCarried (.head _)
    have set : Field.fragmentSet.isCarried entries = true :=
      shape.isCarried (.tail _ (.tail _ (.tail _ (.head _))))
    simp [Variant.ofKeys?, feature, set]
  | fanOutLeaf =>
    have feature : Field.feature.isCarried entries = false := shape.not_isCarried (by decide)
    have scenario : Field.scenario.isCarried entries = true := shape.isCarried (.head _)
    have set : Field.fragmentSet.isCarried entries = true :=
      shape.isCarried (.tail _ (.tail _ (.tail _ (.head _))))
    simp [Variant.ofKeys?, feature, scenario, set]
  | inheritingLeaf =>
    have feature : Field.feature.isCarried entries = false := shape.not_isCarried (by decide)
    have scenario : Field.scenario.isCarried entries = true := shape.isCarried (.head _)
    have set : Field.fragmentSet.isCarried entries = false := shape.not_isCarried (by decide)
    have inherited : Field.inherited.isCarried entries = true :=
      shape.isCarried (.tail _ (.tail _ (.head _)))
    simp [Variant.ofKeys?, feature, scenario, set, inherited]
  | conditionalLeaf =>
    have feature : Field.feature.isCarried entries = false := shape.not_isCarried (by decide)
    have scenario : Field.scenario.isCarried entries = true := shape.isCarried (.head _)
    have set : Field.fragmentSet.isCarried entries = false := shape.not_isCarried (by decide)
    have inherited : Field.inherited.isCarried entries = false := shape.not_isCarried (by decide)
    have given : Field.given.isCarried entries = true :=
      shape.isCarried (.tail _ (.tail _ (.tail _ (.tail _ (.head _)))))
    simp [Variant.ofKeys?, feature, scenario, set, inherited, given]
  | directLeaf =>
    have feature : Field.feature.isCarried entries = false := shape.not_isCarried (by decide)
    have scenario : Field.scenario.isCarried entries = true := shape.isCarried (.head _)
    have set : Field.fragmentSet.isCarried entries = false := shape.not_isCarried (by decide)
    have inherited : Field.inherited.isCarried entries = false := shape.not_isCarried (by decide)
    have given : Field.given.isCarried entries = false := shape.not_isCarried (by decide)
    simp [Variant.ofKeys?, feature, scenario, set, inherited, given]

/-- A mapping has at most one shape. -/
theorem Variant.IsShapeOf.unique {variant other : Variant} (shape : variant.IsShapeOf entries)
    (another : other.IsShapeOf entries) : variant = other := by
  have same := shape.ofKeys?
  rw [another.ofKeys?] at same
  exact (Option.some.inj same).symm

private theorem Field.required_isValid_iff {field : Field} {content : Content} {validate : Value → Validated α}
    (fits : ∀ value, (validate value).isValid = true ↔ content.Fits value)
    (unambiguous : IsUnambiguous field.keys entries) :
    (field.required validate entries).isValid = true ↔ (Slot.must field.keys content).IsFilled entries := by
  rw [Field.required]
  cases picked : field.pick? entries with
  | none =>
    have absent := pick?_eq_none_iff.mp picked
    refine ⟨nofun, fun filled => ?_⟩
    obtain ⟨key, spelled, present⟩ := filled.1 rfl
    rw [← Value.named?_isSome, absent key spelled] at present
    cases present
  | some found =>
    obtain ⟨key, value⟩ := found
    obtain ⟨spelled, named⟩ := mem_keys_of_pick? picked
    rw [Validated.isValid_within, fits]
    refine ⟨fun fit => ⟨fun _ => ⟨key, spelled, ?_⟩, fun other alike content present => ?_⟩,
      fun filled => filled.2 key spelled value named⟩
    · rw [← Value.named?_isSome, named]
      rfl
    · have same := (pick?_eq_some_iff unambiguous).mpr ⟨alike, present⟩
      rw [picked] at same
      cases same
      exact fit

/-- An optional field is valid exactly when its slot is filled or left out. -/
theorem Field.optional_isValid_iff {field : Field} {content : Content} {validate : Value → Validated α}
    {absent : α} (fits : ∀ value, (validate value).isValid = true ↔ content.Fits value)
    (unambiguous : IsUnambiguous field.keys entries) :
    (field.optional validate absent entries).isValid = true ↔
      (Slot.may field.keys content).IsFilled entries := by
  rw [Field.optional]
  cases picked : field.pick? entries with
  | none =>
    have missing := pick?_eq_none_iff.mp picked
    refine ⟨fun _ => ⟨nofun, fun key spelled value named => ?_⟩, fun _ => rfl⟩
    rw [missing key spelled] at named
    cases named
  | some found =>
    obtain ⟨key, value⟩ := found
    obtain ⟨spelled, named⟩ := mem_keys_of_pick? picked
    rw [Validated.isValid_within, fits]
    refine ⟨fun fit => ⟨nofun, fun other alike content present => ?_⟩,
      fun filled => filled.2 key spelled value named⟩
    have same := (pick?_eq_some_iff unambiguous).mpr ⟨alike, present⟩
    rw [picked] at same
    cases same
    exact fit

section

variable {variant : Variant} (spelled : UsesSpellings (variant.slots.map Slot.keys) entries)
  (field : Field) (keys : List String) (same : field.keys = keys)

include spelled same

private theorem Field.name_isValid_iff (listed : .must keys .name ∈ variant.slots) :
    (field.required validateName entries).isValid = true ↔ (Slot.must keys .name).IsFilled entries := by
  subst same
  exact required_isValid_iff validateName_isValid (spelled.unambiguous _ (List.mem_map_of_mem listed))

private theorem Field.callable_isValid_iff (listed : .must keys .callable ∈ variant.slots) :
    (field.required validateCallable entries).isValid = true ↔
      (Slot.must keys .callable).IsFilled entries := by
  subst same
  have fits (value : Value) :
      (validateCallable value).isValid = true ↔ Content.callable.Fits value := by
    rw [validateCallable_isValid]
    rfl
  exact required_isValid_iff fits (spelled.unambiguous _ (List.mem_map_of_mem listed))

/-- An optional callable is valid exactly when its slot is filled or left out. -/
theorem Field.optionalCallable_isValid_iff (listed : .may keys .optionalCallable ∈ variant.slots) :
    (field.optional validateOptional none entries).isValid = true ↔
      (Slot.may keys .optionalCallable).IsFilled entries := by
  subst same
  exact optional_isValid_iff validateOptional_isValid (spelled.unambiguous _ (List.mem_map_of_mem listed))

end

/-- The node of a variant is valid exactly when its slots other than the one for nodes are filled, and
the children are valid or may be left out. -/
theorem assemble_isValid_iff {variant : Variant} {children? : Option (Validated (List Node))}
    (spelled : UsesSpellings (variant.slots.map Slot.keys) entries) :
    (assemble variant entries children?).isValid = true ↔
      (∀ slot ∈ variant.slots, slot.content ≠ .nodes → slot.IsFilled entries) ∧
      ∀ slot ∈ variant.slots, slot.content = .nodes →
        match children? with
        | some children => children.isValid = true
        | none => slot.isRequired = false := by
  have used : extraIssues variant.fields entries = [] := by
    rw [extraIssues_eq_nil_iff_uses variant.fields_disjoint, variant.map_keys]
    exact spelled
  have feature := Field.name_isValid_iff spelled .feature ["feature"] rfl
  have scenario := Field.name_isValid_iff spelled .scenario ["scenario"] rfl
  have fragmentSet := Field.callable_isValid_iff spelled .fragmentSet ["set", "fragment_set"] rfl
  have getActual := Field.callable_isValid_iff spelled .getActual ["getActual", "get_actual"] rfl
  have comparison := Field.callable_isValid_iff spelled .comparison ["comparison"] rfl
  have before := Field.optionalCallable_isValid_iff spelled .before ["before"] rfl
  have beforeEach :=
    Field.optionalCallable_isValid_iff spelled .beforeEach ["beforeEach", "before_each"] rfl
  have getFragment :=
    Field.optionalCallable_isValid_iff spelled .getFragment ["getDomFragment", "get_dom_fragment"] rfl
  -- The rules of the fields are used at their places in the shape.
  cases variant with
  | plainGroup =>
    cases children? <;> simp [assemble, validateHead, Variant.slots, used, and_assoc, feature (.head _),
      before (.tail _ (.head _)), beforeEach (.tail _ (.tail _ (.head _)))]
  | fanOutGroup =>
    cases children? <;> simp [assemble, validateHead, Variant.slots, used, and_assoc, feature (.head _),
      before (.tail _ (.head _)), beforeEach (.tail _ (.tail _ (.head _))),
      fragmentSet (.tail _ (.tail _ (.tail _ (.head _))))]
  | fanOutLeaf =>
    have given := Field.optionalCallable_isValid_iff spelled .given ["given"] rfl
    simp [assemble, validateCheck, Variant.slots, used, and_assoc, scenario (.head _),
      getActual (.tail _ (.head _)), comparison (.tail _ (.tail _ (.head _))),
      fragmentSet (.tail _ (.tail _ (.tail _ (.head _)))),
      given (.tail _ (.tail _ (.tail _ (.tail _ (.head _)))))]
  | inheritingLeaf =>
    cases children? <;> simp [assemble, Variant.slots, used, and_assoc, scenario (.head _),
      getFragment (.tail _ (.head _))]
  | conditionalLeaf =>
    have given := Field.callable_isValid_iff spelled .given ["given"] rfl
    simp [assemble, validateCheck, Variant.slots, used, and_assoc, scenario (.head _),
      getActual (.tail _ (.head _)), comparison (.tail _ (.tail _ (.head _))),
      getFragment (.tail _ (.tail _ (.tail _ (.head _)))),
      given (.tail _ (.tail _ (.tail _ (.tail _ (.head _)))))]
  | directLeaf =>
    simp [assemble, validateCheck, Variant.slots, used, and_assoc, scenario (.head _),
      getActual (.tail _ (.head _)), comparison (.tail _ (.tail _ (.head _))),
      getFragment (.tail _ (.tail _ (.tail _ (.head _))))]

/-- A mapping with a valid node has no other keys than those of its shape. -/
theorem UsesSpellings.of_assemble {variant : Variant} {children? : Option (Validated (List Node))}
    (valid : (assemble variant entries children?).isValid = true) :
    UsesSpellings (variant.slots.map Slot.keys) entries := by
  rw [← variant.map_keys, ← extraIssues_eq_nil_iff_uses variant.fields_disjoint]
  simp only [assemble, Validated.isValid_besides, Bool.and_eq_true] at valid
  exact List.isEmpty_iff.mp valid.2

/-- A mapping with a valid node has the shape of its variant, if its children are a sequence. -/
theorem Variant.IsShapeOf.of_assemble {variant : Variant} {children? : Option (Validated (List Node))}
    (valid : (assemble variant entries children?).isValid = true)
    (children : ∀ slot ∈ variant.slots, slot.content = .nodes → slot.IsFilled entries) :
    variant.IsShapeOf entries where
  spelled := .of_assemble valid
  filled slot listed := by
    by_cases nodes : slot.content = .nodes
    · exact children slot listed nodes
    · exact ((assemble_isValid_iff (.of_assemble valid)).mp valid).1 slot listed nodes

/-- A mapping with a valid node and without children has the shape of its variant. -/
theorem Variant.IsShapeOf.of_childless {variant : Variant} (inside : variant.child? entries = none)
    (valid : (assemble variant entries none).isValid = true) : variant.IsShapeOf entries := by
  refine .of_assemble valid fun slot listed nodes => ?_
  rw [Slot.isFilled_nodes_iff listed nodes, inside]
  exact ((assemble_isValid_iff (.of_assemble valid)).mp valid).2 slot listed nodes

/-- A mapping with a valid node whose children are a sequence has the shape of its variant. -/
theorem Variant.IsShapeOf.of_children {variant : Variant} {child : Value}
    {children? : Option (Validated (List Node))} (inside : variant.child? entries = some child)
    (sequence : child.nodeItems?.isSome = true)
    (valid : (assemble variant entries children?).isValid = true) : variant.IsShapeOf entries := by
  refine .of_assemble valid fun slot listed nodes => ?_
  rw [Slot.isFilled_nodes_iff listed nodes, inside]
  exact sequence

theorem children_isValid_of_assemble {variant : Variant} {child : Value}
    {children : Validated (List Node)} (inside : variant.child? entries = some child)
    (valid : (assemble variant entries (some children)).isValid = true) :
    children.isValid = true := by
  obtain ⟨slot, listed, nodes, _⟩ := Variant.child?_eq_some_iff.mp inside
  exact ((assemble_isValid_iff (.of_assemble valid)).mp valid).2 slot listed nodes

end

end ScenarioTree
