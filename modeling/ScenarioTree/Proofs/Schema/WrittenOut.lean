import Mathlib.Data.List.Forall2
import ScenarioTree.Proofs.Schema.Concatenation
import ScenarioTree.Proofs.Schema.Origin

/-! # Nodes written out

A built node is written out as the mapping of its fields by attribute: optional callables that are absent
are null, and its children are a tuple, in which each child stands as it is or is written out itself. The
attributes of a variant carry the keys that tell this variant from the others, so strict building makes the
same node of the mapping again, whichever of the children are written out.
-/

namespace ScenarioTree

namespace Node

/-- The entries of a node that is written out, with the values that stand for its children. -/
def writtenEntries (node : Node) (children : List Value) : List (Value × Value) :=
  node.fields.map fun (name, value) =>
    (.str name, if childFields.any fun field => field.name == name then .tuple children else value)

/-- A value stands for a node: the node itself, or the mapping of its fields in which a value stands for
each child. -/
inductive IsWrittenAs : Node → Value → Prop
  | kept (node : Node) : IsWrittenAs node (.ofNode node)
  | mapping {node : Node} {children : List Value}
      (each : List.Forall₂ IsWrittenAs node.children children) :
      IsWrittenAs node (.map (node.writtenEntries children))

/-- A node whose descendants are all written out, too. -/
def unfolded (node : Node) : Value :=
  .map (node.writtenEntries (node.children.attach.map fun child => child.1.unfolded))
termination_by sizeOf node
decreasing_by exact sizeOf_child_lt child.2

private theorem unfolded_eq (node : Node) :
    node.unfolded = .map (node.writtenEntries (node.children.map unfolded)) := by
  rw [unfolded, List.map_attach_eq_pmap, List.pmap_eq_map]

/-- Each of the given nodes is written as a function gives it. -/
theorem forall₂_isWrittenAs {write : Node → Value} {nodes : List Node}
    (written : ∀ node ∈ nodes, node.IsWrittenAs (write node)) :
    List.Forall₂ IsWrittenAs nodes (nodes.map write) :=
  List.forall₂_map_right_iff.mpr (List.forall₂_same.mpr written)

/-- With its children as they are, a node is written out by its fields as they are. -/
theorem isWrittenAs_fields (node : Node) :
    node.IsWrittenAs (.map (node.fields.map fun (name, value) => (.str name, value))) := by
  have same : (node.fields.map fun (name, value) => (Value.str name, value)) =
      node.writtenEntries (node.children.map .ofNode) := by
    cases node <;> rfl
  rw [same]
  exact .mapping (forall₂_isWrittenAs fun child _ => .kept child)

private theorem isWrittenAs_unfolded (node : Node) : node.IsWrittenAs node.unfolded := by
  rw [unfolded_eq]
  refine .mapping (forall₂_isWrittenAs fun child member => ?_)
  have smaller := sizeOf_child_lt member
  exact child.isWrittenAs_unfolded
termination_by sizeOf node

private theorem ofKeys?_writtenEntries (node : Node) (children : List Value) :
    Variant.ofKeys? (node.writtenEntries children) = some node.variant := by
  cases node <;> rfl

/-- The children of a node that is written out stand under the field for them, if its variant has one. -/
theorem child?_writtenEntries (node : Node) (children : List Value) :
    node.variant.child? (node.writtenEntries children) =
      node.variant.childField?.map fun _ => .tuple children := by
  cases node <;> rfl

end Node

namespace Field

variable {α : Type} {field : Field} {validate : Value → Validated α} {entries : List (Value × Value)}
  {key : String} {value : Value} {result : α}

private theorem required_eq_valid (picked : field.pick? entries = some (key, value))
    (valid : validate value = .valid result) : field.required validate entries = .valid result := by
  rw [required, picked]
  exact Validated.within_eq_valid_iff.mpr valid

private theorem optional_eq_valid {absent : α} (picked : field.pick? entries = some (key, value))
    (valid : validate value = .valid result) :
    field.optional validate absent entries = .valid result := by
  rw [optional, picked]
  exact Validated.within_eq_valid_iff.mpr valid

private theorem required_name {name : DisplayName} (picked : field.pick? entries = some (key, .str name)) :
    field.required validateName entries = .valid name :=
  required_eq_valid picked (validateName_eq_valid_iff.mpr rfl)

private theorem required_callable {callable : Callable}
    (picked : field.pick? entries = some (key, .callable callable)) :
    field.required validateCallable entries = .valid callable :=
  required_eq_valid picked rfl

/-- An optional callable is read from its field, also when it is null. -/
theorem optional_callable {optional : Option Callable}
    (picked : field.pick? entries = some (key, .ofOption optional)) :
    field.optional validateOptional none entries = .valid optional :=
  optional_eq_valid picked (by cases optional <;> rfl)

end Field

private theorem validateHead_eq_valid {head : GroupHead} {entries : List (Value × Value)}
    (feature : Field.feature.pick? entries = some ("feature", .str head.name))
    (before : Field.before.pick? entries = some ("before", .ofOption head.before))
    (beforeEach : Field.beforeEach.pick? entries = some ("before_each", .ofOption head.beforeEach)) :
    validateHead entries = .valid head := by
  rw [validateHead, Field.required_name feature, Field.optional_callable before,
    Field.optional_callable beforeEach]
  rfl

private theorem validateCheck_eq_valid {check : Check} {entries : List (Value × Value)}
    (getActual : Field.getActual.pick? entries = some ("get_actual", .callable check.getActual))
    (comparison : Field.comparison.pick? entries = some ("comparison", .callable check.comparison)) :
    validateCheck entries = .valid check := by
  rw [validateCheck, Field.required_callable getActual, Field.required_callable comparison]
  rfl

namespace Node

private theorem assemble_writtenEntries (node : Node) (children : List Value) :
    assemble node.variant (node.writtenEntries children)
      (node.variant.childField?.map fun _ => .valid node.children) = .valid node := by
  cases node <;>
    simp only [variant, assemble, Validated.besides_eq_valid_iff, Validated.seq_eq_valid_iff,
      Validated.map_eq_valid_iff]
  case plainGroup head tests =>
    have heads : validateHead (writtenEntries (.plainGroup head tests) children) = .valid head :=
      validateHead_eq_valid rfl rfl rfl
    exact ⟨⟨_, tests, ⟨head, heads, rfl⟩, rfl, rfl⟩, rfl⟩
  case fanOutGroup head fragmentSet tests =>
    have heads : validateHead (writtenEntries (.fanOutGroup head fragmentSet tests) children) = .valid head :=
      validateHead_eq_valid rfl rfl rfl
    exact ⟨⟨_, tests, ⟨_, fragmentSet, ⟨head, heads, rfl⟩, Field.required_callable rfl, rfl⟩, rfl, rfl⟩, rfl⟩
  case directLeaf name check getFragment =>
    exact ⟨⟨_, getFragment, ⟨_, check, ⟨name, Field.required_name rfl, rfl⟩,
      validateCheck_eq_valid rfl rfl, rfl⟩, Field.optional_callable rfl, rfl⟩, rfl⟩
  case conditionalLeaf name check getFragment given =>
    exact ⟨⟨_, given, ⟨_, getFragment, ⟨_, check, ⟨name, Field.required_name rfl, rfl⟩,
      validateCheck_eq_valid rfl rfl, rfl⟩, Field.optional_callable rfl, rfl⟩, Field.required_callable rfl,
      rfl⟩, rfl⟩
  case fanOutLeaf name check fragmentSet given =>
    exact ⟨⟨_, given, ⟨_, fragmentSet, ⟨_, check, ⟨name, Field.required_name rfl, rfl⟩,
      validateCheck_eq_valid rfl rfl, rfl⟩, Field.required_callable rfl, rfl⟩, Field.optional_callable rfl,
      rfl⟩, rfl⟩
  case inheritingLeaf name getFragment inherited =>
    exact ⟨⟨_, inherited, ⟨_, getFragment, ⟨name, Field.required_name rfl, rfl⟩,
      Field.optional_callable rfl, rfl⟩, rfl, rfl⟩, rfl⟩

/-- Values that stand for nodes one by one are validated as these nodes, if each of them is. -/
theorem run_validateItems_of_forall₂ {nodes : List Node} {values : List Value} {position : Nat}
    {spent : Spent}
    (each : List.Forall₂ (fun node value => (validateNode value).run spent = (.valid node, spent)) nodes
      values) :
    (validateItems position values).run spent = (.valid nodes, spent) := by
  induction each generalizing position with
  | nil => rfl
  | cons own _ ih => exact run_validateItems_cons_eq_valid_iff.mpr ⟨_, _, _, own, ih, rfl⟩

/-- Whatever stands for a node is validated as this node, and nothing is taken from an iterator. -/
theorem IsWrittenAs.validated {node : Node} {value : Value} (written : node.IsWrittenAs value) (spent : Spent) :
    (validateNode value).run spent = (.valid node, spent) := by
  induction node.throughout_of_forall (fun _ => trivial : ∀ _, True) generalizing value with
  | @node node _ below ih =>
    cases written with
    | kept => rfl
    | @mapping _ children each =>
      have items : (validateItems 0 children).run spent = (.valid node.children, spent) := by
        have both := (List.forall₂_and_left node.children children).mpr ⟨ih, each⟩
        exact run_validateItems_of_forall₂ (both.imp fun _ _ own => own.1 own.2)
      rw [run_validateNode_mapping rfl, ofKeys?_writtenEntries]
      dsimp only
      have ran : (validateVariant node.variant (node.writtenEntries children)).run spent =
          (.valid node, spent) := by
        have assembled := assemble_writtenEntries node children
        rw [run_validateVariant, child?_writtenEntries]
        cases childField : node.variant.childField? with
        | none =>
          rw [childField] at assembled
          exact congrArg (·, spent) assembled
        | some field =>
          rw [childField] at assembled
          have sequence : (validateSequence .tupleType (.tuple children)).run spent =
              (.valid node.children, spent) := items
          dsimp only [Option.map_some]
          rw [sequence]
          exact congrArg (·, spent) assembled
      rw [ran]
      rfl

private theorem IsWrittenAs.rebuilt {node : Node} {value : Value} (written : node.IsWrittenAs value)
    (filename : Option String) (spent : Spent) :
    (Builder.build { filename } (.list [value])).run spent = ({ models := .ok [.node node] }, spent) := by
  have ran : (validateItems 0 [value]).run spent = (.valid [node], spent) :=
    run_validateItems_cons_eq_valid_iff.mpr ⟨_, _, _, written.validated spent, rfl, rfl⟩
  exact (Builder.accepts_iff filename).mpr (.inr ⟨[node], ran, rfl⟩)

end Node

/-- Every node is rebuilt by its own fields, as is every node below it. The mapping of its fields may have
the children as they are, all of them written out, or some of each. -/
theorem Builder.build_writtenOut (node : Node) :
    node.Throughout fun part =>
      part.IsWrittenAs (.map (part.fields.map fun (name, value) => (.str name, value))) ∧
      part.IsWrittenAs part.unfolded ∧
      ∀ value, part.IsWrittenAs value → ∀ (filename : Option String) (later : Spent),
        (Builder.build { filename } (.list [value])).run later =
          ({ models := .ok [.node part] }, later) :=
  node.throughout_of_forall fun part =>
    ⟨part.isWrittenAs_fields, part.isWrittenAs_unfolded, fun _ written => written.rebuilt⟩

/-- The entries of a scenario that delegates to a built one. -/
def slidesEntries : List (Value × Value) :=
  [(.str "scenario", .bytes [83, 108, 105, 100, 101, 115]), (.str "inherit", .tuple [.ofNode footerLeaf])]

/-- The entries of a group of the scenario. -/
def galleryEntries : List (Value × Value) :=
  [(.str "feature", .str "Gallery"), (.str "beforeEach", .callable (.defined 3 "open" .object)),
    (.str "tests", .deque [.map slidesEntries])]

def galleryGroup : Node :=
  .plainGroup ⟨.of "Gallery", none, some (.defined 3 "open" .object)⟩
    [.inheritingLeaf (.of "Slides") none [footerLeaf]]

/-- The group is rebuilt by the mapping of its fields, with the scenarios below it as mappings, too. -/
theorem galleryGroup_rebuilt :
    ((Builder.build {} (.list [.map galleryEntries])).run []).1.models = .ok [.node galleryGroup] ∧
    (Builder.build {} (.list [galleryGroup.unfolded])).run [] =
      ({ models := .ok [.node galleryGroup] }, []) := by
  obtain ⟨⟨_, unfolded, rebuilt⟩, _⟩ := Builder.build_writtenOut galleryGroup
  exact ⟨rfl, rebuilt _ unfolded none []⟩

end ScenarioTree
