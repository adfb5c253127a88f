import ScenarioTree.Proofs.Expansion.Composition
import ScenarioTree.Proofs.Expansion.Course
import ScenarioTree.Proofs.Expansion.Refinement
import ScenarioTree.Proofs.Schema.Obstacles

/-! # Well-typed trees do not go wrong

A built node is well-typed when it is of one of the six variants and every attribute holds what the variant
requires there, down to the last child. All that is built of a tree without outsiders is well-typed, and then
declaring the tree fails for reasons of the tree alone: strict building refuses it, relaxed building reads a name
that cannot be shown, a callable that it offers to expansion raises, or one of its fragment sets returns
something that cannot be iterated over. Whichever it is, it is the last thing that happens.
-/

namespace ScenarioTree

/-- What stands in the attribute of a built node. -/
def Content.Stands : Content → Value → Prop
  | .name, value => ∃ text, value = .str text ∧ text ≠ ""
  | .callable, value => value.isCallable = true
  | .optionalCallable, value => value = .null ∨ value.isCallable = true
  | .nodes, value => ∃ items, value = .tuple items

/-- The attributes of the nodes of a variant: the display name, and the fields with what their slots hold. -/
def Variant.attributes (variant : Variant) : List (String × Content) :=
  ("name", .name) :: (variant.fields.map Field.name).zip (variant.slots.map Slot.content)

/-- A value is a built node of one of the six variants, exposes the kind and the attributes of the variant,
and whatever tuple it exposes holds such nodes. -/
inductive Value.IsWellTyped : Value → Prop
  | node {model : Model} {variant : Variant} (ofClass : model.modelClass = .variant variant)
      (kind : (Value.model model).exposed? "kind" = some (.str variant.tag))
      (attributes : ∀ name content, (name, content) ∈ variant.attributes →
        ∃ value, (Value.model model).exposed? name = some value ∧ content.Stands value)
      (below : ∀ name items, (Value.model model).exposed? name = some (.tuple items) →
        ∀ item ∈ items, IsWellTyped item) :
      IsWellTyped (.model model)

section

variable {node : Node}

private theorem Content.stands_ofOption (optional : Option Callable) :
    Content.optionalCallable.Stands (.ofOption optional) := by
  cases optional with
  | none => exact .inl rfl
  | some callable => exact .inr rfl

private theorem Node.eq_children_of_mem_fields {name : String} {items : List Value}
    (listed : (name, .tuple items) ∈ node.fields) : items = node.children.map .ofNode := by
  have optional (callable? : Option Callable) : Value.tuple items ≠ .ofOption callable? := by
    cases callable? <;> exact nofun
  cases node <;>
    simp [fields, GroupHead.fields, Check.fields, optional, Value.ofNodes] at listed <;> exact listed.2

private theorem Node.eq_children_of_exposed? {name : String} {items : List Value}
    (exposes : (Value.ofNode node).exposed? name = some (.tuple items)) :
    items = node.children.map .ofNode := by
  rw [Value.exposed?] at exposes
  cases found : (Model.node node).fields.lookup name with
  | some value =>
    rw [found] at exposes
    cases exposes
    obtain ⟨before, after, same, _⟩ := List.lookup_eq_some_iff.mp found
    have listed : (name, .tuple items) ∈ before ++ (name, .tuple items) :: after :=
      List.mem_append_right _ (List.mem_cons_self ..)
    rw [← same] at listed
    exact eq_children_of_mem_fields listed
  | none =>
    rw [found] at exposes
    dsimp only at exposes
    split at exposes
    · cases exposes
    · split at exposes
      · cases exposes
      · cases exposes

private theorem Node.exposes_attributes (node : Node) : ∀ place ∈ node.variant.attributes,
    ∃ value, (Value.ofNode node).exposed? place.1 = some value ∧ place.2.Stands value := by
  have title : Content.name.Stands (.str node.name) := ⟨_, rfl, node.displayName.nonempty⟩
  have callable (callable : Callable) : Content.callable.Stands (.callable callable) := rfl
  have optional := Content.stands_ofOption
  have none := List.forall_mem_nil fun place : String × Content =>
    ∃ value, (Value.ofNode node).exposed? place.1 = some value ∧ place.2.Stands value
  have nodes (nodes : List Node) : Content.nodes.Stands (.ofNodes nodes) := ⟨_, rfl⟩
  cases node <;>
    simp only [variant, Variant.attributes, Variant.fields, Variant.slots, Slot.content_must,
      Slot.content_may, List.map_cons, List.map_nil, List.zip_cons_cons, List.zip_nil_right,
      List.forall_mem_cons]
  case plainGroup =>
    exact ⟨⟨_, rfl, title⟩, ⟨_, rfl, title⟩, ⟨_, rfl, optional _⟩, ⟨_, rfl, optional _⟩, ⟨_, rfl, nodes _⟩,
      none⟩
  case fanOutGroup =>
    exact ⟨⟨_, rfl, title⟩, ⟨_, rfl, title⟩, ⟨_, rfl, optional _⟩, ⟨_, rfl, optional _⟩,
      ⟨_, rfl, callable _⟩, ⟨_, rfl, nodes _⟩, none⟩
  case directLeaf =>
    exact ⟨⟨_, rfl, title⟩, ⟨_, rfl, title⟩, ⟨_, rfl, callable _⟩, ⟨_, rfl, callable _⟩,
      ⟨_, rfl, optional _⟩, none⟩
  case conditionalLeaf =>
    exact ⟨⟨_, rfl, title⟩, ⟨_, rfl, title⟩, ⟨_, rfl, callable _⟩, ⟨_, rfl, callable _⟩,
      ⟨_, rfl, optional _⟩, ⟨_, rfl, callable _⟩, none⟩
  case fanOutLeaf =>
    exact ⟨⟨_, rfl, title⟩, ⟨_, rfl, title⟩, ⟨_, rfl, callable _⟩, ⟨_, rfl, callable _⟩,
      ⟨_, rfl, callable _⟩, ⟨_, rfl, optional _⟩, none⟩
  case inheritingLeaf =>
    exact ⟨⟨_, rfl, title⟩, ⟨_, rfl, title⟩, ⟨_, rfl, optional _⟩, ⟨_, rfl, nodes _⟩, none⟩

private theorem Node.isWellTyped (node : Node) : (Value.ofNode node).IsWellTyped := by
  induction node.throughout_of_forall (fun _ => trivial : ∀ _, True) with
  | @node node _ _ ih =>
    refine .node rfl ?kind (fun name content => node.exposes_attributes (name, content)) ?below
    case kind => cases node <;> rfl
    case below =>
      intro name items exposes item member
      rw [eq_children_of_exposed? exposes] at member
      obtain ⟨child, listed, rfl⟩ := List.mem_map.mp member
      exact ih child listed

end

private theorem allAsk_of_forall_mem {question source : Callable → Prop} {nodes : List Node}
    (each : ∀ node ∈ nodes, node.Asks question source) : AllAsk question source nodes := by
  induction nodes with
  | nil => trivial
  | cons node rest ih =>
    obtain ⟨own, others⟩ := List.forall_mem_cons.mp each
    exact ⟨own, ih others⟩

/-- The callables that expansion asks of a furnished node are among those that are offered. -/
theorem Node.Throughout.asks {offered : Field → Callable → Prop} {node : Node}
    (furnished : node.Throughout (IsFurnished offered)) :
    node.Asks (fun callable => offered .given callable ∨ offered .getFragment callable)
      (offered .fragmentSet) := by
  induction furnished with
  | @node node here _ ih =>
    have source := here .fragmentSet (by decide)
    have given := here .given (by decide)
    have getter := here .getFragment (by decide)
    have below := allAsk_of_forall_mem ih
    cases node with
    | plainGroup head tests => exact below
    | fanOutGroup head fragmentSet tests =>
      exact ⟨source _ (by simp [fields, Field.name_fragmentSet]), below⟩
    | directLeaf name check getFragment =>
      rintro callable ⟨⟩
      exact .inr (getter _ (by simp [fields, Field.name_getFragment]))
    | conditionalLeaf name check getFragment condition =>
      refine ⟨.inl (given _ (by simp [fields, Field.name_given])), ?_⟩
      rintro callable ⟨⟩
      exact .inr (getter _ (by simp [fields, Field.name_getFragment]))
    | fanOutLeaf name check fragmentSet condition =>
      refine ⟨source _ (by simp [fields, Field.name_fragmentSet]), ?_⟩
      rintro callable ⟨⟩
      exact .inl (given _ (by simp [fields, Field.name_given]))
    | inheritingLeaf name getFragment inherited =>
      refine ⟨?_, below⟩
      rintro callable ⟨⟩
      exact .inr (getter _ (by simp [fields, Field.name_getFragment]))

variable {σ : Type}

/-- Taking the elements of a value fails when it cannot be iterated over, and changes nothing then. -/
theorem run_elements_eq_error {value : Value} {world after : World σ} {failure : Failure}
    (failed : (elements value).run.run world = (.error failure, after)) :
    value.isIterable = false ∧ failure = .notIterable value.className ∧ after = world := by
  cases iterable : value.isIterable with
  | true =>
    obtain ⟨_, _, returned, _⟩ := elements_returns (fun _ => True) iterable world trivial
    cases returned.symm.trans failed
  | false =>
    cases value with
    | iter => cases iterable
    | _ =>
      simp only [elements] at failed
      split at failed
      · cases failed
      · cases failed
        exact ⟨rfl, rfl, rfl⟩

section

variable {behaviour : Behaviour σ} {question source : Callable → Prop} {blamed : Failure → World σ → Prop}

/-- Expansion fails only as blamed, when calls of what it asks are blamed for what they raise, and fragment
sets for what cannot be iterated over. -/
theorem Declaring.failsOnly_isCompositional
    (raised : ∀ callable, question callable ∨ source callable → ∀ arguments world failure after,
      (call behaviour (.callable callable) arguments).run.run world = (.error failure, after) →
        blamed failure after)
    (notIterable : ∀ fragmentSet, source fragmentSet → ∀ scope world found after,
      (call behaviour (.callable fragmentSet) [scope]).run.run world = (.ok found, after) →
        found.isIterable = false → blamed (.notIterable found.className) after) :
    IsCompositional behaviour question source
      (FailsOnly fun failure recording => blamed failure recording.world) where
  nothing _ _ _ := nofun
  hook _ _ _ _ _ := nofun
  test _ _ _ _ _ := nofun
  followed first others := first.bind fun _ => others
  group name body fails := by
    intro recording failure after failed
    let entered := { recording with recorder := recording.recorder.enter name }
    obtain ⟨own, rfl⟩ := Prod.mk.inj failed
    exact fails entered failure (body.run.run entered).2 (Prod.ext own rfl)
  asked arguments _ asks fails := .bind (.ofRun (raised _ (.inl asks) arguments)) fails
  taken {fragmentSet} scope _ takes fails := by
    refine .bind (.ofRun fun world failure after failed => ?_) fails
    rw [fragments, run_bind] at failed
    split at failed
    · rename_i found middle returned
      obtain ⟨uniterable, rfl, rfl⟩ := run_elements_eq_error failed
      exact notIterable fragmentSet takes scope world found _ returned uniterable
    · rename_i ended
      cases failed
      exact raised fragmentSet (.inr takes) [scope] world _ _ ended

end

/-- Why a visit fails, and the world that is left then: strict building refuses the tree, relaxed building reads
a name that cannot be shown, a callable that the tree offers to expansion raises, or a fragment set returns what
cannot be iterated over. -/
inductive Visit.FailsBy (behaviour : Behaviour σ) (visit : Visit) (before : World σ) :
    Failure → World σ → Prop
  | refused {issues : List Issue} {after : World σ} (isStrict : visit.builder.strict = true)
      (built : (visit.builder.run visit.nodes).run.run before =
        (.error (.invalidTree (.ofIssues visit.nodes issues visit.builder.filename)), after)) :
      FailsBy behaviour visit before
        (.invalidTree (.ofIssues visit.nodes issues visit.builder.filename)) after
  | hidden {part : Value} {error : RaisedError} {after : World σ} (isRelaxed : visit.builder.strict = false)
      (read : visit.nodes.Reads part) (hides : part.HidesName error)
      (built : (visit.builder.run visit.nodes).run.run before = (.error (.raised error), after)) :
      FailsBy behaviour visit before (.raised error) after
  | raised {field : Field} {callable : Callable} {arguments : List Value} {world after : World σ}
      {failure : Failure} (asked : field ∈ askedFields) (offered : visit.nodes.Offers field callable)
      (called : (call behaviour (.callable callable) arguments).run.run world = (.error failure, after)) :
      FailsBy behaviour visit before failure after
  | notIterable {fragmentSet : Callable} {scope found : Value} {world after : World σ}
      (offered : visit.nodes.Offers .fragmentSet fragmentSet)
      (called : (call behaviour (.callable fragmentSet) [scope]).run.run world = (.ok found, after))
      (uniterable : found.isIterable = false) :
      FailsBy behaviour visit before (.notIterable found.className) after

/-- Declaring furnished nodes fails only by what they are furnished with. -/
theorem Visit.expandModels_failsOnly (behaviour : Behaviour σ) (visit : Visit) (before : World σ)
    (scope context index : Value) {models : List Model}
    (furnished : ∀ model ∈ models, model.IsFurnishedBy visit.nodes) :
    FailsOnly (fun failure recording => visit.FailsBy behaviour before failure recording.world)
      (expandModels behaviour scope context index models) := by
  have compositional : Declaring.IsCompositional behaviour
      (fun callable => visit.nodes.Offers .given callable ∨ visit.nodes.Offers .getFragment callable)
      (visit.nodes.Offers .fragmentSet)
      (FailsOnly fun failure recording => visit.FailsBy behaviour before failure recording.world) := by
    refine Declaring.failsOnly_isCompositional ?_ fun fragmentSet offered scope world found after called =>
      .notIterable offered called
    rintro callable ((given | getter) | source) arguments world failure after called
    · exact .raised (by decide : .given ∈ askedFields) given called
    · exact .raised (by decide : .getFragment ∈ askedFields) getter called
    · exact .raised (by decide : .fragmentSet ∈ askedFields) source called
  induction models with
  | nil => exact compositional.nothing
  | cons model rest ih =>
    obtain ⟨⟨node, rfl, throughout⟩, others⟩ := List.forall_mem_cons.mp furnished
    exact compositional.followed (compositional.ofNode node throughout.asks scope context index) (ih others)

/-- The entries of a scenario that relaxed building reads with stand-ins. -/
def draftEntries : List (Value × Value) :=
  [(.str "given", .callable (.defined 5 "open" .object)), (.str "scenario", .int 7),
    (.str "comparison", .null), (.str "note", .str "draft")]

/-- The entries of a group that fans out over a built scenario. -/
def indexEntries : List (Value × Value) :=
  [(.str "feature", .str "Index"), (.str "set", .callable (.defined 4 "pages" .function)),
    (.str "tests", .deque [.ofNode footerLeaf])]

/-- The scenario and the group, with a number between them, to be declared against a page. -/
def draftVisit : Visit where
  entry := .scope
  builder := { strict := false }
  nodes := .tuple [.map draftEntries, .int 3, .proxy indexEntries]
  scope := .str "page"

/-- The nodes of the scenario and of the group. -/
def draftNodes : List Node :=
  [.conditionalLeaf (.of "7") ⟨.missing "getActual", .missing "comparison"⟩ none (.defined 5 "open" .object),
    .fanOutGroup ⟨.of "Index", none, none⟩ (.defined 4 "pages" .function) [footerLeaf]]

def draftParts : List Value :=
  [draftVisit.nodes, .map draftEntries, .callable (.defined 5 "open" .object), .int 7, .null, .str "draft",
    .int 3, .proxy indexEntries, .str "Index", .callable (.defined 4 "pages" .function),
    .deque [.ofNode footerLeaf], .ofNode footerLeaf, .str "Footer", .callable (.defined 1 "read" .object),
    .callable (.defined 2 "check" .function)]

private theorem mem_draftParts {part : Value} (inside : draftVisit.nodes.HasPart part) : part ∈ draftParts := by
  refine inside.mem_of_closed (.head _) ?_
  simp [draftParts, draftVisit, draftEntries, indexEntries, footerLeaf, Value.parts, Model.fields,
    Node.fields, Check.fields, Value.ofOption]

/-- A group whose name cannot be shown, to be declared relaxedly. -/
def hiddenVisit : Visit := { entry := .nodes, builder := { strict := false }, nodes := .list [hiddenGroup] }

end ScenarioTree
