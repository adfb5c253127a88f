import ScenarioTree.Proofs.Expansion.Composition
import ScenarioTree.Proofs.Expansion.Course
import ScenarioTree.Proofs.Expansion.Refinement

/-! # Walks that build again

A walk builds the tree that it is given, and builds again whatever is below a node, at every level and
once for every fragment. Nothing tells it that the children of a node are built already. Here the walk is
spelled out with all its builds. It declares what expansion declares, because every build but the first
one gives back the nodes it was given.
-/

namespace ScenarioTree

/-- A build during a walk: the tree, what was built of it, and the recordings around the build. -/
structure Build (σ : Type) where
  tree : Value
  before : Recording σ
  built : Built
  after : Recording σ

/-- A build that gives back the built nodes of its tree, warns about nothing and changes nothing. -/
def Build.IsRepetition {σ : Type} (build : Build σ) : Prop :=
  ∃ models, build.tree = .ofModels models ∧ build.built = { models := .ok models } ∧
    build.after = build.before

def Builder.buildFrom {σ : Type} (builder : Builder) (recording : Recording σ) (tree : Value) : Build σ where
  tree
  before := recording
  built := ((builder.attempt tree).run recording.world.spent).1
  after := { recording with world := ((builder.run tree).run.run recording.world).2 }

/-- The recording of a walk and the builds so far. -/
structure Chronicle (σ : Type) where
  recording : Recording σ
  builds : List (Build σ) := []

/-- A computation that walks, if it ends. -/
abbrev Walking (σ : Type) := ExceptT Failure (StateT (Chronicle σ) Option)

variable {σ α β : Type}

namespace Walking

def ofDeclaring (declaring : Declaring σ α) : Walking σ α := ExceptT.mk fun chronicle =>
  let (result, recording) := declaring.run.run chronicle.recording
  some (result, { chronicle with recording })

def build (builder : Builder) (tree : Value) : Walking σ (List Model) := ExceptT.mk fun chronicle =>
  let build := builder.buildFrom chronicle.recording tree
  some (build.built.models, ⟨build.after, chronicle.builds ++ [build]⟩)

def group (name : String) (body : Walking σ Unit) : Walking σ Unit := ExceptT.mk fun chronicle => do
  let entered := { chronicle.recording with recorder := chronicle.recording.recorder.enter name }
  let (result, after) ← body.run.run { chronicle with recording := entered }
  let left := { after.recording with recorder := after.recording.recorder.leave }
  some (result, { after with recording := left })

/-- Walks inside one group for every fragment, from the given position on. -/
def positions (body : Value → Nat → Walking σ Unit) (position : Nat) : List Value → Walking σ Unit
  | [] => pure ()
  | fragment :: rest => do
    group (positionName position) (body fragment position)
    positions body (position + 1) rest

end Walking

/-- Walks a node. What walks the sequence below a node is given, with what that sees: its scope, context
and index. -/
def walkNode (behaviour : Behaviour σ) (below : Value → Value → Value → Value → Walking σ Unit)
    (scope context index : Value) : Node → Walking σ Unit
  | .plainGroup head tests =>
    Walking.group head.name do
      Walking.ofDeclaring (head.declareHooks scope context)
      below (.ofNodes tests) scope context .null
  | .fanOutGroup head fragmentSet tests => do
    let scopes ← Walking.ofDeclaring (Declaring.ofRun (fragments behaviour fragmentSet scope))
    Walking.group head.name do
      Walking.ofDeclaring (head.declareHooks scope context)
      Walking.positions
        (fun fragment (position : Nat) => below (.ofNodes tests) fragment context (.int position)) 0 scopes
  | .inheritingLeaf name getFragment inherited =>
    Walking.group name do
      let subject := Value.ofNode (.inheritingLeaf name getFragment inherited)
      let fragment ← Walking.ofDeclaring (Declaring.ofRun (ownScope behaviour subject scope))
      below (.ofNodes inherited) fragment context .null
  | .directLeaf name check getFragment =>
    Walking.ofDeclaring (expandNode behaviour scope context index (.directLeaf name check getFragment))
  | .conditionalLeaf name check getFragment given =>
    Walking.ofDeclaring
      (expandNode behaviour scope context index (.conditionalLeaf name check getFragment given))
  | .fanOutLeaf name check fragmentSet given =>
    Walking.ofDeclaring (expandNode behaviour scope context index (.fanOutLeaf name check fragmentSet given))

def walkModel (behaviour : Behaviour σ) (below : Value → Value → Value → Value → Walking σ Unit)
    (scope context index : Value) : Model → Walking σ Unit
  | .node node => walkNode behaviour below scope context index node
  | .outsider other => Walking.ofDeclaring (expandModel behaviour scope context index (.outsider other))

/-- Builds a tree and walks its nodes, to a bounded depth. -/
def Expander.walk (expander : Expander σ) :
    Nat → (nodes scope context index : Value) → Walking σ Unit
  | 0, _, _, _, _ => ExceptT.mk fun _ => none
  | depth + 1, nodes, scope, context, index => do
    let models ← Walking.build expander.builder nodes
    models.forM (walkModel expander.behaviour (expander.walk depth) scope context index)

def Visit.walk (behaviour : Behaviour σ) (visit : Visit) (depth : Nat) : Walking σ Unit :=
  ({ behaviour, builder := visit.builder } : Expander σ).walk depth visit.nodes visit.view.1 visit.view.2.1
    visit.view.2.2

mutual

/-- How many levels there are below a node. -/
def Node.height : Node → Nat
  | .plainGroup _ tests | .fanOutGroup _ _ tests => heights tests + 1
  | .inheritingLeaf _ _ inherited => heights inherited + 1
  | .directLeaf .. | .conditionalLeaf .. | .fanOutLeaf .. => 0

/-- How many levels there are below the highest of successive nodes. -/
def heights : List Node → Nat
  | [] => 0
  | node :: rest => max node.height (heights rest)

end

namespace Walking

/-- A walk repeats a declaration: it declares the same, and all that it builds on the way gives back what
it was built of. -/
def Repeats (walking : Walking σ α) (declaring : Declaring σ α) : Prop :=
  ∀ chronicle : Chronicle σ, ∃ nested, (∀ build ∈ nested, Build.IsRepetition build) ∧
    walking.run.run chronicle = some ((declaring.run.run chronicle.recording).1,
      ⟨(declaring.run.run chronicle.recording).2, chronicle.builds ++ nested⟩)

/-- A sequence walks on where its first part ended, unless the first part fails. -/
theorem run_bind (first : Walking σ α) (next : α → Walking σ β) (chronicle : Chronicle σ) :
    (first >>= next).run.run chronicle = (first.run.run chronicle).bind fun ended =>
      match ended with
      | (.ok value, after) => (next value).run.run after
      | (.error failure, after) => some (.error failure, after) := by
  rw [ExceptT.run_bind, StateT.run_bind]
  change (first.run.run chronicle).bind _ = (first.run.run chronicle).bind _
  congr 1
  funext ended
  obtain ⟨_ | _, _⟩ := ended <;> rfl

namespace Repeats

theorem ofDeclaring (declaring : Declaring σ α) : (ofDeclaring declaring).Repeats declaring := by
  intro chronicle
  refine ⟨[], nofun, ?_⟩
  rw [List.append_nil]
  rfl

theorem bind {first : Walking σ α} {next : α → Walking σ β} {declaring : Declaring σ α}
    {rest : α → Declaring σ β} (starts : first.Repeats declaring)
    (goesOn : ∀ value, (next value).Repeats (rest value)) :
    (first >>= next).Repeats (declaring >>= rest) := by
  intro chronicle
  obtain ⟨nested, repetitions, ran⟩ := starts chronicle
  rw [Walking.run_bind, ran, Option.bind_some, ScenarioTree.run_bind]
  generalize declaring.run.run chronicle.recording = outcome
  obtain ⟨failure | value, middle⟩ := outcome
  · exact ⟨nested, repetitions, rfl⟩
  · obtain ⟨others, repeated, ended⟩ := goesOn value ⟨middle, chronicle.builds ++ nested⟩
    refine ⟨nested ++ others, List.forall_mem_append.mpr ⟨repetitions, repeated⟩, ?_⟩
    rw [← List.append_assoc]
    exact ended

/-- What is given without declaring anything is walked on with. -/
theorem afterPure {first : Walking σ α} {next : α → Walking σ β} {value : α} {rest : Declaring σ β}
    (starts : first.Repeats (pure value)) (goesOn : (next value).Repeats rest) :
    (first >>= next).Repeats rest := by
  intro chronicle
  obtain ⟨nested, repetitions, ran⟩ := starts chronicle
  obtain ⟨others, repeated, ended⟩ := goesOn ⟨chronicle.recording, chronicle.builds ++ nested⟩
  refine ⟨nested ++ others, List.forall_mem_append.mpr ⟨repetitions, repeated⟩, ?_⟩
  rw [Walking.run_bind, ran, ← List.append_assoc]
  exact ended

theorem group (name : String) {body : Walking σ Unit} {declaring : Declaring σ Unit}
    (repeats : body.Repeats declaring) : (group name body).Repeats (Declaring.group name declaring) := by
  intro chronicle
  obtain ⟨nested, repetitions, ran⟩ := repeats
    { chronicle with recording := { chronicle.recording with recorder := chronicle.recording.recorder.enter name } }
  refine ⟨nested, repetitions, ?_⟩
  have entered : (Walking.group name body).run.run chronicle = Option.bind _ _ := rfl
  rw [entered, ran]
  rfl

theorem positions {body : Value → Nat → Walking σ Unit} {declaring : Value → Nat → Declaring σ Unit}
    (repeats : ∀ fragment position, (body fragment position).Repeats (declaring fragment position))
    (position : Nat) (fragments : List Value) :
    (positions body position fragments).Repeats (declarePositions declaring position fragments) := by
  induction fragments generalizing position with
  | nil => exact .ofDeclaring (pure ())
  | cons fragment rest ih =>
    exact .bind (.group _ (repeats fragment position)) fun _ => ih (position + 1)

theorem build (builder : Builder) (nodes : List Node) :
    (build builder (.ofNodes nodes)).Repeats (pure (nodes.map .node) : Declaring σ (List Model)) := by
  intro chronicle
  have items : (Value.ofNodes nodes).sequenceItems? = some ((nodes.map Model.node).map Value.model) := by
    rw [List.map_map]
    rfl
  have again : builder.buildFrom chronicle.recording (.ofNodes nodes) =
      ⟨.ofNodes nodes, chronicle.recording, { models := .ok (nodes.map .node) }, chronicle.recording⟩ := by
    rw [Builder.buildFrom, builder.attempt_models items, builder.run_models items]
  refine ⟨[builder.buildFrom chronicle.recording (.ofNodes nodes)], List.forall_mem_singleton.mpr ?_, ?_⟩
  · rw [again]
    refine ⟨nodes.map .node, ?_, rfl, rfl⟩
    rw [Value.ofNodes, Value.ofModels, List.map_map]
    rfl
  · change some ((builder.buildFrom chronicle.recording (.ofNodes nodes)).built.models, _) = _
    rw [again]
    rfl

end Repeats

end Walking

section

variable (expander : Expander σ)

/-- Building the children of a node again and walking them repeats their declaration. -/
theorem walk_repeats {nodes : List Node} {depth : Nat} {scope context index : Value}
    (repeats : ((nodes.map Model.node).forM
      (walkModel expander.behaviour (expander.walk depth) scope context index)).Repeats
        (expandNodes expander.behaviour scope context index nodes)) :
    (expander.walk (depth + 1) (.ofNodes nodes) scope context index).Repeats
      (expandNodes expander.behaviour scope context index nodes) := by
  exact .afterPure (.build expander.builder nodes) repeats

mutual

/-- Walking a node repeats its declaration, if the walk goes deep enough. -/
theorem walkNode_repeats (node : Node) {depth : Nat} (tall : node.height ≤ depth)
    (scope context index : Value) :
    (walkNode expander.behaviour (expander.walk depth) scope context index node).Repeats
      (expandNode expander.behaviour scope context index node) := by
  match node with
  | .plainGroup head tests =>
    cases depth with
    | zero => cases tall
    | succ depth =>
      have below := walkNodes_repeats tests (Nat.le_of_succ_le_succ tall)
      exact .group _ (.bind (.ofDeclaring _) fun _ => walk_repeats expander (below scope context .null))
  | .fanOutGroup head fragmentSet tests =>
    cases depth with
    | zero => cases tall
    | succ depth =>
      have below := walkNodes_repeats tests (Nat.le_of_succ_le_succ tall)
      exact .bind (.ofDeclaring _) fun found => .group _ (.bind (.ofDeclaring _) fun _ => .positions
        (fun fragment position => walk_repeats expander (below fragment context (.int position))) 0 found)
  | .inheritingLeaf name getFragment inherited =>
    cases depth with
    | zero => cases tall
    | succ depth =>
      have below := walkNodes_repeats inherited (Nat.le_of_succ_le_succ tall)
      exact .group _ (.bind (.ofDeclaring _) fun fragment =>
        walk_repeats expander (below fragment context .null))
  | .directLeaf .. | .conditionalLeaf .. | .fanOutLeaf .. =>
    rw [walkNode]
    exact .ofDeclaring _
termination_by structural node

private theorem walkNodes_repeats (nodes : List Node) {depth : Nat} (tall : heights nodes ≤ depth)
    (scope context index : Value) :
    ((nodes.map Model.node).forM (walkModel expander.behaviour (expander.walk depth) scope context index)).Repeats
      (expandNodes expander.behaviour scope context index nodes) := by
  match nodes with
  | [] => exact .ofDeclaring (pure ())
  | node :: rest =>
    obtain ⟨own, others⟩ := Nat.max_le.mp tall
    exact .bind (walkNode_repeats node own scope context index) fun _ =>
      walkNodes_repeats rest others scope context index
termination_by structural nodes

end

/-- Walking built nodes repeats their declaration from some depth on. -/
theorem walkModels_repeats (models : List Model) (scope context index : Value) :
    ∃ depth, ∀ more, depth ≤ more →
      (models.forM (walkModel expander.behaviour (expander.walk more) scope context index)).Repeats
        (expandModels expander.behaviour scope context index models) := by
  induction models with
  | nil => exact ⟨0, fun more _ => .ofDeclaring (pure ())⟩
  | cons model rest ih =>
    obtain ⟨depth, others⟩ := ih
    cases model with
    | node node =>
      refine ⟨max node.height depth, fun more deep => ?_⟩
      obtain ⟨own, below⟩ := Nat.max_le.mp deep
      exact .bind (walkNode_repeats expander node own scope context index) fun _ => others more below
    | outsider other => exact ⟨depth, fun more deep => .bind (.ofDeclaring _) fun _ => others more deep⟩

end

private theorem call_keepsWarnings (behaviour : Behaviour σ) (callable : Callable) (arguments : List Value) :
    Keeps World.warnings (call behaviour (.callable callable) arguments) := by
  intro world
  cases callable <;> rfl

private theorem elements_keepsWarnings (value : Value) :
    Keeps World.warnings (elements value : Run σ (List Value)) := by
  intro world
  cases found : value.elements? with
  | some items => rw [elements_eq_pure found, run_pure]
  | none =>
    cases value with
    | iter id items =>
      rw [run_elements_iter]
      split <;> rfl
    | _ => simp only [elements, found]; rfl

/-- What expansion is composed of warns about nothing. -/
theorem keepsWarnings_isCompositional (behaviour : Behaviour σ) :
    Declaring.IsCompositional behaviour (fun _ => True) (fun _ => True)
      (Keeps fun recording => recording.world.warnings) where
  nothing _ := rfl
  hook _ _ _ := rfl
  test _ _ _ := rfl
  followed starts ends := starts.bind fun _ => ends
  group name _ keeps recording := keeps { recording with recorder := recording.recorder.enter name }
  asked arguments _ _ keeps :=
    .bind (fun recording => call_keepsWarnings behaviour _ arguments recording.world) keeps
  taken scope _ _ keeps :=
    have taken := (call_keepsWarnings behaviour _ [scope]).bind elements_keepsWarnings
    .bind (fun recording => taken recording.world) keeps

/-- Declaring built nodes warns about nothing. -/
theorem expandModels_keepsWarnings (behaviour : Behaviour σ) (scope context index : Value)
    (models : List Model) :
    Keeps (fun recording => recording.world.warnings)
      (expandModels behaviour scope context index models) := by
  induction models with
  | nil => exact fun _ => rfl
  | cons model rest ih =>
    refine Keeps.bind ?_ fun _ => ih
    match model with
    | .node node =>
      exact (keepsWarnings_isCompositional behaviour).ofNode node
        (node.asks_of_forall (fun _ => trivial) fun _ => trivial) scope context index
    | .outsider (.baseGroup _) | .outsider (.baseLeaf _) | .outsider (.alien _) => exact fun _ => rfl

/-- A walk builds the tree that it is given first, before anything is declared and without calling anything.
If the tree is refused, nothing has happened. Otherwise every further build, at every level and for every
fragment, gives back the nodes that it was given, without a warning and without a change; and the walk
declares what expansion declares. So all warnings of a walk are those of the first build, each one once. -/
theorem Visit.walk_repeats_builds (behaviour : Behaviour σ) (visit : Visit) (start : Recording σ) :
    let root := visit.builder.buildFrom start visit.nodes
    (root.after.recorder = start.recorder ∧ root.after.world.store = start.world.store ∧
      root.after.world.log = start.world.log) ∧
    ∃ depth, ∀ more, depth ≤ more → ∃ nested outcome after,
      (visit.walk behaviour more).run.run { recording := start } =
        some (outcome, { recording := after, builds := root :: nested }) ∧
      (visit.declare behaviour).run.run start = (outcome, after) ∧
      (∀ failure, root.built.models = .error failure →
        nested = [] ∧ outcome = .error failure ∧ after = root.after) ∧
      (∀ build ∈ nested, build.IsRepetition) ∧
      after.world.warnings = start.world.warnings ++ root.built.warnings := by
  intro root
  refine ⟨⟨rfl, rfl, rfl⟩, ?_⟩
  have built : (Declaring.ofRun (visit.builder.run visit.nodes)).run.run start =
    (root.built.models, root.after) := rfl
  have chronicled : (Walking.build visit.builder visit.nodes).run.run { recording := start } =
    some (root.built.models, { recording := root.after, builds := [root] }) := rfl
  have warned : root.after.world.warnings = start.world.warnings ++ root.built.warnings := rfl
  -- the depth from which on the walk repeats the declaration of what was built
  obtain ⟨depth, repeats⟩ : ∃ depth, ∀ more, depth ≤ more → ∀ models, root.built.models = .ok models →
      (models.forM (walkModel behaviour (Expander.walk { behaviour, builder := visit.builder } more)
        visit.view.1 visit.view.2.1 visit.view.2.2)).Repeats
          (expandModels behaviour visit.view.1 visit.view.2.1 visit.view.2.2 models) := by
    cases root.built.models with
    | error failure => exact ⟨0, fun _ _ _ same => by cases same⟩
    | ok models =>
      obtain ⟨depth, repeats⟩ := walkModels_repeats { behaviour, builder := visit.builder } models
        visit.view.1 visit.view.2.1 visit.view.2.2
      exact ⟨depth, fun more deep _ same => Except.ok.inj same ▸ repeats more deep⟩
  refine ⟨depth + 1, fun more deep => ?_⟩
  cases more with
  | zero => cases deep
  | succ more =>
    have repeated := repeats more (Nat.le_of_succ_le_succ deep)
    rw [Visit.walk, Expander.walk, Walking.run_bind, chronicled, Option.bind_some, visit.declare_eq_expand,
      Expander.expand, run_bind, built]
    cases found : root.built.models with
    | error failure =>
      refine ⟨[], .error failure, root.after, rfl, rfl, ?_, List.forall_mem_nil _, warned⟩
      rintro _ ⟨⟩
      exact ⟨rfl, rfl, rfl⟩
    | ok models =>
      obtain ⟨nested, repetitions, ran⟩ := repeated models found
        { recording := root.after, builds := [root] }
      refine ⟨nested, _, _, ran, rfl, (fun _ same => by cases same), repetitions, ?_⟩
      exact (expandModels_keepsWarnings behaviour _ _ _ models root.after).trans warned

/-- A group with two fragments is built once, and its scenarios twice more. -/
example : ((({ entry := .scope, nodes := .tuple [.ofNode menuGroup] } : Visit).walk alternating 2).run.run
      { recording := { world := { store := 0 } } }).map (fun ended => ended.2.builds.length) = some 3 := by
  decide +kernel

end ScenarioTree
