import ScenarioTree.Proofs.Expansion.Answers
import ScenarioTree.Proofs.Schema.BuiltNodes

/-! # Expanding declares what a tree stands for

Declaring realizes a meaning when it succeeds or fails exactly as the meaning does, leaves the same
world behind, and adds to the current group the declarations of the meaning and nothing else. The
relation is closed under the ways in which expansion is put together, so that it holds of nodes by
induction over them.
-/

namespace ScenarioTree

/-- Adds successive declarations to the current group. -/
def Recorder.addAll (recorder : Recorder) (declared : List Declaration) : Recorder :=
  { recorder with
    current := { recorder.current with children := recorder.current.children ++ declared } }

@[simp] theorem Recorder.addAll_nil (recorder : Recorder) : recorder.addAll [] = recorder := by
  simp [addAll]

@[simp] theorem Recorder.addAll_addAll (recorder : Recorder) (first others : List Declaration) :
    (recorder.addAll first).addAll others = recorder.addAll (first ++ others) := by
  simp [addAll]

variable {σ α : Type}

/-- Declaring realizes a meaning: the outcome and the world are those of the meaning, and the current
group gains its declarations. When the meaning fails, the current group gains some declarations. -/
def Declaring.Realizes (declaring : Declaring σ Unit) (meaning : Run σ (List Declaration)) : Prop :=
  ∀ recorder world,
    match meaning.run.run world with
    | (.ok declared, after) =>
      declaring.run.run ⟨recorder, world⟩ = (.ok (), ⟨recorder.addAll declared, after⟩)
    | (.error failure, after) => ∃ partly,
      declaring.run.run ⟨recorder, world⟩ = (.error failure, ⟨recorder.addAll partly, after⟩)

namespace Declaring.Realizes

theorem nothing : (pure () : Declaring σ Unit).Realizes (pure []) := by
  intro recorder world
  rw [run_pure]
  dsimp only
  rw [Recorder.addAll_nil, run_pure]

theorem test (name : Value) (body : Body) :
    (Declaring.test name body : Declaring σ Unit).Realizes (pure [.test name body]) :=
  fun _ _ => rfl

/-- Asking the world first. -/
theorem asking (question : Run σ α) {declaring : α → Declaring σ Unit}
    {meaning : α → Run σ (List Declaration)}
    (realizes : ∀ answer, (declaring answer).Realizes (meaning answer)) :
    (Declaring.ofRun question >>= declaring).Realizes (question >>= meaning) := by
  intro recorder world
  rw [run_bind, run_bind, Declaring.run_ofRun]
  generalize question.run.run world = asked
  obtain ⟨failure | answer, after⟩ := asked
  · exact ⟨[], by rw [Recorder.addAll_nil]⟩
  · exact realizes answer recorder after

/-- Declaring one thing after the other. -/
theorem followed {first others : Declaring σ Unit} {meaning rest : Run σ (List Declaration)}
    (starts : first.Realizes meaning) (ends : others.Realizes rest) :
    (first >>= fun _ => others).Realizes (do pure ((← meaning) ++ (← rest))) := by
  intro recorder world
  have started := starts recorder world
  rw [run_bind, run_bind]
  generalize meaning.run.run world = outcome at started ⊢
  obtain ⟨failure | declared, after⟩ := outcome
  · obtain ⟨partly, started⟩ := started
    exact ⟨partly, by rw [started]⟩
  · have ended := ends (recorder.addAll declared) after
    rw [started]
    dsimp only
    rw [run_bind]
    generalize rest.run.run after = outcome at ended ⊢
    obtain ⟨failure | others, final⟩ := outcome
    · obtain ⟨partly, ended⟩ := ended
      exact ⟨declared ++ partly, by rw [ended, Recorder.addAll_addAll]⟩
    · dsimp only [run_pure]
      rw [ended, Recorder.addAll_addAll]

/-- Closing a group that was opened with hooks puts it behind what was there before. -/
private theorem leave_opened (recorder : Recorder) (name : String) (hooks : Hooks)
    (inside : List Declaration) :
    ((Recorder.mk ⟨name, hooks, []⟩ (recorder.current :: recorder.enclosing)).addAll inside).leave =
      recorder.addAll [.group name hooks inside] := rfl

/-- Declaring a group, which sets its hooks before anything is declared inside. -/
theorem group {name : String} {hooks : Hooks} {opening body : Declaring σ Unit}
    {meaning : Run σ (List Declaration)}
    (opens : ∀ (recorder : Recorder) (world : World σ), opening.run.run ⟨recorder.enter name, world⟩ =
      (.ok (), ⟨⟨⟨name, hooks, []⟩, recorder.current :: recorder.enclosing⟩, world⟩))
    (realizes : body.Realizes meaning) :
    (Declaring.group name (opening >>= fun _ => body)).Realizes
      (do pure [.group name hooks (← meaning)]) := by
  intro recorder world
  have filled := realizes ⟨⟨name, hooks, []⟩, recorder.current :: recorder.enclosing⟩ world
  have ran (result : Except Failure Unit) (inside : List Declaration) (after : World σ)
      (final : body.run.run ⟨⟨⟨name, hooks, []⟩, recorder.current :: recorder.enclosing⟩, world⟩ =
        (result, ⟨(Recorder.mk ⟨name, hooks, []⟩ (recorder.current :: recorder.enclosing)).addAll
          inside, after⟩)) :
      (Declaring.group name (opening >>= fun _ => body)).run.run ⟨recorder, world⟩ =
        (result, ⟨recorder.addAll [.group name hooks inside], after⟩) := by
    have opened : (opening >>= fun _ => body).run.run ⟨recorder.enter name, world⟩ = _ :=
      (run_bind_of_ok (opens recorder world)).trans final
    rw [Declaring.run_group, opened]
    dsimp only
    rw [leave_opened]
  rw [run_bind]
  generalize meaning.run.run world = outcome at filled ⊢
  obtain ⟨failure | inside, after⟩ := outcome
  · obtain ⟨partly, filled⟩ := filled
    exact ⟨_, ran _ _ _ filled⟩
  · exact ran _ _ _ filled

theorem bareGroup (name : String) {body : Declaring σ Unit} {meaning : Run σ (List Declaration)}
    (realizes : body.Realizes meaning) :
    (Declaring.group name body).Realizes (do pure [.group name {} (← meaning)]) := by
  have opens (recorder : Recorder) (world : World σ) :
      (pure () : Declaring σ Unit).run.run ⟨recorder.enter name, world⟩ =
        (.ok (), ⟨⟨⟨name, {}, []⟩, recorder.current :: recorder.enclosing⟩, world⟩) := rfl
  exact group opens realizes

end Declaring.Realizes

/-- The hooks of a group are set before anything is declared inside. -/
theorem GroupHead.run_declareHooks (head : GroupHead) (scope context : Value) (recorder : Recorder)
    (world : World σ) :
    (head.declareHooks scope context).run.run ⟨recorder.enter head.name, world⟩ =
      (.ok (), ⟨⟨⟨head.name, head.hooks scope context, []⟩,
        recorder.current :: recorder.enclosing⟩, world⟩) := by
  obtain ⟨name, before, beforeEach⟩ := head
  cases before <;> cases beforeEach <;> rfl

private theorem realizes_fragments {behaviour : Behaviour σ} {fragmentSet : Callable} {scope : Value}
    {declaring : List Value → Declaring σ Unit} {meaning : List Value → Run σ (List Declaration)}
    (realizes : ∀ found, (declaring found).Realizes (meaning found)) :
    (Declaring.ofRun (fragments behaviour fragmentSet scope) >>= declaring).Realizes
      (call behaviour (.callable fragmentSet) [scope] >>= fun result =>
        elements result >>= meaning) := by
  have realized := Declaring.Realizes.asking (fragments behaviour fragmentSet scope) realizes
  rw [fragments, bind_assoc] at realized
  exact realized

private theorem declarePositions_realizes {body : Value → Nat → Declaring σ Unit}
    {inside : Value → Nat → Run σ (List Declaration)}
    (realizes : ∀ fragment position, (body fragment position).Realizes (inside fragment position))
    (fragments : List Value) :
    (declarePositions body 0 fragments).Realizes (positionGroups inside fragments) := by
  rw [positionGroups]
  generalize 0 = position
  induction fragments generalizing position with
  | nil => exact Declaring.Realizes.nothing
  | cons fragment rest ih =>
    have declared := Declaring.Realizes.followed
      (Declaring.Realizes.bareGroup (positionName position) (realizes fragment position))
      (ih (position + 1))
    simp only [bind_assoc, pure_bind, List.singleton_append] at declared
    simp only [List.zipIdx_cons, List.mapM_cons, bind_assoc, pure_bind]
    exact declared

/-- The condition of a node is asked about the scope around it. -/
private theorem realizes_condition {behaviour : Behaviour σ} {given : Callable}
    {scope context index : Value} {declaring : Declaring σ Unit} {meaning : Run σ (List Declaration)}
    (realizes : declaring.Realizes meaning) :
    (do
      if ← Declaring.ofRun (conditionHolds behaviour given scope context index) then
        declaring).Realizes
      (do
        if ← holds behaviour (some given) scope context index then meaning else pure []) := by
  apply Declaring.Realizes.asking
  intro answer
  cases answer with
  | false => exact Declaring.Realizes.nothing
  | true => exact realizes

mutual

theorem expandNode_realizes (behaviour : Behaviour σ) (scope context index : Value) (node : Node) :
    (expandNode behaviour scope context index node).Realizes
      (node.meaning behaviour scope context index) := by
  match node with
  | .plainGroup head tests =>
    exact .group (head.run_declareHooks scope context)
      (expandNodes_realizes behaviour scope context .null tests)
  | .fanOutGroup head fragmentSet tests =>
    apply realizes_fragments
    intro found
    exact .group (head.run_declareHooks scope context) (declarePositions_realizes
      (fun fragment position =>
        expandNodes_realizes behaviour fragment context (.int position) tests) found)
  | .directLeaf name check getFragment =>
    cases getFragment <;> exact .asking _ (fun fragment => .test _ _)
  | .conditionalLeaf name check getFragment given =>
    apply realizes_condition
    cases getFragment <;> exact .asking _ (fun fragment => .test _ _)
  | .fanOutLeaf name check fragmentSet given =>
    apply realizes_fragments
    intro found
    apply declarePositions_realizes
    intro fragment position
    cases given with
    | none => exact .test _ _
    | some given => exact realizes_condition (.test _ _)
  | .inheritingLeaf name getFragment inherited =>
    have declared := Declaring.Realizes.bareGroup name (.asking
      (pickedScope behaviour getFragment (.ofNode (.inheritingLeaf name getFragment inherited)) scope)
      fun fragment => expandNodes_realizes behaviour fragment context .null inherited)
    rw [bind_assoc] at declared
    cases getFragment <;> exact declared
termination_by structural node

/-- Declaring successive nodes realizes what they stand for. -/
theorem expandNodes_realizes (behaviour : Behaviour σ) (scope context index : Value)
    (nodes : List Node) :
    (expandNodes behaviour scope context index nodes).Realizes
      (meanings behaviour scope context index nodes) := by
  match nodes with
  | [] => exact .nothing
  | node :: rest =>
    exact .followed (expandNode_realizes behaviour scope context index node)
      (expandNodes_realizes behaviour scope context index rest)
termination_by structural nodes

end

/-- Built nodes of the six variants are declared like the nodes that they are. -/
theorem expandModels_nodes (behaviour : Behaviour σ) (scope context index : Value)
    (nodes : List Node) :
    expandModels behaviour scope context index (nodes.map Model.node) =
      expandNodes behaviour scope context index nodes := by
  induction nodes with
  | nil => rfl
  | cons node rest ih =>
    rw [List.map_cons, expandModels, ih]
    rfl

/-- Building a sequence of typed nodes and declaring them realizes what the nodes stand for. -/
theorem Expander.expand_realizes (expander : Expander σ) {sequence : Value} {nodes : List Node}
    (items : sequence.sequenceItems? = some (nodes.map Value.ofNode)) (scope context index : Value) :
    (expander.expand sequence scope context index).Realizes
      (meanings expander.behaviour scope context index nodes) := by
  have models : sequence.sequenceItems? = some ((nodes.map Model.node).map Value.model) := by
    rw [items, List.map_map]
    rfl
  intro recorder world
  have built : (Declaring.ofRun (expander.builder.run sequence)).run.run ⟨recorder, world⟩ =
      (.ok (nodes.map Model.node), ⟨recorder, world⟩) := by
    rw [Declaring.run_ofRun, expander.builder.run_models models]
  rw [Expander.expand, run_bind_of_ok built, expandModels_nodes]
  exact expandNodes_realizes expander.behaviour scope context index nodes recorder world

/-- Expanding a sequence of typed nodes appends to the current group exactly what the nodes stand for.
Nothing else of the group changes, neither do the groups around it, the current group is the current
one again, and the world is left as the nodes leave it, with the same calls in the same order. When
all callables of the nodes answer, the nodes do stand for declarations. -/
theorem Expander.expand_appends_meaning (expander : Expander σ) {sequence : Value}
    {nodes : List Node} (items : sequence.sequenceItems? = some (nodes.map Value.ofNode))
    (scope context index : Value) (group : Group) (enclosing : List Group) (world : World σ) :
    (∀ declared after,
      (meanings expander.behaviour scope context index nodes).run.run world =
        (.ok declared, after) →
      (expander.expand sequence scope context index).run.run ⟨⟨group, enclosing⟩, world⟩ =
        (.ok (), ⟨⟨{ group with children := group.children ++ declared }, enclosing⟩, after⟩)) ∧
    ∀ safe : σ → Prop, safe world.store → AllAnswered expander.behaviour safe nodes →
      ∃ declared after,
        (meanings expander.behaviour scope context index nodes).run.run world =
          (.ok declared, after) := by
  refine ⟨fun declared after stands => ?_, fun safe stable answered => ?_⟩
  · have realized := expander.expand_realizes items scope context index ⟨group, enclosing⟩ world
    rw [stands] at realized
    exact realized
  · obtain ⟨declared, after, stands, _⟩ :=
      meanings_return nodes answered scope context index world stable
    exact ⟨declared, after, stands⟩

/-- A behaviour with a state: the callable 0 gives two fragments, and every other one tells whether it
is called after an odd number of calls. -/
def alternating : Behaviour Nat where
  call id _ count :=
    (.ok (if id = 0 then .list [.str "a", .str "b"] else .bool (count % 2 == 1)), count + 1)
  await _ count := (.ok .null, count)

/-- A scenario under a condition. -/
def linkLeaf : Node :=
  .conditionalLeaf (.of "Link") ⟨.defined 1 "read" .object, .defined 1 "check" .object⟩ none
    (.defined 2 "given" .object)

/-- A group with a hook that fans out over its scenario. -/
def menuGroup : Node :=
  .fanOutGroup ⟨.of "Menu", some (.defined 3 "before" .object), none⟩ (.defined 0 "set" .function) [linkLeaf]

/-- The condition holds for the first fragment only, because the answers depend on the calls before;
what the open group held already stays in front. -/
theorem expand_menuGroup :
    (Value.tuple [.ofNode menuGroup]).sequenceItems? = some ([menuGroup].map Value.ofNode) ∧
    AllAnswered alternating (fun _ => True) [menuGroup] ∧
    ((Expander.mk alternating {}).expand (.tuple [.ofNode menuGroup]) (.str "page") .null .null).run.run
        ⟨⟨⟨"Page", {}, [.group "Header" {} []]⟩, [{}]⟩, { store := 0 }⟩ =
      (.ok (), ⟨⟨⟨"Page", {}, [.group "Header" {} [],
          .group "Menu" ⟨[⟨.callable (.defined 3 "before" .object), [.null]⟩], []⟩
            [.group "Set index: 0" {} [linkLeaf.test (.str "a") .null],
              .group "Set index: 1" {} []]]⟩, [{}]⟩,
        { store := 3
          log := [.call 0 "set" [.str "page"], .call 2 "given" [.str "a", .null, .int 0],
            .call 2 "given" [.str "b", .null, .int 1]] }⟩) := by
  have items : (Value.tuple [.ofNode menuGroup]).sequenceItems? =
    some ([menuGroup].map Value.ofNode) := rfl
  refine ⟨items, ⟨⟨?set, ⟨?condition, nofun⟩, trivial⟩, trivial⟩, ?_⟩
  case set => exact fun _ _ _ => ⟨_, _, rfl, trivial, rfl⟩
  case condition => exact fun _ _ _ => ⟨_, _, rfl, trivial, trivial⟩
  · exact ((Expander.mk alternating {}).expand_appends_meaning items (.str "page") .null .null
      ⟨"Page", {}, [.group "Header" {} []]⟩ [{}] { store := 0 }).1 _ _ rfl

end ScenarioTree
