import ScenarioTree.Proofs.Expansion.Course
import ScenarioTree.Proofs.Expansion.Refinement

/-! # Interrupted declarations

Declaring follows a course when, whatever group is current, it adds to that group the forest of the moves
of the course, and ends as the course does. The relation is closed under the ways in which expansion is
put together. From it follows what a failure leaves behind: the declarations made before it, in the group
that was current all the time, and nothing else.
-/

namespace ScenarioTree

variable {σ α β : Type}

/-- From a world, a course notes the moves and ends with the outcome, and the world after it has observed
the questions among the moves. -/
structure Noting.Goes (course : Noting σ α) (world : World σ) (moves : List Move)
    (outcome : Except Failure α) (after : World σ) : Prop where
  notes : ∀ noted, course.run.run ⟨noted, world⟩ = (outcome, ⟨noted ++ moves, after⟩)
  logs : after.log = world.log ++ moves.filterMap Move.event?
  ends : Ended moves outcome

/-- Questions of a course are those of a computation in the world. -/
def Noting.Asks (asking : Noting σ α) (question : Run σ α) : Prop :=
  ∀ world, ∃ moves, (∀ move ∈ moves, move.inquires = true) ∧
    asking.Goes world moves (question.run.run world).1 (question.run.run world).2

/-- Declaring follows a course: it ends as the course does, in the same world, and the current group
gains what the moves of the course declare. -/
def Declaring.Follows (declaring : Declaring σ Unit) (course : Noting σ Unit) : Prop :=
  ∀ world, ∃ moves outcome after, course.Goes world moves outcome after ∧
    ∀ recorder, declaring.run.run ⟨recorder, world⟩ =
      (outcome, ⟨recorder.addAll (forest moves), after⟩)

private theorem forest_of_inquires {moves : List Move} (inquires : ∀ move ∈ moves, move.inquires = true) :
    forest moves = [] := by
  induction moves with
  | nil => rfl
  | cons move rest ih =>
    rw [forest, layers_inquiry (inquires move (List.mem_cons_self ..))]
    exact ih fun other member => inquires other (List.mem_cons_of_mem _ member)

namespace Noting.Goes

variable {world middle after : World σ} {moves others : List Move}

theorem pure (value : α) (world : World σ) : (pure value : Noting σ α).Goes world [] (.ok value) world where
  notes noted := by rw [run_pure, List.append_nil]
  logs := by rw [List.filterMap_nil, List.append_nil]
  ends := Complete.nil

theorem bind {first : Noting σ α} {next : α → Noting σ β} {value : α} {outcome : Except Failure β}
    (starts : first.Goes world moves (.ok value) middle)
    (goesOn : (next value).Goes middle others outcome after) :
    (first >>= next).Goes world (moves ++ others) outcome after where
  notes noted := by rw [run_bind_of_ok (starts.notes noted), goesOn.notes, List.append_assoc]
  logs := by rw [goesOn.logs, starts.logs, List.filterMap_append, List.append_assoc]
  ends := by
    cases outcome with
    | ok result => exact starts.ends.append goesOn.ends
    | error failure => exact .append starts.ends goesOn.ends

/-- A sequence whose first part fails ends there. -/
theorem bind_error {first : Noting σ α} {next : α → Noting σ β} {failure : Failure}
    (fails : first.Goes world moves (.error failure) after) :
    (first >>= next).Goes world moves (.error failure) after where
  notes noted := run_bind_of_error (fails.notes noted)
  logs := fails.logs
  ends := fails.ends

theorem tested (name : Value) (body : Body) (world : World σ) :
    (note (.tested name body)).Goes world [.tested name body] (.ok ()) world where
  notes _ := rfl
  logs := by simp [Move.event?]
  ends := Complete.tested name body

/-- What goes through inside a group is followed by the closing of the group. -/
theorem inside {course : Noting σ Unit} (goes : course.Goes world moves (.ok ()) after) (name : String)
    (hooks : Hooks) :
    (inside name hooks course).Goes world (.opened name hooks :: moves ++ [.closed]) (.ok ()) after where
  notes noted := by
    have opened : (note (.opened name hooks) : Noting σ Unit).run.run ⟨noted, world⟩ =
        (.ok (), ⟨noted ++ [.opened name hooks], world⟩) := rfl
    have closed (noted : List Move) : (note .closed : Noting σ Unit).run.run ⟨noted, after⟩ =
        (.ok (), ⟨noted ++ [.closed], after⟩) := rfl
    rw [ScenarioTree.inside, run_bind_of_ok opened, run_bind_of_ok (goes.notes _), closed]
    simp
  logs := by simp [goes.logs, List.filterMap_cons, Move.event?]
  ends := goes.ends.group name hooks

/-- What fails inside a group leaves the group open. -/
theorem inside_error {course : Noting σ Unit} {failure : Failure}
    (fails : course.Goes world moves (.error failure) after) (name : String) (hooks : Hooks) :
    (ScenarioTree.inside name hooks course).Goes world (.opened name hooks :: moves) (.error failure)
      after where
  notes noted := by
    have opened : (note (.opened name hooks) : Noting σ Unit).run.run ⟨noted, world⟩ =
        (.ok (), ⟨noted ++ [.opened name hooks], world⟩) := rfl
    rw [ScenarioTree.inside, run_bind_of_ok opened, run_bind_of_error (fails.notes _)]
    simp
  logs := by simp [fails.logs, List.filterMap_cons, Move.event?]
  ends := fails.ends.group name hooks

end Noting.Goes

namespace Noting.Asks

theorem pure (value : α) : (pure value : Noting σ α).Asks (pure value) :=
  fun world => ⟨[], nofun, .pure value world⟩

theorem bind {first : Noting σ α} {question : Run σ α} {next : α → Noting σ β} {rest : α → Run σ β}
    (starts : first.Asks question) (goesOn : ∀ value, (next value).Asks (rest value)) :
    (first >>= next).Asks (question >>= rest) := by
  intro world
  obtain ⟨moves, inquires, goes⟩ := starts world
  rw [run_bind]
  generalize question.run.run world = asked at goes ⊢
  obtain ⟨failure | value, middle⟩ := asked
  · exact ⟨moves, inquires, goes.bind_error⟩
  · obtain ⟨others, inquire, ends⟩ := goesOn value middle
    refine ⟨moves ++ others, fun move member => ?_, goes.bind ends⟩
    exact (List.mem_append.mp member).elim (inquires move) (inquire move)

/-- What is done in the world is one question when its move tells what came of it. -/
theorem inquire {run : Run σ α} {move : Except Failure α → Move}
    (inquires : ∀ result, (move result).inquires = true)
    (answered : ∀ value, (move (.ok value)).failure? = none)
    (met : ∀ failure, (move (.error failure)).failure? = some failure)
    (logs : ∀ world, (run.run.run world).2.log =
      world.log ++ (move (run.run.run world).1).event?.toList) :
    (Noting.inquire run move).Asks run := by
  intro world
  refine ⟨[move (run.run.run world).1], by simpa using inquires _, fun _ => rfl, ?_, ?_⟩
  · rw [logs, List.filterMap_cons]
    cases (move (run.run.run world).1).event? <;> rfl
  · cases (run.run.run world).1 with
    | ok value => exact .inquiry (inquires _) (answered value)
    | error failure => exact .inquiry (inquires _) (met failure)

theorem ask (behaviour : Behaviour σ) (target : Callable) (arguments : List Value) :
    (ask behaviour target arguments).Asks (call behaviour (.callable target) arguments) := by
  refine inquire (fun _ => rfl) (fun _ => rfl) (fun _ => rfl) fun world => ?_
  cases target with
  | defined id name form => rfl
  | missing key => exact (List.append_nil _).symm

end Noting.Asks

/-- Taking elements is not observed. -/
theorem log_elements (source : Value) (world : World σ) :
    ((elements source : Run σ (List Value)).run.run world).2.log = world.log := by
  cases found : source.elements? with
  | some items => rw [elements_eq_pure found, run_pure]
  | none =>
    cases source with
    | iter id items =>
      rw [run_elements_iter]
      split <;> rfl
    | _ => simp only [elements, found]; rfl

section

variable (behaviour : Behaviour σ)

private theorem takeFragments_asks (fragmentSet : Callable) (scope : Value) :
    (takeFragments behaviour fragmentSet scope).Asks (fragments behaviour fragmentSet scope) := by
  refine .bind (.ask behaviour fragmentSet [scope]) fun source => ?_
  refine .inquire (fun _ => rfl) (fun _ => rfl) (fun _ => rfl) fun world => ?_
  rw [log_elements]
  exact (List.append_nil _).symm

private theorem pickScope_asks (getter? : Option Callable) (subject scope : Value) :
    (pickScope behaviour getter? subject scope).Asks (pickedScope behaviour getter? subject scope) := by
  cases getter? with
  | none => exact .pure scope
  | some getter => exact .ask behaviour getter [subject, scope]

private theorem askWhether_asks (given? : Option Callable) (scope context index : Value) :
    (askWhether behaviour given? scope context index).Asks
      (holds behaviour given? scope context index) := by
  cases given? with
  | none => exact .pure true
  | some given => exact .bind (.ask behaviour given [scope, context, index]) fun _ => .pure _

end

namespace Declaring.Follows

theorem nothing : (pure () : Declaring σ Unit).Follows (pure ()) := by
  intro world
  refine ⟨[], _, world, .pure () world, fun recorder => ?_⟩
  rw [run_pure, forest, layers, Recorder.addAll_nil]

theorem refused (failure : Failure) : (throw failure : Declaring σ Unit).Follows (throw failure) := by
  intro world
  refine ⟨[], .error failure, world, ⟨fun noted => ?_, ?_, .nil failure⟩, fun recorder => ?_⟩
  · rw [List.append_nil]
    rfl
  · rw [List.filterMap_nil, List.append_nil]
  · rw [forest, layers, Recorder.addAll_nil]
    rfl

theorem test (name : Value) (body : Body) :
    (Declaring.test name body : Declaring σ Unit).Follows (note (.tested name body)) :=
  fun world => ⟨_, _, world, .tested name body world, fun _ => rfl⟩

/-- Asking the world first. -/
theorem asking {question : Run σ α} {asking : Noting σ α} {declaring : α → Declaring σ Unit}
    {course : α → Noting σ Unit} (asks : asking.Asks question)
    (follows : ∀ answer, (declaring answer).Follows (course answer)) :
    (Declaring.ofRun question >>= declaring).Follows (asking >>= course) := by
  intro world
  obtain ⟨moves, inquires, goes⟩ := asks world
  generalize outcome : question.run.run world = asked at goes
  obtain ⟨failure | answer, middle⟩ := asked
  · refine ⟨moves, .error failure, middle, goes.bind_error, fun recorder => ?_⟩
    rw [run_bind, Declaring.run_ofRun, outcome, forest_of_inquires inquires, Recorder.addAll_nil]
  · obtain ⟨others, ending, after, goesOn, declares⟩ := follows answer middle
    refine ⟨moves ++ others, ending, after, goes.bind goesOn, fun recorder => ?_⟩
    have whole : forest (moves ++ others) = forest others := by
      rw [goes.ends.forest_append, forest_of_inquires inquires, List.nil_append]
    rw [run_bind, Declaring.run_ofRun, outcome, whole]
    exact declares recorder

/-- Declaring one thing after the other. -/
theorem followed {first others : Declaring σ Unit} {course rest : Noting σ Unit}
    (starts : first.Follows course) (goesOn : others.Follows rest) :
    (first >>= fun _ => others).Follows (course >>= fun _ => rest) := by
  intro world
  obtain ⟨moves, outcome, middle, goes, declares⟩ := starts world
  cases outcome with
  | error failure =>
    refine ⟨moves, .error failure, middle, goes.bind_error, fun recorder => ?_⟩
    rw [run_bind_of_error (declares recorder)]
  | ok value =>
    obtain ⟨more, outcome, after, ends, declaresMore⟩ := goesOn middle
    refine ⟨moves ++ more, outcome, after, goes.bind ends, fun recorder => ?_⟩
    rw [run_bind_of_ok (declares recorder), declaresMore, Recorder.addAll_addAll,
      goes.ends.forest_append]

/-- Declaring a group, which sets its hooks before anything is declared inside. The group is closed
whatever comes of its body. -/
theorem group {name : String} {hooks : Hooks} {opening body : Declaring σ Unit}
    {course : Noting σ Unit}
    (opens : ∀ (recorder : Recorder) (world : World σ), opening.run.run ⟨recorder.enter name, world⟩ =
      (.ok (), ⟨⟨⟨name, hooks, []⟩, recorder.current :: recorder.enclosing⟩, world⟩))
    (follows : body.Follows course) :
    (Declaring.group name (opening >>= fun _ => body)).Follows (inside name hooks course) := by
  intro world
  obtain ⟨moves, outcome, after, goes, declares⟩ := follows world
  have ran (recorder : Recorder) :
      (Declaring.group name (opening >>= fun _ => body)).run.run ⟨recorder, world⟩ =
        (outcome, ⟨recorder.addAll [.group name hooks (forest moves)], after⟩) := by
    have filled : (opening >>= fun _ => body).run.run ⟨recorder.enter name, world⟩ = _ :=
      (run_bind_of_ok (opens recorder world)).trans (declares _)
    rw [Declaring.run_group, filled]
    rfl
  cases outcome with
  | error failure =>
    refine ⟨_, _, after, goes.inside_error name hooks, fun recorder => ?_⟩
    have opened : forest (.opened name hooks :: moves) = [.group name hooks (forest moves)] :=
      congrArg Prod.fst (goes.ends.layers_group name hooks)
    rw [ran, opened]
  | ok value =>
    refine ⟨_, _, after, goes.inside name hooks, fun recorder => ?_⟩
    rw [ran, goes.ends.forest_group]

theorem bareGroup (name : String) {body : Declaring σ Unit} {course : Noting σ Unit}
    (follows : body.Follows course) : (Declaring.group name body).Follows (inside name {} course) := by
  have opens (recorder : Recorder) (world : World σ) :
      (pure () : Declaring σ Unit).run.run ⟨recorder.enter name, world⟩ =
        (.ok (), ⟨⟨⟨name, {}, []⟩, recorder.current :: recorder.enclosing⟩, world⟩) := rfl
  exact group opens follows

end Declaring.Follows

/-- The groups of fragments follow one after the other, from the first position on. -/
theorem declarePositions_follows {body : Value → Nat → Declaring σ Unit}
    {course : Value → Nat → Noting σ Unit}
    (follows : ∀ fragment position, (body fragment position).Follows (course fragment position))
    (fragments : List Value) :
    (declarePositions body 0 fragments).Follows (insidePositions course fragments) := by
  rw [insidePositions]
  generalize 0 = position
  induction fragments generalizing position with
  | nil => exact .nothing
  | cons fragment rest ih =>
    rw [List.zipIdx_cons]
    exact .followed (.bareGroup (positionName position) (follows fragment position)) (ih (position + 1))

private theorem follows_condition {behaviour : Behaviour σ} {given : Callable}
    {scope context index : Value} {declaring : Declaring σ Unit} {course : Noting σ Unit}
    (follows : declaring.Follows course) :
    (do
      if ← Declaring.ofRun (conditionHolds behaviour given scope context index) then
        declaring).Follows
      (do
        if ← askWhether behaviour (some given) scope context index then course) := by
  refine .asking (askWhether_asks behaviour (some given) scope context index) fun answer => ?_
  cases answer with
  | false => exact .nothing
  | true => exact follows

mutual

private theorem expandNode_follows (behaviour : Behaviour σ) (scope context index : Value) (node : Node) :
    (expandNode behaviour scope context index node).Follows
      (node.course behaviour scope context index) := by
  match node with
  | .plainGroup head tests =>
    exact .group (head.run_declareHooks scope context)
      (expandNodes_follows behaviour scope context .null tests)
  | .fanOutGroup head fragmentSet tests =>
    refine .asking (takeFragments_asks behaviour fragmentSet scope) fun found => ?_
    exact .group (head.run_declareHooks scope context) (declarePositions_follows
      (fun fragment position =>
        expandNodes_follows behaviour fragment context (.int position) tests) found)
  | .directLeaf name check getFragment =>
    have asks := pickScope_asks behaviour getFragment (.ofNode (.directLeaf name check getFragment)) scope
    cases getFragment <;> exact .asking asks fun fragment => .test _ _
  | .conditionalLeaf name check getFragment given =>
    have asks := pickScope_asks behaviour getFragment
      (.ofNode (.conditionalLeaf name check getFragment given)) scope
    apply follows_condition
    cases getFragment <;> exact .asking asks fun fragment => .test _ _
  | .fanOutLeaf name check fragmentSet given =>
    refine .asking (takeFragments_asks behaviour fragmentSet scope) fun found => ?_
    refine declarePositions_follows (fun fragment position => ?_) found
    cases given with
    | none => exact .test _ _
    | some given => exact follows_condition (.test _ _)
  | .inheritingLeaf name getFragment inherited =>
    have asks := pickScope_asks behaviour getFragment
      (.ofNode (.inheritingLeaf name getFragment inherited)) scope
    have declared := Declaring.Follows.bareGroup name (.asking asks fun fragment =>
      expandNodes_follows behaviour fragment context .null inherited)
    cases getFragment <;> exact declared
termination_by structural node

private theorem expandNodes_follows (behaviour : Behaviour σ) (scope context index : Value)
    (nodes : List Node) :
    (expandNodes behaviour scope context index nodes).Follows
      (courses behaviour scope context index nodes) := by
  match nodes with
  | [] => exact .nothing
  | node :: rest =>
    exact .followed (expandNode_follows behaviour scope context index node)
      (expandNodes_follows behaviour scope context index rest)
termination_by structural nodes

end

private theorem expandModel_follows (behaviour : Behaviour σ) (scope context index : Value) (model : Model) :
    (expandModel behaviour scope context index model).Follows
      (model.course behaviour scope context index) := by
  match model with
  | .node n => exact expandNode_follows behaviour scope context index n
  | .outsider (.alien name) => exact .nothing
  | .outsider (.baseGroup _) | .outsider (.baseLeaf _) => exact .refused _

private theorem expandModels_follows (behaviour : Behaviour σ) (scope context index : Value)
    (models : List Model) :
    (expandModels behaviour scope context index models).Follows
      (models.forM (Model.course behaviour scope context index)) := by
  induction models with
  | nil => exact .nothing
  | cons model rest ih =>
    exact .followed (expandModel_follows behaviour scope context index model) ih

/-- Building a tree is no move. -/
theorem Builder.run_asks (builder : Builder) (nodes : Value) :
    (Noting.ofRun (builder.run nodes) : Noting σ (List Model)).Asks (builder.run nodes) := by
  intro world
  refine ⟨[], nofun, fun noted => ?_, ?_, ?_⟩
  · rw [List.append_nil]
    rfl
  · exact (List.append_nil _).symm
  · cases ((builder.run nodes : Run σ (List Model)).run.run world).1 with
    | ok models => exact Complete.nil
    | error failure => exact Interrupted.nil failure

private theorem Visit.declare_follows (behaviour : Behaviour σ) (visit : Visit) :
    (visit.declare behaviour).Follows (visit.course behaviour) := by
  rw [Visit.declare_eq_expand]
  exact .asking (visit.builder.run_asks visit.nodes)
    (expandModels_follows behaviour visit.view.1 visit.view.2.1 visit.view.2.2)

def Node.fragmentSet? : Node → Option Callable
  | .fanOutGroup _ fragmentSet _ | .fanOutLeaf _ _ fragmentSet _ => some fragmentSet
  | _ => none

/-- A node whose fragments fail declares nothing, not even a group of its own. -/
theorem expandNode_of_fragments_fail {behaviour : Behaviour σ} {node : Node} {fragmentSet : Callable}
    {scope : Value} {recording after : Recording σ} {failure : Failure}
    (fansOut : node.fragmentSet? = some fragmentSet)
    (fails : (Declaring.ofRun (fragments behaviour fragmentSet scope)).run.run recording =
      (.error failure, after)) (context index : Value) :
    (expandNode behaviour scope context index node).run.run recording = (.error failure, after) := by
  cases node with
  | fanOutGroup head set tests =>
    cases fansOut
    exact run_bind_of_error fails
  | fanOutLeaf name check set given =>
    cases fansOut
    exact run_bind_of_error fails
  | _ => cases fansOut

/-- A visit in which something that is asked or taken fails ends with this very failure, and the failing
move is its last one. The current group is the one it was, and it has gained exactly what was declared
before the failing move, depth first in the order of time; what was there before is as it was. A node
whose fragments fail has declared nothing of its own. Later visits declare what they declare anywhere. -/
theorem Visit.declare_keeps_what_precedes_failure (behaviour : Behaviour σ) (visit : Visit)
    (group : Group) (enclosing : List Group) (world : World σ) {move : Move} {failure : Failure}
    (met : move ∈ (visit.journal behaviour world).moves) (raised : move.failure? = some failure) :
    ∃ earlier, (visit.journal behaviour world).moves = earlier ++ [move] ∧
      (∀ other ∈ earlier, other.failure? = none) ∧
      (visit.declare behaviour).run.run ⟨⟨group, enclosing⟩, world⟩ =
        (.error failure, ⟨⟨{ group with children := group.children ++ forest earlier }, enclosing⟩,
          (visit.journal behaviour world).world⟩) ∧
      preorders (forest earlier) = earlier.filter Move.declares ∧
      (visit.journal behaviour world).world.log =
        world.log ++ (earlier ++ [move]).filterMap Move.event? ∧
      (∀ (node : Node) fragmentSet scope context index (recording after : Recording σ) failure,
        node.fragmentSet? = some fragmentSet →
        (Declaring.ofRun (fragments behaviour fragmentSet scope)).run.run recording =
          (.error failure, after) →
        (expandNode behaviour scope context index node).run.run recording = (.error failure, after)) ∧
      ∀ later : Visit, ∃ outcome declared final, ∀ recorder,
        (later.declare behaviour).run.run ⟨recorder, (visit.journal behaviour world).world⟩ =
          (outcome, ⟨recorder.addAll declared, final⟩) := by
  obtain ⟨moves, outcome, after, goes, declares⟩ := visit.declare_follows behaviour world
  have journal : visit.journal behaviour world = ⟨moves, after⟩ := by
    rw [Visit.journal, goes.notes, List.nil_append]
  rw [journal] at met ⊢
  cases outcome with
  | ok value =>
    rw [goes.ends.failure?_eq_none move met] at raised
    cases raised
  | error other =>
    have inquiry : move.inquires = true := by
      cases move <;> first | rfl | cases raised
    obtain ⟨earlier, rfl, rfl⟩ := goes.ends.eq_concat met raised
    -- the failing move is the last one and declares nothing, so all was declared before it
    have unchanged : layers (earlier ++ [move]) = layers earlier := layers_concat_inquiry inquiry earlier
    refine ⟨earlier, rfl, ?answered, ?ran, ?ordered, goes.logs, ?withoutGroup, ?later⟩
    case answered =>
      intro other member
      cases found : other.failure? with
      | none => rfl
      | some failure =>
        obtain ⟨before, behind, rfl⟩ := List.append_of_mem member
        have split : before ++ other :: behind ++ [move] = before ++ other :: (behind ++ [move]) := by
          simp
        have last := (goes.ends.last_of_failure? split found).1
        simp at last
    case ran =>
      rw [declares, forest, unchanged]
      rfl
    case ordered =>
      have closed : (layers earlier).2 = [] := unchanged ▸ goes.ends.outer_eq_nil
      have ordered := preorders_layers earlier
      rwa [closed, List.flatMap_nil, List.append_nil] at ordered
    case withoutGroup =>
      intro node fragmentSet scope context index recording after failure fansOut fails
      exact expandNode_of_fragments_fail fansOut fails context index
    case later =>
      intro later
      obtain ⟨others, outcome, final, _, declared⟩ := later.declare_follows behaviour after
      exact ⟨outcome, forest others, final, declared⟩

/-- A behaviour that counts its calls: the callable 0 gives two fragments, and every other one holds at
first and aborts from the third call on. -/
def tiring : Behaviour Nat where
  call id _ count :=
    if id = 0 then (.ok (.list [.str "a", .str "b"]), count + 1)
    else if count < 2 then (.ok (.bool true), count + 1)
    else (.error (.raised ⟨.abort, "enough"⟩), count + 1)
  await _ count := (.ok .null, count)

/-- A page with the menu and, behind it, a further scenario. -/
def menuVisit : Visit where
  entry := .scope
  nodes := .tuple [.ofNode (.plainGroup ⟨.of "Page", none, none⟩ [menuGroup, linkLeaf])]
  scope := .str "page"

/-- The condition aborts at the second fragment of the menu: the first fragment has its test, the second
one its group, and nothing is declared behind it. -/
theorem menuVisit_interrupted :
    Move.asked (.defined 2 "given" .object) [.str "b", .null, .int 1] (.error (.raised ⟨.abort, "enough"⟩)) ∈
      (menuVisit.journal tiring { store := 0 }).moves ∧
    (menuVisit.declare tiring).run.run ⟨⟨⟨"Home", {}, [.group "Header" {} []]⟩, [{}]⟩, { store := 0 }⟩ =
      (.error (.raised ⟨.abort, "enough"⟩),
        ⟨⟨⟨"Home", {}, [.group "Header" {} [],
          .group "Page" {} [.group "Menu" ⟨[⟨.callable (.defined 3 "before" .object), [.null]⟩], []⟩
            [.group "Set index: 0" {} [linkLeaf.test (.str "a") .null],
              .group "Set index: 1" {} []]]]⟩, [{}]⟩,
          (menuVisit.journal tiring { store := 0 }).world⟩) := by
  have met : Move.asked (.defined 2 "given" .object) [.str "b", .null, .int 1]
      (.error (.raised ⟨.abort, "enough"⟩)) ∈ (menuVisit.journal tiring { store := 0 }).moves :=
    List.mem_of_getLast? rfl
  obtain ⟨earlier, same, _, ran, _⟩ := menuVisit.declare_keeps_what_precedes_failure tiring
    ⟨"Home", {}, [.group "Header" {} []]⟩ [{}] { store := 0 } met rfl
  have before : earlier = (menuVisit.journal tiring { store := 0 }).moves.dropLast := by
    rw [same, List.dropLast_concat]
  rw [before] at ran
  exact ⟨met, ran⟩

end ScenarioTree
