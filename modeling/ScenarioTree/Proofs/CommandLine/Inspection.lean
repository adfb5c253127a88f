import ScenarioTree.CommandLine.Answer
import ScenarioTree.Proofs.Expansion.Naming
import ScenarioTree.Proofs.Trial.Effect
import ScenarioTree.Proofs.Value.Masking

/-! # How inspecting a module ends

A module is made and executed, its attributes are read one after the other, its tree is built, and the nodes
are expanded. The first stage that fails ends all of it. What each stage does is told here by itself, and how
the whole ends is told by the stage that was reached. A failure of the module or of one of its factories is
wrapped, and stays behind as the cause; the command line tells every ordinary failure in one text, unless that
text cannot be made.
-/

namespace ScenarioTree

variable {σ α : Type}

/-- An ordinary failure as it is wrapped; an interrupt stays as it is. -/
def Failure.wrappedBy (wrap : Failure → Failure) (failure : Failure) : Failure :=
  if failure.isOrdinary then wrap failure else failure

private theorem run_wrapping (wrap : Failure → Failure) (run : Run σ α) (world : World σ) :
    (wrapping wrap run).run.run world =
      ((run.run.run world).1.mapError (Failure.wrappedBy wrap), (run.run.run world).2) := by
  rw [wrapping, run_tryCatch]
  generalize run.run.run world = outcome
  obtain ⟨_ | _, _⟩ := outcome <;> rfl

/-- The names under which the attributes are read, in their order. -/
def Settings.attributeNames (settings : Settings) : List String :=
  [settings.featuresAttribute, settings.scopeAttribute, settings.contextAttribute]

/-- A factory, by its identity and its name: only a plain function is one. -/
def Value.factory? : Value → Option (Nat × String)
  | .callable (.defined id name .function) => some (id, name)
  | _ => none

private theorem Value.eq_of_factory? {value : Value} {factory : Nat × String} (made : value.factory? = some factory) :
    value = .callable (.defined factory.1 factory.2 .function) := by
  unfold factory? at made
  split at made
  · cases made
    rfl
  · cases made

section

variable (behaviour : Behaviour σ) (attributes : List (String × Value)) (name : String) (store : σ)

/-- How an attribute of a module is taken: what is called for it, what comes of it, and what the outside is left
as. An attribute that the module has is taken as it is; for another one it asks the callable that it defines for
that. -/
inductive Takes : List Event → Except Failure Value → σ → Prop
  | own {value : Value} (found : attributes.lookup name = some value) : Takes [] (.ok value) store
  | asked {callable : Value} {events : List Event} {outcome : Except Failure Value} {after : σ}
      (absent : attributes.lookup name = none) (asks : attributes.lookup "__getattr__" = some callable)
      (called : Invocation.calling behaviour ⟨callable, [.str name]⟩ store = ⟨events, outcome, after⟩) :
      Takes events outcome after
  | absent (absent : attributes.lookup name = none) (silent : attributes.lookup "__getattr__" = none) :
      Takes [] (.error (absentAttribute attributes name)) store

/-- How reading an attribute ends. What is no factory is the value itself, and an attribute is absent when taking
it tells so. A factory is called once, without arguments. When it fails, the module is asked for its file, and
the failure is wrapped; an interrupt passes. -/
inductive ReadEnds : List Event → Except Failure (Option Value) → σ → Prop
  | found {events : List Event} {value : Value} {after : σ}
      (taken : Takes behaviour attributes name store events (.ok value) after) (plain : value.factory? = none) :
      ReadEnds events (.ok (some value)) after
  | absent {events : List Event} {failure : Failure} {after : σ}
      (untaken : Takes behaviour attributes name store events (.error failure) after)
      (tells : failure.tellsAbsence = true) : ReadEnds events (.ok none) after
  | untaken {events : List Event} {failure : Failure} {after : σ}
      (untaken : Takes behaviour attributes name store events (.error failure) after)
      (foreign : failure.tellsAbsence = false) : ReadEnds events (.error failure) after
  | made {events : List Event} {value result : Value} {factory : Nat × String} {middle after : σ}
      (taken : Takes behaviour attributes name store events (.ok value) middle)
      (isFactory : value.factory? = some factory)
      (returned : behaviour.call factory.1 [] middle = (.ok result, after)) :
      ReadEnds (events ++ [.call factory.1 factory.2 []]) (.ok (some result)) after
  | interrupted {events : List Event} {value : Value} {factory : Nat × String} {failure : Failure}
      {middle after : σ} (taken : Takes behaviour attributes name store events (.ok value) middle)
      (isFactory : value.factory? = some factory)
      (raised : behaviour.call factory.1 [] middle = (.error failure, after))
      (passes : failure.isOrdinary = false) :
      ReadEnds (events ++ [.call factory.1 factory.2 []]) (.error failure) after
  | failed {events more : List Event} {value stated : Value} {factory : Nat × String} {cause : Failure}
      {middle last after : σ} (taken : Takes behaviour attributes name store events (.ok value) middle)
      (isFactory : value.factory? = some factory)
      (raised : behaviour.call factory.1 [] middle = (.error cause, last)) (ordinary : cause.isOrdinary = true)
      (states : Takes behaviour attributes "__file__" last more (.ok stated) after) :
      ReadEnds (events ++ .call factory.1 factory.2 [] :: more)
        (.error (.factoryFailed (statedFile stated) name cause)) after
  | unstated {events more : List Event} {value : Value} {factory : Nat × String} {cause failure : Failure}
      {middle last after : σ} (taken : Takes behaviour attributes name store events (.ok value) middle)
      (isFactory : value.factory? = some factory)
      (raised : behaviour.call factory.1 [] middle = (.error cause, last)) (ordinary : cause.isOrdinary = true)
      (untaken : Takes behaviour attributes "__file__" last more (.error failure) after) :
      ReadEnds (events ++ .call factory.1 factory.2 [] :: more) (.error failure) after

private theorem exists_takes :
    ∃ events outcome after, Takes behaviour attributes name store events outcome after := by
  cases found : attributes.lookup name with
  | some value => exact ⟨_, _, _, .own found⟩
  | none =>
    cases asks : attributes.lookup "__getattr__" with
    | some callable => exact ⟨_, _, _, .asked found asks rfl⟩
    | none => exact ⟨_, _, _, .absent found asks⟩

private theorem exists_readEnds :
    ∃ events outcome after, ReadEnds behaviour attributes name store events outcome after := by
  obtain ⟨events, taken, middle, takes⟩ := exists_takes behaviour attributes name store
  cases taken with
  | error failure =>
    cases tells : failure.tellsAbsence with
    | true => exact ⟨_, _, _, .absent takes tells⟩
    | false => exact ⟨_, _, _, .untaken takes tells⟩
  | ok value =>
  cases isFactory : value.factory? with
  | none => exact ⟨_, _, _, .found takes isFactory⟩
  | some factory =>
  cases called : behaviour.call factory.1 [] middle with
  | mk result last =>
  cases result with
  | ok result => exact ⟨_, _, _, .made takes isFactory called⟩
  | error cause =>
    cases ordinary : cause.isOrdinary with
    | false => exact ⟨_, _, _, .interrupted takes isFactory called ordinary⟩
    | true =>
      obtain ⟨more, stated, after, states⟩ := exists_takes behaviour attributes "__file__" last
      cases stated with
      | ok stated => exact ⟨_, _, _, .failed takes isFactory called ordinary states⟩
      | error failure => exact ⟨_, _, _, .unstated takes isFactory called ordinary states⟩

/-- The call of the callable that a module asks for an attribute that it does not have. -/
def askedFor : List Event :=
  match attributes.lookup name, attributes.lookup "__getattr__" with
  | none, some (.callable (.defined id asked _)) => [.call id asked [.str name]]
  | _, _ => []

end

section

variable {behaviour : Behaviour σ} {attributes : List (String × Value)} {name : String} {events : List Event}
  {store after : σ}

theorem Takes.run {world : World σ} {outcome : Except Failure Value}
    (takes : Takes behaviour attributes name world.store events outcome after) :
    (takeAttribute behaviour attributes name).run.run world = (outcome, world.extend events after) := by
  rw [takeAttribute]
  cases takes with
  | own found =>
    rw [found]
    exact Run.Does.pure _ world
  | absent absent silent =>
    rw [absent, silent]
    exact Run.Does.throw _ world
  | @asked callable _ _ _ absent asks called =>
    rw [absent, asks]
    dsimp only
    rw [call_does behaviour ⟨callable, [.str name]⟩ world, called]

private theorem Takes.events_eq {outcome : Except Failure Value}
    (takes : Takes behaviour attributes name store events outcome after) :
    events = askedFor attributes name := by
  rw [askedFor]
  cases takes with
  | own found => rw [found]
  | absent absent silent => rw [absent, silent]
  | @asked callable _ _ _ absent asks called =>
    rw [absent, asks]
    unfold Invocation.calling at called
    cases callable with
    | callable callable => cases callable <;> cases called <;> rfl
    | _ =>
      cases called
      rfl

/-- An attribute that is taken is there unless taking it tells that it is absent. -/
theorem Takes.run? {world : World σ} {outcome : Except Failure Value}
    (takes : Takes behaviour attributes name world.store events outcome after) :
    (takeAttribute? behaviour attributes name).run.run world =
      (match outcome with
        | .ok value => .ok (some value)
        | .error failure => if failure.tellsAbsence then .ok none else .error failure,
        world.extend events after) := by
  rw [takeAttribute?, run_tryCatch, map_eq_pure_bind, run_bind, takes.run]
  cases outcome with
  | ok value => rfl
  | error failure =>
    dsimp only
    split <;> rfl

private theorem attributeValue?_of_plain {value : Value} (plain : value.factory? = none) {world : World σ}
    (takes : Takes behaviour attributes name world.store events (.ok value) after) :
    (attributeValue? behaviour attributes name).run.run world = (.ok (some value), world.extend events after) := by
  rw [attributeValue?, run_bind_of_ok takes.run?]
  cases value with
  | callable callable =>
    cases callable with
    | missing key => rfl
    | defined id function form =>
      cases form with
      | function => cases plain
      | object => rfl
  | _ => rfl

/-- A factory is called, and its failure handled. -/
theorem attributeValue?_of_factory {value : Value} {factory : Nat × String}
    (isFactory : value.factory? = some factory) {world : World σ} {middle : σ}
    (takes : Takes behaviour attributes name world.store events (.ok value) middle) :
    (attributeValue? behaviour attributes name).run.run world =
      match behaviour.call factory.1 [] middle with
      | (.ok result, store) =>
        (.ok (some result), world.extend (events ++ [.call factory.1 factory.2 []]) store)
      | (.error failure, store) =>
        (if failure.isOrdinary then do
            let stated ← takeAttribute behaviour attributes "__file__"
            throw (.factoryFailed (statedFile stated) name failure)
          else throw failure : Run σ (Option Value)).run.run
          (world.extend (events ++ [.call factory.1 factory.2 []]) store) := by
  obtain rfl := Value.eq_of_factory? isFactory
  have calls (world : World σ) :
      (call behaviour (.callable (.defined factory.1 factory.2 .function)) []).run.run world =
        ((behaviour.call factory.1 [] world.store).1,
          world.extend [.call factory.1 factory.2 []] (behaviour.call factory.1 [] world.store).2) := rfl
  rw [attributeValue?, run_bind_of_ok takes.run?]
  dsimp only
  rw [run_tryCatch, map_eq_pure_bind, run_bind, calls, World.store_extend, World.extend_extend]
  generalize behaviour.call factory.1 [] middle = called
  obtain ⟨failure | result, store⟩ := called <;> rfl

theorem ReadEnds.run {world : World σ} {outcome : Except Failure (Option Value)}
    (ends : ReadEnds behaviour attributes name world.store events outcome after) :
    (attributeValue? behaviour attributes name).run.run world = (outcome, world.extend events after) := by
  cases ends with
  | found taken plain => exact attributeValue?_of_plain plain taken
  | absent untaken tells =>
    rw [attributeValue?, run_bind, untaken.run?]
    dsimp only
    rw [tells]
    rfl
  | untaken untaken foreign =>
    rw [attributeValue?, run_bind, untaken.run?]
    dsimp only
    rw [foreign]
    rfl
  | made taken isFactory returned => rw [attributeValue?_of_factory isFactory taken, returned]
  | interrupted taken isFactory raised passes =>
    rw [attributeValue?_of_factory isFactory taken, raised]
    dsimp only
    rw [passes]
    rfl
  | failed taken isFactory raised ordinary states =>
    rw [attributeValue?_of_factory isFactory taken, raised]
    dsimp only
    rw [if_pos ordinary, run_bind_of_ok (Takes.run states), World.extend_extend, List.append_assoc]
    rfl
  | unstated taken isFactory raised ordinary untaken =>
    rw [attributeValue?_of_factory isFactory taken, raised]
    dsimp only
    rw [if_pos ordinary, run_bind_of_error (Takes.run untaken), World.extend_extend, List.append_assoc]
    rfl

end

inductive AttributesRead (behaviour : Behaviour σ) (attributes : List (String × Value)) :
    List String → World σ → List (Option Value) → World σ → Prop
  | nil {world : World σ} : AttributesRead behaviour attributes [] world [] world
  | cons {world last : World σ} {name : String} {rest : List String} {value : Option Value}
      {values : List (Option Value)} {events : List Event} {store : σ}
      (read : ReadEnds behaviour attributes name world.store events (.ok value) store)
      (others : AttributesRead behaviour attributes rest (world.extend events store) values last) :
      AttributesRead behaviour attributes (name :: rest) world (value :: values) last

namespace ModuleFile

/-- What executing a module gives that has the given attributes before: those that it has then, or why it cannot
be executed. -/
def executed (given : List (String × Value)) : ModuleFile → Except Failure (List (String × Value))
  | missing => .error .fileMissing
  | directory => .error .fileIsDirectory
  | failing failure => .error failure
  | defining changes => .ok (changed given changes)

section

variable (behaviour : Behaviour σ) (importer : Importer) (settings : Settings) (filename : String)
  (file : ModuleFile) (world : World σ)

private theorem run_attributes :
    (file.attributes importer filename).run.run world =
      (match importer.create? (moduleName filename) filename with
        | none => .error (.noImporter filename)
        | some (.error failure) => .error failure
        | some (.ok given) => (file.executed given).mapError (Failure.wrappedBy (.importFailed filename)),
        world) := by
  rw [attributes]
  cases importer.create? (moduleName filename) filename with
  | none => rfl
  | some created =>
    cases created with
    | error failure => rfl
    | ok given =>
      dsimp only
      rw [run_wrapping]
      cases file <;> rfl

inductive Executes : List (String × Value) → Prop
  | intro {given attributes : List (String × Value)}
      (created : importer.create? (moduleName filename) filename = some (.ok given))
      (executed : file.executed given = .ok attributes) : Executes attributes

/-- A module is loaded: it is executed, and its attributes are read one after the other. It has a tree, and
what it does not have of the others is null. -/
inductive Loads : Source → World σ → Prop
  | intro {attributes : List (String × Value)} {nodes : Value} {scope context : Option Value}
      {after : World σ} (executes : file.Executes importer filename attributes)
      (read : AttributesRead behaviour attributes settings.attributeNames world
        [some nodes, scope, context] after) :
      Loads { nodes, scope := scope.getD .null, context := context.getD .null, filename } after

/-- How loading fails: no importer knows the file, the module cannot be made or not be executed, it has no tree,
or an attribute cannot be read. The attributes before that one are read then, and the later ones are not. -/
inductive LoadFails : Failure → World σ → Prop
  | noImporter (foreign : importer.create? (moduleName filename) filename = none) :
      LoadFails (.noImporter filename) world
  | notCreated {failure : Failure}
      (refused : importer.create? (moduleName filename) filename = some (.error failure)) :
      LoadFails failure world
  | notExecuted {given : List (String × Value)} {failure : Failure}
      (created : importer.create? (moduleName filename) filename = some (.ok given))
      (raised : file.executed given = .error failure) :
      LoadFails (failure.wrappedBy (.importFailed filename)) world
  | noFeatures {attributes : List (String × Value)} {events : List Event} {store : σ}
      (executes : file.Executes importer filename attributes)
      (absent : ReadEnds behaviour attributes settings.featuresAttribute world.store events (.ok none) store) :
      LoadFails (.noFeatures filename settings.featuresAttribute) (world.extend events store)
  | notRead {attributes : List (String × Value)} {earlier later : List String} {name : String}
      {values : List (Option Value)} {reached : World σ} {events : List Event} {failure : Failure} {store : σ}
      (executes : file.Executes importer filename attributes)
      (split : settings.attributeNames = earlier ++ name :: later)
      (read : AttributesRead behaviour attributes earlier world values reached)
      (present : values.head? ≠ some none)
      (raised : ReadEnds behaviour attributes name reached.store events (.error failure) store) :
      LoadFails failure (reached.extend events store)

end

section

variable {behaviour : Behaviour σ} {importer : Importer} {settings : Settings} {filename : String}
  {file : ModuleFile} {world after : World σ}

private theorem Executes.run_attributes {attributes : List (String × Value)}
    (executes : file.Executes importer filename attributes) (world : World σ) :
    (file.attributes importer filename).run.run world = (.ok attributes, world) := by
  obtain ⟨created, executed⟩ := executes
  rw [file.run_attributes, created]
  dsimp only
  rw [executed]
  rfl

theorem Loads.run_load {source : Source}
    (loads : Loads behaviour importer settings filename file world source after) :
    (file.load behaviour importer settings filename).run.run world = (.ok source, after) := by
  obtain ⟨executes, _ | ⟨features, _ | ⟨scope, _ | ⟨context, ⟨⟩⟩⟩⟩⟩ := loads
  rw [load, run_bind_of_ok (executes.run_attributes _), run_bind_of_ok features.run]
  dsimp only
  rw [run_bind_of_ok scope.run, run_bind_of_ok context.run]
  rfl

theorem LoadFails.run_load {failure : Failure}
    (fails : LoadFails behaviour importer settings filename file world failure after) :
    (file.load behaviour importer settings filename).run.run world = (.error failure, after) := by
  rw [load]
  cases fails with
  | noImporter foreign =>
    refine run_bind_of_error ?_
    rw [file.run_attributes, foreign]
  | notCreated refused =>
    refine run_bind_of_error ?_
    rw [file.run_attributes, refused]
  | notExecuted created raised =>
    refine run_bind_of_error ?_
    rw [file.run_attributes, created]
    dsimp only
    rw [raised]
    rfl
  | noFeatures executes absent =>
    rw [run_bind_of_ok (executes.run_attributes _), run_bind_of_ok absent.run]
    rfl
  | notRead executes split read present raised =>
    rw [run_bind_of_ok (executes.run_attributes _)]
    cases read with
    | nil =>
      cases split
      exact run_bind_of_error raised.run
    | @cons _ _ _ _ nodes _ _ _ features others =>
      obtain ⟨rfl, behind⟩ := List.cons.inj split
      cases nodes with
      | none => exact absurd rfl present
      | some nodes =>
        rw [run_bind_of_ok features.run]
        dsimp only
        cases others with
        | nil =>
          cases behind
          exact run_bind_of_error raised.run
        | cons scope others =>
          obtain ⟨rfl, last⟩ := List.cons.inj behind
          rw [run_bind_of_ok scope.run]
          cases others with
          | nil =>
            cases last
            exact run_bind_of_error raised.run
          | cons =>
            have lengths := congrArg List.length last
            simp at lengths

/-- Loading a module succeeds or fails in one of these ways. -/
theorem loads_or_loadFails (behaviour : Behaviour σ) (importer : Importer) (settings : Settings)
    (filename : String) (file : ModuleFile) (world : World σ) :
    (∃ source after, Loads behaviour importer settings filename file world source after) ∨
      ∃ failure after, LoadFails behaviour importer settings filename file world failure after := by
  cases created : importer.create? (moduleName filename) filename with
  | none => exact .inr ⟨_, _, .noImporter created⟩
  | some made =>
  cases made with
  | error failure => exact .inr ⟨_, _, .notCreated created⟩
  | ok given =>
  cases executed : file.executed given with
  | error failure => exact .inr ⟨_, _, .notExecuted created executed⟩
  | ok attributes =>
  have executes : file.Executes importer filename attributes := ⟨created, executed⟩
  obtain ⟨_, features, _, read⟩ := exists_readEnds behaviour attributes settings.featuresAttribute world.store
  cases features with
  | error failure => exact .inr ⟨_, _, .notRead executes rfl .nil nofun read⟩
  | ok nodes =>
  cases nodes with
  | none => exact .inr ⟨_, _, .noFeatures executes read⟩
  | some nodes =>
  obtain ⟨_, scope, _, scopeRead⟩ := exists_readEnds behaviour attributes settings.scopeAttribute
    (world.extend _ _).store
  cases scope with
  | error failure =>
    have split : settings.attributeNames =
      [settings.featuresAttribute] ++ settings.scopeAttribute :: [settings.contextAttribute] := rfl
    exact .inr ⟨_, _, .notRead executes split (.cons read .nil) nofun scopeRead⟩
  | ok scope =>
  obtain ⟨_, context, _, contextRead⟩ := exists_readEnds behaviour attributes settings.contextAttribute
    ((world.extend _ _).extend _ _).store
  cases context with
  | error failure =>
    have split : settings.attributeNames =
      [settings.featuresAttribute, settings.scopeAttribute] ++ settings.contextAttribute :: [] := rfl
    exact .inr ⟨_, _, .notRead executes split (.cons read (.cons scopeRead .nil)) nofun contextRead⟩
  | ok context => exact .inl ⟨_, _, .intro executes (.cons read (.cons scopeRead (.cons contextRead .nil)))⟩

end

end ModuleFile

/-- Expands built nodes with what the nodes of a visit see. -/
def Visit.expandBuilt (behaviour : Behaviour σ) (visit : Visit) (models : List Model) : Declaring σ Unit :=
  expandModels behaviour visit.view.1 visit.view.2.1 visit.view.2.2 models

section

variable {behaviour : Behaviour σ} {strict : Bool} {source : Source} {warnings : List Warning} {spent : Spent}
  {world : World σ}

/-- The expansion of a source whose tree is built is that of the built nodes. -/
theorem Source.run_expand_of_built {models : List Model}
    (built : ((source.visit strict).builder.attempt source.nodes).run world.spent =
      ({ models := .ok models, warnings }, spent)) :
    (source.expand behaviour strict).run.run ⟨{}, world⟩ =
      ((source.visit strict).expandBuilt behaviour models).run.run
        ⟨{}, { world with spent, warnings := world.warnings ++ warnings }⟩ := by
  rw [source.expand_eq_declare, Visit.declare_eq_expand]
  exact Expander.run_expand_of_built built _ _ _

/-- The expansion of a source whose tree is not built ends there. -/
theorem Source.run_expand_of_unbuilt {failure : Failure}
    (unbuilt : ((source.visit strict).builder.attempt source.nodes).run world.spent =
      ({ models := .error failure, warnings }, spent)) :
    (source.expand behaviour strict).run.run ⟨{}, world⟩ =
      (.error failure, ⟨{}, { world with spent, warnings := world.warnings ++ warnings }⟩) := by
  rw [source.expand_eq_declare, Visit.declare_eq_expand]
  exact Expander.run_expand_of_unbuilt unbuilt _ _ _

end

namespace ModuleFile

/-- How declaring a module ends. Its tree is built when it is loaded, and its nodes are expanded from an empty
tree when it is built. Strict building may refuse the tree, with a report, and relaxed building ends on a name
that cannot be shown. -/
inductive Ends (behaviour : Behaviour σ) (importer : Importer) (settings : Settings) (filename : String)
    (file : ModuleFile) (world : World σ) : Except Failure Group → World σ → Prop
  | notLoaded {failure : Failure} {after : World σ}
      (fails : LoadFails behaviour importer settings filename file world failure after) :
      Ends behaviour importer settings filename file world (.error failure) after
  | refused {source : Source} {loaded : World σ} {report : Report} {spent : Spent}
      (loads : Loads behaviour importer settings filename file world source loaded)
      (isStrict : settings.strict = true)
      (refused : ((source.visit settings.strict).builder.attempt source.nodes).run loaded.spent =
        ({ models := .error (.invalidTree report) }, spent)) :
      Ends behaviour importer settings filename file world (.error (.invalidTree report)) { loaded with spent }
  | hidden {source : Source} {loaded : World σ} {part : Value} {error : RaisedError} {warnings : List Warning}
      {spent : Spent} (loads : Loads behaviour importer settings filename file world source loaded)
      (isRelaxed : settings.strict = false) (read : source.nodes.Reads part) (hides : part.HidesName error)
      (ended : ((source.visit settings.strict).builder.attempt source.nodes).run loaded.spent =
        ({ models := .error (.raised error), warnings }, spent)) :
      Ends behaviour importer settings filename file world (.error (.raised error))
        { loaded with spent, warnings := loaded.warnings ++ warnings }
  | notExpanded {source : Source} {loaded : World σ} {models : List Model} {warnings : List Warning}
      {spent : Spent} {failure : Failure} {recording : Recording σ}
      (loads : Loads behaviour importer settings filename file world source loaded)
      (built : ((source.visit settings.strict).builder.attempt source.nodes).run loaded.spent =
        ({ models := .ok models, warnings }, spent))
      (raised : ((source.visit settings.strict).expandBuilt behaviour models).run.run
          ⟨{}, { loaded with spent, warnings := loaded.warnings ++ warnings }⟩ =
        (.error failure, recording)) :
      Ends behaviour importer settings filename file world (.error failure) recording.world
  | declared {source : Source} {loaded : World σ} {models : List Model} {warnings : List Warning}
      {spent : Spent} {recording : Recording σ}
      (loads : Loads behaviour importer settings filename file world source loaded)
      (built : ((source.visit settings.strict).builder.attempt source.nodes).run loaded.spent =
        ({ models := .ok models, warnings }, spent))
      (expanded : ((source.visit settings.strict).expandBuilt behaviour models).run.run
          ⟨{}, { loaded with spent, warnings := loaded.warnings ++ warnings }⟩ =
        (.ok (), recording)) :
      Ends behaviour importer settings filename file world (.ok recording.recorder.root) recording.world

section

variable {behaviour : Behaviour σ} {importer : Importer} {settings : Settings} {filename : String}
  {file : ModuleFile} {world after : World σ} {outcome : Except Failure Group}

/-- Declaring a module gives what its ending tells. -/
theorem Ends.run_declare (ends : Ends behaviour importer settings filename file world outcome after) :
    (file.declare behaviour importer settings filename).run.run world = (outcome, after) := by
  rw [declare]
  cases ends with
  | notLoaded fails => exact run_bind_of_error fails.run_load
  | refused loads _ refused =>
    rw [run_bind_of_ok loads.run_load, Source.run_declare, Source.run_expand_of_unbuilt refused, List.append_nil]
    rfl
  | hidden loads _ _ _ ended =>
    rw [run_bind_of_ok loads.run_load, Source.run_declare, Source.run_expand_of_unbuilt ended]
    rfl
  | notExpanded loads built raised =>
    rw [run_bind_of_ok loads.run_load, Source.run_declare, Source.run_expand_of_built built, raised]
    rfl
  | declared loads built expanded =>
    rw [run_bind_of_ok loads.run_load, Source.run_declare, Source.run_expand_of_built built, expanded]
    rfl

variable (behaviour importer settings filename file world)

/-- Declaring a module ends in one of these ways. -/
theorem exists_ends : ∃ outcome after, Ends behaviour importer settings filename file world outcome after := by
  rcases loads_or_loadFails behaviour importer settings filename file world with
    ⟨source, loaded, loads⟩ | ⟨failure, after, fails⟩
  · cases met : (source.visit settings.strict).builder.obstacle? source.nodes with
    | some obstacle =>
      obtain ⟨isRelaxed, part, read, hides⟩ := Builder.source_of_obstacle? met
      exact ⟨_, _, .hidden loads isRelaxed read hides (congrFun (Builder.attempt_of_some met) loaded.spent)⟩
    | none =>
    have ended := Builder.build_ends (source.visit settings.strict).builder source.nodes loaded.spent
    rw [← Builder.attempt_of_none met] at ended
    cases built : ((source.visit settings.strict).builder.attempt source.nodes).run loaded.spent with
    | mk result spent =>
    obtain ⟨models, warnings⟩ := result
    cases models with
    | ok models =>
      cases expanded : ((source.visit settings.strict).expandBuilt behaviour models).run.run
          ⟨{}, { loaded with spent, warnings := loaded.warnings ++ warnings }⟩ with
      | mk result recording =>
      cases result with
      | ok _ => exact ⟨_, _, .declared loads built expanded⟩
      | error failure => exact ⟨_, _, .notExpanded loads built expanded⟩
    | error failure =>
      -- Only strict building refuses a tree, and it reports why.
      rw [built] at ended
      cases ended with
      | refused isStrict => exact ⟨_, _, .refused loads isStrict built⟩
  · exact ⟨_, _, .notLoaded fails⟩

variable {behaviour importer settings filename file world}

/-- Declaring a module comes to an outcome exactly when it ends with it. -/
theorem run_declare_eq_iff :
    (file.declare behaviour importer settings filename).run.run world = (outcome, after) ↔
      Ends behaviour importer settings filename file world outcome after := by
  refine ⟨fun ran => ?_, Ends.run_declare⟩
  obtain ⟨_, _, ends⟩ := exists_ends behaviour importer settings filename file world
  cases ends.run_declare.symm.trans ran
  exact ends

end

end ModuleFile

/-- Plain data lies inside plain data. -/
inductive Plain.Holds (part : Plain) : Plain → Prop
  | self : Holds part part
  | item {items : List Plain} {item : Plain} (member : item ∈ items) (holds : Holds part item) :
      Holds part (.list items)
  | entry {entries : List (String × Plain)} {entry : String × Plain} (member : entry ∈ entries)
      (holds : Holds part entry.2) : Holds part (.map entries)

mutual

/-- What is not written is a whole number. -/
theorem Plain.holds_of_writingError? {error : RaisedError} (plain : Plain)
    (failed : plain.writingError? = some error) :
    ∃ number, Plain.Holds (.int number) plain ∧ integerText number = .error error := by
  match plain with
  | .int number => exact ⟨number, .self, RaisedError.within?_eq_some_iff.mp failed⟩
  | .list items =>
    obtain ⟨item, member, number, holds, hidden⟩ := exists_of_itemsWritingError? items failed
    exact ⟨number, .item member holds, hidden⟩
  | .map entries =>
    obtain ⟨entry, member, number, holds, hidden⟩ := exists_of_entriesWritingError? entries failed
    exact ⟨number, .entry member holds, hidden⟩
  | .null | .bool _ | .float _ | .str _ | .bytes _ => cases failed
termination_by structural plain

private theorem exists_of_itemsWritingError? {error : RaisedError} (items : List Plain)
    (failed : itemsWritingError? items = some error) :
    ∃ item ∈ items, ∃ number, Plain.Holds (.int number) item ∧ integerText number = .error error := by
  match items with
  | [] => cases failed
  | item :: rest =>
    rcases Option.or_eq_some_iff.mp failed with own | ⟨_, later⟩
    · exact ⟨item, .head _, item.holds_of_writingError? own⟩
    · obtain ⟨other, member, found⟩ := exists_of_itemsWritingError? rest later
      exact ⟨other, .tail _ member, found⟩
termination_by structural items

private theorem exists_of_entriesWritingError? {error : RaisedError} (entries : List (String × Plain))
    (failed : entriesWritingError? entries = some error) :
    ∃ entry ∈ entries, ∃ number, Plain.Holds (.int number) entry.2 ∧ integerText number = .error error := by
  match entries with
  | [] => cases failed
  | (key, value) :: rest =>
    rcases Option.or_eq_some_iff.mp failed with own | ⟨_, later⟩
    · exact ⟨(key, value), .head _, value.holds_of_writingError? own⟩
    · obtain ⟨other, member, found⟩ := exists_of_entriesWritingError? rest later
      exact ⟨other, .tail _ member, found⟩
termination_by structural entries

end

/-- What an element cannot be shown for is one of its keys, or a whole number in what it is masked as. -/
theorem Context.source_of_showingError? {context : Context} {error : RaisedError}
    (failed : context.showingError? = some error) :
    ∃ element, context.element = some element ∧
      ((∃ key, element.HasKey key ∧ key.toText = .error error) ∨
        ∃ plain number, element.masked = .ok plain ∧ Plain.Holds (.int number) plain ∧
          integerText number = .error error) := by
  rw [showingError?] at failed
  split at failed
  · cases failed
  · cases failed
  · rename_i element _ found
    refine ⟨element, found, ?_⟩
    cases masked : element.masked with
    | error other =>
      rw [masked] at failed
      cases failed
      exact .inl (Value.hasKey_of_maskError? (Value.masked_eq_error_iff.mp masked))
    | ok plain =>
      rw [masked] at failed
      obtain ⟨number, holds, hidden⟩ := plain.holds_of_writingError? failed
      exact .inr ⟨plain, number, rfl, holds, hidden⟩

namespace CommandLine

variable {environment : List (String × String)} {relaxed : Bool} {settings : Settings}

/-- Under sound settings, inspecting a module prints the tree that it declares, or ends after the failure of
declaring it. -/
theorem run_inspect (sound : Settings.switched environment relaxed = .valid settings)
    (behaviour : Behaviour σ) (importer : Importer) (command : Command) (filename : String)
    (file : ModuleFile) (world : World σ) :
    (inspect behaviour importer environment command relaxed filename file).run.run world =
      match (file.declare behaviour importer settings filename).run.run world with
      | (.ok root, after) => (.ok (.success (command.print root)), after)
      | (.error failure, after) => (ending failure, after) := by
  rw [inspect, sound]
  dsimp only
  rw [run_tryCatch, run_bind]
  generalize (file.declare behaviour importer settings filename).run.run world = outcome
  obtain ⟨failure | root, after⟩ := outcome <;> rfl

private theorem ending_of_ok {failure : Failure} {text : String} (ordinary : failure.isOrdinary = true)
    (explained : explanation failure = .ok text) : ending failure = .ok (.failure text) := by
  rw [ending, if_pos ordinary, explained]

private theorem ending_of_error {failure : Failure} {error : RaisedError} (ordinary : failure.isOrdinary = true)
    (unexplained : explanation failure = .error error) :
    ending failure = if (Failure.raised error).isOrdinary then .ok (.escape (.raised error))
      else .error (.raised error) := by
  rw [ending, if_pos ordinary, unexplained]

private theorem ending_of_interrupt {failure : Failure} (passes : failure.isOrdinary = false) :
    ending failure = .error failure := by
  rw [ending, passes]
  rfl

private theorem explanation_factoryFailed (stated : Except RaisedError String) (name : String) (cause : Failure) :
    explanation (.factoryFailed stated name cause) = stated.map fun text =>
      formatMessage ("Can not build " ++ Text.quote name ++ ": " ++ cause.literal)
        (some { filename := some text }) := by
  cases stated <;> rfl

private theorem explanation_invalidTree (report : Report) :
    explanation (.invalidTree report) = match report.context.showingError? with
      | none => .ok (formatMessage report.message (some report.context))
      | some error => .error error := by
  change Failure.told (.invalidTree report) = _
  rw [Failure.told, Failure.tellingError?]
  cases report.context.showingError? <;> rfl

end CommandLine

/-- Reading an attribute calls its factory once, if it is one, and nothing else but the callable that the module
asks for attributes that it does not have. -/
theorem ReadEnds.exists_factory {behaviour : Behaviour σ} {attributes : List (String × Value)} {name : String}
    {store after : σ} {events : List Event} {outcome : Except Failure (Option Value)}
    (ends : ReadEnds behaviour attributes name store events outcome after) :
    ∃ (factory? : Option (Nat × String)) (more : List Event),
      events = askedFor attributes name ++ (factory?.map fun made => .call made.1 made.2 []).toList ++ more ∧
      (∀ value, attributes.lookup name = some value → factory? = value.factory?) ∧
      (more = [] ∨ factory?.isSome ∧ more = askedFor attributes "__file__") := by
  have own {value other : Value} {events : List Event} {middle : σ}
      (takes : Takes behaviour attributes name store events (.ok value) middle)
      (found : attributes.lookup name = some other) : other = value := by
    cases takes with
    | own known => exact Option.some.inj (found.symm.trans known)
    | asked absent => cases found.symm.trans absent
  cases ends with
  | found taken plain =>
    refine ⟨none, [], by simp [taken.events_eq], fun value found => ?_, .inl rfl⟩
    rw [own taken found, plain]
  | absent untaken | untaken untaken =>
    refine ⟨none, [], by simp [untaken.events_eq], fun value found => ?_, .inl rfl⟩
    cases untaken with
    | asked absent | absent absent => cases found.symm.trans absent
  | @made _ _ _ factory _ _ taken isFactory | @interrupted _ _ factory _ _ _ taken isFactory =>
    refine ⟨some factory, [], by simp [taken.events_eq], fun value found => ?_, .inl rfl⟩
    rw [own taken found, isFactory]
  | @failed _ more _ _ factory _ _ _ _ taken isFactory _ _ states =>
    refine ⟨some factory, more, by simp [taken.events_eq], fun value found => ?_, .inr ⟨rfl, states.events_eq⟩⟩
    rw [own taken found, isFactory]
  | @unstated _ more _ factory _ _ _ _ _ taken isFactory _ _ untaken =>
    refine ⟨some factory, more, by simp [taken.events_eq], fun value found => ?_, .inr ⟨rfl, untaken.events_eq⟩⟩
    rw [own taken found, isFactory]

theorem ModuleFile.defining_executes {path : String} (isSource : path.endsWith ".py" = true)
    (changes : List (String × Option Value)) :
    (defining changes).Executes sourceImporter path (changed (sourceAttributes (moduleName path) path) changes) :=
  .intro (if_pos isSource) rfl

/-- Attributes that are factories, one of each kind. -/
def threeFactories : List (String × Option Value) :=
  [("FEATURES", some (.callable (.defined 0 "tree" .function))),
    ("SCOPE", some (.callable (.defined 1 "page" .function))),
    ("CONTEXT", some (.callable (.defined 2 "site" .function)))]

/-- A behaviour in which the callable 1 raises an error of the given class, and every other one gives an empty
list. -/
def raisingOrEmpty (errorClass : ErrorClass) : Behaviour Unit where
  call id _ store := (if id = 1 then .error (.raised ⟨errorClass, "off"⟩) else .ok (.list []), store)
  await _ store := (.ok .null, store)

/-- Attributes of a module that states another file. -/
def elsewhere : List (String × Option Value) :=
  [("__file__", some (.str "other.py")), ("FEATURES", some (.callable (.defined 1 "f" .function)))]

end ScenarioTree
