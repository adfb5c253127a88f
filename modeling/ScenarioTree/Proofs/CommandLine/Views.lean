import ScenarioTree.Proofs.CommandLine.Inspection
import ScenarioTree.Proofs.Declaration.ClimbedPaths
import ScenarioTree.Proofs.Expansion.DeclaredPrograms
import ScenarioTree.Proofs.Yaml.Outlines

/-! # All views of a visit

The tree of a visit is looked at from its elements, whose links lead up to the groups around; in its outline; by a
test runner, which collects it; and by the commands, one of which counts its tests while the other one prints its
outline. They show the same tests, in the same order and under the same names.
-/

namespace ScenarioTree

variable {σ : Type}

/-- A visit leaves the tree of a program, which a register lists with its links. -/
theorem Visit.exists_program (behaviour : Behaviour σ) (visit : Visit) (world : World σ) :
    ∃ (program : Program) (after : World σ),
      (∀ recorder, (visit.declare behaviour).run.run ⟨recorder, world⟩ = program.run.run.run ⟨recorder, after⟩) ∧
      ((program.link 0).run.run {}).2.elements = (visit.tree behaviour world).listing := by
  obtain ⟨program, after, declared⟩ := visit.declare_isProgram behaviour world
  have runs (recorder : Recorder) :
      (visit.declare behaviour).run.run ⟨recorder, world⟩ = program.run.run.run ⟨recorder, after⟩ := by
    rw [declared, program.run_eq]
  refine ⟨program, after, runs, ?_⟩
  rw [program.link_initial.2, tree, declared]
  rfl

namespace ModuleFile

/-- A module whose source is visited without a failure is printed, by each command in its own way. -/
theorem run_inspect_of_visit {behaviour : Behaviour σ} {importer : Importer}
    {environment : List (String × String)} {relaxed : Bool} {settings : Settings}
    (sound : Settings.switched environment relaxed = .valid settings) {filename : String} {file : ModuleFile}
    {before world : World σ} {source : Source}
    (loaded : (file.load behaviour importer settings filename).run.run before = (.ok source, world))
    (declared : (((source.visit settings.strict).declare behaviour).run.run ⟨{}, world⟩).1 = .ok ()) :
    ∃ after, ∀ command,
      (CommandLine.inspect behaviour importer environment command relaxed filename file).run.run before =
        (.ok (.success (command.print ((source.visit settings.strict).tree behaviour world))), after) := by
  refine ⟨(((source.visit settings.strict).declare behaviour).run.run ⟨{}, world⟩).2.world, fun command => ?_⟩
  rw [CommandLine.run_inspect sound, ModuleFile.declare, run_bind_of_ok loaded, source.run_declare,
    source.expand_eq_declare, declared]
  rfl

end ModuleFile

/-- All views of a declared tree agree, whatever building and declaring come to. The elements of the tree are those
that a program of declarations leaves, linked both ways. Climbing from each test to the root along these links, in the
order of a walk through the tree, gives the chains of names in the outline, in the same order and as often, and these
are the names that lead to the tests. A test runner collects the tests, in the same order and as often, under
identifiers that are made of their names one by one. And when the tree is that of a module, one command prints its
outline, and the other one the number of strings that stand in what the first one prints. -/
theorem Visit.views_agree (behaviour : Behaviour σ) (visit : Visit) (world : World σ) :
    (∃ (program : Program) (after : World σ),
      (∀ recorder, (visit.declare behaviour).run.run ⟨recorder, world⟩ = program.run.run.run ⟨recorder, after⟩) ∧
      let elements := ((program.link 0).run.run {}).2.elements
      elements = (visit.tree behaviour world).listing ∧ Walk elements 0 (List.range elements.length) ∧
      List.Forall₂ (ClimbsTo elements) ((List.range elements.length).filter (isTest elements))
        ((visit.tree behaviour world).outline.chains.map (List.map .str))) ∧
    (visit.tree behaviour world).cases.map Case.path =
      (visit.tree behaviour world).outline.chains.map (List.map .str) ∧
    (∀ identifier, ((visit.tree behaviour world).collect identifier).items [] =
      (visit.tree behaviour world).cases.map fun case =>
        ((case.path.map Value.display).scanl childIdentifier identifier, case)) ∧
    ∀ importer environment relaxed settings filename (file : ModuleFile) (before : World σ) source,
      Settings.switched environment relaxed = .valid settings →
      (file.load behaviour importer settings filename).run.run before = (.ok source, world) →
      source.visit settings.strict = visit →
      ((visit.declare behaviour).run.run ⟨{}, world⟩).1 = .ok () →
      ∃ printed after,
        (CommandLine.inspect behaviour importer environment .outline relaxed filename file).run.run before =
          (.ok (.success printed), after) ∧
        (CommandLine.inspect behaviour importer environment .check relaxed filename file).run.run before =
          (.ok (.success ("OK: " ++ toString (Yaml.countStrings printed) ++ " test(s) declared\n")), after) ∧
        Yaml.countStrings printed = (visit.tree behaviour world).cases.length := by
  obtain ⟨rootless, proper⟩ := visit.tree_isProper behaviour world
  have named := visit.tree_hasTitles behaviour world
  have paths := Group.map_path_cases_eq_chains rootless proper
  refine ⟨?climbed, paths, Group.items_collect rootless proper, ?printed⟩
  case climbed =>
    obtain ⟨program, after, runs, listed⟩ := visit.exists_program behaviour world
    refine ⟨program, after, runs, ?_⟩
    rw [listed, ← paths]
    exact ⟨rfl, Group.walk _, Group.climbs _⟩
  case printed =>
    rintro importer environment relaxed settings filename file before source sound loaded rfl declared
    obtain ⟨after, prints⟩ := ModuleFile.run_inspect_of_visit sound loaded declared
    have counted : Yaml.countStrings (CommandLine.Command.outline.print _) = _ :=
      (Yaml.countStrings_document named).trans (Group.length_chains_outline named)
    refine ⟨_, after, prints .outline, ?_, counted⟩
    rw [prints .check, counted]
    rfl

/-- Two groups of the same name, each of them with two fragments. -/
def twinGroups : Value :=
  .list [pagesGroup "set" [titleScenario "getActual"], pagesGroup "set" [titleScenario "getActual"]]

/-- The tree of a module that defines these groups. -/
def twinSource : Source := { nodes := twinGroups, scope := .str "page", filename := some "features_pages.py" }

/-- The four tests are found under the same four paths, although the groups share their name, and collected in
their order. They are counted, and as many strings are printed. -/
theorem twinVisit_views_agree :
    let root := (twinSource.visit true).tree alternating { store := 0 }
    let inspect (command : CommandLine.Command) :=
      (CommandLine.inspect alternating sourceImporter [] command false "features_pages.py"
        (.defining [("FEATURES", some twinGroups), ("SCOPE", some (.str "page"))])).run.run { store := 0 }
    root.cases.map Case.path =
      [[.str "Pages", .str "Set index: 0", .str "Title"], [.str "Pages", .str "Set index: 1", .str "Title"],
        [.str "Pages", .str "Set index: 0", .str "Title"], [.str "Pages", .str "Set index: 1", .str "Title"]] ∧
    ((root.collect "pages.py").items []).map Prod.snd = root.cases ∧
    ∃ printed after, inspect .outline = (.ok (.success printed), after) ∧
      inspect .check = (.ok (.success "OK: 4 test(s) declared\n"), after) ∧ Yaml.countStrings printed = 4 := by
  intro root inspect
  obtain ⟨_, paths, items, prints⟩ := (twinSource.visit true).views_agree alternating { store := 0 }
  have chains : root.outline.chains =
      [["Pages", "Set index: 0", "Title"], ["Pages", "Set index: 1", "Title"],
        ["Pages", "Set index: 0", "Title"], ["Pages", "Set index: 1", "Title"]] := by
    decide +kernel
  have found : root.cases.map Case.path = root.outline.chains.map (List.map .str) := paths
  have four : root.cases.length = 4 := by
    rw [← List.length_map Case.path, found, chains]
    rfl
  refine ⟨found.trans (by rw [chains]; rfl), ?_, ?_⟩
  · rw [items, List.map_map]
    exact List.map_id _
  · have sound : Settings.switched [] false = .valid {} := rfl
    have isSource : "features_pages.py".endsWith ".py" = true := by decide +kernel
    have executes := ModuleFile.defining_executes isSource
      [("FEATURES", some twinGroups), ("SCOPE", some (.str "page"))]
    have loads : ModuleFile.Loads alternating sourceImporter {} "features_pages.py"
        (.defining [("FEATURES", some twinGroups), ("SCOPE", some (.str "page"))]) { store := 0 } twinSource
        { store := 0 } :=
      .intro executes (.cons (.found (.own rfl) rfl) (.cons (.found (.own rfl) rfl)
        (.cons (.absent (.absent rfl rfl) rfl) .nil)))
    have succeeds : (((twinSource.visit true).declare alternating).run.run ⟨{}, { store := 0 }⟩).1.isOk = true := by
      decide +kernel
    have declared : (((twinSource.visit true).declare alternating).run.run ⟨{}, { store := 0 }⟩).1 = .ok () := by
      cases ended : (((twinSource.visit true).declare alternating).run.run ⟨{}, { store := 0 }⟩).1 with
      | ok => rfl
      | error failure => simp [ended, Except.isOk, Except.toBool] at succeeds
    obtain ⟨printed, after, outlined, checked, counted⟩ :=
      prints sourceImporter [] false {} "features_pages.py" _ _ twinSource sound loads.run_load rfl declared
    rw [counted.trans four] at checked
    exact ⟨printed, after, outlined, checked, counted.trans four⟩

end ScenarioTree
