import ScenarioTree.Proofs.Expansion.Refinement
import ScenarioTree.Proofs.Schema.Obstacles

/-! # Kept scenarios are declared

What relaxed building keeps of a scenario is declared like any other node. So a scenario that is written
incompletely still has its tests, which stand in the tree and are told by a warning.
-/

namespace ScenarioTree

section

variable {entries : List (Value × Value)} {variant : Variant}
  (executable : variant.isExecutable = true) (distinct : HasDistinctKeys entries)

include executable distinct

/-- A scenario whose name has text and whose fields are kept once is made a node, with a warning for every
callable that it lacks. -/
theorem exists_salvageNode_of_keptOnce (told : Variant.ofShape? entries = some variant)
    (once : ∀ field ∈ variant.fields, field.IsKeptOnce entries) (nonempty : scenarioName entries ≠ "") :
    ∃ node, node.IsScenarioOf variant entries ∧
      salvageNode variant entries [] = (some node, standInWarnings entries) := by
  have shape := variant.isShapeOf_adapted executable distinct told once nonempty
  have childless : ∀ slot ∈ variant.slots, slot.content ≠ .nodes := by
    cases variant with
    | fanOutLeaf | conditionalLeaf | directLeaf => decide
    | _ => cases executable
  have valid : (assemble variant (variant.adapted entries []) none).isValid = true :=
    (assemble_isValid_iff shape.spelled).mpr
      ⟨fun slot listed _ => shape.filled slot listed,
        fun slot listed nodes => absurd nodes (childless slot listed)⟩
  obtain ⟨node, made⟩ := Validated.isValid_iff.mp valid
  refine ⟨node, Node.IsScenarioOf.of_assemble executable distinct made, ?_⟩
  rw [salvageNode_scenario executable distinct, made]

/-- A scenario whose name has no text is skipped, with one more warning. -/
theorem exists_salvageNode_of_nameless (nameless : scenarioName entries = "") :
    ∃ count, salvageNode variant entries [] =
      (none, standInWarnings entries ++ [.skippedNode (reportedName entries) count]) := by
  rcases salvageNode_scenario_cases executable distinct with ⟨node, isScenario, made⟩ | skipped
  · exact absurd (isScenario.named.trans nameless) node.displayName.nonempty
  · exact skipped

end

/-- Relaxed construction keeps a mapping that is classified as a scenario with data of its own, whatever
else it carries, unless it keeps a field of it under two spellings. When the name has text, building gives
one node of the variant with that name, whose callables are those of the mapping or stand-ins, and one warning
for each stand-in; and expanding it declares what the node stands for. When the name has no text, the mapping
is skipped with a warning of its own. -/
theorem Expander.expand_keeps_scenario {builder : Builder} (isRelaxed : builder.strict = false)
    {nodes item : Value} (single : nodes.sequenceItems? = some [item]) {entries : List (Value × Value)}
    (mapping : item.entries? = some entries) (distinct : HasDistinctKeys entries) {variant : Variant}
    (told : Variant.ofShape? entries = some variant) (executable : variant.isExecutable = true)
    (once : ∀ field ∈ variant.fields, field.IsKeptOnce entries) :
    (scenarioName entries ≠ "" → ∃ node : Node, node.IsScenarioOf variant entries ∧
      (∀ spent, (builder.build nodes).run spent =
        ({ models := .ok [.node node], warnings := standInWarnings entries }, spent)) ∧
      ∀ {σ : Type} (behaviour : Behaviour σ) (scope context index : Value) (recorder : Recorder)
        (world : World σ) (declared : List Declaration) (after : World σ),
        (node.meaning behaviour scope context index).run.run
            { world with warnings := world.warnings ++ standInWarnings entries } = (.ok declared, after) →
          (Expander.expand ⟨behaviour, builder⟩ nodes scope context index).run.run ⟨recorder, world⟩ =
            (.ok (), ⟨recorder.addAll declared, after⟩)) ∧
    (scenarioName entries = "" → ∃ count, ∀ spent, (builder.build nodes).run spent =
      ({ models := .ok []
         warnings := standInWarnings entries ++ [.skippedNode (reportedName entries) count] }, spent)) := by
  have built := Builder.build_single isRelaxed single
  rw [salvageItem_scenario mapping told executable] at built
  constructor
  · intro nonempty
    obtain ⟨node, isScenario, made⟩ :=
      exists_salvageNode_of_keptOnce executable distinct told once nonempty
    rw [made] at built
    refine ⟨node, isScenario, built, ?_⟩
    intro σ behaviour scope context index recorder world declared after stands
    have realized := expandNodes_realizes behaviour scope context index [node] recorder
      { world with warnings := world.warnings ++ standInWarnings entries }
    have meaning : (meanings behaviour scope context index [node]).run.run
        { world with warnings := world.warnings ++ standInWarnings entries } = (.ok declared, after) := by
      rw [meanings, run_bind_of_ok stands, meanings, pure_bind, List.append_nil]
      rfl
    rw [meaning] at realized
    have clear : builder.obstacle? nodes = none := builder.obstacle?_single single
      (itemObstacle?_of_kept mapping told executable nonempty (congrArg Prod.fst made))
    have kept := built world.spent
    rw [← Builder.attempt_of_none clear] at kept
    rw [run_expand_of_built kept]
    exact realized
  · intro nameless
    obtain ⟨count, made⟩ := exists_salvageNode_of_nameless executable distinct nameless
    rw [made] at built
    exact ⟨count, built⟩

/-- The entries of a scenario that is named by a number and has no callable, although it spells the first one
twice. -/
def noteEntries : List (Value × Value) :=
  [(.str "scenario", .int 7), (.str "getActual", .null), (.str "get_actual", .str "text"),
    (.str "inherit", .bool true), (.str "note", .str "draft")]

/-- The scenario is kept with two stand-ins. -/
theorem noteEntries_kept :
    HasDistinctKeys noteEntries ∧ Variant.ofShape? noteEntries = some .directLeaf ∧
    (∀ field ∈ Variant.directLeaf.fields, field.IsKeptOnce noteEntries) ∧
    ∃ node : Node, node.name = "7" ∧
      node.check? = some ⟨.missing "getActual", .missing "comparison"⟩ ∧
      ∀ spent, (Builder.build { strict := false } (.list [.map noteEntries])).run spent =
        ({ models := .ok [.node node]
           warnings := [.missingCallable "7" "getActual", .missingCallable "7" "comparison"] }, spent) := by
  have distinct : HasDistinctKeys noteEntries := by
    unfold HasDistinctKeys
    decide
  have told : Variant.ofShape? noteEntries = some .directLeaf := rfl
  have once : ∀ field ∈ Variant.directLeaf.fields, field.IsKeptOnce noteEntries := by
    unfold Field.IsKeptOnce
    decide
  refine ⟨distinct, told, once, ?_⟩
  have isRelaxed : (Builder.mk false none).strict = false := rfl
  have single : (Value.list [.map noteEntries]).sequenceItems? = some [.map noteEntries] := rfl
  obtain ⟨kept, _⟩ := Expander.expand_keeps_scenario isRelaxed single rfl distinct told rfl once
  obtain ⟨node, ⟨_, named, check, checks, gathers, verifies⟩, built, _⟩ := kept (by decide)
  have stands : check = ⟨.missing "getActual", .missing "comparison"⟩ :=
    congr (congrArg Check.mk gathers) verifies
  exact ⟨node, named, checks.trans (congrArg some stands), built⟩

/-- The entries of a scenario with the given name, whose data is gathered and verified. -/
def titledEntries (name : Value) : List (Value × Value) :=
  [(.str "scenario", name), (.str "getActual", .callable (.defined 1 "read" .object)),
    (.str "comparison", .callable (.defined 2 "check" .object))]

/-- A scenario is skipped when its name counts as true and has no text, and when it has a callable under both
spellings of a field. -/
theorem titledEntries_skipped :
    Variant.ofShape? (titledEntries (.object "blank" [] true "")) = some .directLeaf ∧
    (Builder.build { strict := false } (.list [.map (titledEntries (.object "blank" [] true ""))])).run [] =
      ({ models := .ok [], warnings := [.skippedNode (.object "blank" [] true "") 1] }, []) ∧
    Variant.ofShape? ((.str "get_actual", .callable (.defined 1 "read" .object)) ::
      titledEntries (.str "Title")) = some .directLeaf ∧
    (Builder.build { strict := false } (.list [.map ((.str "get_actual",
        .callable (.defined 1 "read" .object)) :: titledEntries (.str "Title"))])).run [] =
      ({ models := .ok [], warnings := [.skippedNode (.str "Title") 1] }, []) := by
  refine ⟨rfl, ?_, rfl, ?_⟩
  · rw [Builder.build_single rfl rfl, salvageItem_scenario rfl rfl rfl]
    simp only [salvageNode, adaptEntries, contains_acceptedKeys]
    rfl
  · rw [Builder.build_single rfl rfl, salvageItem_scenario rfl rfl rfl]
    simp only [salvageNode, adaptEntries, contains_acceptedKeys]
    rfl

end ScenarioTree
