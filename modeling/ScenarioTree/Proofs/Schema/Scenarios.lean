import ScenarioTree.Proofs.Schema.Origin

/-! # Scenarios of relaxed construction

Relaxed construction supplies what a scenario lacks. Of a mapping that counts as a scenario with data of its
own it reads the name as text and the callables under their spellings, and where a callable is missing it
puts the stand-in that fails. What the mapping has then is told here key by key, and so is what the node that
is made of it checks its data with.
-/

namespace ScenarioTree

/-- What gathers and verifies the data of a node, if the node does so itself. -/
def Node.check? : Node → Option Check
  | .directLeaf _ check _ | .conditionalLeaf _ check _ _ | .fanOutLeaf _ check _ _ => some check
  | _ => none

/-- The fields that a scenario with data of its own needs. -/
def neededFields : List Field := [.getActual, .comparison]

/-- The name that a mapping gives a scenario, as text. -/
def scenarioName (entries : List (Value × Value)) : String :=
  match Value.named? "scenario" entries with
  | some name => name.display
  | none => ""

/-- One warning for every callable that a mapping lacks. -/
def standInWarnings (entries : List (Value × Value)) : List Warning :=
  (neededFields.filter fun field => !field.holdsCallable entries).map fun field =>
    .missingCallable (scenarioName entries) field.firstKey

/-- A callable is what a mapping carries under a spelling of a field, and the stand-in for the field when the
mapping carries no callable there. -/
def Field.IsSupplied (field : Field) (entries : List (Value × Value)) (callable : Callable) : Prop :=
  if field.holdsCallable entries then
    ∃ key ∈ field.keys, Value.named? key entries = some (.callable callable)
  else callable = .missing field.firstKey

namespace Value

private theorem isName_iff {name : String} {value : Value} : isName name value = true ↔ value = .str name := by
  cases value <;> simp [isName]

private theorem named?_append (name : String) (first others : List (Value × Value)) :
    named? name (first ++ others) = (named? name first).or (named? name others) := by
  rw [named?, List.find?_append, Option.map_or]
  rfl

end Value

namespace Field

variable (field : Field) (key scenario : String) (entries : List (Value × Value))

/-- Nothing is left under the keys of a field that was removed, and everything under other keys. -/
theorem named?_remove :
    Value.named? key (field.remove entries) =
      if key ∈ field.keys then none else Value.named? key entries := by
  rw [remove, Value.named?, List.find?_filter]
  split
  · rename_i spelled
    rw [Option.map_eq_none_iff, List.find?_eq_none]
    intro entry _ kept
    obtain ⟨foreign, named⟩ := of_decide_eq_true kept
    have removed : field.keys.any (fun key => Value.isName key entry.1) = true :=
      List.any_eq_true.mpr ⟨key, spelled, named⟩
    rw [removed] at foreign
    cases foreign
  · rename_i foreign
    rw [Value.named?]
    congr 2
    funext entry
    rw [Bool.eq_iff_iff, decide_eq_true_iff]
    refine and_iff_right_of_imp fun named => ?_
    rw [Bool.not_eq_true', List.any_eq_false]
    intro other spelled alike
    rw [Value.isName_iff.mp named] at alike
    cases Value.isName_iff.mp alike
    exact foreign spelled

/-- Whether a field holds a callable is told by what is under its keys. -/
theorem holdsCallable_congr {field : Field} {entries others : List (Value × Value)}
    (same : ∀ key ∈ field.keys, Value.named? key entries = Value.named? key others) :
    field.holdsCallable entries = field.holdsCallable others := by
  rw [holdsCallable, holdsCallable, Bool.eq_iff_iff, List.any_eq_true, List.any_eq_true]
  refine exists_congr fun key => and_congr_right fun spelled => ?_
  rw [valueHas, valueHas, same key spelled]

/-- A field that holds no callable holds the stand-in for it when it is supplied. -/
theorem named?_supply (own : field.name ∈ field.keys) :
    Value.named? key (field.supply scenario entries).1 =
      if field.holdsCallable entries = true ∨ key ∉ field.keys then Value.named? key entries
      else if key = field.name then some (.callable (.missing field.firstKey))
      else none := by
  rw [supply]
  cases holds : field.holdsCallable entries with
  | true => simp
  | false =>
    have standIn : Value.named? key [(.str field.name, .callable (.missing field.firstKey))] =
        if field.name = key then some (.callable (.missing field.firstKey)) else none :=
      named?_cons_str key field.name _ []
    rw [if_neg Bool.false_ne_true, Value.named?_append, named?_remove, standIn]
    by_cases spelled : key ∈ field.keys
    · simp [spelled, eq_comm]
    · have foreign : field.name ≠ key := fun same => spelled (same ▸ own)
      simp [spelled, foreign]

private theorem supply_warnings : (field.supply scenario entries).2 =
    if field.holdsCallable entries then [] else [.missingCallable scenario field.firstKey] := by
  rw [supply]
  split <;> rfl

private theorem named?_supply_foreign (own : field.name ∈ field.keys) (foreign : key ∉ field.keys) :
    Value.named? key (field.supply scenario entries).1 = Value.named? key entries := by
  rw [named?_supply _ _ _ _ own, if_pos (.inr foreign)]

end Field

section

variable {variant : Variant} {entries : List (Value × Value)} {children : List Model}

/-- A scenario with data of its own has its name under the key of scenarios. -/
theorem Variant.titleField_of_isExecutable (executable : variant.isExecutable = true) :
    variant.titleField = .scenario := by
  cases variant with
  | fanOutLeaf | conditionalLeaf | directLeaf => rfl
  | _ => cases executable

/-- A mapping that is classified as a scenario has a name. -/
theorem Variant.exists_name_of_ofShape? (executable : variant.isExecutable = true)
    (told : Variant.ofShape? entries = some variant) :
    ∃ name, Value.named? "scenario" entries = some name ∧ name.isTruthy = true := by
  obtain ⟨_, titled, _⟩ := ofShape?_eq_some_iff.mp told
  rw [titleField_of_isExecutable executable] at titled
  exact exists_of_valueHas rfl titled

/-- The needed fields of a scenario have spellings of their own. -/
theorem Variant.needed_fields (executable : variant.isExecutable = true) : ∀ field ∈ neededFields,
    field ∈ variant.fields ∧ field.name ∈ field.keys ∧ ∀ key ∈ field.keys,
      isKeyOf titleFields key = false ∧ isKeyOf childFields key = false ∧
        isKeyOf droppableFields key = false := by
  cases variant with
  | fanOutLeaf | conditionalLeaf | directLeaf => decide
  | _ => cases executable

section

variable (executable : variant.isExecutable = true) (distinct : HasDistinctKeys entries)

include executable distinct

variable (children) in
private theorem Variant.named?_adaptEntries_needed {field : Field} (needed : field ∈ neededFields) {key : String}
    (spelled : key ∈ field.keys) :
    Value.named? key (adaptEntries variant children entries) = Value.named? key entries := by
  obtain ⟨listed, _, ordinary⟩ := variant.needed_fields executable field needed
  obtain ⟨noTitle, noChildren, kept⟩ := ordinary key spelled
  rw [named?_adaptEntries_callable distinct listed spelled ⟨noTitle, noChildren⟩, kept]
  cases Value.named? key entries <;> rfl

variable (children) in
/-- Whether a needed field holds a callable does not depend on how the mapping is read. -/
theorem Variant.holdsCallable_adaptEntries {field : Field} (needed : field ∈ neededFields) :
    field.holdsCallable (adaptEntries variant children entries) = field.holdsCallable entries :=
  Field.holdsCallable_congr fun _ spelled =>
    variant.named?_adaptEntries_needed children executable distinct needed spelled

theorem Variant.named?_adaptEntries_scenario :
    Value.named? "scenario" (adaptEntries variant children entries) =
      (Value.named? "scenario" entries).map fun name => .str name.display := by
  have named := @named?_adaptEntries_title entries variant children distinct
  rw [titleField_of_isExecutable executable] at named
  exact named

/-- An executable variant is supplied with what gathers its data, and then with what verifies it. -/
theorem Variant.supplyCallables_eq :
    supplyCallables variant (adaptEntries variant children entries) =
      ((Field.comparison.supply (scenarioName entries)
          (Field.getActual.supply (scenarioName entries) (adaptEntries variant children entries)).1).1,
        standInWarnings entries) := by
  have name : scenarioName (adaptEntries variant children entries) = scenarioName entries := by
    rw [scenarioName, scenarioName, variant.named?_adaptEntries_scenario executable distinct]
    cases Value.named? "scenario" entries <;> rfl
  have first := variant.holdsCallable_adaptEntries children executable distinct
    (by decide : .getActual ∈ neededFields)
  have second : Field.comparison.holdsCallable
      (Field.getActual.supply (scenarioName entries) (adaptEntries variant children entries)).1 =
        Field.comparison.holdsCallable entries := by
    rw [← variant.holdsCallable_adaptEntries children executable distinct
      (by decide : .comparison ∈ neededFields)]
    refine Field.holdsCallable_congr fun key spelled => ?_
    refine Field.named?_supply_foreign .getActual key _ _ (by decide) ?_
    rw [List.mem_singleton.mp spelled]
    decide
  have warnings : (Field.getActual.supply (scenarioName entries) (adaptEntries variant children entries)).2 ++
      (Field.comparison.supply (scenarioName entries) (Field.getActual.supply (scenarioName entries)
        (adaptEntries variant children entries)).1).2 = standInWarnings entries := by
    rw [Field.supply_warnings, Field.supply_warnings, first, second, standInWarnings, neededFields]
    cases one : Field.getActual.holdsCallable entries <;>
      cases two : Field.comparison.holdsCallable entries <;> simp [one, two]
  have opened : supplyCallables variant (adaptEntries variant children entries) =
      let scenario := scenarioName (adaptEntries variant children entries)
      let gathering := Field.getActual.supply scenario (adaptEntries variant children entries)
      let verifying := Field.comparison.supply scenario gathering.1
      (verifying.1, gathering.2 ++ verifying.2) := if_pos executable
  rw [opened, name]
  dsimp only
  rw [warnings]

variable (children) in
/-- Under the spellings of a needed field the adapted mapping has what the mapping has, or the stand-in. -/
theorem Variant.named?_adapted_needed {field : Field} (needed : field ∈ neededFields) {key : String}
    (spelled : key ∈ field.keys) :
    Value.named? key (variant.adapted entries children) =
      if field.holdsCallable entries then Value.named? key entries
      else if key = field.name then some (.callable (.missing field.firstKey))
      else none := by
  have read := variant.named?_adaptEntries_needed children executable distinct needed spelled
  have holds := variant.holdsCallable_adaptEntries children executable distinct needed
  have foreign : ∀ key ∈ Field.getActual.keys, key ∉ Field.comparison.keys := by decide
  rw [adapted, variant.supplyCallables_eq executable distinct]
  dsimp only
  cases needed with
  | head =>
    rw [Field.named?_supply_foreign _ _ _ _ (by decide) (foreign key spelled),
      Field.named?_supply _ _ _ _ (by decide), holds, read]
    simp [spelled]
  | tail _ last =>
    cases List.mem_singleton.mp last
    have alien (key : String) (spelled : key ∈ Field.comparison.keys) : key ∉ Field.getActual.keys :=
      fun alike => foreign key alike spelled
    rw [Field.named?_supply _ _ _ _ (by decide), Field.named?_supply_foreign _ _ _ _ (by decide)
      (alien key spelled), Field.holdsCallable_congr fun key spelled =>
        Field.named?_supply_foreign _ _ _ _ (by decide) (alien key spelled), holds, read]
    simp [spelled]

theorem Variant.named?_adapted_other {key : String} (foreign : ∀ field ∈ neededFields, key ∉ field.keys) :
    Value.named? key (variant.adapted entries children) =
      Value.named? key (adaptEntries variant children entries) := by
  rw [adapted, variant.supplyCallables_eq executable distinct]
  dsimp only
  rw [Field.named?_supply_foreign _ _ _ _ (by decide) (foreign _ (.tail _ (.head _))),
    Field.named?_supply_foreign _ _ _ _ (by decide) (foreign _ (.head _))]

end

/-- What a scenario that is made of a mapping has of it: its name as text, and its callables, with stand-ins
for those that the mapping lacks. -/
structure Node.IsScenarioOf (variant : Variant) (entries : List (Value × Value)) (node : Node) : Prop where
  ofVariant : node.variant = variant
  named : node.name = scenarioName entries
  supplied : ∃ check, node.check? = some check ∧ Field.getActual.IsSupplied entries check.getActual ∧
    Field.comparison.IsSupplied entries check.comparison

/-- The name and the callables of a valid scenario are those of its fields. -/
theorem Node.fields_of_assemble {children? : Option (Validated (List Node))} {node : Node}
    (executable : variant.isExecutable = true)
    (valid : assemble variant entries children? = .valid node) :
    (∃ name : DisplayName, Field.scenario.required validateName entries = .valid name ∧
        name.text = node.name) ∧
      ∃ check, node.check? = some check ∧
        Field.getActual.required validateCallable entries = .valid check.getActual ∧
        Field.comparison.required validateCallable entries = .valid check.comparison := by
  cases variant <;> try cases executable
  all_goals
    simp only [assemble, validateCheck, Validated.besides_eq_valid_iff, Validated.seq_eq_valid_iff,
      Validated.map_eq_valid_iff] at valid
  case fanOutLeaf =>
    obtain ⟨⟨_, given, ⟨_, fragmentSet, ⟨_, check, ⟨name, named, rfl⟩, checks, rfl⟩, _, rfl⟩, _, rfl⟩, _⟩ :=
      valid
    obtain ⟨_, comparison, ⟨getActual, gathers, rfl⟩, verifies, rfl⟩ := checks
    exact ⟨⟨name, named, rfl⟩, _, rfl, gathers, verifies⟩
  case conditionalLeaf =>
    obtain ⟨⟨_, given, ⟨_, getFragment, ⟨_, check, ⟨name, named, rfl⟩, checks, rfl⟩, _, rfl⟩, _, rfl⟩, _⟩ :=
      valid
    obtain ⟨_, comparison, ⟨getActual, gathers, rfl⟩, verifies, rfl⟩ := checks
    exact ⟨⟨name, named, rfl⟩, _, rfl, gathers, verifies⟩
  case directLeaf =>
    obtain ⟨⟨_, getFragment, ⟨_, check, ⟨name, named, rfl⟩, checks, rfl⟩, _, rfl⟩, _⟩ := valid
    obtain ⟨_, comparison, ⟨getActual, gathers, rfl⟩, verifies, rfl⟩ := checks
    exact ⟨⟨name, named, rfl⟩, _, rfl, gathers, verifies⟩

/-- A scenario with data of its own has no children. -/
theorem Variant.child?_eq_none (executable : variant.isExecutable = true) (entries : List (Value × Value)) :
    variant.child? entries = none := by
  cases variant with
  | fanOutLeaf | conditionalLeaf | directLeaf => rfl
  | _ => cases executable

/-- A mapping that is classified as a scenario with data of its own is read as the node of its adapted
entries. -/
theorem salvageItem_scenario {value : Value} (mapping : value.entries? = some entries)
    (told : Variant.ofShape? entries = some variant) (executable : variant.isExecutable = true) :
    salvageItem value =
      ((salvageNode variant entries []).1.map .node, (salvageNode variant entries []).2) := by
  refine salvageItem_mapping mapping told ?_
  rw [Variant.salvagedChildren, variant.child?_eq_none executable]
  rfl

section

variable (executable : variant.isExecutable = true) (distinct : HasDistinctKeys entries)

include executable distinct

private theorem Variant.isSupplied_of_required {field : Field} (needed : field ∈ neededFields) {callable : Callable}
    (valid : field.required validateCallable (variant.adapted entries children) = .valid callable) :
    field.IsSupplied entries callable := by
  obtain ⟨key, spelled, value, named, isCallable⟩ := Field.exists_named_of_required valid
  cases validateCallable_eq_valid_iff.mp isCallable
  rw [variant.named?_adapted_needed _ executable distinct needed spelled] at named
  rw [Field.IsSupplied]
  split at named
  · rename_i holds
    rw [if_pos holds]
    exact ⟨key, spelled, named⟩
  · rename_i lacks
    rw [if_neg lacks]
    split at named
    · cases named
      rfl
    · cases named

/-- Relaxed construction warns of what a scenario lacks, and of the scenario when it cannot be kept all the
same. -/
theorem salvageNode_scenario :
    salvageNode variant entries [] =
      match assemble variant (variant.adapted entries []) none with
      | .valid node => (some node, standInWarnings entries)
      | .invalid issues =>
        (none, standInWarnings entries ++ [.skippedNode (reportedName entries) issues.length]) := by
  have ran : (validateVariant variant (variant.adapted entries [])).run [] =
      (assemble variant (variant.adapted entries []) none, []) := by
    rw [run_validateVariant, variant.child?_eq_none executable]
  have warned : (supplyCallables variant (adaptEntries variant [] entries)).2 = standInWarnings entries := by
    rw [variant.supplyCallables_eq executable distinct]
  have supplied : supplyCallables variant (adaptEntries variant [] entries) =
      (variant.adapted entries [], standInWarnings entries) := Prod.ext rfl warned
  cases made : assemble variant (variant.adapted entries []) none <;>
    simp only [salvageNode, supplied, ran, made]

/-- A node that relaxed construction makes of a scenario has its name and its callables of the mapping. -/
theorem Node.IsScenarioOf.of_assemble {node : Node}
    (valid : assemble variant (variant.adapted entries []) none = .valid node) :
    node.IsScenarioOf variant entries := by
  obtain ⟨⟨name, named, text⟩, check, checks, gathers, verifies⟩ :=
    Node.fields_of_assemble executable valid
  refine ⟨(Node.IsMadeOf.of_assemble valid).ofVariant, ?_, check, checks, ?_, ?_⟩
  · obtain ⟨key, spelled, value, found, spells⟩ := Field.exists_named_of_required named
    cases List.mem_singleton.mp spelled
    change Value.named? "scenario" _ = _ at found
    rw [variant.named?_adapted_other executable distinct (by decide),
      variant.named?_adaptEntries_scenario executable distinct] at found
    obtain ⟨written, carried, rfl⟩ := Option.map_eq_some_iff.mp found
    rw [scenarioName, carried, ← text]
    exact (validateName_eq_valid_iff.mp spells).symm
  · exact variant.isSupplied_of_required executable distinct (by decide) gathers
  · exact variant.isSupplied_of_required executable distinct (by decide) verifies

/-- Relaxed construction makes a scenario of a mapping, or skips the mapping. Either way there is one warning
for every callable that it lacks. -/
theorem salvageNode_scenario_cases :
    (∃ node, node.IsScenarioOf variant entries ∧
      salvageNode variant entries [] = (some node, standInWarnings entries)) ∨
    ∃ count, salvageNode variant entries [] =
      (none, standInWarnings entries ++ [.skippedNode (reportedName entries) count]) := by
  rw [salvageNode_scenario executable distinct]
  cases made : assemble variant (variant.adapted entries []) none with
  | valid node => exact .inl ⟨node, .of_assemble executable distinct made, rfl⟩
  | invalid issues => exact .inr ⟨issues.length, rfl⟩

/-- A mapping that is classified as a scenario with data of its own is read as a scenario of the mapping, or
skipped. -/
theorem salvageItem_scenario_cases {value : Value} (mapping : value.entries? = some entries)
    (told : Variant.ofShape? entries = some variant) :
    (∃ node : Node, node.IsScenarioOf variant entries ∧
      salvageItem value = (some (.node node), standInWarnings entries)) ∨
    ∃ count, salvageItem value =
      (none, standInWarnings entries ++ [.skippedNode (reportedName entries) count]) := by
  rw [salvageItem_scenario mapping told executable]
  rcases salvageNode_scenario_cases executable distinct with ⟨node, isScenario, made⟩ | ⟨count, skipped⟩
  · rw [made]
    exact .inl ⟨node, isScenario, rfl⟩
  · rw [skipped]
    exact .inr ⟨count, rfl⟩

end

end

end ScenarioTree
