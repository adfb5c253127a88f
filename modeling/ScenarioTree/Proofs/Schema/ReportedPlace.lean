import ScenarioTree.Proofs.Schema.Blame
import ScenarioTree.Proofs.Schema.Discrimination

/-! # The place that a report names

The report on a tree follows the location of the first issue in the tree itself. It leaves the tags out because
they are no keys there, and it takes every mapping that it comes to for a node. So it names the mapping that the
issue is about, with its path, as long as no mapping on the way carries its own tag as a key and the last step of
the location leads to no mapping.
-/

namespace ScenarioTree

section

variable {value root node : Value} {entries : List (Value × Value)} {location path way rest : List Segment}

/-- A mapping does not carry the tag of its own variant as a key. -/
def Value.HasNoTag (value : Value) : Prop :=
  ∀ entries variant, value.entries? = some entries → Variant.ofKeys? entries = some variant →
    Value.named? variant.tag entries = none

/-- The last step of a location leads from the mapping in which it ends to a value. -/
def Value.LeadsTo (node : Value) (rest : List Segment) (segment : Segment) (inner : Value) : Prop :=
  (∃ tag, rest = [tag, segment]) ∧ node.step? segment = some inner

namespace Trail

def standing (path : List Segment) (value : Value) : Trail := ⟨path, value, path, value⟩

theorem follow_cons {trail : Trail} (isOpen : Trail.isOpen trail.here = true) (segment : Segment)
    (rest : List Segment) :
    trail.follow (segment :: rest) = (trail.advance segment).remember.follow rest := if_pos isOpen

private theorem isOpen_of_entries? (mapping : value.entries? = some entries) : isOpen value = true := by
  rw [isOpen, mapping]
  exact Bool.or_true _

private theorem isOpen_of_indexedItems? {items : List Value} (indexed : value.indexedItems? = some items) :
    isOpen value = true := by
  rw [isOpen, indexed]
  rfl

private theorem remember_of_entries?_eq_none {trail : Trail} (plain : trail.here.entries? = none) :
    trail.remember = trail := by
  rw [remember, plain]
  rfl

private theorem remember_of_entries? {trail : Trail} (mapping : trail.here.entries? = some entries) :
    trail.remember = standing trail.path trail.here := by
  rw [remember, mapping]
  rfl

theorem path_remember (trail : Trail) : trail.remember.path = trail.path := by
  rw [remember]
  split <;> rfl

theorem here_remember (trail : Trail) : trail.remember.here = trail.here := by
  rw [remember]
  split <;> rfl

theorem advance_of_step? (trail : Trail) {segment : Segment} {next : Value}
    (step : trail.here.step? segment = some next) :
    trail.advance segment = { trail with path := trail.path ++ [segment], here := next } := by
  rw [advance, step]

theorem advance_of_step?_eq_none (trail : Trail) {segment : Segment} (stuck : trail.here.step? segment = none) :
    trail.advance segment = trail := by
  rw [advance, stuck]

/-- At a mapping, a step that cannot be made is left out. -/
theorem follow_stuck (mapping : value.entries? = some entries) {segment : Segment}
    (stuck : value.step? segment = none) :
    (standing path value).follow (segment :: rest) = (standing path value).follow rest := by
  have stays : (standing path value).advance segment = standing path value := advance_of_step?_eq_none _ stuck
  rw [follow_cons (isOpen_of_entries? mapping), stays, remember_of_entries? mapping]
  rfl

private theorem follow_mapping (mapping : value.entries? = some entries) {segment : Segment} {inner : Value}
    {others : List (Value × Value)} (step : value.step? segment = some inner)
    (another : inner.entries? = some others) :
    (standing path value).follow (segment :: rest) = (standing (path ++ [segment]) inner).follow rest := by
  have goes := advance_of_step? (standing path value) step
  rw [follow_cons (isOpen_of_entries? mapping), goes, remember_of_entries? another]
  rfl

/-- At a mapping, a step to anything else is made but not remembered. -/
theorem follow_plain (mapping : value.entries? = some entries) {segment : Segment} {inner : Value}
    (step : value.step? segment = some inner) (plain : inner.entries? = none) :
    (standing path value).follow (segment :: rest) =
      (⟨path ++ [segment], inner, path, value⟩ : Trail).follow rest := by
  have goes := advance_of_step? (standing path value) step
  rw [follow_cons (isOpen_of_entries? mapping), goes, remember_of_entries?_eq_none plain]
  rfl

/-- Following a location goes the way of the nodes that it passes, if no mapping there carries its own tag. -/
theorem follow_passes (passes : value.Passes location way node rest) (isMapping : node.entries?.isSome = true)
    (untagged : ∀ way other left, value.Passes location way other left → other.HasNoTag) (path : List Segment) :
    (standing path value).follow location = (standing (path ++ way) node).follow rest := by
  induction passes generalizing path with
  | here => rw [List.append_nil]
  | @deeper value child item node entries variant field items position location way rest mapping told isChild named
      indexed found further ih =>
    have stuck : value.step? (.key variant.tag) = none := by
      rw [Value.step?_key mapping]
      exact untagged [] value _ (.here _ _) entries variant mapping told
    have plain := (Value.nodeItems?_of_indexedItems? indexed).2
    have step : value.step? (.key field.name) = some child := (Value.step?_key mapping _).trans named
    have stepItem : child.step? (.index position) = some item := (Value.step?_index indexed position).trans found
    obtain ⟨others, mappingItem⟩ : ∃ others, item.entries? = some others := by
      rw [← Option.isSome_iff_exists]
      cases further with
      | here => exact isMapping
      | deeper mapping => rw [mapping]; rfl
    have goes := advance_of_step? ⟨path ++ [.key field.name], child, path, value⟩ stepItem
    rw [follow_stuck mapping stuck, follow_plain mapping step plain,
      follow_cons (isOpen_of_indexedItems? indexed), goes, remember_of_entries? mappingItem]
    have onward := ih isMapping
      (fun way other left passes =>
        untagged _ other left (.deeper mapping told isChild named indexed found passes))
      (path ++ [.key field.name] ++ [.index position])
    rw [onward]
    simp

/-- In the mapping in which a location ends, the rest of the location leads to no other mapping, unless the last
step does. -/
theorem follow_endsAt (ends : node.EndsAt rest) (untagged : node.HasNoTag)
    (bare : ∀ segment inner, node.LeadsTo rest segment inner → inner.entries? = none)
    (path : List Segment) :
    ((standing path node).follow rest).nodePath = path ∧ ((standing path node).follow rest).node = node := by
  have stuck {entries : List (Value × Value)} {variant : Variant} (mapping : node.entries? = some entries)
      (told : Variant.ofKeys? entries = some variant) : node.step? (.key variant.tag) = none :=
    (Value.step?_key mapping _).trans (untagged entries variant mapping told)
  cases ends with
  | unknown => exact ⟨rfl, rfl⟩
  | own mapping told segment =>
    rw [follow_stuck mapping (stuck mapping told)]
    cases step : node.step? segment with
    | none =>
      rw [follow_stuck mapping step]
      exact ⟨rfl, rfl⟩
    | some inner =>
      rw [follow_plain mapping step (bare _ _ ⟨⟨_, rfl⟩, step⟩)]
      exact ⟨rfl, rfl⟩
  | @child entries variant field child mapping told named position plain strange =>
    have step : node.step? (.key field.name) = some child := (Value.step?_key mapping _).trans named
    rw [follow_stuck mapping (stuck mapping told), follow_plain mapping step plain]
    rw [follow]
    split
    · rename_i isOpen
      obtain ⟨items, indexed⟩ : ∃ items, child.indexedItems? = some items := by
        rw [← Option.isSome_iff_exists]
        simpa [Trail.isOpen, plain] using isOpen
      cases found : items[position]? with
      | none =>
        have stays := advance_of_step?_eq_none ⟨path ++ [.key field.name], child, path, node⟩
          ((Value.step?_index indexed position).trans found)
        rw [stays, remember_of_entries?_eq_none plain]
        exact ⟨rfl, rfl⟩
      | some item =>
        have goes := advance_of_step? ⟨path ++ [.key field.name], child, path, node⟩
          ((Value.step?_index indexed position).trans found)
        have plainItem := strange items item indexed found
        rw [goes, remember_of_entries?_eq_none plainItem]
        exact ⟨rfl, rfl⟩
    · exact ⟨rfl, rfl⟩

/-- What was gone before stays the beginning of the way. -/
theorem isPrefix_nodePath_follow {trail : Trail} (gone : path <+: trail.path)
    (remembered : path <+: trail.nodePath) : path <+: (trail.follow location).nodePath := by
  induction location generalizing trail with
  | nil => exact remembered
  | cons segment rest ih =>
    rw [follow]
    split
    · have further : path <+: (trail.advance segment).path ∧ path <+: (trail.advance segment).nodePath := by
        rw [advance]
        split
        · exact ⟨gone, remembered⟩
        · exact ⟨gone.trans (List.prefix_append ..), remembered⟩
      rw [remember]
      split
      · exact ih further.1 further.1
      · exact ih further.1 further.2
    · exact remembered

end Trail

/-- What the report on a list or tuple says of the first issue does not depend on the tree, except for the place. -/
theorem Report.exists_message (issue : Issue) : ∃ message, ∀ {root : Value} {items : List Value},
    root.indexedItems? = some items → items ≠ [] → ∀ (others : List Issue) (filename : Option String),
      ofIssues root (issue :: others) filename =
        ⟨message, filename, some (((Trail.start root).follow issue.location).nodePath,
          ((Trail.start root).follow issue.location).node)⟩ := by
  obtain ⟨line, headline⟩ := Option.isSome_iff_exists.mp issue.fault.headline?_isSome
  exact ⟨_, fun indexed several others filename =>
    ofIssues_eq indexed several (by rw [locate?, headline, Option.map_some]) others filename⟩

/-- The report on a list or tuple that is not empty is about the first issue. -/
theorem Report.found_ofIssues {items : List Value} (indexed : root.indexedItems? = some items)
    (several : items ≠ []) (issue : Issue) (others : List Issue) (filename : Option String) :
    (Report.ofIssues root (issue :: others) filename).found =
      some (((Trail.start root).follow issue.location).nodePath,
        ((Trail.start root).follow issue.location).node) := by
  obtain ⟨message, reports⟩ := exists_message issue
  rw [reports indexed several]

end

/-- The innermost mapping at a node position on a location: its path, and what of the location is left there. -/
structure Value.IsInnermost (root : Value) (location path : List Segment) (node : Value) (rest : List Segment) :
    Prop where
  passed : root.PassesNode location path node rest
  isMapping : node.entries?.isSome = true
  innermost : ∀ way other left, root.PassesNode location way other left → other.entries?.isSome = true →
    way <+: path

/-- No mapping at a node position on a location carries its own tag as a key. -/
def Value.IsUntagged (root : Value) (location : List Segment) : Prop :=
  ∀ way other left, root.PassesNode location way other left → other.HasNoTag

section

variable {root item value node : Value} {items : List Value} {location path rest : List Segment}

theorem Value.EndsAt.isMapping (ends : node.EndsAt rest) : node.entries?.isSome = true := by
  cases ends with
  | unknown mapping => rw [mapping]; rfl
  | own mapping => rw [mapping]; rfl
  | child mapping => rw [mapping]; rfl

/-- Only mappings are on the way to a mapping, or it is the value itself. -/
theorem Value.Passes.isMapping (passes : value.Passes location path node rest)
    (isMapping : node.entries?.isSome = true) : value.entries?.isSome = true := by
  cases passes with
  | here => exact isMapping
  | deeper mapping => rw [mapping]; rfl

theorem Value.Blames.isMapping (blames : value.Blames location) : value.entries?.isSome = true := by
  obtain ⟨_, _, _, passes, ends, _⟩ := blames
  exact passes.isMapping ends.isMapping

/-- A location that passes a node starts with the position of the item that the node is in. -/
theorem Value.PassesNode.exists_item (passes : root.PassesNode location path node rest) :
    ∃ items, ∃ position : Nat, ∃ item further onward, root.indexedItems? = some items ∧
      items[position]? = some item ∧ location = .index position :: further ∧ path = .index position :: onward ∧
      item.Passes further onward node rest := by
  cases passes with
  | item indexed found further => exact ⟨_, _, _, _, _, indexed, found, rfl, rfl, further⟩

private theorem Value.IsInnermost.of_endsAt (indexed : root.indexedItems? = some items) {position : Nat}
    (found : items[position]? = some item) (passes : item.Passes location path node rest)
    (ends : node.EndsAt rest) :
    root.IsInnermost (.index position :: location) (.index position :: path) node rest where
  passed := .item indexed found passes
  isMapping := ends.isMapping
  innermost := by
    intro way other left another isMapping
    obtain ⟨others, place, first, further, onward, indexed', found', alike, rfl, onwards⟩ := another.exists_item
    simp only [List.cons.injEq, Segment.index.injEq, Int.natCast_inj] at alike
    obtain ⟨rfl, rfl⟩ := alike
    cases indexed.symm.trans indexed'
    cases found.symm.trans found'
    obtain ⟨suffix, same⟩ := passes.isPrefix_of_endsAt ends onwards isMapping
    exact ⟨suffix, by rw [← same]; rfl⟩

/-- From the root, the first step leads to an item. -/
theorem Trail.follow_start (indexed : root.indexedItems? = some items) {position : Nat}
    (found : items[position]? = some item) :
    (start root).follow (.index position :: location) =
      (remember ⟨[.index position], item, [], root⟩).follow location := by
  have goes := advance_of_step? (start root) ((Value.step?_index indexed position).trans found)
  rw [follow_cons (isOpen_of_indexedItems? indexed), goes]
  rfl

/-- A mapping that validation refuses is refused by strict building. -/
theorem Value.IsSteady.not_accepts (steady : node.IsSteady) (isMapping : node.entries?.isSome = true)
    (refused : node.verdict.isValid = false) (filename : Option String) (spent : Spent) (models : List Model)
    (after : Spent) : ¬ Builder.Accepts { filename } [node] spent models after := by
  obtain ⟨entries, mapping⟩ := Option.isSome_iff_exists.mp isMapping
  intro accepted
  obtain ⟨built, ran, _⟩ := (Builder.accepts_mapping_iff mapping).mp accepted
  rw [steady spent] at ran
  obtain ⟨valid, _⟩ := Prod.mk.inj ran
  rw [valid] at refused
  cases refused

/-- Where the report on an issue of an item is found: at the root if the item is no mapping, and otherwise at the
innermost mapping on the location, or one step further if this leads to a mapping. -/
theorem Report.found_of_blames (indexed : root.indexedItems? = some items) {position : Nat}
    (found : items[position]? = some item) {filename : Option String} {issue inner : Issue} {others : List Issue}
    (placed : issue = inner.within (.index position)) {report : Report}
    (reported : report = .ofIssues root (issue :: others) filename)
    (isMapping : item.entries?.isSome = true) (passes : item.Passes inner.location path node rest)
    (ends : node.EndsAt rest) (untagged : root.IsUntagged issue.location) :
    ((∀ segment inner, node.LeadsTo rest segment inner → inner.entries? = none) →
      report.found = some (.index position :: path, node)) ∧
    ∀ segment inner, node.LeadsTo rest segment inner → inner.entries?.isSome = true →
      report.found = some ((.index position :: path) ++ [segment], inner) := by
  subst placed
  have location : (inner.within (.index position)).location = .index position :: inner.location := rfl
  have several : items ≠ [] := by
    rintro rfl
    cases found
  obtain ⟨entries, mapping⟩ := Option.isSome_iff_exists.mp isMapping
  have below (way : List Segment) (other : Value) (left : List Segment)
      (passes : item.Passes inner.location way other left) : other.HasNoTag :=
    untagged _ other left (.item indexed found passes)
  have followed : (Trail.start root).follow (inner.within (.index position)).location =
      (Trail.standing (.index position :: path) node).follow rest := by
    rw [location, Trail.follow_start indexed found, Trail.remember_of_entries? mapping]
    exact Trail.follow_passes passes ends.isMapping below [.index position]
  have untaggedNode := below path node rest passes
  rw [reported, found_ofIssues indexed several, followed]
  constructor
  · intro bare
    obtain ⟨nodePath, same⟩ := Trail.follow_endsAt ends untaggedNode bare (.index position :: path)
    rw [nodePath, same]
  · rintro segment further ⟨⟨tag, rfl⟩, step⟩ isMapping
    obtain ⟨others, another⟩ := Option.isSome_iff_exists.mp isMapping
    cases ends with
    | own mapping told =>
      have stuck := (Value.step?_key mapping _).trans (untaggedNode _ _ mapping told)
      rw [Trail.follow_stuck mapping stuck, Trail.follow_mapping mapping step another]
      rfl

/-- The report is about the root exactly when the item is no mapping. -/
theorem Report.found_root_iff (indexed : root.indexedItems? = some items) {position : Nat}
    (found : items[position]? = some item) {filename : Option String} {issue inner : Issue} {others : List Issue}
    (placed : issue = inner.within (.index position)) {report : Report}
    (reported : report = .ofIssues root (issue :: others) filename)
    (here : item.entries? = none → inner.IsHere) :
    report.found = some ([], root) ↔ item.entries? = none := by
  subst placed
  have location : (inner.within (.index position)).location = .index position :: inner.location := rfl
  have several : items ≠ [] := by
    rintro rfl
    cases found
  rw [reported, found_ofIssues indexed several, location, Trail.follow_start indexed found]
  cases isMapping : item.entries? with
  | none =>
    have plain : Trail.remember ⟨[.index position], item, [], root⟩ = ⟨[.index position], item, [], root⟩ :=
      Trail.remember_of_entries?_eq_none isMapping
    rw [plain, here isMapping]
    exact iff_of_true rfl rfl
  | some entries =>
    have mapping : Trail.remember ⟨[.index position], item, [], root⟩ = .standing [.index position] item :=
      Trail.remember_of_entries? isMapping
    rw [mapping]
    constructor
    · intro same
      obtain ⟨nodePath, _⟩ := Prod.mk.inj (Option.some.inj same)
      have kept : [Segment.index position] <+:
          ((Trail.standing [.index position] item).follow inner.location).nodePath :=
        Trail.isPrefix_nodePath_follow (List.prefix_refl _) (List.prefix_refl _)
      rw [nodePath] at kept
      cases List.prefix_nil.mp kept
    · exact nofun

end

/-- When strict building refuses a list or tuple of mappings that have their children in lists and tuples, the
report is on the first issue. It is about the first item that is not valid, and about the root as a whole exactly
when this item is no mapping. Otherwise there is an innermost mapping at a node position on the location of the
issue. It is found in the tree by its path, and it is refused by itself. The report is about this mapping, with
this path, if no mapping on the location carries its own tag as a key and the last step of the location leads to
no mapping; if it leads to one, the report is about what it leads to. -/
theorem Builder.report_points_at_node {filename : Option String} {root : Value} {items : List Value}
    (indexed : root.indexedItems? = some items) (listed : ∀ item ∈ items, item.Throughout HasListedChildren)
    {spent : Spent} {failure : Failure}
    (refused : ((Builder.build { filename } root).run spent).1.models = .error failure) :
    ∃ report issue others before item after, failure = .invalidTree report ∧
      ((validateTree (.list items)).run spent).1 = .invalid (issue :: others) ∧
      report = .ofIssues root (issue :: others) filename ∧ items = before ++ item :: after ∧
      (∀ earlier ∈ before, ((validateNode earlier).run spent).1.isValid = true) ∧
      ((validateNode item).run spent).1.isValid = false ∧
      (report.found = some ([], root) ↔ item.entries? = none) ∧
      (item.entries?.isSome = true → ∃ path node rest, root.IsInnermost issue.location path node rest ∧
        root.follow? path = some node ∧
        (∀ filename spent models after, ¬ Builder.Accepts { filename } [node] spent models after) ∧
        (root.IsUntagged issue.location →
          ((∀ segment inner, node.LeadsTo rest segment inner → inner.entries? = none) →
            report.found = some (path, node)) ∧
          ∀ segment inner, node.LeadsTo rest segment inner → inner.entries?.isSome = true →
            report.found = some (path ++ [segment], inner))) := by
  have steady : ∀ item ∈ items, item.IsSteady := fun item member => Value.isSteady_of_listed (listed item member)
  have reports (item : Value) (member : item ∈ items) := Value.verdict_reports (listed item member)
  have sequence : root.sequenceItems? = some items := by
    cases root with
    | list | tuple => exact indexed
    | _ => cases indexed
  have ran : (validateTree (.list items)).run spent = (Value.itemsVerdict 0 items, spent) :=
    Value.run_validateItems_of_steady steady 0 spent
  obtain ⟨issues, verdict, rfl⟩ : ∃ issues, Value.itemsVerdict 0 items = .invalid issues ∧
      failure = .invalidTree (.ofIssues root issues filename) := by
    have ended := Builder.build_ends { filename } root spent
    generalize (Builder.build { filename } root).run spent = outcome at ended refused
    obtain ⟨built, final⟩ := outcome
    cases ended with
    | refused _ found _ validated =>
      cases sequence.symm.trans found
      cases refused
      exact ⟨_, (Prod.mk.inj (ran.symm.trans validated)).1, rfl⟩
    | _ => cases refused
  have told := fun item member => (reports item member).told
  have reported : (Value.itemsVerdict 0 items).issues = issues := by
    rw [verdict]
    rfl
  cases issues with
  | nil =>
    have valid := (Value.itemsVerdict_reports steady told 0).told reported
    rw [verdict] at valid
    cases valid
  | cons issue others =>
    obtain ⟨before, item, after, inner, rfl, earlier, member, placed⟩ :=
      Value.exists_first_of_itemsVerdict steady told reported
    rw [Nat.zero_add] at placed
    have among : item ∈ before ++ item :: after := List.mem_append_right _ (.head _)
    have found : (before ++ item :: after)[before.length]? = some item := by simp
    have blamed := (reports item among).placed inner member
    refine ⟨_, issue, others, before, item, after, rfl, ?_, rfl, rfl, ?_, ?_, ?_, ?_⟩
    · rw [ran, verdict]
    · intro first listed
      rw [steady first (List.mem_append_left _ listed)]
      exact earlier first listed
    · rw [steady item among]
      exact Validated.isValid_eq_false_of_mem_issues member
    · refine Report.found_root_iff indexed found placed rfl fun plain => ?_
      rcases blamed with ⟨_, here⟩ | blames
      · exact here
      · cases (congrArg Option.isSome plain).symm.trans blames.isMapping
    · intro isMapping
      rcases blamed with ⟨plain, _⟩ | ⟨path, node, rest, passes, ends, steadyNode, refusedNode⟩
      · rw [plain] at isMapping
        cases isMapping
      · have innermost := Value.IsInnermost.of_endsAt indexed found passes ends
        have location : issue.location = .index before.length :: inner.location := by
          rw [placed]
          rfl
        rw [← location] at innermost
        exact ⟨_, node, rest, innermost, innermost.passed.follow?,
          steadyNode.not_accepts ends.isMapping refusedNode,
          Report.found_of_blames indexed found placed rfl isMapping passes ends⟩

/-- Nothing in a mapping leads a report astray: it does not carry its own tag as a key, and holds no mapping. -/
structure IsUnmistakable (entries : List (Value × Value)) : Prop where
  untagged : ∀ variant, Variant.ofKeys? entries = some variant → Value.named? variant.tag entries = none
  flat : ∀ entry ∈ entries, entry.2.entries? = none

section

variable {root value node : Value} {items : List Value} {location path rest : List Segment}
  {condition : List (Value × Value) → Prop}

/-- What holds throughout a tree holds throughout every node that a location passes. -/
theorem Value.Passes.throughout (passes : value.Passes location path node rest)
    (through : value.Throughout condition) : node.Throughout condition := by
  induction passes with
  | here => exact through
  | deeper mapping _ isChild named indexed found _ ih =>
    cases through with
    | leaf plain => cases mapping.symm.trans plain
    | mapping same _ below =>
      cases mapping.symm.trans same
      exact ih (below _ isChild _ _ named (Value.nodeItems?_of_indexedItems? indexed).1 _
        (List.mem_of_getElem? found))

theorem Value.PassesNode.throughout (passes : root.PassesNode location path node rest)
    (indexed : root.indexedItems? = some items) (through : ∀ item ∈ items, item.Throughout condition) :
    node.Throughout condition := by
  obtain ⟨others, _, item, _, _, indexed', found, _, _, further⟩ := passes.exists_item
  cases indexed.symm.trans indexed'
  exact further.throughout (through item (List.mem_of_getElem? found))

/-- In a tree of unmistakable mappings, no mapping on a location carries its own tag. -/
theorem Value.isUntagged_of_unmistakable (indexed : root.indexedItems? = some items)
    (through : ∀ item ∈ items, item.Throughout IsUnmistakable) (location : List Segment) :
    root.IsUntagged location := by
  intro way other left passes entries variant mapping told
  cases passes.throughout indexed through with
  | leaf plain => cases mapping.symm.trans plain
  | mapping same here _ =>
    cases mapping.symm.trans same
    exact here.untagged variant told

/-- In a tree of unmistakable mappings, the last step of a location leads to no mapping. -/
theorem Value.entries?_eq_none_of_unmistakable (indexed : root.indexedItems? = some items)
    (through : ∀ item ∈ items, item.Throughout IsUnmistakable) (passes : root.PassesNode location path node rest)
    (isMapping : node.entries?.isSome = true) {segment : Segment} {inner : Value}
    (leads : node.LeadsTo rest segment inner) : inner.entries? = none := by
  cases passes.throughout indexed through with
  | leaf plain =>
    rw [plain] at isMapping
    cases isMapping
  | @mapping _ entries found here _ =>
    have step : node.step? segment = Value.lookup? segment.toValue entries := by
      cases node with
      | map | proxy =>
        cases found
        rfl
      | _ => cases found
    obtain ⟨entry, listed, rfl⟩ := Option.map_eq_some_iff.mp (step.symm.trans leads.2)
    exact here.flat entry (List.mem_of_find?_eq_some listed)

end

/-- The entries of a scenario that has nothing to compare with. -/
def openScenario : List (Value × Value) :=
  [(.str "scenario", .str "Title"), (.str "getActual", .callable (.defined 1 "read" .object))]

/-- The entries of a group with that scenario. -/
def openGroup : List (Value × Value) :=
  [(.str "feature", .str "Menu"), (.str "tests", .tuple [.proxy openScenario])]

/-- The items of a tree in which a built scenario comes before the group. -/
def openItems : List Value :=
  [.ofNode (.directLeaf (.of "Footer") ⟨.defined 1 "read" .object, .defined 2 "check" .object⟩ none), .map openGroup]

/-- What holds of the scenario and of the group holds throughout the items. -/
theorem throughout_openItems {condition : List (Value × Value) → Prop} (scenario : condition openScenario)
    (group : condition openGroup) : ∀ item ∈ openItems, item.Throughout condition := by
  have below : (Value.proxy openScenario).Throughout condition := .childless rfl scenario rfl rfl
  have above : (Value.map openGroup).Throughout condition :=
    .group rfl group rfl rfl rfl (List.forall_mem_singleton.mpr below)
  exact List.forall_mem_cons.mpr ⟨.leaf rfl, List.forall_mem_singleton.mpr above⟩

/-- The report is about the scenario: it is the innermost mapping on the location of the first issue, and refused
by itself. -/
theorem openItems_report :
    (∀ item ∈ openItems, item.Throughout HasListedChildren) ∧
    ∃ report, ((Builder.build {} (.tuple openItems)).run []).1.models = .error (.invalidTree report) ∧
      report.found = some ([.index 1, .key "tests", .index 0], .proxy openScenario) ∧
      (∃ location rest, (Value.tuple openItems).IsInnermost location [.index 1, .key "tests", .index 0]
        (.proxy openScenario) rest) ∧
      ∀ filename spent models after, ¬ Builder.Accepts { filename } [.proxy openScenario] spent models after := by
  have listed : ∀ item ∈ openItems, item.Throughout HasListedChildren := by
    apply throughout_openItems
    · intro variant child told content
      cases told
      cases content
    · intro variant child told content
      cases told
      cases content
      exact fun _ => rfl
  have unmistakable : ∀ item ∈ openItems, item.Throughout IsUnmistakable := by
    apply throughout_openItems
    · constructor
      · intro variant told
        cases told
        rfl
      · exact List.forall_mem_cons.mpr ⟨rfl, List.forall_mem_singleton.mpr rfl⟩
    · constructor
      · intro variant told
        cases told
        rfl
      · exact List.forall_mem_cons.mpr ⟨rfl, List.forall_mem_singleton.mpr rfl⟩
  have indexed : (Value.tuple openItems).indexedItems? = some openItems := rfl
  have refused : ((Builder.build {} (.tuple openItems)).run []).1.models =
      .error (.invalidTree ⟨"Field required: 'comparison'", none,
        some ([.index 1, .key "tests", .index 0], .proxy openScenario)⟩) := rfl
  obtain ⟨report, issue, _, _, item, _, same, _, _, _, _, _, whole, points⟩ :=
    Builder.report_points_at_node indexed listed refused
  cases same
  have isMapping : item.entries?.isSome = true := by
    rw [Option.isSome_iff_ne_none, ne_eq, ← whole]
    intro atRoot
    cases atRoot
  obtain ⟨path, node, rest, innermost, _, rejected, found⟩ := points isMapping
  have about := (found (Value.isUntagged_of_unmistakable indexed unmistakable _)).1 fun segment inner =>
    Value.entries?_eq_none_of_unmistakable indexed unmistakable innermost.passed innermost.isMapping
  cases about
  exact ⟨listed, _, refused, rfl, ⟨_, _, innermost⟩, rejected⟩

private theorem Value.PassesNode.path_ne_pair {root node : Value} {location path rest : List Segment}
    (passes : root.PassesNode location path node rest) (first second : Segment) : path ≠ [first, second] := by
  rintro rfl
  obtain ⟨_, _, item, further, onward, _, _, _, same, passes⟩ := passes.exists_item
  obtain ⟨_, rfl⟩ := List.cons.inj same
  rcases passes.eq_here_or with ⟨same, _⟩ | ⟨_, _, _, _, _, _, _, _, _, _, _, _, _, _, _, same, _⟩
  · cases same
  · simp at same

/-- The entries of a group with a mapping where a callable is expected. -/
def strayEntries : List (Value × Value) :=
  [(.str "feature", .str "Menu"), (.str "before", .map []), (.str "tests", .list [])]

/-- The entries of a group without a name and with its own tag as a key. -/
def taggedEntries : List (Value × Value) :=
  [(.str "feature", .str ""), (.str "plain-group", .map [(.str "feature", .str "Menu")]), (.str "tests", .list [])]

/-- Both reports are about the mapping inside, though it is at no node position on any location. -/
theorem strayEntries_report :
    (∀ item ∈ [Value.map strayEntries], item.Throughout HasListedChildren) ∧
    (∃ report, ((Builder.build {} (.list [.map strayEntries])).run []).1.models = .error (.invalidTree report) ∧
      report.found = some ([.index 0, .key "before"], .map [])) ∧
    (∀ location node rest,
      ¬ (Value.list [.map strayEntries]).PassesNode location [.index 0, .key "before"] node rest) ∧
    (∀ item ∈ [Value.map taggedEntries], item.Throughout HasListedChildren) ∧
    (∃ report, ((Builder.build {} (.list [.map taggedEntries])).run []).1.models = .error (.invalidTree report) ∧
      report.found = some ([.index 0, .key "plain-group"], .map [(.str "feature", .str "Menu")])) ∧
    ∀ location node rest,
      ¬ (Value.list [.map taggedEntries]).PassesNode location [.index 0, .key "plain-group"] node rest := by
  have listed {entries : List (Value × Value)} (told : Variant.ofKeys? entries = some .plainGroup)
      (tests : Value.named? "tests" entries = some (.list []))
      (inherited : Value.named? "inherit" entries = none) :
      ∀ item ∈ [Value.map entries], item.Throughout HasListedChildren := by
    refine List.forall_mem_singleton.mpr (.group rfl ?_ tests rfl inherited nofun)
    intro variant child same content
    cases told.symm.trans same
    cases tests.symm.trans content
    exact fun _ => rfl
  refine ⟨listed rfl rfl rfl, ⟨_, rfl, rfl⟩, ?_, listed rfl rfl rfl, ⟨_, rfl, rfl⟩, ?_⟩
  · exact fun location node rest passes => passes.path_ne_pair _ _ rfl
  · exact fun location node rest passes => passes.path_ne_pair _ _ rfl

end ScenarioTree
