import ScenarioTree.Proofs.Schema.Relisting
import ScenarioTree.Proofs.Schema.ReportedPlace

/-! # The type of a sequence

Two trees that differ only in the types of the sequences in which nodes are given are built alike: relaxed building
makes the same of both, and strict building makes the same nodes or refuses both for the same issues. Reports on
them may differ, because a report follows a location into lists and tuples only. It says nothing about the place
when the root itself is another sequence, and stops before a deque on the way. Up to there it says of both trees
what it says of their normal form.
-/

namespace ScenarioTree

namespace Value

/-- The beginning of a location up to the first deque on the way, into which no step is made. -/
def reach : Value → List Segment → List Segment
  | _, [] => []
  | deque _, _ :: _ => []
  | value, segment :: rest => segment :: ((value.step? segment).getD value).reach rest

private theorem reach_deque (items : List Value) (location : List Segment) : (deque items).reach location = [] := by
  cases location <;> rfl

private theorem reach_cons {value : Value} (further : ∀ items, value ≠ .deque items) (segment : Segment)
    (rest : List Segment) :
    value.reach (segment :: rest) = segment :: ((value.step? segment).getD value).reach rest := by
  cases value with
  | deque items => exact absurd rfl (further items)
  | _ => rfl

/-- Lists and tuples are the sequences with a list as normal form into which a step is made. -/
theorem indexedItems?_isSome_eq (value : Value) {location : List Segment} (several : location ≠ []) :
    value.indexedItems?.isSome =
      (value.relisted.indexedItems?.isSome && !(value.reach location).isEmpty) := by
  obtain ⟨segment, rest, rfl⟩ := List.exists_cons_of_ne_nil several
  cases value <;> rfl

private theorem indexedItems?_of_sequenceItems? {value : Value} {items : List Value}
    (sequence : value.sequenceItems? = some items) (indexed : value.indexedItems?.isSome = true) :
    value.indexedItems? = some items := by
  cases value with
  | list | tuple => exact sequence
  | _ => cases indexed

/-- A value as it stands, or with lists for its sequences. -/
def RelistsTo (value other : Value) : Prop := other = value ∨ other = value.relisted

namespace RelistsTo

variable {value other : Value}

theorem relistedEntry (entry : Value × Value) : entry.2.RelistsTo (Value.relistedEntry entry).2 := by
  rw [Value.relistedEntry]
  split
  · exact .inr rfl
  · exact .inl rfl

private theorem entries?_isSome (relists : value.RelistsTo other) : other.entries?.isSome = value.entries?.isSome := by
  rcases relists with rfl | rfl
  · rfl
  · rw [entries?_relisted, Option.isSome_map]

theorem isOpen (relists : value.RelistsTo other) (further : ∀ items, value ≠ .deque items) :
    Trail.isOpen other = Trail.isOpen value := by
  rcases relists with rfl | rfl
  · rfl
  · cases value with
    | deque items => exact absurd rfl (further items)
    | _ => rfl

private theorem option_refl (place : Option Value) : Option.Rel RelistsTo place place := by
  cases place with
  | none => exact .none
  | some inner => exact .some (.inl rfl)

/-- A step that does not go into a deque leads to the same place. -/
theorem step? (relists : value.RelistsTo other) (further : ∀ items, value ≠ .deque items) (segment : Segment) :
    Option.Rel RelistsTo (value.step? segment) (other.step? segment) := by
  rcases relists with rfl | rfl
  · exact option_refl _
  · cases value with
    | deque items => exact absurd rfl (further items)
    | list items | tuple items =>
      change Option.Rel RelistsTo (segment.position?.bind fun i => if 0 ≤ i then items[i.toNat]? else none)
        (segment.position?.bind fun i => if 0 ≤ i then (relistedItems items)[i.toNat]? else none)
      cases segment.position? with
      | none => exact .none
      | some position =>
        rw [Option.bind_some, Option.bind_some]
        split
        · rw [relistedItems_eq_map, List.getElem?_map]
          cases items[position.toNat]? with
          | none => exact .none
          | some item => exact .some (.inr rfl)
        · exact .none
    | map entries | proxy entries =>
      change Option.Rel RelistsTo (lookup? segment.toValue entries)
        (lookup? segment.toValue (relistedEntries entries))
      rw [lookup?, lookup?, find?_relistedEntries fun key => sameKey key segment.toValue]
      cases entries.find? fun entry => sameKey entry.1 segment.toValue with
      | none => exact .none
      | some entry => exact .some (.relistedEntry entry)
    | _ => exact option_refl _

/-- The lines that show an element show its normal form. -/
theorem elementLines_eq (relists : value.RelistsTo other) (context : Context) :
    { context with element := some other }.elementLines = { context with element := some value }.elementLines := by
  rcases relists with rfl | rfl
  · rfl
  · cases value with
    | null => rfl
    | _ =>
      exact congrArg (fun plain => (Context.elementIndent ++ " ...") ::
        (Text.inkedLines (Yaml.document plain)).map (Context.elementIndent ++ ·)) (mask_relisted _)

/-- A report with an element has the text of one with its normal form. -/
theorem text_eq (relists : value.RelistsTo other) (message : String) (filename : Option String)
    (path : List Segment) :
    (Failure.invalidTree ⟨message, filename, some (path, other)⟩).message =
      (Failure.invalidTree ⟨message, filename, some (path, value)⟩).message := by
  let context : Context := { filename, path := some path }
  exact congrArg (fun lines => "\n".intercalate (message :: context.placeLines ++ lines ++ [""]))
    (relists.elementLines_eq context)

end RelistsTo

end Value

private theorem Trail.here_advance (trail : Trail) (segment : Segment) :
    (trail.advance segment).here = (trail.here.step? segment).getD trail.here := by
  rw [advance]
  cases trail.here.step? segment <;> rfl

/-- One trail goes where another goes, among normal forms. -/
structure Trail.Relists (trail other : Trail) : Prop where
  path : other.path = trail.path
  here : trail.here.RelistsTo other.here
  nodePath : other.nodePath = trail.nodePath
  node : trail.node.RelistsTo other.node

namespace Trail.Relists

variable {trail other : Trail}

theorem start (root : Value) : (Trail.start root).Relists (.start root.relisted) where
  path := rfl
  here := .inr rfl
  nodePath := rfl
  node := .inr rfl

theorem advance (relists : trail.Relists other) (further : ∀ items, trail.here ≠ .deque items)
    (segment : Segment) : (trail.advance segment).Relists (other.advance segment) := by
  have step := relists.here.step? further segment
  rw [Trail.advance, Trail.advance]
  generalize trail.here.step? segment = place at step ⊢
  generalize other.here.step? segment = placeOther at step ⊢
  cases step with
  | none => exact relists
  | some below => exact { relists with path := congrArg (· ++ [segment]) relists.path, here := below }

theorem remember (relists : trail.Relists other) : trail.remember.Relists other.remember := by
  rw [Trail.remember, Trail.remember, relists.here.entries?_isSome]
  split
  · exact { relists with nodePath := relists.path, node := relists.here }
  · exact relists

/-- A trail that stops before deques does so on the normal form when it follows the reach of the location. -/
theorem follow (relists : trail.Relists other) (location : List Segment) :
    (trail.follow location).Relists (other.follow (trail.here.reach location)) := by
  induction location generalizing trail other with
  | nil => exact relists
  | cons segment rest ih =>
    by_cases further : ∀ items, trail.here ≠ .deque items
    · rw [Value.reach_cons further, Trail.follow, Trail.follow, relists.here.isOpen further]
      split
      · rw [← Trail.here_advance, ← Trail.here_remember]
        exact ih (relists.advance further segment).remember
      · exact relists
    · obtain ⟨items, isDeque⟩ := not_forall_not.mp further
      have stays : trail.follow (segment :: rest) = trail := by
        rw [Trail.follow, isDeque]
        rfl
      rw [stays, isDeque, Value.reach_deque]
      exact relists

end Trail.Relists

namespace Report

variable {root other : Value}

/-- Sequences other than lists and tuples are not looked into. -/
theorem ofIssues_unindexed (unindexed : root.indexedItems? = none) (issues : List Issue)
    (filename : Option String) :
    ofIssues root issues filename = ⟨"Node sequence validation error", filename, none⟩ := by
  rw [ofIssues, ofMessages, unindexed]

/-- The report on a list or tuple is that on its normal form, of which it shows what the location reaches. -/
theorem exists_normal (issue : Issue) : ∃ message, ∀ {root : Value} {items : List Value},
    root.indexedItems? = some items → items ≠ [] → ∀ (others : List Issue) (filename : Option String),
      ∃ element, element.RelistsTo ((Trail.start root.relisted).follow (root.reach issue.location)).node ∧
        ofIssues root (issue :: others) filename = ⟨message, filename,
          some (((Trail.start root.relisted).follow (root.reach issue.location)).nodePath, element)⟩ := by
  obtain ⟨message, reports⟩ := exists_message issue
  refine ⟨message, fun {root items} indexed several others filename => ?_⟩
  have relists := (Trail.Relists.start root).follow issue.location
  refine ⟨_, relists.node, ?_⟩
  rw [reports indexed several, ← relists.nodePath]
  rfl

/-- The reports on two trees with one normal form have the same message if both are lists or tuples or neither
is. They are the same, apart from the types of sequences in the element, if the location reaches as far in both. -/
theorem ofIssues_alike (alike : root.relisted = other.relisted) {items itemsOther : List Value}
    (sequence : root.sequenceItems? = some items) (sequenceOther : other.sequenceItems? = some itemsOther)
    (several : items ≠ []) (severalOther : itemsOther ≠ []) {issue : Issue} (away : issue.location ≠ [])
    (others : List Issue) (filename : Option String) :
    (root.indexedItems?.isSome = other.indexedItems?.isSome →
      (ofIssues root (issue :: others) filename).message = (ofIssues other (issue :: others) filename).message) ∧
    (root.reach issue.location = other.reach issue.location →
      (ofIssues root (issue :: others) filename).message = (ofIssues other (issue :: others) filename).message ∧
      (ofIssues root (issue :: others) filename).found.map Prod.fst =
        (ofIssues other (issue :: others) filename).found.map Prod.fst ∧
      (Failure.invalidTree (ofIssues root (issue :: others) filename)).message =
        (Failure.invalidTree (ofIssues other (issue :: others) filename)).message) := by
  obtain ⟨message, reports⟩ := exists_normal issue
  have unindexed (neither : root.indexedItems? = none) (both : other.indexedItems? = none) :
      ofIssues root (issue :: others) filename = ofIssues other (issue :: others) filename := by
    rw [ofIssues_unindexed neither, ofIssues_unindexed both]
  have indexed (first : root.indexedItems?.isSome = true) (second : other.indexedItems?.isSome = true) :=
    And.intro
      (reports (Value.indexedItems?_of_sequenceItems? sequence first) several others filename)
      (reports (Value.indexedItems?_of_sequenceItems? sequenceOther second) severalOther others filename)
  constructor
  · intro same
    cases first : root.indexedItems?.isSome with
    | true =>
      obtain ⟨⟨_, _, own⟩, _, _, another⟩ := indexed first (same ▸ first)
      rw [own, another]
    | false =>
      rw [unindexed (by simpa using first) (by simpa [same] using first)]
  · intro same
    have together : root.indexedItems?.isSome = other.indexedItems?.isSome := by
      rw [root.indexedItems?_isSome_eq away, other.indexedItems?_isSome_eq away, alike, same]
    cases first : root.indexedItems?.isSome with
    | true =>
      obtain ⟨⟨element, shown, own⟩, elementOther, shownOther, another⟩ := indexed first (together ▸ first)
      rw [alike, same] at own shown
      rw [own, another]
      exact ⟨rfl, rfl, (shown.text_eq ..).symm.trans (shownOther.text_eq ..)⟩
    | false =>
      rw [unindexed (by simpa using first) (by simpa [together] using first)]
      exact ⟨rfl, rfl, rfl⟩

end Report

namespace Builder

variable {root other : Value}

private theorem mapM_model?_relistedItems (items : List Value) :
    (Value.relistedItems items).mapM Value.model? = items.mapM Value.model? := by
  induction items with
  | nil => rfl
  | cons item rest ih =>
    rw [Value.relistedItems, List.mapM_cons, List.mapM_cons, Value.model?_relisted, ih]

private theorem validateTree_relistedItems (items : List Value) :
    validateTree (.list (Value.relistedItems items)) = validateTree (.list items) :=
  validateItems_relisted (fun item _ => validateNode_relisted item) 0

/-- Strict building makes the same nodes of two trees with one normal form, or refuses both for the same issues. -/
theorem build_strict_alike (alike : root.relisted = other.relisted) (filename : Option String) (spent : Spent) :
    (∃ models after,
      (Builder.build { filename } root).run spent = ({ models := .ok models }, after) ∧
      (Builder.build { filename } other).run spent = ({ models := .ok models }, after)) ∨
    ∃ items others issues after, root.sequenceItems? = some items ∧ other.sequenceItems? = some others ∧
      (validateTree (.list items)).run spent = (.invalid issues, after) ∧
      (validateTree (.list others)).run spent = (.invalid issues, after) ∧
      (Builder.build { filename } root).run spent =
        ({ models := .error (.invalidTree (.ofIssues root issues filename)) }, after) ∧
      (Builder.build { filename } other).run spent =
        ({ models := .error (.invalidTree (.ofIssues other issues filename)) }, after) := by
  have sequences : root.sequenceItems?.map Value.relistedItems = other.sequenceItems?.map Value.relistedItems := by
    rw [← Value.sequenceItems?_relisted, alike, Value.sequenceItems?_relisted]
  rw [build, build]
  cases found : root.sequenceItems? with
  | none =>
    rw [found] at sequences
    rw [Option.map_eq_none_iff.mp sequences.symm]
    exact .inl ⟨_, _, rfl, rfl⟩
  | some items =>
    rw [found, Option.map_some] at sequences
    obtain ⟨others, foundOther, same⟩ := Option.map_eq_some_iff.mp sequences.symm
    have kept : others.mapM Value.model? = items.mapM Value.model? := by
      rw [← mapM_model?_relistedItems, same, mapM_model?_relistedItems]
    have validated : validateTree (.list others) = validateTree (.list items) := by
      rw [← validateTree_relistedItems, same, validateTree_relistedItems]
    rw [foundOther]
    dsimp only
    rw [if_pos rfl, if_pos rfl, validate, validate, kept, validated]
    cases items.mapM Value.model? with
    | some models => exact .inl ⟨_, _, rfl, rfl⟩
    | none =>
      dsimp only
      simp only [StateT.run_bind]
      generalize ran : (validateTree (.list items)).run spent = outcome
      obtain ⟨result, after⟩ := outcome
      cases result with
      | valid nodes => exact .inl ⟨_, _, rfl, rfl⟩
      | invalid issues =>
        have ranOther : (validateTree (.list others)).run spent = (.invalid issues, after) := by
          rw [validated, ran]
        exact .inr ⟨items, others, issues, after, rfl, rfl, ran, ranOther, rfl, rfl⟩

/-- A list of items that is refused is not empty, and the first issue is away from the root. -/
theorem exists_first_issue {items : List Value} {issues : List Issue} {spent after : Spent}
    (refused : (validateTree (.list items)).run spent = (.invalid issues, after)) :
    items ≠ [] ∧ ∃ issue others, issues = issue :: others ∧ issue.location ≠ [] := by
  have tells := validateTree_tells items spent
  rw [refused] at tells
  cases issues with
  | nil => cases tells.told rfl
  | cons issue others =>
    obtain ⟨_, position, _, _, found, _, rfl⟩ := tells.placed issue (.head _)
    exact ⟨List.ne_nil_of_mem (List.mem_of_getElem? found), _, others, rfl, List.cons_ne_nil _ _⟩

/-- Two trees that differ only in the types of the sequences of nodes are built alike: relaxed building makes the
same of both, and strict building makes the same nodes or refuses both with the same first issue. The report on it
is the general one exactly when the root is no list or tuple, and otherwise its path is that in the normal form, as
far as the location reaches. The two reports have the same message if both roots are lists or tuples or neither is,
and the same path and text if the location reaches as far in both trees, as it does where it meets no deque. -/
theorem build_alike (alike : root.relisted = other.relisted) (filename : Option String) (spent : Spent) :
    (Builder.build { strict := false, filename } root).run spent =
      (Builder.build { strict := false, filename } other).run spent ∧
    ((∃ models after,
      (Builder.build { filename } root).run spent = ({ models := .ok models }, after) ∧
      (Builder.build { filename } other).run spent = ({ models := .ok models }, after)) ∨
    ∃ items issue others report another after, root.sequenceItems? = some items ∧
      (validateTree (.list items)).run spent = (.invalid (issue :: others), after) ∧
      (Builder.build { filename } root).run spent = ({ models := .error (.invalidTree report) }, after) ∧
      (Builder.build { filename } other).run spent = ({ models := .error (.invalidTree another) }, after) ∧
      (report = ⟨"Node sequence validation error", filename, none⟩ ↔ root.indexedItems? = none) ∧
      (root.indexedItems?.isSome = true → report.found.map Prod.fst =
        some ((Trail.start root.relisted).follow (root.reach issue.location)).nodePath) ∧
      (root.indexedItems?.isSome = other.indexedItems?.isSome → report.message = another.message) ∧
      (root.reach issue.location = other.reach issue.location →
        report.message = another.message ∧ report.found.map Prod.fst = another.found.map Prod.fst ∧
        (Failure.invalidTree report).message = (Failure.invalidTree another).message)) := by
  constructor
  · have read (value : Value) : salvageSequence value.relisted = salvageSequence value :=
      salvageSequence_relisted fun _ _ item _ => salvageItem_relisted item
    rw [build_sequence rfl, build_sequence rfl, ← read root, alike, read other]
  · rcases build_strict_alike alike filename spent with
      same | ⟨items, itemsOther, issues, after, sequence, sequenceOther, refused, refusedOther, own, another⟩
    · exact .inl same
    · obtain ⟨several, issue, others, rfl, away⟩ := exists_first_issue refused
      obtain ⟨severalOther, _⟩ := exists_first_issue refusedOther
      obtain ⟨message, reports⟩ := Report.exists_normal issue
      have placed (indexed : root.indexedItems?.isSome = true) :=
        reports (Value.indexedItems?_of_sequenceItems? sequence indexed) several others filename
      refine .inr ⟨items, issue, others, _, _, after, sequence, refused, own, another, ?_, fun indexed => ?_,
        Report.ofIssues_alike alike sequence sequenceOther several severalOther away others filename⟩
      · refine ⟨fun general => ?_, fun unindexed => Report.ofIssues_unindexed unindexed _ filename⟩
        rw [← Option.not_isSome_iff_eq_none]
        intro indexed
        obtain ⟨_, _, located⟩ := placed indexed
        cases general.symm.trans located
      · obtain ⟨_, _, located⟩ := placed indexed
        rw [located]
        rfl

end Builder

def namelessItem : Value := .map [(.str "name", .str "Footer")]

def shelfGroup (tests : List Value → Value) : Value :=
  .map [(.str "feature", .str "Menu"), (.str "tests", tests [namelessItem])]

/-- Both trees are refused with the same message for the same place. -/
theorem shelfGroup_reported_alike :
    (Value.list [shelfGroup .tuple]).relisted = (Value.tuple [shelfGroup .list]).relisted ∧
    ∃ report another,
      ((Builder.build {} (.list [shelfGroup .tuple])).run []).1.models = .error (.invalidTree report) ∧
      ((Builder.build {} (.tuple [shelfGroup .list])).run []).1.models = .error (.invalidTree another) ∧
      another.found.map Prod.fst = some [.index 0, .key "tests", .index 0] ∧
      (Failure.invalidTree report).message = (Failure.invalidTree another).message := by
  have alike : (Value.list [shelfGroup .tuple]).relisted = (Value.tuple [shelfGroup .list]).relisted := rfl
  refine ⟨alike, ?_⟩
  rcases (Builder.build_alike alike none []).2 with
    ⟨_, _, built, _⟩ | ⟨_, issue, _, report, another, _, sequence, refused, own, others, _, _, _, same⟩
  · cases built
  · cases sequence
    cases refused
    obtain ⟨_, path, text⟩ := same rfl
    refine ⟨report, another, ?_, ?_, ?_, text⟩
    · rw [own]
    · rw [others]
    · cases own
      exact path.symm

/-- In a deque at the root, the place is not told, and under the key of children it is told only up to the deque. -/
theorem shelfGroup_deque_reported_apart :
    (Value.list [namelessItem]).relisted = (Value.deque [namelessItem]).relisted ∧
    (∃ report, ((Builder.build {} (.list [namelessItem])).run []).1.models = .error (.invalidTree report) ∧
      report.message = "Node must carry a \"feature\" or a \"scenario\" key" ∧
      report.found.map Prod.fst = some [.index 0]) ∧
    (∃ report, ((Builder.build {} (.deque [namelessItem])).run []).1.models = .error (.invalidTree report) ∧
      report.message = "Node sequence validation error" ∧ report.found.map Prod.fst = none) ∧
    (Value.list [shelfGroup .list]).relisted = (Value.list [shelfGroup .deque]).relisted ∧
    (∃ report, ((Builder.build {} (.list [shelfGroup .list])).run []).1.models = .error (.invalidTree report) ∧
      report.found.map Prod.fst = some [.index 0, .key "tests", .index 0]) ∧
    ∃ report, ((Builder.build {} (.list [shelfGroup .deque])).run []).1.models = .error (.invalidTree report) ∧
      report.found.map Prod.fst = some [.index 0] :=
  ⟨rfl, ⟨_, rfl, rfl, rfl⟩, ⟨_, rfl, rfl, rfl⟩, rfl, ⟨_, rfl, rfl⟩, _, rfl, rfl⟩

end ScenarioTree
