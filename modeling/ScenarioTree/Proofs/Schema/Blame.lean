import ScenarioTree.Proofs.Schema.Issues

/-! # What an issue of a tree is about

An issue of a tree has a location, which goes from the root by the positions of items, the tags of variants and
the keys of children. The mappings that it passes are at the node positions on it, and it ends in the innermost
of them, or one step inside, or at one of the children that is no mapping. That mapping is refused by itself.
Where children are lists and tuples, validation spends nothing, so that what is said of a tree can be said of
every part of it.
-/

namespace ScenarioTree

/-- The children of a mapping, as far as they are a sequence of nodes, are a list or a tuple. -/
def HasListedChildren (entries : List (Value × Value)) : Prop :=
  ∀ variant child, Variant.ofKeys? entries = some variant → variant.child? entries = some child →
    child.nodeItems?.isSome = true → child.indexedItems?.isSome = true

namespace Value

/-- What validation makes of a value before anything is spent. -/
def verdict (value : Value) : Validated Node := ((validateNode value).run []).1

/-- Validation makes the same of a value whatever was spent, and spends nothing. -/
def IsSteady (value : Value) : Prop := ∀ spent, (validateNode value).run spent = (value.verdict, spent)

/-- What validation makes of successive items before anything is spent. -/
def itemsVerdict (position : Nat) (items : List Value) : Validated (List Node) :=
  ((validateItems position items).run []).1

/-- What validation makes of the children of a mapping before anything is spent. -/
def childrenVerdict (child : Value) : Validated (List Node) := ((validateSequence .tupleType child).run []).1

section

variable {item value child : Value} {items rest : List Value} {entries : List (Value × Value)} {variant : Variant}

private theorem itemsVerdict_cons (position : Nat) (steady : item.IsSteady) :
    itemsVerdict position (item :: rest) =
      List.cons <$> item.verdict.within (.index position) <*> itemsVerdict (position + 1) rest := by
  rw [itemsVerdict, run_validateItems_cons, steady]
  rfl

theorem run_validateItems_of_steady (steady : ∀ item ∈ items, item.IsSteady) (position : Nat) (spent : Spent) :
    (validateItems position items).run spent = (itemsVerdict position items, spent) := by
  induction items generalizing position with
  | nil => rfl
  | cons item rest ih =>
    obtain ⟨first, others⟩ := List.forall_mem_cons.mp steady
    rw [run_validateItems_cons, first spent, itemsVerdict_cons position first, ih others]

/-- So are the children of a mapping that has them in a list or a tuple, or has no sequence there. -/
theorem run_validateSequence_of_steady
    (listed : child.nodeItems?.isSome = true → child.indexedItems?.isSome = true)
    (steady : ∀ items, child.nodeItems? = some items → ∀ item ∈ items, item.IsSteady) (spent : Spent) :
    (validateSequence .tupleType child).run spent = (child.childrenVerdict, spent) := by
  cases child with
  | list items | tuple items => exact run_validateItems_of_steady (steady items rfl) 0 spent
  | deque | set | iter | range => cases listed rfl
  | _ => rfl

private theorem verdict_unknown (mapping : value.entries? = some entries) (unknown : Variant.ofKeys? entries = none) :
    value.verdict = .fault .invalidNode := by
  rw [verdict, run_validateNode_mapping mapping, unknown]

/-- What validation makes of a mapping, it makes of its fields and of its children. -/
theorem verdict_mapping (mapping : value.entries? = some entries) (told : Variant.ofKeys? entries = some variant) :
    value.verdict =
      (assemble variant entries ((variant.child? entries).map childrenVerdict)).within (.key variant.tag) := by
  rw [verdict, run_validateNode_mapping mapping, told]
  dsimp only
  rw [run_validateVariant]
  cases variant.child? entries <;> rfl

/-- Throughout a tree with lists and tuples only, validation depends on nothing that was spent. -/
theorem isSteady_of_listed (listed : value.Throughout HasListedChildren) : value.IsSteady := by
  induction value using treeInduction with
  | leaf value plain =>
    rcases validateNode_leaf plain with ⟨node, rfl⟩ | fault
    · exact fun _ => rfl
    · intro spent
      rw [verdict, fault]
      rfl
  | mapping value entries mapping ih =>
    cases listed with
    | leaf plain => cases mapping.symm.trans plain
    | mapping found here below =>
      cases mapping.symm.trans found
      intro spent
      rw [verdict, run_validateNode_mapping mapping, run_validateNode_mapping mapping]
      cases told : Variant.ofKeys? entries with
      | none => rfl
      | some variant =>
        dsimp only
        rw [run_validateVariant, run_validateVariant]
        cases content : variant.child? entries with
        | none => rfl
        | some child =>
          obtain ⟨field, isChild, named⟩ := Option.bind_eq_some_iff.mp content
          have steady := run_validateSequence_of_steady (here variant child told content)
            fun items inside item member => ih field.name child items named inside item member
              (below field (Variant.mem_childFields isChild) child items named inside item member)
          dsimp only
          rw [steady spent, steady []]

end

/-- A location passes a node below a value: it goes there by the tags of the mappings on the way, by the keys of
children and by the positions of items. The path to the node is without the tags, and what is left of the
location is to go from there. -/
inductive Passes : Value → List Segment → List Segment → Value → List Segment → Prop
  | here (value : Value) (location : List Segment) : Passes value location [] value location
  | deeper {value child item node : Value} {entries : List (Value × Value)} {variant : Variant} {field : Field}
      {items : List Value} {position : Nat} {location path rest : List Segment}
      (mapping : value.entries? = some entries) (told : Variant.ofKeys? entries = some variant)
      (isChild : field ∈ childFields) (named : named? field.name entries = some child)
      (indexed : child.indexedItems? = some items) (found : items[position]? = some item)
      (further : Passes item location path node rest) :
      Passes value (.key variant.tag :: .key field.name :: .index position :: location)
        (.key field.name :: .index position :: path) node rest

/-- A location passes a node of a tree: one of the items, or a node below one. -/
inductive PassesNode (root : Value) : List Segment → List Segment → Value → List Segment → Prop
  | item {items : List Value} {item node : Value} {position : Nat} {location path rest : List Segment}
      (indexed : root.indexedItems? = some items) (found : items[position]? = some item)
      (further : item.Passes location path node rest) :
      PassesNode root (.index position :: location) (.index position :: path) node rest

/-- The rest of a location that is about a mapping itself: that it is no node, one step into it, or one of its
children that is no mapping. -/
inductive EndsAt (value : Value) : List Segment → Prop
  | unknown {entries : List (Value × Value)} (mapping : value.entries? = some entries)
      (unknown : Variant.ofKeys? entries = none) : EndsAt value []
  | own {entries : List (Value × Value)} {variant : Variant} (mapping : value.entries? = some entries)
      (told : Variant.ofKeys? entries = some variant) (segment : Segment) :
      EndsAt value [.key variant.tag, segment]
  | child {entries : List (Value × Value)} {variant : Variant} {field : Field} {child : Value}
      (mapping : value.entries? = some entries) (told : Variant.ofKeys? entries = some variant)
      (named : named? field.name entries = some child) (position : Nat) (plain : child.entries? = none)
      (strange : ∀ items item, child.indexedItems? = some items → items[position]? = some item →
        item.entries? = none) :
      EndsAt value [.key variant.tag, .key field.name, .index position]

/-- A location leads to a mapping that is refused by itself, and is about this mapping. -/
def Blames (value : Value) (location : List Segment) : Prop :=
  ∃ path node rest, value.Passes location path node rest ∧ node.EndsAt rest ∧ node.IsSteady ∧
    node.verdict.isValid = false

theorem nodeItems?_of_indexedItems? {child : Value} {items : List Value}
    (indexed : child.indexedItems? = some items) : child.nodeItems? = some items ∧ child.entries? = none := by
  cases child with
  | list | tuple => exact ⟨indexed, rfl⟩
  | _ => cases indexed

section

variable {items : List Value}

/-- What is wrong with items is what is wrong with each of them, seen from its position. -/
theorem itemsVerdict_reports (steady : ∀ item ∈ items, item.IsSteady)
    (told : ∀ item ∈ items, item.verdict.issues = [] → item.verdict.isValid = true) (offset : Nat) :
    (itemsVerdict offset items).Reports fun issue => ∃ (position : Nat) (item : Value) (inner : Issue),
      items[position]? = some item ∧ inner ∈ item.verdict.issues ∧
        issue = inner.within (.index (offset + position : Nat)) := by
  have each : ∀ item ∈ items, ∀ spent,
      ((validateNode item).run spent).1.Reports (· ∈ item.verdict.issues) := by
    intro item member spent
    rw [steady item member spent]
    exact ⟨told item member, fun _ => id⟩
  exact validateItems_reports each offset []

/-- The first issue of items is the first one of the first item that is not valid. -/
theorem exists_first_of_itemsVerdict (steady : ∀ item ∈ items, item.IsSteady)
    (told : ∀ item ∈ items, item.verdict.issues = [] → item.verdict.isValid = true) {offset : Nat} {issue : Issue}
    {others : List Issue} (reported : (itemsVerdict offset items).issues = issue :: others) :
    ∃ before item after inner, items = before ++ item :: after ∧
      (∀ earlier ∈ before, earlier.verdict.isValid = true) ∧ inner ∈ item.verdict.issues ∧
      issue = inner.within (.index (offset + before.length : Nat)) := by
  induction items generalizing offset with
  | nil => cases reported
  | cons item rest ih =>
    obtain ⟨first, steadyRest⟩ := List.forall_mem_cons.mp steady
    obtain ⟨toldFirst, toldRest⟩ := List.forall_mem_cons.mp told
    rw [itemsVerdict_cons offset first, Validated.issues_seq, Validated.issues_map, Validated.issues_within]
      at reported
    cases own : item.verdict.issues with
    | nil =>
      rw [own] at reported
      obtain ⟨before, found, after, inner, rfl, valid, member, rfl⟩ := ih steadyRest toldRest reported
      refine ⟨item :: before, found, after, inner, rfl, ?_, member, ?_⟩
      · exact List.forall_mem_cons.mpr ⟨toldFirst own, valid⟩
      · rw [List.length_cons, Nat.add_right_comm, Nat.add_assoc]
    | cons inner more =>
      rw [own] at reported
      obtain ⟨rfl, _⟩ := List.cons.inj reported
      exact ⟨[], item, rest, inner, rfl, nofun, own ▸ .head _, rfl⟩

end

/-- An issue of the children of a mapping is that they are no sequence, that one of their items is no node though
they are no list or tuple, or an issue of an item. -/
def TellsOfChildren (child : Value) (issue : Issue) : Prop :=
  issue.IsHere ∨
    (child.entries? = none ∧ child.indexedItems? = none ∧ ∃ position : Nat, issue.location = [.index position]) ∨
    ∃ (items : List Value) (position : Nat) (item : Value) (inner : Issue), child.indexedItems? = some items ∧
      items[position]? = some item ∧ inner ∈ item.verdict.issues ∧ issue = inner.within (.index position)

private theorem childrenVerdict_reports {child : Value}
    (listed : child.nodeItems?.isSome = true → child.indexedItems?.isSome = true)
    (steady : ∀ items, child.nodeItems? = some items → ∀ item ∈ items, item.IsSteady)
    (told : ∀ items, child.nodeItems? = some items → ∀ item ∈ items,
      item.verdict.issues = [] → item.verdict.isValid = true) :
    child.childrenVerdict.Reports child.TellsOfChildren := by
  cases child with
  | list items | tuple items =>
    refine (itemsVerdict_reports (steady items rfl) (told items rfl) 0).mono fun issue => ?_
    rintro ⟨position, item, inner, found, member, rfl⟩
    rw [Nat.zero_add]
    exact .inr (.inr ⟨items, position, item, inner, rfl, found, member, rfl⟩)
  | deque | set | iter | range => cases listed rfl
  | model own =>
    exact (invalidItems_reports _).mono fun issue ⟨position, _, same⟩ =>
      .inr (.inl ⟨rfl, rfl, position, congrArg Issue.location same⟩)
  | _ => exact .of_fault (.inl rfl)

section

variable {value : Value} {entries : List (Value × Value)} {variant : Variant}

private theorem Blames.of_next (mapping : value.entries? = some entries) (told : Variant.ofKeys? entries = some variant)
    (steady : value.IsSteady) (refused : value.verdict.isValid = false) {issue : Issue} (next : issue.IsNext) :
    value.Blames (.key variant.tag :: issue.location) := by
  obtain ⟨segment, location⟩ := next
  rw [location]
  exact ⟨[], value, _, .here _ _, .own mapping told segment, steady, refused⟩

/-- An issue of the children of a mapping blames the mapping, or one that an issue of an item blames. -/
theorem Blames.of_children (mapping : value.entries? = some entries)
    (told : Variant.ofKeys? entries = some variant) (steady : value.IsSteady)
    (refused : value.verdict.isValid = false) {field : Field} (isChild : field ∈ childFields) {child : Value}
    (named : named? field.name entries = some child)
    (each : ∀ items, child.nodeItems? = some items → ∀ item ∈ items, ∀ issue ∈ item.verdict.issues,
      (item.entries? = none ∧ issue.IsHere) ∨ item.Blames issue.location)
    {issue : Issue} (tells : child.TellsOfChildren issue) :
    value.Blames (.key variant.tag :: .key field.name :: issue.location) := by
  rcases tells with here | ⟨plain, noItems, position, location⟩ | ⟨items, position, item, inner, indexed, found,
    member, rfl⟩
  · rw [here]
    exact ⟨[], value, _, .here _ _, .own mapping told _, steady, refused⟩
  · rw [location]
    refine ⟨[], value, _, .here _ _, .child mapping told named position plain ?_, steady, refused⟩
    intro items item indexed
    cases noItems.symm.trans indexed
  · obtain ⟨sequence, plain⟩ := nodeItems?_of_indexedItems? indexed
    rcases each items sequence item (List.mem_of_getElem? found) inner member with
      ⟨strange, here⟩ | ⟨path, node, rest, passes, ends, steadyNode, refusedNode⟩
    · have location : (inner.within (.index position)).location = [.index position] := congrArg (_ :: ·) here
      rw [location]
      refine ⟨[], value, _, .here _ _, .child mapping told named position plain ?_, steady, refused⟩
      intro others other same alike
      cases indexed.symm.trans same
      cases found.symm.trans alike
      exact strange
    · exact ⟨_, node, rest, .deeper mapping told isChild named indexed found passes, ends, steadyNode, refusedNode⟩

end

/-- A value that is refused tells why, and every issue of a mapping blames a mapping on its location. -/
theorem verdict_reports {value : Value} (listed : value.Throughout HasListedChildren) :
    value.verdict.Reports fun issue => (value.entries? = none ∧ issue.IsHere) ∨ value.Blames issue.location := by
  have steady := isSteady_of_listed listed
  induction value using treeInduction with
  | leaf value plain =>
    rcases validateNode_leaf plain with ⟨node, rfl⟩ | fault
    · exact .of_valid node
    · rw [verdict, fault]
      exact .of_fault (.inl ⟨plain, rfl⟩)
  | mapping value entries mapping ih =>
    cases told : Variant.ofKeys? entries with
    | none =>
      have same := verdict_unknown mapping told
      rw [same]
      refine .of_fault (.inr ⟨[], value, [], .here _ _, .unknown mapping told, steady, ?_⟩)
      rw [same]
      rfl
    | some variant =>
      cases listed with
      | leaf plain => cases mapping.symm.trans plain
      | mapping found here below =>
        cases mapping.symm.trans found
        have each {field : Field} (isChild : field ∈ childFields) {child : Value}
            (named : named? field.name entries = some child) {items : List Value}
            (sequence : child.nodeItems? = some items) {item : Value} (member : item ∈ items) : item.IsSteady ∧
              item.verdict.Reports fun issue => (item.entries? = none ∧ issue.IsHere) ∨
                item.Blames issue.location := by
          have listed := below field isChild child items named sequence item member
          have steady := isSteady_of_listed listed
          exact ⟨steady, ih field.name child items named sequence item member listed steady⟩
        have children {field : Field} (isChild : variant.childField? = some field) {child : Value}
            (named : named? field.name entries = some child) :
            child.childrenVerdict.Reports child.TellsOfChildren := by
          have content : variant.child? entries = some child := Option.bind_eq_some_iff.mpr ⟨field, isChild, named⟩
          have inside := Variant.mem_childFields isChild
          exact childrenVerdict_reports (here variant child told content)
            (fun _ sequence _ member => (each inside named sequence member).1)
            fun _ sequence _ member => (each inside named sequence member).2.told
        have toldChildren : ∀ result, (variant.child? entries).map childrenVerdict = some result →
            result.issues = [] → result.isValid = true := by
          intro result given
          obtain ⟨child, content, rfl⟩ := Option.map_eq_some_iff.mp given
          obtain ⟨field, isChild, named⟩ := Option.bind_eq_some_iff.mp content
          exact (children isChild named).told
        have reports := assemble_reports toldChildren Option.isSome_map
        constructor
        · rw [verdict_mapping mapping told, Validated.issues_within, Validated.isValid_within, List.map_eq_nil_iff]
          exact reports.told
        · intro issue member
          right
          have refused := Validated.isValid_eq_false_of_mem_issues member
          rw [verdict_mapping mapping told, Validated.issues_within, List.mem_map] at member
          obtain ⟨inner, member, rfl⟩ := member
          rcases reports.placed inner member with ⟨_, concerns⟩ | ⟨field, _, innermost, isChild, given, among, rfl⟩
          · exact .of_next mapping told steady refused concerns.isNext
          · obtain ⟨child, content, rfl⟩ := Option.map_eq_some_iff.mp given
            rw [Variant.child?, isChild, Option.bind_some] at content
            have inside := Variant.mem_childFields isChild
            exact .of_children mapping told steady refused inside content
              (fun _ sequence _ member => (each inside content sequence member).2.placed)
              ((children isChild content).placed innermost among)

section

variable {value : Value} {entries : List (Value × Value)}

theorem step?_key (mapping : value.entries? = some entries) (name : String) :
    value.step? (.key name) = named? name entries := by
  have same : (fun entry : Value × Value => sameKey entry.1 (.str name)) = fun entry => isName name entry.1 := by
    funext ⟨key, _⟩
    cases key with
    | float x =>
      simp only [sameKey, asWhole?, isName]
      cases wholeNumber? x <;> rfl
    | _ => rfl
  have found : lookup? (.str name) entries = named? name entries := by
    rw [lookup?, same]
    rfl
  cases value with
  | map | proxy =>
    cases mapping
    exact found
  | _ => cases mapping

theorem step?_index {items : List Value} (indexed : value.indexedItems? = some items) (position : Nat) :
    value.step? (.index position) = items[position]? := by
  rw [step?, indexed]
  simp [Segment.position?]

end

section

variable {value root node other : Value} {location path way rest left : List Segment}

theorem Passes.follow? (passes : value.Passes location path node rest) : value.follow? path = some node := by
  induction passes with
  | here => rfl
  | deeper mapping _ _ named indexed found _ ih =>
    rw [Value.follow?, step?_key mapping, named, Option.bind_some, Value.follow?, step?_index indexed, found,
      Option.bind_some, ih]

theorem PassesNode.follow? (passes : root.PassesNode location path node rest) : root.follow? path = some node := by
  cases passes with
  | item indexed found further =>
    rw [Value.follow?, step?_index indexed, found, Option.bind_some, further.follow?]

/-- A location that goes on from a mapping goes by its tag and a key of children to an item. -/
theorem Passes.eq_here_or (passes : value.Passes location path node rest) :
    (path = [] ∧ node = value ∧ rest = location) ∨
    ∃ entries variant field child items, ∃ position : Nat, ∃ item further onward, value.entries? = some entries ∧
      Variant.ofKeys? entries = some variant ∧ named? field.name entries = some child ∧
      child.indexedItems? = some items ∧ items[position]? = some item ∧
      location = .key variant.tag :: .key (Field.name field) :: .index position :: further ∧
      path = .key field.name :: .index position :: onward ∧ item.Passes further onward node rest := by
  cases passes with
  | here => exact .inl ⟨rfl, rfl, rfl⟩
  | deeper mapping told _ named indexed found further =>
    exact .inr ⟨_, _, _, _, _, _, _, _, _, mapping, told, named, indexed, found, rfl, rfl, further⟩

private theorem EndsAt.path_eq_nil (ends : value.EndsAt location) (passes : value.Passes location path node rest)
    (isMapping : node.entries?.isSome = true) : path = [] := by
  rcases passes.eq_here_or with ⟨same, _, _⟩ | ⟨entries, variant, field, child, items, position, item, further,
    onward, mapping, told, named, indexed, found, rfl, rfl, onwards⟩
  · exact same
  · exfalso
    generalize alike : Segment.key variant.tag :: Segment.key field.name :: Segment.index position :: further =
      location at ends
    cases ends with
    | unknown => cases alike
    | own => simp at alike
    | child mapping' told' named' place plain strange =>
      simp only [List.cons.injEq, Segment.key.injEq, Segment.index.injEq, Int.natCast_inj] at alike
      obtain ⟨_, sameField, rfl, rfl⟩ := alike
      cases mapping.symm.trans mapping'
      rw [← sameField] at named'
      cases named.symm.trans named'
      have none := strange items item indexed found
      cases onwards with
      | here =>
        rw [none] at isMapping
        cases isMapping

/-- All mappings that a location passes are on the way to the one in which it ends. -/
theorem Passes.isPrefix_of_endsAt (passes : value.Passes location path node rest) (ends : node.EndsAt rest)
    (another : value.Passes location way other left) (isMapping : other.entries?.isSome = true) :
    way <+: path := by
  induction passes generalizing way with
  | here value location => exact ends.path_eq_nil another isMapping ▸ List.nil_prefix
  | @deeper value child item node entries variant field items position location path rest mapping told isChild
      named indexed found further ih =>
    rcases another.eq_here_or with ⟨rfl, _, _⟩ | ⟨entries', variant', field', child', items', position', item',
      further', onward, mapping', told', named', indexed', found', alike, rfl, onwards⟩
    · exact List.nil_prefix
    · simp only [List.cons.injEq, Segment.key.injEq, Segment.index.injEq, Int.natCast_inj] at alike
      obtain ⟨_, sameField, rfl, rfl⟩ := alike
      cases mapping.symm.trans mapping'
      rw [← sameField] at named' ⊢
      cases named.symm.trans named'
      cases indexed.symm.trans indexed'
      cases found.symm.trans found'
      obtain ⟨suffix, same⟩ := ih ends onwards
      exact ⟨suffix, by rw [← same]; rfl⟩

end

end Value

end ScenarioTree
