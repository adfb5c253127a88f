import ScenarioTree.Proofs.Schema.BuiltNodes
import ScenarioTree.Proofs.Schema.Issues

/-! # What a report names

An issue of a tree is about an item that is no node, or about a key of a mapping at some depth. Its location
goes there by positions, tags of variants and keys of children, and ends with the position of the item or with
the key. A report takes the key from the end of the location. It tells keys from tags by their text, so it
leaves out a key that looks like a tag: one with a hyphen in it, or an empty one. Only keys that no field uses
can look like that.
-/

namespace ScenarioTree

/-- The items that are validated as the children of a mapping. A built node is the sequence of its fields with
their names. -/
def Value.candidates? : Value → Option (List Value)
  | .model m => some (m.fields.map fun (name, value) => .tuple [.str name, value])
  | value => value.nodeItems?

/-- What an issue of a value is about: the value, which is no node, a key of the mapping that it is, or what an
issue of a child is about. The location of the issue goes there. -/
inductive Value.Tells : Value → Issue → Subject → Prop
  | noNode {value : Value} (unbuilt : ∀ node, value ≠ .ofNode node)
      (unknown : value.entries?.bind Variant.ofKeys? = none) : Tells value ⟨.invalidNode, []⟩ .item
  | atKey {value : Value} {entries : List (Value × Value)} {variant : Variant} {issue : Issue}
      {subject : Subject} (mapping : value.entries? = some entries)
      (told : Variant.ofKeys? entries = some variant) (concerns : variant.Concerns entries issue subject) :
      Tells value (issue.within (.key variant.tag)) subject
  | atChild {value child item : Value} {entries : List (Value × Value)} {variant : Variant} {field : Field}
      {items : List Value} {position : Nat} {issue : Issue} {subject : Subject}
      (mapping : value.entries? = some entries) (told : Variant.ofKeys? entries = some variant)
      (isChild : variant.childField? = some field) (named : Value.named? field.name entries = some child)
      (inside : child.candidates? = some items) (found : items[position]? = some item)
      (tells : Tells item issue subject) :
      Tells value (((issue.within (.index position)).within (.key field.name)).within (.key variant.tag)) subject

/-- What an issue of successive items is about: what an issue of one of them is. -/
def TellsOfItem (items : List Value) (issue : Issue) (subject : Subject) : Prop :=
  ∃ (position : Nat) (item : Value) (inner : Issue), items[position]? = some item ∧
    item.Tells inner subject ∧ issue = inner.within (.index position)

namespace Value

private theorem candidates?_of_nodeItems? {value : Value} {items : List Value}
    (inside : value.nodeItems? = some items) : value.candidates? = some items := by
  cases value with
  | model => cases inside
  | _ => exact inside

/-- All items of a sequence are left, or none of them. -/
theorem remaining?_eq {value : Value} {spent : Spent} {items : List Value}
    (left : value.remaining? spent = some items) : value.nodeItems? = some items ∨ items = [] := by
  cases value with
  | iter id all =>
    cases left
    split
    · exact .inr rfl
    · exact .inl rfl
  | _ => exact .inl left

/-- The field of the children is read from its only key. -/
theorem pick?_of_childField {variant : Variant} {field : Field} {entries : List (Value × Value)} {child : Value}
    (isChild : variant.childField? = some field) (named : named? field.name entries = some child) :
    field ∈ variant.fields ∧ field.pick? entries = some (field.name, child) := by
  have keys : field ∈ variant.fields ∧ field.keys = [field.name] := by
    cases variant <;> cases isChild <;> decide
  refine ⟨keys.1, ?_⟩
  rw [Field.pick?, keys.2, List.findSome?_cons, named]
  rfl

/-- What is wrong with the children of a mapping: they are no sequence, or one of them is refused. -/
theorem children_tell {child : Value}
    (each : ∀ items, child.nodeItems? = some items → ∀ item ∈ items, ∀ spent,
      ((validateNode item).run spent).1.Reports fun issue => ∃ subject, item.Tells issue subject)
    (spent : Spent) :
    ((validateSequence .tupleType child).run spent).1.Reports fun issue => issue.IsUnfit ∨
      ∃ items subject, child.candidates? = some items ∧ TellsOfItem items issue subject := by
  cases left : child.remaining? spent with
  | some items =>
    rw [run_validateSequence _ left]
    rcases remaining?_eq left with inside | rfl
    · refine (validateItems_reports (each items inside) 0 _).mono fun issue => ?_
      rintro ⟨position, item, inner, found, ⟨subject, tells⟩, rfl⟩
      rw [Nat.zero_add]
      exact .inr ⟨items, subject, candidates?_of_nodeItems? inside, position, item, inner, found, tells, rfl⟩
    · exact .of_valid []
  | none =>
    cases child with
    | model m =>
      have strange (name : String) (value : Value) :
          (Value.tuple [.str name, value]).Tells ⟨.invalidNode, []⟩ .item := by
        refine .noNode (fun node same => ?_) rfl
        cases same
      refine (invalidItems_reports _).mono fun issue => ?_
      rintro ⟨position, inside, rfl⟩
      obtain ⟨field, found⟩ : ∃ field, m.fields[position]? = some field :=
        ⟨_, List.getElem?_eq_getElem inside⟩
      refine .inr ⟨_, .item, rfl, position, .tuple [.str field.1, field.2], ⟨.invalidNode, []⟩, ?_,
        strange field.1 field.2, rfl⟩
      rw [List.getElem?_map, found]
      rfl
    | list | tuple | deque | set | iter | range => cases left
    | _ => exact .of_fault (.inl ⟨rfl, rfl⟩)

/-- Whatever was spent, a value that is refused tells why, and every issue of it is about something. -/
theorem validateNode_tells (value : Value) (spent : Spent) :
    ((validateNode value).run spent).1.Reports fun issue => ∃ subject, value.Tells issue subject := by
  induction value using treeInduction generalizing spent with
  | leaf value plain =>
    by_cases built : ∃ node, value = .ofNode node
    · obtain ⟨node, rfl⟩ := built
      exact .of_valid node
    · rw [(validateNode_leaf plain).resolve_left built]
      refine .of_fault ⟨.item, .noNode (fun node same => built ⟨node, same⟩) ?_⟩
      rw [plain]
      rfl
  | mapping value entries mapping ih =>
    rw [run_validateNode_mapping mapping]
    cases told : Variant.ofKeys? entries with
    | none =>
      refine .of_fault ⟨.item, .noNode (fun node same => ?_) ?_⟩
      · rw [same] at mapping
        cases mapping
      · rw [mapping]
        exact told
    | some variant =>
      -- The children are what their field holds, so that a child field that is missing has none.
      obtain ⟨children?, given, reported, ran⟩ : ∃ children? : Option (Validated (List Node)),
          children?.isSome = (variant.child? entries).isSome ∧
          (∀ children, children? = some children → ∃ child, variant.child? entries = some child ∧
            children.Reports fun issue => issue.IsUnfit ∨
              ∃ items subject, child.candidates? = some items ∧ TellsOfItem items issue subject) ∧
          ((validateVariant variant entries).run spent).1 = assemble variant entries children? := by
        rw [run_validateVariant]
        cases content : variant.child? entries with
        | none => exact ⟨none, rfl, nofun, rfl⟩
        | some child =>
          refine ⟨some ((validateSequence .tupleType child).run spent).1, rfl, ?_, rfl⟩
          rintro _ ⟨⟩
          obtain ⟨field, _, named⟩ := Option.bind_eq_some_iff.mp content
          exact ⟨child, rfl, children_tell (ih field.name child · named · · ·) spent⟩
      have reports := assemble_reports (fun children same => (reported children same).choose_spec.2.told) given
      dsimp only
      rw [ran]
      refine reports.within fun issue placed => ?_
      rcases placed with ⟨subject, concerns⟩ | ⟨field, children, inner, isChild, same, member, rfl⟩
      · exact ⟨subject, .atKey mapping told concerns⟩
      · obtain ⟨child, content, tells⟩ := reported children same
        rw [Variant.child?, isChild, Option.bind_some] at content
        rcases tells.placed inner member with
          unfit | ⟨items, subject, inside, position, item, innermost, found, tells, rfl⟩
        · obtain ⟨listed, picked⟩ := pick?_of_childField isChild content
          exact ⟨.key field.name, .atKey mapping told (.field listed (.unfit picked unfit))⟩
        · exact ⟨subject, .atChild mapping told isChild content inside found tells⟩

end Value

/-- Whether a fault is one that validation finds with a node. -/
def Fault.isOfNode : Fault → Bool
  | missing | extraForbidden | invalidKey | invalidNode => true
  | fault => fault.isOfValue

/-- What is said of a node is one line. -/
theorem Fault.headline?_of_isOfNode {fault : Fault} (ofNode : fault.isOfNode = true) :
    Text.headline? fault.message = some fault.message := by
  cases fault with
  | modelType | listType | frozenInstance | boolType | boolParsing => cases ofNode
  | _ => decide +kernel

private theorem Value.Tells.isOfNode {value : Value} {issue : Issue} {subject : Subject}
    (tells : value.Tells issue subject) : issue.fault.isOfNode = true := by
  induction tells with
  | noNode => rfl
  | atKey _ _ concerns =>
    cases concerns with
    | field _ concerns =>
      cases concerns with
      | missing => rfl
      | @unfit _ _ issue _ unfit =>
        have ofValue := unfit.ofValue
        change issue.fault.isOfNode = true
        cases found : issue.fault <;> rw [found] at ofValue <;> first | rfl | cases ofValue
    | extra | foreign => rfl
  | atChild _ _ _ _ _ _ _ ih => exact ih

/-- What an issue is about stands at the end of its location. -/
def Subject.IsAtEndOf (location : List Segment) : Subject → Prop
  | .item => ∃ position : Nat, location.getLast? = some (.index position)
  | .key name => location.getLast? = some (.key name)
  | .foreign other => location.getLast? = some (.ofKey other)

/-- The end of a location is the same from further out. -/
theorem Subject.IsAtEndOf.cons {subject : Subject} {location : List Segment}
    (atEnd : subject.IsAtEndOf location) (segment : Segment) : subject.IsAtEndOf (segment :: location) := by
  have same {last : Segment} (found : location.getLast? = some last) :
      (segment :: location).getLast? = some last := by
    rw [List.getLast?_cons, found, Option.getD_some]
  cases subject with
  | item =>
    obtain ⟨position, found⟩ := atEnd
    exact ⟨position, same found⟩
  | key | foreign => exact same atEnd

private theorem Variant.Concerns.isAtEnd {variant : Variant} {entries : List (Value × Value)} {issue : Issue}
    {subject : Subject} (concerns : variant.Concerns entries issue subject) :
    subject.IsAtEndOf issue.location := by
  cases concerns with
  | @field _ _ key _ concerns =>
    cases concerns with
    | missing => rfl
    | @unfit _ _ issue _ unfit =>
      have location : (issue.within (.key key)).location = [.key key] := congrArg (_ :: ·) unfit.here
      rw [location]
      rfl
  | extra | foreign => rfl

/-- From a position on, the location of an issue of the item there ends with what the issue is about. -/
theorem Value.Tells.isAtEnd {value : Value} {issue : Issue} {subject : Subject}
    (tells : value.Tells issue subject) (position : Nat) :
    subject.IsAtEndOf (.index position :: issue.location) := by
  induction tells generalizing position with
  | noNode => exact ⟨position, rfl⟩
  | atKey _ _ concerns => exact (concerns.isAtEnd.cons _).cons _
  | atChild _ _ _ _ _ _ _ ih => exact (((ih _).cons _).cons _).cons _

private theorem Variant.keys_unlike_tags (variant : Variant) : ∀ field ∈ variant.fields,
    field.firstKey ∈ field.keys ∧ ∀ key ∈ field.keys, key ≠ "" ∧ '-' ∉ key.toList := by
  cases variant <;> decide +kernel

/-- Only a key that no field uses looks like a tag. -/
theorem Value.Tells.fault_of_unlike {value : Value} {issue : Issue} {name : String}
    (tells : value.Tells issue (.key name)) (unlike : name = "" ∨ '-' ∈ name.toList) :
    issue.fault = .extraForbidden := by
  generalize same : Subject.key name = subject at tells
  induction tells with
  | noNode => cases same
  | @atKey _ _ variant _ _ _ _ concerns =>
    subst same
    cases concerns with
    | extra => rfl
    | @field field _ _ listed concerns =>
      obtain ⟨first, like⟩ := variant.keys_unlike_tags field listed
      have spelled : name ∈ field.keys := by
        cases concerns with
        | missing => exact first
        | unfit picked => exact (Field.mem_keys_of_pick? picked).1
      obtain ⟨nonempty, plain⟩ := like name spelled
      rcases unlike with empty | hyphen
      · exact absurd empty nonempty
      · exact absurd hyphen plain
  | atChild _ _ _ _ _ _ _ ih => exact ih same

/-- A key at the end of a location is left out if it looks like a tag. -/
theorem offendingKey?_key {location : List Segment} {name : String}
    (atEnd : location.getLast? = some (.key name)) :
    offendingKey? location = if name = "" ∨ '-' ∈ name.toList then none else some name := by
  rw [offendingKey?, atEnd]
  simp

private theorem offendingKey?_index {location : List Segment} {position : Int}
    (atEnd : location.getLast? = some (.index position)) : offendingKey? location = none := by
  rw [offendingKey?, atEnd]

/-- Whatever was spent, a list that is refused tells why, and every issue of it is about something. -/
theorem validateTree_tells (items : List Value) (spent : Spent) :
    ((validateTree (.list items)).run spent).1.Reports fun issue => ∃ subject, TellsOfItem items issue subject := by
  have reports := validateItems_reports (fun item (_ : item ∈ items) => item.validateNode_tells) 0 spent
  refine reports.mono fun issue => ?_
  rintro ⟨position, item, inner, found, ⟨subject, tells⟩, rfl⟩
  rw [Nat.zero_add]
  exact ⟨subject, position, item, inner, found, tells, rfl⟩

namespace TellsOfItem

variable {items : List Value} {issue : Issue} {subject : Subject}

private theorem isAtEnd (tells : TellsOfItem items issue subject) : subject.IsAtEndOf issue.location := by
  obtain ⟨position, _, _, _, inner, rfl⟩ := tells
  exact inner.isAtEnd position

/-- The message of a report on a list is that of the first issue, with the key that its location tells. -/
theorem message_eq (tells : TellsOfItem items issue subject) (others : List Issue) (filename : Option String) :
    (Report.ofIssues (.list items) (issue :: others) filename).message =
      match offendingKey? issue.location with
      | some name => issue.fault.message ++ ": " ++ Text.quote name
      | none => issue.fault.message := by
  obtain ⟨position, _, _, found, inner, rfl⟩ := tells
  have several : items ≠ [] := by
    rintro rfl
    cases found
  have line := Fault.headline?_of_isOfNode inner.isOfNode
  rw [Report.ofIssues_eq rfl several (by rw [locate?, Issue.within, line, Option.map_some])]
  rfl

end TellsOfItem

/-- When strict building of a list is refused, the first issue is about an item that is no node or about a key
of a mapping at some depth, and the message of the report is that of the issue: alone if it is about an item,
and with the key if it is about a string key. Only a key that no field uses is left out, and only if it is empty
or has a hyphen. -/
theorem Builder.report_names_key {filename : Option String} {items : List Value} {spent : Spent}
    {failure : Failure}
    (failed : ((Builder.build { filename } (.list items)).run spent).1.models = .error failure) :
    ∃ report issue others, failure = .invalidTree report ∧
      ((validateTree (.list items)).run spent).1 = .invalid (issue :: others) ∧
      (∃ subject, TellsOfItem items issue subject) ∧
      (TellsOfItem items issue .item → report.message = issue.fault.message) ∧
      ∀ name, TellsOfItem items issue (.key name) →
        (name = "" ∨ '-' ∈ name.toList →
          issue.fault = .extraForbidden ∧ report.message = issue.fault.message) ∧
        (¬ (name = "" ∨ '-' ∈ name.toList) →
          report.message = issue.fault.message ++ ": " ++ Text.quote name) := by
  have ended := Builder.build_ends { filename } (.list items) spent
  generalize (Builder.build { filename } (.list items)).run spent = outcome at ended failed
  obtain ⟨built, after⟩ := outcome
  cases ended with
  | nothing | kept | validated | salvaged => cases failed
  | @refused _ issues _ _ found _ refused =>
    cases failed
    cases found
    have tells := validateTree_tells items spent
    rw [refused] at tells
    cases issues with
    | nil => cases tells.told rfl
    | cons issue others =>
      refine ⟨_, issue, others, rfl, congrArg Prod.fst refused, tells.placed issue (.head _),
        fun aboutItem => ?_, fun name aboutKey => ⟨fun unlike => ⟨?_, ?_⟩, fun like => ?_⟩⟩
      · obtain ⟨position, last⟩ := aboutItem.isAtEnd
        rw [aboutItem.message_eq, offendingKey?_index last]
      · obtain ⟨_, _, _, _, inner, rfl⟩ := aboutKey
        exact inner.fault_of_unlike unlike
      · rw [aboutKey.message_eq, offendingKey?_key aboutKey.isAtEnd, if_pos unlike]
      · rw [aboutKey.message_eq, offendingKey?_key aboutKey.isAtEnd, if_neg like]

/-- The entries of a group with one more key. -/
def menuWith (name : String) : List (Value × Value) :=
  [(.str "feature", .str "Menu"), (.str "tests", .list []), (.str name, .int 1)]

/-- The entries of a group around it. -/
def siteWith (name : String) : List (Value × Value) :=
  [(.str "feature", .str "Site"), (.str "tests", .tuple [.map (menuWith name)])]

/-- The issue of a group with a key that no field uses. -/
def strayKey (name : String) : Issue := ⟨.extraForbidden, [.key "plain-group", .key name]⟩

/-- The issue is about the key. -/
theorem strayKey_tells {name : String} (told : Variant.ofKeys? (menuWith name) = some .plainGroup)
    (foreign : ∀ field ∈ Variant.plainGroup.fields, name ∉ field.keys) :
    (Value.map (menuWith name)).Tells (strayKey name) (.key name) := by
  have present : Value.hasName name (menuWith name) = true :=
    List.any_eq_true.mpr ⟨_, .tail _ (.tail _ (.head _)), beq_self_eq_true name⟩
  exact .atKey rfl told (.extra present fun field listed value picked =>
    foreign field listed (Field.mem_keys_of_pick? picked).1)

/-- A key that is spelled wrong in a nested group is in the message. -/
theorem siteWith_named : ∃ report,
    ((Builder.build {} (.list [.map (siteWith "beforeeach")])).run []).1.models = .error (.invalidTree report) ∧
    report.message = "Extra inputs are not permitted: 'beforeeach'" := by
  have failed : ((Builder.build {} (.list [.map (siteWith "beforeeach")])).run []).1.models =
      .error (.invalidTree (.ofIssues (.list [.map (siteWith "beforeeach")])
        [⟨.extraForbidden, [.index 0, .key "plain-group", .key "tests", .index 0, .key "plain-group",
          .key "beforeeach"]⟩] none)) := rfl
  obtain ⟨report, issue, others, same, refused, _, _, named⟩ := Builder.report_names_key failed
  have tells : TellsOfItem [.map (siteWith "beforeeach")]
      ⟨.extraForbidden, [.index 0, .key "plain-group", .key "tests", .index 0, .key "plain-group",
        .key "beforeeach"]⟩ (.key "beforeeach") :=
    ⟨0, _, _, rfl, .atChild rfl rfl rfl rfl rfl rfl (strayKey_tells rfl (by decide)), rfl⟩
  cases same
  cases refused
  exact ⟨_, failed, (named _ tells).2 (by decide)⟩

/-- A key that looks like a tag is left out, although the first issue is about it. -/
theorem menuWith_unnamed :
    (∃ report, ((Builder.build {} (.list [.map (menuWith "before-each")])).run []).1.models =
        .error (.invalidTree report) ∧
      ((validateTree (.list [.map (menuWith "before-each")])).run []).1 =
        .invalid [(strayKey "before-each").within (.index 0)] ∧
      TellsOfItem [.map (menuWith "before-each")] ((strayKey "before-each").within (.index 0))
        (.key "before-each") ∧
      report.message ≠ (strayKey "before-each").fault.message ++ ": " ++ Text.quote "before-each") ∧
    ∃ report, ((Builder.build {} (.list [.map (menuWith "")])).run []).1.models =
        .error (.invalidTree report) ∧
      ((validateTree (.list [.map (menuWith "")])).run []).1 = .invalid [(strayKey "").within (.index 0)] ∧
      TellsOfItem [.map (menuWith "")] ((strayKey "").within (.index 0)) (.key "") ∧
      report.message ≠ (strayKey "").fault.message ++ ": " ++ Text.quote "" := by
  have tells (name : String) (told : Variant.ofKeys? (menuWith name) = some .plainGroup)
      (foreign : ∀ field ∈ Variant.plainGroup.fields, name ∉ field.keys) :
      TellsOfItem [.map (menuWith name)] ((strayKey name).within (.index 0)) (.key name) :=
    ⟨0, _, _, rfl, strayKey_tells told foreign, rfl⟩
  refine ⟨⟨_, rfl, rfl, tells _ rfl (by decide), ?_⟩, _, rfl, rfl, tells _ rfl (by decide), ?_⟩
  · decide +kernel
  · decide +kernel

end ScenarioTree
