import ScenarioTree.Proofs.Schema.Fields
import ScenarioTree.Schema.Report

/-! # What is reported, and where

A value that is not valid tells why. The issues of the fields of a mapping are one step into the mapping, at
the key of the field or of an entry that no field uses, and all others are issues of the children, seen from
the key of the children. Every issue has a text, so that the first one is the one that is reported.
-/

namespace ScenarioTree

namespace Text

variable {text : List Char} {c : Char}

/-- A character that takes ink stands on some line. -/
theorem exists_line_of_mem (member : c ∈ text) (inked : isBlank c = false) :
    ∃ line ∈ lines text, c ∈ line := by
  have noEnd : isLineEnd c = false := by
    rw [Bool.eq_false_iff]
    intro ends
    cases inked.symm.trans (isBlank_of_isLineEnd ends)
  fun_induction lines text with
  | case1 => cases member
  | case2 rest ih =>
    simp only [List.mem_cons] at member
    rcases member with rfl | rfl | later
    · cases inked
    · cases inked
    · obtain ⟨line, listed, inside⟩ := ih later
      exact ⟨line, List.mem_cons_of_mem _ listed, inside⟩
  | case3 first rest _ ends ih =>
    rcases List.mem_cons.mp member with rfl | later
    · cases noEnd.symm.trans ends
    · obtain ⟨line, listed, inside⟩ := ih later
      exact ⟨line, List.mem_cons_of_mem _ listed, inside⟩
  | case4 first rest _ _ found ih =>
    rcases List.mem_cons.mp member with rfl | later
    · exact ⟨_, .head _, .head _⟩
    · obtain ⟨line, listed, _⟩ := ih later
      rw [found] at listed
      cases listed
  | case5 first rest _ _ line others found ih =>
    rcases List.mem_cons.mp member with rfl | later
    · exact ⟨_, .head _, .head _⟩
    · obtain ⟨other, listed, inside⟩ := ih later
      rw [found] at listed
      rcases List.mem_cons.mp listed with rfl | further
      · exact ⟨_, .head _, .tail _ inside⟩
      · exact ⟨other, .tail _ further, inside⟩

/-- A character that takes ink is left when blanks are dropped. -/
theorem mem_dropWhile_isBlank (member : c ∈ text) (inked : isBlank c = false) :
    c ∈ text.dropWhile isBlank := by
  induction text with
  | nil => cases member
  | cons first rest ih =>
    rw [List.dropWhile_cons]
    split
    · rename_i blank
      rcases List.mem_cons.mp member with rfl | later
      · cases inked.symm.trans blank
      · exact ih later
    · exact member

theorem headline?_isSome_of_line {text : String} {line : List Char} (listed : line ∈ lines text.toList)
    (inside : c ∈ line) (inked : isBlank c = false) : (headline? text).isSome = true := by
  have kept : c ∈ trim line := by
    rw [trim, List.mem_reverse]
    apply mem_dropWhile_isBlank _ inked
    rw [List.mem_reverse]
    exact mem_dropWhile_isBlank inside inked
  rw [headline?, Option.isSome_map, List.find?_isSome]
  refine ⟨trim line, List.mem_map_of_mem listed, ?_⟩
  cases found : trim line with
  | nil =>
    rw [found] at kept
    cases kept
  | cons first rest => rfl

theorem headline?_isSome {text : String} (member : c ∈ text.toList) (inked : isBlank c = false) :
    (headline? text).isSome = true := by
  obtain ⟨line, listed, inside⟩ := exists_line_of_mem member inked
  exact headline?_isSome_of_line listed inside inked

end Text

theorem Fault.headline?_isSome (fault : Fault) : (Text.headline? fault.message).isSome = true := by
  have starts : ∃ c rest, fault.message = String.ofList (c :: rest) ∧ Text.isBlank c = false := by
    cases fault with
    | modelType className =>
      obtain ⟨rest, same⟩ : ∃ rest, "Input should be a valid dictionary or instance of " =
          String.ofList ('I' :: rest) := ⟨_, rfl⟩
      refine ⟨'I', rest ++ className.toList, ?_, rfl⟩
      change _ ++ className = _
      rw [same, ← List.cons_append, String.ofList_append, String.ofList_toList]
    | _ => exact ⟨_, _, rfl, rfl⟩
  obtain ⟨c, rest, same, inked⟩ := starts
  refine Text.headline?_isSome ?_ inked
  rw [same, String.toList_ofList]
  exact .head _

/-- The report on a list or tuple that is not empty is on the first issue. -/
theorem Report.ofIssues_eq {root : Value} {items : List Value} (indexed : root.indexedItems? = some items)
    (several : items ≠ []) {issue : Issue} {located : Located}
    (first : locate? root issue.location issue.fault.message = some located) (others : List Issue)
    (filename : Option String) :
    Report.ofIssues root (issue :: others) filename =
      ⟨located.message, filename, some (located.path, located.element)⟩ := by
  cases items with
  | nil => exact absurd rfl several
  | cons item rest =>
    rw [ofIssues, ofMessages, indexed, List.map_cons, List.findSome?_cons]
    dsimp only
    rw [first]

namespace Validated

variable {α β : Type}

@[simp] theorem issues_valid (value : α) : (valid value).issues = [] := rfl

@[simp] theorem issues_fault (fault : Fault) : (Validated.fault fault : Validated α).issues = [⟨fault, []⟩] := rfl

@[simp] theorem issues_map (f : α → β) (result : Validated α) : (f <$> result).issues = result.issues := by
  cases result <;> rfl

@[simp] theorem issues_seq (f : Validated (α → β)) (result : Validated α) :
    (f <*> result).issues = f.issues ++ result.issues := by
  cases f <;> cases result <;> simp [issues, Seq.seq, apply]

@[simp] theorem issues_within (segment : Segment) (result : Validated α) :
    (result.within segment).issues = result.issues.map (·.within segment) := by
  cases result <;> rfl

@[simp] theorem issues_besides (found : List Issue) (result : Validated α) :
    (result.besides found).issues = result.issues ++ found := by
  cases result with
  | valid value => cases found <;> rfl
  | invalid issues => rfl

theorem isValid_eq_false_of_mem_issues {result : Validated α} {issue : Issue} (member : issue ∈ result.issues) :
    result.isValid = false := by
  cases result with
  | valid value => cases member
  | invalid issues => rfl

/-- A result is valid or tells why not, and every issue that it tells has a property. -/
structure Reports (place : Issue → Prop) (result : Validated α) : Prop where
  told : result.issues = [] → result.isValid = true
  placed : ∀ issue ∈ result.issues, place issue

namespace Reports

variable {place outer : Issue → Prop} {f : Validated (α → β)} {result : Validated α}

theorem of_valid (value : α) : (valid value).Reports place := ⟨fun _ => rfl, nofun⟩

theorem of_fault {fault : Fault} (here : place ⟨fault, []⟩) :
    (Validated.fault fault : Validated α).Reports place :=
  ⟨nofun, List.forall_mem_singleton.mpr here⟩

theorem map (g : α → β) (reports : result.Reports place) : (g <$> result).Reports place := by
  constructor
  · rw [isValid_map, issues_map]
    exact reports.told
  · rw [issues_map]
    exact reports.placed

theorem seq (first : f.Reports place) (second : result.Reports place) : (f <*> result).Reports place := by
  constructor
  · intro nothing
    rw [issues_seq, List.append_eq_nil_iff] at nothing
    rw [isValid_seq, first.told nothing.1, second.told nothing.2]
    rfl
  · rw [issues_seq]
    exact List.forall_mem_append.mpr ⟨first.placed, second.placed⟩

theorem within {segment : Segment} (reports : result.Reports place)
    (further : ∀ issue, place issue → outer (issue.within segment)) : (result.within segment).Reports outer := by
  constructor
  · rw [isValid_within, issues_within, List.map_eq_nil_iff]
    exact reports.told
  · rw [issues_within]
    exact List.forall_mem_map.mpr fun issue member => further issue (reports.placed issue member)

theorem besides {found : List Issue} (reports : result.Reports place) (others : ∀ issue ∈ found, place issue) :
    (result.besides found).Reports place := by
  constructor
  · intro nothing
    rw [issues_besides, List.append_eq_nil_iff] at nothing
    rw [isValid_besides, reports.told nothing.1, nothing.2]
    rfl
  · rw [issues_besides]
    exact List.forall_mem_append.mpr ⟨reports.placed, others⟩

theorem mono (reports : result.Reports place) (weaker : ∀ issue, place issue → outer issue) :
    result.Reports outer :=
  ⟨reports.told, fun issue member => weaker issue (reports.placed issue member)⟩

end Reports

end Validated

def Issue.IsHere (issue : Issue) : Prop := issue.location = []

def Issue.IsNext (issue : Issue) : Prop := ∃ segment, issue.location = [segment]

def Fault.isOfValue : Fault → Bool
  | callableType | stringType | stringUnicode | stringTooShort | tupleType => true
  | _ => false

/-- The value at the place itself is not what it should be. -/
structure Issue.IsUnfit (issue : Issue) : Prop where
  here : issue.IsHere
  ofValue : issue.fault.isOfValue = true

/-- What an issue is about: an item, a string key of a mapping, or a key that is no string. -/
inductive Subject where
  | item
  | key (name : String)
  | foreign (key : Value)

/-- What is wrong with a field of a mapping, and under which key: it is missing, or what it has there does not
fit. -/
inductive Field.Concerns (field : Field) (entries : List (Value × Value)) : Issue → String → Prop
  | missing (absent : field.pick? entries = none) :
      Concerns field entries ⟨.missing, [.key field.firstKey]⟩ field.firstKey
  | unfit {key : String} {value : Value} {issue : Issue} (picked : field.pick? entries = some (key, value))
      (unfit : issue.IsUnfit) : Concerns field entries (issue.within (.key key)) key

/-- What is wrong with a mapping as a node of a variant, apart from its children: one of its fields, a key that
no field uses, or a key that is no string. -/
inductive Variant.Concerns (variant : Variant) (entries : List (Value × Value)) : Issue → Subject → Prop
  | field {field : Field} {issue : Issue} {key : String} (listed : field ∈ variant.fields)
      (concerns : field.Concerns entries issue key) : Concerns variant entries issue (.key key)
  | extra {name : String} (present : Value.hasName name entries = true)
      (unused : ∀ field ∈ variant.fields, ∀ value, field.pick? entries ≠ some (name, value)) :
      Concerns variant entries ⟨.extraForbidden, [.key name]⟩ (.key name)
  | foreign {key value : Value} (listed : (key, value) ∈ entries) (strange : ∀ name, key ≠ .str name) :
      Concerns variant entries ⟨.invalidKey, [.ofKey key]⟩ (.foreign key)

/-- What is wrong with a mapping itself is reported one step into it. -/
theorem Variant.Concerns.isNext {variant : Variant} {entries : List (Value × Value)} {issue : Issue}
    {subject : Subject} (concerns : variant.Concerns entries issue subject) : issue.IsNext := by
  cases concerns with
  | field _ concerns =>
    cases concerns with
    | missing => exact ⟨_, rfl⟩
    | unfit _ unfit => exact ⟨_, congrArg (_ :: ·) unfit.here⟩
  | extra | foreign => exact ⟨_, rfl⟩

private theorem validateText_reports (text : String) : (validateText text).Reports Issue.IsUnfit := by
  unfold validateText
  split
  · exact .of_fault ⟨rfl, rfl⟩
  · exact .of_valid _

private theorem validateName_reports (value : Value) : (validateName value).Reports Issue.IsUnfit := by
  cases value with
  | str name => exact validateText_reports name
  | bytes data | bytearray data =>
    rw [validateName]
    split
    · exact validateText_reports _
    · exact .of_fault ⟨rfl, rfl⟩
  | _ => exact .of_fault ⟨rfl, rfl⟩

private theorem validateCallable_reports (value : Value) : (validateCallable value).Reports Issue.IsUnfit := by
  unfold validateCallable
  split
  · exact .of_valid _
  · exact .of_fault ⟨rfl, rfl⟩

private theorem validateOptional_reports (value : Value) : (validateOptional value).Reports Issue.IsUnfit := by
  unfold validateOptional
  split
  · exact .of_valid _
  · exact (validateCallable_reports value).map some

namespace Field

variable {α : Type} (field : Field) (entries : List (Value × Value)) {validate : Value → Validated α}

private theorem missing_reports (absent : field.pick? entries = none) :
    ((Validated.fault .missing : Validated α).within (.key field.firstKey)).Reports fun issue =>
      ∃ key, field.Concerns entries issue key := by
  have here : (Validated.fault .missing : Validated α).Reports (· = ⟨.missing, []⟩) := .of_fault rfl
  refine here.within fun issue same => ⟨field.firstKey, ?_⟩
  rw [same]
  exact .missing absent

variable (each : ∀ value, (validate value).Reports Issue.IsUnfit)

include each

private theorem required_reports :
    (field.required validate entries).Reports fun issue => ∃ key, field.Concerns entries issue key := by
  rw [required]
  split
  · rename_i key value picked
    exact (each value).within fun issue unfit => ⟨key, .unfit picked unfit⟩
  · rename_i absent
    exact field.missing_reports entries absent

private theorem optional_reports (absent : α) :
    (field.optional validate absent entries).Reports fun issue => ∃ key, field.Concerns entries issue key := by
  rw [optional]
  split
  · rename_i key value picked
    exact (each value).within fun issue unfit => ⟨key, .unfit picked unfit⟩
  · exact .of_valid absent

end Field

/-- What is wrong with an entry that no field uses is at its key. -/
theorem Variant.concerns_of_mem_extraIssues {variant : Variant} {entries : List (Value × Value)} :
    ∀ issue ∈ extraIssues variant.fields entries, ∃ subject, variant.Concerns entries issue subject := by
  intro issue member
  obtain ⟨⟨key, value⟩, listed, found⟩ := List.mem_filterMap.mp member
  cases key with
  | str name =>
    dsimp only at found
    split at found
    · cases found
    · rename_i unused
      cases found
      refine ⟨.key name, .extra ?_ fun field inside content picked => unused ?_⟩
      · rw [Value.hasName, List.any_eq_true]
        exact ⟨_, listed, beq_self_eq_true name⟩
      · rw [List.contains_iff_mem, List.mem_filterMap]
        exact ⟨field, inside, by rw [picked]; rfl⟩
  | _ =>
    cases found
    refine ⟨_, .foreign listed fun name same => ?_⟩
    cases same

/-- An issue of a mapping is one of the mapping itself, or an issue of the children, seen from their key. -/
def Variant.Places (variant : Variant) (entries : List (Value × Value))
    (children? : Option (Validated (List Node))) (issue : Issue) : Prop :=
  (∃ subject, variant.Concerns entries issue subject) ∨
    ∃ field children inner, variant.childField? = some field ∧ children? = some children ∧
      inner ∈ children.issues ∧ issue = inner.within (.key field.name)

section

variable {variant : Variant} {entries : List (Value × Value)} {children? : Option (Validated (List Node))}
  (told : ∀ children, children? = some children → children.issues = [] → children.isValid = true)
  (given : children?.isSome = (variant.child? entries).isSome)

include told given

/-- What is wrong with the children is reported from their key, and so is their absence. -/
theorem children_reports {field : Field} (isChild : variant.childField? = some field) :
    (match children? with
      | some result => result.within (.key field.name)
      | none => (Validated.fault .missing).within (.key field.name)).Reports
        (variant.Places entries children?) := by
  cases children? with
  | none =>
    have keys : field.keys = [field.name] ∧ field ∈ variant.fields := by
      cases variant <;> cases isChild <;> decide
    have absent : field.pick? entries = none := by
      rw [Field.pick?_eq_none_iff, keys.1]
      rw [Variant.child?, isChild, Option.bind_some] at given
      exact List.forall_mem_singleton.mpr (Option.not_isSome_iff_eq_none.mp (by rw [← given]; exact nofun))
    have key : field.firstKey = field.name := by rw [Field.firstKey, keys.1]; rfl
    have reports : ((Validated.fault .missing : Validated (List Node)).within (.key field.firstKey)).Reports _ :=
      field.missing_reports entries absent
    rw [key] at reports
    exact reports.mono fun issue ⟨key, concerns⟩ => .inl ⟨.key key, .field keys.2 concerns⟩
  | some result =>
    have reports : result.Reports (· ∈ result.issues) := ⟨told result rfl, fun _ => id⟩
    exact reports.within fun issue member => .inr ⟨field, result, issue, isChild, rfl, member, rfl⟩

/-- What is wrong with a mapping as a node of a variant, when its children tell what is wrong with them. -/
theorem assemble_reports : (assemble variant entries children?).Reports (variant.Places entries children?) := by
  have own {α : Type} {field : Field} {result : Validated α} (listed : field ∈ variant.fields)
      (reports : result.Reports fun issue => ∃ key, field.Concerns entries issue key) :
      result.Reports (variant.Places entries children?) :=
    reports.mono fun issue ⟨key, concerns⟩ => .inl ⟨.key key, .field listed concerns⟩
  have name {field : Field} (listed : field ∈ variant.fields) :=
    own listed (field.required_reports entries validateName_reports)
  have callable {field : Field} (listed : field ∈ variant.fields) :=
    own listed (field.required_reports entries validateCallable_reports)
  have optional {field : Field} (listed : field ∈ variant.fields) :=
    own listed (field.optional_reports entries validateOptional_reports none)
  have extra : ∀ issue ∈ extraIssues variant.fields entries, variant.Places entries children? issue :=
    fun issue member => .inl (Variant.concerns_of_mem_extraIssues issue member)
  have head (fields : [Field.feature, .before, .beforeEach] ⊆ variant.fields) :
      (validateHead entries).Reports (variant.Places entries children?) :=
    (((name (fields (.head _))).map _).seq (optional (fields (.tail _ (.head _))))).seq
      (optional (fields (.tail _ (.tail _ (.head _)))))
  have check (fields : [Field.getActual, .comparison] ⊆ variant.fields) :
      (validateCheck entries).Reports (variant.Places entries children?) :=
    ((callable (fields (.head _))).map _).seq (callable (fields (.tail _ (.head _))))
  have children {field : Field} (isChild : variant.childField? = some field) := children_reports told given isChild
  cases variant with
  | plainGroup => exact (((head (by decide)).map _).seq (children rfl)).besides extra
  | fanOutGroup =>
    refine ((((head (by decide)).map _).seq (callable (by decide))).seq ?_).besides extra
    split
    · exact children rfl
    · exact .of_valid _
  | directLeaf =>
    exact ((((name (by decide)).map _).seq (check (by decide))).seq (optional (by decide))).besides extra
  | conditionalLeaf =>
    exact (((((name (by decide)).map _).seq (check (by decide))).seq (optional (by decide))).seq
      (callable (by decide))).besides extra
  | fanOutLeaf =>
    exact (((((name (by decide)).map _).seq (check (by decide))).seq (callable (by decide))).seq
      (optional (by decide))).besides extra
  | inheritingLeaf =>
    exact ((((name (by decide)).map _).seq (optional (by decide))).seq (children rfl)).besides extra

end

/-- What is wrong with successive items is what is wrong with each of them, seen from its position. -/
theorem validateItems_reports {place : Value → Issue → Prop} {items : List Value}
    (each : ∀ item ∈ items, ∀ spent, ((validateNode item).run spent).1.Reports (place item)) (offset : Nat)
    (spent : Spent) :
    ((validateItems offset items).run spent).1.Reports fun issue =>
      ∃ (position : Nat) (item : Value) (inner : Issue), items[position]? = some item ∧ place item inner ∧
        issue = inner.within (.index (offset + position : Nat)) := by
  induction items generalizing offset spent with
  | nil => exact .of_valid []
  | cons item rest ih =>
    obtain ⟨first, others⟩ := List.forall_mem_cons.mp each
    rw [run_validateItems_cons]
    apply Validated.Reports.seq
    · apply Validated.Reports.map
      exact (first spent).within fun inner placed => ⟨0, item, inner, rfl, placed, rfl⟩
    · refine (ih others (offset + 1) _).mono fun issue => ?_
      rintro ⟨position, other, inner, found, placed, rfl⟩
      refine ⟨position + 1, other, inner, found, placed, ?_⟩
      rw [Nat.add_right_comm, Nat.add_assoc]

theorem invalidItems_reports (count : Nat) :
    (invalidItems 0 count).Reports fun issue =>
      ∃ position : Nat, position < count ∧ issue = ⟨.invalidNode, [.index position]⟩ := by
  rw [invalidItems]
  split
  · exact .of_valid []
  · rename_i several
    constructor
    · intro nothing
      exact absurd (List.range_eq_nil.mp (List.map_eq_nil_iff.mp nothing)) several
    · intro issue member
      obtain ⟨position, inside, rfl⟩ := List.mem_map.mp member
      exact ⟨position, List.mem_range.mp inside, by simp⟩

end ScenarioTree
