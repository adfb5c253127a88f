import ScenarioTree.Schema.Kind
import ScenarioTree.Schema.Validated

/-! # Strict validation

Strict validation turns values into typed nodes. Every field must be present under one of its
keys unless it is optional, hold a value of its type, and no other key may be present. All issues
are reported, those of a node in the order of its fields and then of the remaining entries.

Iterators are spent when their items are taken. The identities of the spent ones are the state of
validation; a spent iterator has no items.
-/

namespace ScenarioTree

/-- The identities of the iterators whose items were taken. -/
abbrev Spent := List Nat

/-- The first key of a field that is present, with the value under it. -/
def Field.pick? (field : Field) (entries : List (Value × Value)) : Option (String × Value) :=
  field.keys.findSome? fun key => (Value.named? key entries).map fun value => (key, value)

/-- The key by which the absence of a field is reported. -/
def Field.firstKey (field : Field) : String := field.keys.headD field.name

def Field.required {α : Type} (field : Field) (validate : Value → Validated α)
    (entries : List (Value × Value)) : Validated α :=
  match field.pick? entries with
  | some (key, value) => (validate value).within (.key key)
  | none => (Validated.fault .missing).within (.key field.firstKey)

def Field.optional {α : Type} (field : Field) (validate : Value → Validated α) (absent : α)
    (entries : List (Value × Value)) : Validated α :=
  match field.pick? entries with
  | some (key, value) => (validate value).within (.key key)
  | none => .valid absent

def validateText (text : String) : Validated DisplayName :=
  if empty : text = "" then .fault .stringTooShort else .valid ⟨text, empty⟩

/-- A display name: a string, or bytes that encode one, with at least one character. -/
def validateName : Value → Validated DisplayName
  | .str name => validateText name
  | .bytes data | .bytearray data =>
    match String.fromUTF8? ⟨data.toArray⟩ with
    | some name => validateText name
    | none => .fault .stringUnicode
  | _ => .fault .stringType

def validateCallable (v : Value) : Validated Callable :=
  match v.callable? with
  | some c => .valid c
  | none => .fault .callableType

def validateOptional : Value → Validated (Option Callable)
  | .null => .valid none
  | v => some <$> validateCallable v

/-- The issues of the entries that no field uses: extra keys, and keys that are no strings. -/
def unusedIssues (used : List String) (entries : List (Value × Value)) : List Issue :=
  entries.filterMap fun (key, _) =>
    match key with
    | .str name => if used.contains name then none else some ⟨.extraForbidden, [.key name]⟩
    | key => some ⟨.invalidKey, [.ofKey key]⟩

/-- The issues of the entries that a list of fields does not use. -/
def extraIssues (fields : List Field) (entries : List (Value × Value)) : List Issue :=
  unusedIssues (fields.filterMap fun field => (field.pick? entries).map Prod.fst) entries

/-- The fields of the common part of groups. -/
def validateHead (entries : List (Value × Value)) : Validated GroupHead :=
  GroupHead.mk <$> Field.feature.required validateName entries
    <*> Field.before.optional validateOptional none entries
    <*> Field.beforeEach.optional validateOptional none entries

/-- The fields that gather and verify data. -/
def validateCheck (entries : List (Value × Value)) : Validated Check :=
  Check.mk <$> Field.getActual.required validateCallable entries
    <*> Field.comparison.required validateCallable entries

/-- The node of a variant, given the result for its children if the mapping has any. -/
def assemble (variant : Variant) (entries : List (Value × Value))
    (children? : Option (Validated (List Node))) : Validated Node :=
  let name := Field.scenario.required validateName entries
  let getFragment := Field.getFragment.optional validateOptional none entries
  let fragmentSet := Field.fragmentSet.required validateCallable entries
  let children (field : Field) := match children? with
    | some result => result.within (.key field.name)
    | none => (Validated.fault .missing).within (.key field.name)
  let node := match variant with
    | .plainGroup => Node.plainGroup <$> validateHead entries <*> children .tests
    | .fanOutGroup =>
      Node.fanOutGroup <$> validateHead entries <*> fragmentSet <*>
        (if children?.isSome then children .tests else .valid [])
    | .directLeaf => Node.directLeaf <$> name <*> validateCheck entries <*> getFragment
    | .conditionalLeaf =>
      Node.conditionalLeaf <$> name <*> validateCheck entries <*> getFragment <*>
        Field.given.required validateCallable entries
    | .fanOutLeaf =>
      Node.fanOutLeaf <$> name <*> validateCheck entries <*> fragmentSet <*>
        Field.given.optional validateOptional none entries
    | .inheritingLeaf =>
      Node.inheritingLeaf <$> name <*> getFragment <*> children .inherited
  node.besides (extraIssues variant.fields entries)

/-- Values that are no nodes, at successive positions. -/
def invalidItems (start count : Nat) : Validated (List Node) :=
  if count = 0 then .valid []
  else .invalid ((List.range count).map fun (i : Nat) => ⟨.invalidNode, [.index (start + i)]⟩)

mutual

/-- A value as a node. Built nodes of the six variants are kept; a mapping is validated as the
variant that its keys tell. -/
def validateNode : Value → StateM Spent (Validated Node)
  | .model (.node n) => pure (.valid n)
  | .map entries | .proxy entries =>
    match Variant.ofKeys? entries with
    | none => pure (.fault .invalidNode)
    | some variant => do
      let children? ← match variant.childField? with
        | some field => validateChildrenAt field.name entries
        | none => pure none
      pure ((assemble variant entries children?).within (.key variant.tag))
  | _ => pure (.fault .invalidNode)
termination_by structural v => v

def validateChildrenAt (name : String) :
    List (Value × Value) → StateM Spent (Option (Validated (List Node)))
  | [] => pure none
  | (key, value) :: rest =>
    if Value.isName name key then do
      let result ← validateSequence .tupleType value
      pure (some result)
    else validateChildrenAt name rest
termination_by structural entries => entries

/-- A sequence of nodes. Lists, tuples, deques, sets, ranges and iterators are sequences here. So is
a built node, as the sequence of its fields with their names, and these are no nodes. -/
def validateSequence (otherwise : Fault) : Value → StateM Spent (Validated (List Node))
  | .list items | .tuple items | .deque items | .set items => validateItems 0 items
  | .iter id items => do
    let spent ← get
    if spent.contains id then pure (.valid [])
    else
      set (id :: spent)
      validateItems 0 items
  | .range stop => pure (invalidItems 0 stop.toNat)
  | .model m => pure (invalidItems 0 m.fields.length)
  | _ => pure (.fault otherwise)
termination_by structural v => v

/-- Successive items as nodes, the first of them at the given position. -/
def validateItems (position : Nat) : List Value → StateM Spent (Validated (List Node))
  | [] => pure (.valid [])
  | item :: rest => do
    let node ← validateNode item
    let nodes ← validateItems (position + 1) rest
    pure (List.cons <$> node.within (.index position) <*> nodes)
termination_by structural items => items

end

def validateVariant (variant : Variant) (entries : List (Value × Value)) :
    StateM Spent (Validated Node) := do
  let children? ← match variant.childField? with
    | some field => validateChildrenAt field.name entries
    | none => pure none
  pure (assemble variant entries children?)

def validateTree (root : Value) : StateM Spent (Validated (List Node)) :=
  validateSequence .listType root

/-- A mapping as an instance of a class. -/
def validateEntries (modelClass : ModelClass) (entries : List (Value × Value)) :
    StateM Spent (Validated Model) := do
  match modelClass with
  | .variant variant =>
    let node ← validateVariant variant entries
    pure (Model.node <$> node)
  | .baseGroup =>
    pure (((fun head => Model.outsider (.baseGroup head)) <$> validateHead entries).besides
      (extraIssues modelClass.fields entries))
  | .baseLeaf =>
    pure (((fun name => Model.outsider (.baseLeaf name)) <$>
      Field.scenario.required validateName entries).besides (extraIssues modelClass.fields entries))
  | .alien =>
    pure (((fun name => Model.outsider (.alien name)) <$>
      Field.scenario.required validateName entries).besides (extraIssues modelClass.fields entries))

/-- A value as an instance of a class: an instance is kept, a mapping is validated. -/
def validateModel (modelClass : ModelClass) : Value → StateM Spent (Validated Model)
  | .model m =>
    if m.modelClass.isSubclass modelClass then pure (.valid m)
    else pure (.fault (.modelType modelClass.name))
  | .map entries | .proxy entries => validateEntries modelClass entries
  | _ => pure (.fault (.modelType modelClass.name))

end ScenarioTree
