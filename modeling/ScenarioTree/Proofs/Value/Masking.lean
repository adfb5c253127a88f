import Mathlib.Data.List.Forall2
import ScenarioTree.Proofs.Schema.Adaptation
import ScenarioTree.Value.Mask

/-! # Masking

A value whose keys can be shown is masked as plain data, and exactly the values that are plain data already are
left as they are. Sequences keep their items, and mappings and built nodes their entries as long as no two keys
look alike. What exists only at run time is never looked into: any other thing of that sort in its place would
give the same.
-/

namespace ScenarioTree

namespace Value

/-- Values that are plain data: scalars, lists, and dictionaries with strings for keys. -/
inductive IsPlain : Value → Prop where
  | null : IsPlain null
  | bool (value : Bool) : IsPlain (bool value)
  | int (value : Int) : IsPlain (int value)
  | float (value : Float) : IsPlain (float value)
  | str (value : String) : IsPlain (str value)
  | bytes (data : List UInt8) : IsPlain (bytes data)
  | list {items : List Value} (each : ∀ item ∈ items, IsPlain item) : IsPlain (list items)
  | map {entries : List (Value × Value)} (keys : ∀ entry ∈ entries, ∃ name, entry.1 = str name)
      (distinct : HasDistinctKeys entries) (each : ∀ entry ∈ entries, IsPlain entry.2) :
      IsPlain (map entries)

/-- Whether a value exists only at run time. -/
def isRuntime : Value → Bool
  | set _ | iter .. | callable _ | object .. | deferred .. => true
  | _ => false

end Value

section Exchange

variable (swap : Callable → Callable) (other : Value → Value)

def GroupHead.exchanged (head : GroupHead) : GroupHead :=
  { head with before := head.before.map swap, beforeEach := head.beforeEach.map swap }

def Check.exchanged (check : Check) : Check := ⟨swap check.getActual, swap check.comparison⟩

mutual

/-- A node with other callables, also in the nodes below it. -/
def Node.exchanged : Node → Node
  | .plainGroup head tests => .plainGroup (head.exchanged swap) (exchangedNodes tests)
  | .fanOutGroup head fragmentSet tests =>
    .fanOutGroup (head.exchanged swap) (swap fragmentSet) (exchangedNodes tests)
  | .directLeaf name check getFragment =>
    .directLeaf name (check.exchanged swap) (getFragment.map swap)
  | .conditionalLeaf name check getFragment given =>
    .conditionalLeaf name (check.exchanged swap) (getFragment.map swap) (swap given)
  | .fanOutLeaf name check fragmentSet given =>
    .fanOutLeaf name (check.exchanged swap) (swap fragmentSet) (given.map swap)
  | .inheritingLeaf name getFragment inherited =>
    .inheritingLeaf name (getFragment.map swap) (exchangedNodes inherited)

def exchangedNodes : List Node → List Node
  | [] => []
  | node :: rest => Node.exchanged node :: exchangedNodes rest

end

/-- A built node with other callables. -/
def Model.exchanged : Model → Model
  | .node n => .node (n.exchanged swap)
  | .outsider (.baseGroup head) => .outsider (.baseGroup (head.exchanged swap))
  | .outsider (.baseLeaf name) => .outsider (.baseLeaf name)
  | .outsider (.alien name) => .outsider (.alien name)

mutual

/-- A value with other things in place of those that exist only at run time, wherever they are shown. -/
def Value.exchanged : Value → Value
  | .list items => .list (exchangedItems items)
  | .tuple items => .tuple (exchangedItems items)
  | .deque items => .deque (exchangedItems items)
  | .map entries => .map (exchangedEntries entries)
  | .proxy entries => .proxy (exchangedEntries entries)
  | .model m => .model (m.exchanged swap)
  | value => if value.isRuntime then other value else value

/-- Items with other things in place of those that exist only at run time. -/
def exchangedItems : List Value → List Value
  | [] => []
  | item :: rest => Value.exchanged item :: exchangedItems rest

/-- Entries with other things in place of values that exist only at run time. -/
def exchangedEntries : List (Value × Value) → List (Value × Value)
  | [] => []
  | (key, value) :: rest => (key, Value.exchanged value) :: exchangedEntries rest

end

end Exchange

private theorem plainItems_eq_map (items : List Plain) : plainItems items = items.map Plain.toValue := by
  induction items with
  | nil => rfl
  | cons item rest ih => rw [plainItems, ih, List.map_cons]

private theorem plainEntries_eq_map (entries : List (String × Plain)) :
    plainEntries entries = entries.map fun entry => (.str entry.1, entry.2.toValue) := by
  induction entries with
  | nil => rfl
  | cons entry rest ih => rw [plainEntries, ih, List.map_cons]

private theorem maskNodes_eq_map (nodes : List Node) :
    maskNodes nodes = nodes.map fun node => .map node.maskFields := by
  induction nodes with
  | nil => rfl
  | cons node rest ih => rw [maskNodes, ih, List.map_cons]

private theorem Value.maskItems_eq_map (items : List Value) : maskItems items = items.map mask := by
  induction items with
  | nil => rfl
  | cons item rest ih => rw [maskItems, ih, List.map_cons]

private theorem Value.maskEntries_eq_map (entries : List (Value × Value)) :
    maskEntries entries = entries.map fun entry => (entry.1.display, entry.2.mask) := by
  induction entries with
  | nil => rfl
  | cons entry rest ih => rw [maskEntries, ih, List.map_cons]

private theorem Node.maskFields_eq (node : Node) :
    node.maskFields = node.fields.map fun field => (field.1, field.2.mask) := by
  have option (callable : Option Callable) : (Value.ofOption callable).mask = maskOption callable := by
    cases callable <;> rfl
  have children (nodes : List Node) : (Value.ofNodes nodes).mask = .list (maskNodes nodes) := by
    rw [Value.ofNodes, Value.mask, Value.maskItems_eq_map, maskNodes_eq_map, List.map_map]
    rfl
  cases node <;>
    simp [maskFields, fields, GroupHead.mask, GroupHead.fields, Check.masked, Check.fields, option, children,
      Value.mask]

private theorem Model.maskFields_eq (model : Model) :
    model.maskFields = model.fields.map fun field => (field.1, field.2.mask) := by
  cases model with
  | node node => exact node.maskFields_eq
  | outsider outsider =>
    cases outsider with
    | baseGroup head =>
      obtain ⟨name, before, beforeEach⟩ := head
      cases before <;> cases beforeEach <;> rfl
    | baseLeaf | alien => rfl

/-- The fields of a built node have different names. -/
theorem Model.fields_nodup (model : Model) : (model.fields.map Prod.fst).Nodup := by
  rcases model with (node | _)
  · cases node <;> simp [fields, Node.fields, GroupHead.fields, Check.fields]
  · rename_i outsider
    cases outsider <;> simp [fields, GroupHead.fields]

private theorem Plain.isPlain_list {items : List Plain} (each : ∀ item ∈ items, item.toValue.IsPlain) :
    (Plain.list items).toValue.IsPlain := by
  rw [toValue, plainItems_eq_map]
  exact .list (List.forall_mem_map.mpr each)

/-- Plain data under different names is plain data. -/
theorem Plain.isPlain_map {entries : List (String × Plain)} (distinct : (entries.map Prod.fst).Nodup)
    (each : ∀ entry ∈ entries, entry.2.toValue.IsPlain) : (Plain.map entries).toValue.IsPlain := by
  rw [toValue, plainEntries_eq_map]
  constructor
  · exact List.forall_mem_map.mpr fun entry _ => ⟨entry.1, rfl⟩
  · rw [HasDistinctKeys, List.pairwise_map]
    rw [List.Nodup, List.pairwise_map] at distinct
    refine distinct.imp fun different => ?_
    simpa [Value.sameKey] using different
  · exact List.forall_mem_map.mpr each

private theorem isPlain_maskOption (option : Option Callable) : (maskOption option).toValue.IsPlain := by
  cases option with
  | none => exact .null
  | some callable => exact .str _

mutual

private theorem Node.isPlain_maskFields (node : Node) : (Plain.map node.maskFields).toValue.IsPlain := by
  have names : (node.maskFields.map Prod.fst).Nodup := by
    rw [node.maskFields_eq, List.map_map]
    exact (Model.node node).fields_nodup
  apply Plain.isPlain_map names
  match node with
  | .plainGroup head tests =>
    simp only [Node.maskFields, GroupHead.mask, List.cons_append, List.nil_append, List.forall_mem_cons]
    exact ⟨.str _, isPlain_maskOption _, isPlain_maskOption _, Plain.isPlain_list (isPlain_maskNodes tests), nofun⟩
  | .fanOutGroup head _ tests =>
    simp only [Node.maskFields, GroupHead.mask, List.cons_append, List.nil_append, List.forall_mem_cons]
    exact ⟨.str _, isPlain_maskOption _, isPlain_maskOption _, .str _,
      Plain.isPlain_list (isPlain_maskNodes tests), nofun⟩
  | .directLeaf name _ getFragment =>
    simp only [Node.maskFields, Check.masked, List.cons_append, List.nil_append, List.forall_mem_cons]
    exact ⟨.str _, .str _, .str _, isPlain_maskOption _, nofun⟩
  | .conditionalLeaf name _ getFragment _ =>
    simp only [Node.maskFields, Check.masked, List.cons_append, List.nil_append, List.forall_mem_cons]
    exact ⟨.str _, .str _, .str _, isPlain_maskOption _, .str _, nofun⟩
  | .fanOutLeaf name _ _ given =>
    simp only [Node.maskFields, Check.masked, List.cons_append, List.nil_append, List.forall_mem_cons]
    exact ⟨.str _, .str _, .str _, .str _, isPlain_maskOption _, nofun⟩
  | .inheritingLeaf name getFragment inherited =>
    simp only [Node.maskFields, List.forall_mem_cons]
    exact ⟨.str _, isPlain_maskOption _, Plain.isPlain_list (isPlain_maskNodes inherited), nofun⟩
termination_by structural node

private theorem isPlain_maskNodes (nodes : List Node) : ∀ item ∈ maskNodes nodes, item.toValue.IsPlain := by
  match nodes with
  | [] => exact nofun
  | node :: rest =>
    rw [maskNodes]
    exact List.forall_mem_cons.mpr ⟨node.isPlain_maskFields, isPlain_maskNodes rest⟩
termination_by structural nodes

end

private theorem Model.isPlain_maskFields (model : Model) : (Plain.map model.maskFields).toValue.IsPlain := by
  rcases model with (node | _)
  · exact node.isPlain_maskFields
  · rename_i outsider
    cases outsider with
    | baseGroup head =>
      apply Plain.isPlain_map
      · simp [maskFields, GroupHead.mask]
      · simp only [maskFields, GroupHead.mask, List.forall_mem_cons]
        exact ⟨.str _, isPlain_maskOption _, isPlain_maskOption _, nofun⟩
    | baseLeaf name | alien name =>
      apply Plain.isPlain_map
      · simp [maskFields]
      · exact List.forall_mem_singleton.mpr (.str _)

namespace Value

mutual

/-- Every value is shown as plain data. -/
theorem isPlain_mask (value : Value) : value.mask.toValue.IsPlain := by
  match value with
  | null => exact .null
  | bool flag => exact .bool flag
  | int number => exact .int number
  | float number => exact .float number
  | str text => exact .str text
  | bytes data => exact .bytes data
  | bytearray data => exact Plain.isPlain_list (List.forall_mem_map.mpr fun byte _ => .int _)
  | range stop => exact Plain.isPlain_list (List.forall_mem_map.mpr fun number _ => .int _)
  | list items | tuple items | deque items => exact Plain.isPlain_list (isPlain_maskItems items)
  | map entries | proxy entries =>
    obtain ⟨distinct, given⟩ := assignAll_spec (maskEntries entries)
    exact Plain.isPlain_map distinct fun entry member => isPlain_maskEntries entries entry (given entry member)
  | model m => exact m.isPlain_maskFields
  | set _ | iter _ _ | callable _ | object _ _ _ _ | deferred _ _ => exact .str _
termination_by structural value

private theorem isPlain_maskItems (items : List Value) : ∀ item ∈ maskItems items, item.toValue.IsPlain := by
  match items with
  | [] => exact nofun
  | item :: rest =>
    rw [maskItems]
    exact List.forall_mem_cons.mpr ⟨item.isPlain_mask, isPlain_maskItems rest⟩
termination_by structural items

private theorem isPlain_maskEntries (entries : List (Value × Value)) :
    ∀ entry ∈ maskEntries entries, entry.2.toValue.IsPlain := by
  match entries with
  | [] => exact nofun
  | (key, value) :: rest =>
    rw [maskEntries]
    exact List.forall_mem_cons.mpr ⟨value.isPlain_mask, isPlain_maskEntries rest⟩
termination_by structural entries

end

/-- A mapping whose keys look different keeps every entry, in order, with its value masked. -/
theorem mask_of_entries? {value : Value} {entries : List (Value × Value)}
    (mapping : value.entries? = some entries) (different : (entries.map fun entry => entry.1.display).Nodup) :
    value.mask = .map (entries.map fun entry => (entry.1.display, entry.2.mask)) := by
  have kept : assignAll (maskEntries entries) =
      entries.map fun entry => (entry.1.display, entry.2.mask) := by
    rw [maskEntries_eq_map]
    apply assignAll_of_nodup
    rw [List.map_map]
    exact different
  cases value with
  | map | proxy =>
    cases mapping
    rw [mask, kept]
  | _ => cases mapping

private theorem mask_of_sequenceItems? {value : Value} {items : List Value}
    (sequence : value.sequenceItems? = some items) : value.mask = .list (items.map mask) := by
  cases value with
  | list | tuple | deque =>
    cases sequence
    rw [mask, maskItems_eq_map]
  | range stop =>
    cases sequence
    rw [mask, rangeItems, List.map_map]
    rfl
  | bytearray data =>
    cases sequence
    rw [mask, byteItems, List.map_map]
    rfl
  | _ => cases sequence

/-- Plain data is shown as it is. -/
theorem IsPlain.toValue_mask {value : Value} (plain : value.IsPlain) : value.mask.toValue = value := by
  induction plain with
  | null | bool | int | float | str | bytes => rfl
  | @list items each ih =>
    rw [mask_of_sequenceItems? rfl, Plain.toValue, plainItems_eq_map, List.map_map]
    exact congrArg Value.list ((List.map_congr_left ih).trans (List.map_id' _))
  | @map entries keys distinct each ih =>
    have different : (entries.map fun entry => entry.1.display).Nodup := by
      rw [List.Nodup, List.pairwise_map]
      refine distinct.imp_of_mem fun {entry other} member among apart same => ?_
      obtain ⟨name, named⟩ := keys entry member
      obtain ⟨name', named'⟩ := keys other among
      rw [named, named'] at apart same
      rw [display_str, display_str] at same
      simp [sameKey, same] at apart
    rw [mask_of_entries? rfl different, Plain.toValue, plainEntries_eq_map, List.map_map]
    refine congrArg Value.map ((List.map_congr_left fun entry member => ?_).trans (List.map_id' _))
    obtain ⟨name, named⟩ := keys entry member
    refine Prod.ext ?_ (ih entry member)
    simp [named]

end Value

section

variable {swap : Callable → Callable} {other : Value → Value}

private theorem maskOption_map (option : Option Callable) : maskOption (option.map swap) = maskOption option := by
  cases option <;> rfl

mutual

/-- A node looks the same with other callables. -/
theorem Node.maskFields_exchanged (node : Node) : (node.exchanged swap).maskFields = node.maskFields := by
  match node with
  | .plainGroup head tests | .fanOutGroup head _ tests =>
    simp only [Node.exchanged, Node.maskFields, GroupHead.mask, GroupHead.exchanged, maskOption_map,
      maskNodes_exchangedNodes tests]
  | .directLeaf name _ getFragment | .conditionalLeaf name _ getFragment _ | .fanOutLeaf name _ _ getFragment =>
    simp only [Node.exchanged, Node.maskFields, maskOption_map]
  | .inheritingLeaf name getFragment inherited =>
    simp only [Node.exchanged, Node.maskFields, maskOption_map, maskNodes_exchangedNodes inherited]
termination_by structural node

private theorem maskNodes_exchangedNodes (nodes : List Node) :
    maskNodes (exchangedNodes swap nodes) = maskNodes nodes := by
  match nodes with
  | [] => rfl
  | node :: rest =>
    rw [exchangedNodes, maskNodes, maskNodes, node.maskFields_exchanged, maskNodes_exchangedNodes rest]
termination_by structural nodes

end

private theorem Model.maskFields_exchanged (model : Model) : (model.exchanged swap).maskFields = model.maskFields := by
  rcases model with (node | _)
  · exact node.maskFields_exchanged
  · rename_i outsider
    cases outsider <;> simp only [exchanged, maskFields, GroupHead.mask, GroupHead.exchanged, maskOption_map]

/-- What exists only at run time is shown by the placeholder. -/
theorem Value.mask_of_isRuntime {value : Value} (runtime : value.isRuntime = true) :
    value.mask = .str runtimePlaceholder := by
  cases value with
  | set | iter | callable | object | deferred => rfl
  | _ => cases runtime

mutual

/-- A value looks the same with other things in place of those that exist only at run time. -/
theorem Value.mask_exchanged (alike : ∀ thing : Value, thing.isRuntime = true → (other thing).isRuntime = true)
    (value : Value) : (value.exchanged swap other).mask = value.mask := by
  match value with
  | .list items | .tuple items | .deque items =>
    rw [Value.exchanged, Value.mask, Value.mask, maskItems_exchangedItems alike items]
  | .map entries | .proxy entries =>
    rw [Value.exchanged, Value.mask, Value.mask, maskEntries_exchangedEntries alike entries]
  | .model m => rw [Value.exchanged, Value.mask, Value.mask, m.maskFields_exchanged]
  | .null | .bool _ | .int _ | .float _ | .str _ | .bytes _ | .bytearray _ | .range _ => rfl
  | .set _ | .iter _ _ | .callable _ | .object _ _ _ _ | .deferred _ _ =>
    exact Value.mask_of_isRuntime (alike _ rfl)
termination_by structural value

private theorem maskItems_exchangedItems
    (alike : ∀ thing : Value, thing.isRuntime = true → (other thing).isRuntime = true)
    (items : List Value) : Value.maskItems (exchangedItems swap other items) = Value.maskItems items := by
  match items with
  | [] => rfl
  | item :: rest =>
    rw [exchangedItems, Value.maskItems, Value.maskItems, item.mask_exchanged alike,
      maskItems_exchangedItems alike rest]
termination_by structural items

private theorem maskEntries_exchangedEntries
    (alike : ∀ thing : Value, thing.isRuntime = true → (other thing).isRuntime = true)
    (entries : List (Value × Value)) :
    Value.maskEntries (exchangedEntries swap other entries) = Value.maskEntries entries := by
  match entries with
  | [] => rfl
  | (key, value) :: rest =>
    rw [exchangedEntries, Value.maskEntries, Value.maskEntries, value.mask_exchanged alike,
      maskEntries_exchangedEntries alike rest]
termination_by structural entries

end

end

namespace Value

/-- A key of a mapping that a value is or has inside, as far as masking goes into it. -/
inductive HasKey : Value → Value → Prop
  | here {value key content : Value} {entries : List (Value × Value)}
      (mapping : value.entries? = some entries) (listed : (key, content) ∈ entries) : HasKey value key
  | content {value name content key : Value} {entries : List (Value × Value)}
      (mapping : value.entries? = some entries) (listed : (name, content) ∈ entries)
      (inside : HasKey content key) : HasKey value key
  | item {value item key : Value} {items : List Value} (sequence : value.sequenceItems? = some items)
      (member : item ∈ items) (inside : HasKey item key) : HasKey value key

mutual

theorem hasKey_of_maskError? {value : Value} {error : RaisedError} (failed : value.maskError? = some error) :
    ∃ key, value.HasKey key ∧ key.toText = .error error := by
  match value with
  | list items | tuple items | deque items =>
    obtain ⟨item, member, key, inside, hidden⟩ := hasKey_of_itemsMaskError? failed
    exact ⟨key, .item rfl member inside, hidden⟩
  | map entries | proxy entries =>
    obtain ⟨key, content, listed, hidden | ⟨other, inside, hidden⟩⟩ := hasKey_of_entriesMaskError? failed
    · exact ⟨key, .here rfl listed, hidden⟩
    · exact ⟨other, .content rfl listed inside, hidden⟩
  | null | bool _ | int _ | float _ | str _ | bytes _ | bytearray _ | set _ | iter _ _ | range _ | callable _
  | object _ _ _ _ | deferred _ _ | model _ => cases failed
termination_by structural value

private theorem hasKey_of_itemsMaskError? {items : List Value} {error : RaisedError}
    (failed : itemsMaskError? items = some error) :
    ∃ item ∈ items, ∃ key, item.HasKey key ∧ key.toText = .error error := by
  match items with
  | [] => cases failed
  | item :: rest =>
    rw [itemsMaskError?] at failed
    rcases Option.or_eq_some_iff.mp failed with here | ⟨_, later⟩
    · exact ⟨item, List.mem_cons_self .., hasKey_of_maskError? here⟩
    · obtain ⟨other, member, found⟩ := hasKey_of_itemsMaskError? later
      exact ⟨other, List.mem_cons_of_mem _ member, found⟩
termination_by structural items

private theorem hasKey_of_entriesMaskError? {entries : List (Value × Value)} {error : RaisedError}
    (failed : entriesMaskError? entries = some error) :
    ∃ key content, (key, content) ∈ entries ∧
      (key.toText = .error error ∨ ∃ other, content.HasKey other ∧ other.toText = .error error) := by
  match entries with
  | [] => cases failed
  | (key, value) :: rest =>
    rw [entriesMaskError?] at failed
    rcases Option.or_eq_some_iff.mp failed with here | ⟨_, failed⟩
    · exact ⟨key, value, List.mem_cons_self .., .inl (RaisedError.within?_eq_some_iff.mp here)⟩
    rcases Option.or_eq_some_iff.mp failed with inside | ⟨_, later⟩
    · exact ⟨key, value, List.mem_cons_self .., .inr (hasKey_of_maskError? inside)⟩
    · obtain ⟨other, content, listed, found⟩ := hasKey_of_entriesMaskError? later
      exact ⟨other, content, List.mem_cons_of_mem _ listed, found⟩
termination_by structural entries

end

private theorem itemsMaskError?_eq_none_iff {items : List Value} :
    itemsMaskError? items = none ↔ ∀ item ∈ items, item.maskError? = none := by
  induction items with
  | nil => simp [itemsMaskError?]
  | cons item rest ih => simp [itemsMaskError?, ih]

private theorem entriesMaskError?_eq_none_iff {entries : List (Value × Value)} :
    entriesMaskError? entries = none ↔
      ∀ entry ∈ entries, (∃ text, entry.1.toText = .ok text) ∧ entry.2.maskError? = none := by
  induction entries with
  | nil => simp [entriesMaskError?]
  | cons entry rest ih =>
    obtain ⟨key, value⟩ := entry
    simp [entriesMaskError?, ih, RaisedError.within?_eq_none_iff, and_assoc]

private theorem masked_eq_ok_iff {value : Value} {plain : Plain} :
    value.masked = .ok plain ↔ value.maskError? = none ∧ value.mask = plain := by
  rw [masked]
  cases value.maskError? <;> simp

theorem masked_eq_error_iff {value : Value} {error : RaisedError} :
    value.masked = .error error ↔ value.maskError? = some error := by
  rw [masked]
  cases value.maskError? <;> simp

private theorem maskError?_of_entries? {value : Value} {entries : List (Value × Value)}
    (mapping : value.entries? = some entries) : value.maskError? = entriesMaskError? entries := by
  cases value with
  | map | proxy =>
    cases mapping
    rfl
  | _ => cases mapping

private theorem maskError?_of_item {value item : Value} {items : List Value}
    (sequence : value.sequenceItems? = some items) (shown : value.maskError? = none) (member : item ∈ items) :
    item.maskError? = none := by
  cases value with
  | list | tuple | deque =>
    cases sequence
    exact itemsMaskError?_eq_none_iff.mp shown item member
  | range =>
    cases sequence
    obtain ⟨number, rfl⟩ := exists_int_of_mem_rangeItems member
    rfl
  | bytearray =>
    cases sequence
    obtain ⟨number, rfl⟩ := exists_int_of_mem_byteItems member
    rfl
  | _ => cases sequence

/-- The keys of plain data can be shown. -/
theorem IsPlain.maskError?_eq_none {value : Value} (plain : value.IsPlain) : value.maskError? = none := by
  induction plain with
  | null | bool | int | float | str | bytes => rfl
  | list _ ih => exact itemsMaskError?_eq_none_iff.mpr ih
  | map keys _ _ ih =>
    refine entriesMaskError?_eq_none_iff.mpr fun entry member => ⟨?_, ih entry member⟩
    obtain ⟨name, named⟩ := keys entry member
    exact ⟨name, named ▸ rfl⟩

/-- The fields of a built node have no keys. -/
theorem maskError?_of_field {model : Model} {field : String × Value} (listed : field ∈ model.fields) :
    field.2.maskError? = none := by
  have option (callable : Option Callable) : (ofOption callable).maskError? = none := by
    cases callable <;> rfl
  have nodes (nodes : List Node) : (ofNodes nodes).maskError? = none :=
    itemsMaskError?_eq_none_iff.mpr (List.forall_mem_map.mpr fun _ _ => rfl)
  revert field
  rcases model with node | (head | name | name)
  · cases node <;>
      simp [Model.fields, Node.fields, GroupHead.fields, Check.fields, option, nodes, maskError?]
  all_goals simp [Model.fields, GroupHead.fields, option, maskError?]

private theorem toText_eq_display {value : Value} (shown : ∃ text, value.toText = .ok text) :
    value.toText = .ok value.display := by
  obtain ⟨text, shown⟩ := shown
  rw [display, shown]
  rfl

private theorem maskError?_of_isRuntime {value : Value} (runtime : value.isRuntime = true) :
    value.maskError? = none := by
  cases value with
  | set | iter | callable | object | deferred => rfl
  | _ => cases runtime

end Value

section

variable {swap : Callable → Callable} {other : Value → Value}

mutual

/-- The same keys are in the way with other things in place of those that exist only at run time. -/
theorem Value.maskError?_exchanged (alike : ∀ thing : Value, thing.isRuntime = true → (other thing).isRuntime = true)
    (value : Value) :
    (value.exchanged swap other).maskError? = value.maskError? := by
  match value with
  | .list items | .tuple items | .deque items => exact itemsMaskError?_exchangedItems alike items
  | .map entries | .proxy entries => exact entriesMaskError?_exchangedEntries alike entries
  | .null | .bool _ | .int _ | .float _ | .str _ | .bytes _ | .bytearray _ | .range _ | .model _ => rfl
  | .set _ | .iter _ _ | .callable _ | .object _ _ _ _ | .deferred _ _ =>
    exact Value.maskError?_of_isRuntime (alike _ rfl)
termination_by structural value

private theorem itemsMaskError?_exchangedItems
    (alike : ∀ thing : Value, thing.isRuntime = true → (other thing).isRuntime = true)
    (items : List Value) :
    Value.itemsMaskError? (exchangedItems swap other items) = Value.itemsMaskError? items := by
  match items with
  | [] => rfl
  | item :: rest =>
    rw [exchangedItems, Value.itemsMaskError?, Value.itemsMaskError?, item.maskError?_exchanged alike,
      itemsMaskError?_exchangedItems alike rest]
termination_by structural items

private theorem entriesMaskError?_exchangedEntries
    (alike : ∀ thing : Value, thing.isRuntime = true → (other thing).isRuntime = true)
    (entries : List (Value × Value)) :
    Value.entriesMaskError? (exchangedEntries swap other entries) = Value.entriesMaskError? entries := by
  match entries with
  | [] => rfl
  | (key, value) :: rest =>
    rw [exchangedEntries, Value.entriesMaskError?, Value.entriesMaskError?, value.maskError?_exchanged alike,
      entriesMaskError?_exchangedEntries alike rest]
termination_by structural entries

end

end

end ScenarioTree
