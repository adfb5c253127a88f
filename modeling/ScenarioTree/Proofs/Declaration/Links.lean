import ScenarioTree.Proofs.Declaration.Programs

/-! # Elements that are linked both ways

A tree can be kept as a register of elements, numbered as they are declared, in which every element has a link to
the group around it and every group has links to its children. One element is current: what is declared is put
below it, and a group that is declared is current until its body ends, when the cursor goes back along the link of
the group. The register writes every call down, with the group whose body makes it. The steps of a program keep
the two directions of the links in agreement with each other and with what was called.
-/

namespace ScenarioTree

inductive Item where
  | group (name : String) (hooks : Hooks)
  | test (name : Value) (body : Body)

/-- An element of a tree, with the numbers of the group around it and of its children. -/
structure Element where
  parent : Option Nat
  item : Item
  children : List Nat := []

/-- What is called to declare something. -/
inductive Act where
  | group (name : String)
  | hook (kind : Value) (invocation : Invocation)
  | test (name : Value) (body : Body)

/-- A call, with the number of the group whose body makes it. -/
structure Call where
  executing : Nat
  act : Act

/-- The elements that are declared so far, and the calls that were made. The element 0 is the root. -/
structure Register where
  elements : List Element := [⟨none, .group "" {}, []⟩]
  current : Nat := 0
  calls : List Call := []

def Item.grow (hooks : Hooks) : Item → Item
  | group name own => .group name (own.append hooks)
  | test name body => .test name body

/-- The call that declares an item. -/
def Item.act : Item → Act
  | group name _ => .group name
  | test name body => .test name body

def Element.grow (hooks : Hooks) (children : List Nat) (element : Element) : Element :=
  { element with item := element.item.grow hooks, children := element.children ++ children }

section

variable (elements : List Element)

/-- The group around an element. -/
def parentOf (number : Nat) : Option Nat := elements[number]?.bind Element.parent

def childrenOf (number : Nat) : List Nat := (elements[number]?.map Element.children).getD []

/-- What an element is by itself. -/
def itemOf (number : Nat) : Option Item := elements[number]?.map Element.item

def IsGroup (number : Nat) : Prop := ∃ name hooks, itemOf elements number = some (.group name hooks)

/-- The elements with a new one, which is the last child of the given group. -/
def declared (group : Nat) (item : Item) : List Element :=
  elements.modify group (Element.grow {} [elements.length]) ++ [⟨some group, item, []⟩]

def hooked (group : Nat) (kind : HookKind) (invocation : Invocation) : List Element :=
  elements.modify group (Element.grow (Hooks.add {} invocation kind) [])

end

namespace Register

/-- The register with a call written down. -/
def note (register : Register) (executing : Nat) (act : Act) : Register :=
  { register with calls := register.calls ++ [⟨executing, act⟩] }

/-- The register with a new element below the current one. -/
def declare (register : Register) (item : Item) : Register :=
  { register with elements := declared register.elements register.current item }

/-- The register with a hook of the current element. -/
def hook (register : Register) (kind : HookKind) (invocation : Invocation) : Register :=
  { register with elements := hooked register.elements register.current kind invocation }

/-- The register whose cursor is at the given element. -/
def moveTo (register : Register) (number : Nat) : Register := { register with current := number }

/-- The register whose cursor is behind the given element, at the group around it. -/
def leave (register : Register) (number : Nat) : Register :=
  register.moveTo ((parentOf register.elements number).getD 0)

end Register

/-- Runs a program on a register, in the body of the given group. -/
def Program.link (executing : Nat) : Program → ExceptT Failure (StateM Register) Unit
  | done => pure ()
  | fail failure => throw failure
  | next first second => first.link executing >>= fun _ => second.link executing
  | attempt body handle => tryCatch (body.link executing) fun failure => (handle failure).link executing
  | test name body => modify fun register => (register.note executing (.test name body)).declare (.test name body)
  | hook kind invocation => ExceptT.mk fun register =>
    let noted := register.note executing (.hook kind invocation)
    match HookKind.ofValue? kind with
    | some known => (.ok (), noted.hook known invocation)
    | none => (.error (.unknownHook kind), noted)
  | group name body => ExceptT.mk fun register =>
    let number := register.elements.length
    let opened := ((register.note executing (.group name)).declare (.group name {})).moveTo number
    let (outcome, after) := (body.link number).run.run opened
    (outcome, after.leave number)

namespace Call

def declares : Call → Bool
  | ⟨_, .hook ..⟩ => false
  | ⟨_, .group ..⟩ | ⟨_, .test ..⟩ => true

def hook? (number : Nat) (kind : HookKind) : Call → Option Invocation
  | ⟨executing, .hook named invocation⟩ =>
    if executing = number ∧ HookKind.ofValue? named = some kind then some invocation else none
  | ⟨_, .group ..⟩ | ⟨_, .test ..⟩ => none

end Call

/-- The hooks that calls in the body of a group declare, each kind in the order of the calls. -/
def hooksBy (calls : List Call) (number : Nat) : Hooks :=
  ⟨calls.filterMap (Call.hook? number .before), calls.filterMap (Call.hook? number .beforeEach)⟩

/-- The call that declared an element: in the body of the group around it. The root was not declared. -/
def Element.call? (element : Element) : Option Call :=
  element.parent.map fun parent => ⟨parent, element.item.act⟩

/-- The two directions of the links agree, and they make a tree: children come after the group around them and
in order, and only the root has no group around it. -/
structure WellLinked (elements : List Element) : Prop where
  mem_children_iff : ∀ {child group : Nat},
    child ∈ childrenOf elements group ↔ parentOf elements child = some group
  ordered : ∀ group, (childrenOf elements group).Pairwise (· < ·)
  parent_lt : ∀ {child group : Nat}, parentOf elements child = some group → group < child
  isGroup : ∀ {child group : Nat}, parentOf elements child = some group → IsGroup elements group
  parent_isSome_iff : ∀ {number : Nat}, number < elements.length →
    ((parentOf elements number).isSome ↔ number ≠ 0)

/-- Elements are as they were called for: they are numbered in the order of the calls that declared them, the group
around each is the one whose body called for it, and the hooks of each group are those that its body declared. -/
structure AsCalled (calls : List Call) (elements : List Element) : Prop where
  declared : elements.map Element.call? = none :: (calls.filter Call.declares).map some
  hooks : ∀ {number : Nat} {name : String} {hooks : Hooks}, itemOf elements number = some (.group name hooks) →
    hooks = hooksBy calls number
  inside : ∀ call ∈ calls, IsGroup elements call.executing

section

variable {elements : List Element} {calls : List Call} {group number : Nat} {item : Item}

theorem IsGroup.lt_length (isGroup : IsGroup elements number) : number < elements.length := by
  obtain ⟨name, hooks, found⟩ := isGroup
  obtain ⟨element, found, -⟩ := Option.map_eq_some_iff.mp found
  exact (List.getElem?_eq_some_iff.mp found).1

private theorem lt_length_of_parentOf {child : Nat} (found : parentOf elements child = some group) :
    child < elements.length := by
  obtain ⟨element, found, -⟩ := Option.bind_eq_some_iff.mp found
  exact (List.getElem?_eq_some_iff.mp found).1

private theorem Item.act_grow (item : Item) (hooks : Hooks) : (item.grow hooks).act = item.act := by
  cases item <;> rfl

@[simp] theorem Item.grow_empty (item : Item) : item.grow {} = item := by
  cases item <;> simp [grow]

theorem parentOf_modify (hooks : Hooks) (children : List Nat) :
    parentOf (elements.modify group (Element.grow hooks children)) number = parentOf elements number := by
  rw [parentOf, parentOf, List.getElem?_modify]
  cases elements[number]? with
  | none => rfl
  | some element => by_cases same : group = number <;> simp [same, Element.grow]

private theorem childrenOf_modify (hooks : Hooks) (children : List Nat) (inside : group < elements.length) :
    childrenOf (elements.modify group (Element.grow hooks children)) number =
      if number = group then childrenOf elements group ++ children else childrenOf elements number := by
  rw [childrenOf, childrenOf, childrenOf, List.getElem?_modify]
  by_cases same : number = group
  · subst same
    simp [inside, Element.grow]
  · have other : group ≠ number := fun equal => same equal.symm
    simp [same, other]

private theorem itemOf_modify (hooks : Hooks) (children : List Nat) :
    itemOf (elements.modify group (Element.grow hooks children)) number =
      if number = group then (itemOf elements group).map (Item.grow hooks) else itemOf elements number := by
  rw [itemOf, itemOf, itemOf, List.getElem?_modify]
  by_cases same : number = group
  · subst same
    cases elements[number]? <;> simp [Element.grow]
  · have other : group ≠ number := fun equal => same equal.symm
    simp [same, other]

private theorem call?_modify (hooks : Hooks) (children : List Nat) :
    (elements.modify group (Element.grow hooks children)).map Element.call? = elements.map Element.call? := by
  refine List.ext_getElem? fun number => ?_
  rw [List.getElem?_map, List.getElem?_map, List.getElem?_modify]
  cases elements[number]? with
  | none => rfl
  | some element => by_cases same : group = number <;> simp [same, Element.grow, Element.call?, Item.act_grow]

/-- The new element has the first number that was free. -/
theorem getElem?_declared : (declared elements group item)[number]? =
    if number = elements.length then some ⟨some group, item, []⟩
    else (elements.modify group (Element.grow {} [elements.length]))[number]? := by
  rw [declared, List.getElem?_append, List.length_modify]
  by_cases new : number = elements.length
  · subst new
    simp
  · by_cases old : number < elements.length
    · simp [new, old]
    · have beyond : number - elements.length ≠ 0 := by omega
      simp [new, old, beyond]

theorem parentOf_declared : parentOf (declared elements group item) number =
    if number = elements.length then some group else parentOf elements number := by
  rw [parentOf, getElem?_declared]
  split
  · rfl
  · exact parentOf_modify {} _

/-- The new element has the given group around it, and the others have what they had. -/
theorem parentOf_declared_eq_some_iff {other : Nat} : parentOf (declared elements group item) number = some other ↔
    parentOf elements number = some other ∨ other = group ∧ number = elements.length := by
  rw [parentOf_declared]
  by_cases new : number = elements.length
  · have free : parentOf elements elements.length = none := by simp [parentOf]
    simp [new, free, eq_comm]
  · simp [new]

private theorem childrenOf_declared (inside : group < elements.length) :
    childrenOf (declared elements group item) number =
    if number = group then childrenOf elements group ++ [elements.length] else childrenOf elements number := by
  rw [childrenOf, getElem?_declared]
  by_cases new : number = elements.length
  · subst new
    have other : elements.length ≠ group := by omega
    simp [other, childrenOf]
  · rw [if_neg new]
    exact childrenOf_modify {} _ inside

/-- The new element is a child of the given group, and the others are where they were. -/
theorem mem_childrenOf_declared (inside : group < elements.length) {child : Nat} :
    child ∈ childrenOf (declared elements group item) number ↔
      child ∈ childrenOf elements number ∨ number = group ∧ child = elements.length := by
  rw [childrenOf_declared inside]
  by_cases same : number = group <;> simp [same]

private theorem parentOf_hooked (kind : HookKind) (invocation : Invocation) :
    parentOf (hooked elements group kind invocation) number = parentOf elements number := parentOf_modify _ _

private theorem childrenOf_hooked (inside : group < elements.length) (kind : HookKind) (invocation : Invocation) :
    childrenOf (hooked elements group kind invocation) number = childrenOf elements number := by
  rw [hooked, childrenOf_modify _ _ inside, List.append_nil]
  split
  case isTrue same => rw [same]
  case isFalse => rfl

theorem itemOf_declared : itemOf (declared elements group item) number =
    if number = elements.length then some item else itemOf elements number := by
  rw [itemOf, getElem?_declared]
  split
  · rfl
  · refine (itemOf_modify {} _).trans ?_
    split
    case isTrue same => cases found : itemOf elements group <;> simp [same, found]
    case isFalse => rfl

theorem IsGroup.declared (isGroup : IsGroup elements number) : IsGroup (declared elements group item) number := by
  have old : number ≠ elements.length := Nat.ne_of_lt isGroup.lt_length
  rwa [IsGroup, itemOf_declared, if_neg old]

theorem IsGroup.modify (isGroup : IsGroup elements number) (hooks : Hooks) (children : List Nat) :
    IsGroup (elements.modify group (Element.grow hooks children)) number := by
  obtain ⟨name, own, found⟩ := isGroup
  rw [IsGroup, itemOf_modify]
  split
  case isTrue same => exact ⟨name, own.append hooks, by rw [← same, found]; rfl⟩
  case isFalse => exact ⟨name, own, found⟩

namespace WellLinked

/-- At first there is the root alone. -/
theorem initial : WellLinked ({} : Register).elements where
  mem_children_iff {child group} := by
    rcases child with _ | child <;> rcases group with _ | group <;> simp [childrenOf, parentOf]
  ordered group := by rcases group with _ | group <;> simp [childrenOf]
  parent_lt {child group} found := by rcases child with _ | child <;> simp [parentOf] at found
  isGroup {child group} found := by rcases child with _ | child <;> simp [parentOf] at found
  parent_isSome_iff {number} inside := by
    obtain rfl : number = 0 := by simpa using inside
    simp [parentOf]

variable (linked : WellLinked elements)

include linked

theorem declared (isGroup : IsGroup elements group) (item : Item) :
    WellLinked (declared elements group item) := by
  have inside := isGroup.lt_length
  constructor
  case mem_children_iff =>
    intro child other
    rw [mem_childrenOf_declared inside, parentOf_declared_eq_some_iff, linked.mem_children_iff]
  case ordered =>
    intro other
    rw [childrenOf_declared inside]
    split
    · refine List.pairwise_append.mpr ⟨linked.ordered group, List.pairwise_singleton _ _, ?_⟩
      intro child member new found
      rw [List.mem_singleton.mp found]
      exact lt_length_of_parentOf (linked.mem_children_iff.mp member)
    · exact linked.ordered other
  case parent_lt =>
    intro child other found
    rcases parentOf_declared_eq_some_iff.mp found with found | ⟨rfl, rfl⟩
    · exact linked.parent_lt found
    · exact inside
  case isGroup =>
    intro child other found
    rcases parentOf_declared_eq_some_iff.mp found with found | ⟨rfl, rfl⟩
    · exact (linked.isGroup found).declared
    · exact isGroup.declared
  case parent_isSome_iff =>
    intro number known
    rw [parentOf_declared]
    split
    case isTrue new =>
      have positive : number ≠ 0 := by omega
      simp [positive]
    case isFalse old =>
      refine linked.parent_isSome_iff ?_
      simp only [ScenarioTree.declared, List.length_append, List.length_modify, List.length_singleton] at known
      omega

theorem hooked (inside : group < elements.length) (kind : HookKind) (invocation : Invocation) :
    WellLinked (hooked elements group kind invocation) := by
  constructor
  case mem_children_iff =>
    intro child other
    rw [childrenOf_hooked inside, parentOf_hooked, linked.mem_children_iff]
  case ordered =>
    intro other
    rw [childrenOf_hooked inside]
    exact linked.ordered other
  case parent_lt =>
    intro child other found
    rw [parentOf_hooked] at found
    exact linked.parent_lt found
  case isGroup =>
    intro child other found
    rw [parentOf_hooked] at found
    exact (linked.isGroup found).modify _ _
  case parent_isSome_iff =>
    intro number known
    rw [parentOf_hooked]
    refine linked.parent_isSome_iff ?_
    rwa [ScenarioTree.hooked, List.length_modify] at known

end WellLinked

private theorem hooksBy_concat_of_declares {call : Call} (declares : call.declares = true) :
    hooksBy (calls ++ [call]) number = hooksBy calls number := by
  obtain ⟨executing, _ | _ | _⟩ := call
  · simp [hooksBy, Call.hook?]
  · cases declares
  · simp [hooksBy, Call.hook?]

/-- A call that declares a hook adds it to the group whose body makes the call. -/
theorem hooksBy_concat_hook {named : Value} {kind : HookKind} (invocation : Invocation)
    (known : HookKind.ofValue? named = some kind) :
    hooksBy (calls ++ [⟨group, .hook named invocation⟩]) number =
      if number = group then (hooksBy calls number).add invocation kind else hooksBy calls number := by
  by_cases same : number = group
  · subst same
    cases kind <;> simp [hooksBy, Call.hook?, known, Hooks.add]
  · have other : group ≠ number := fun equal => same equal.symm
    simp [hooksBy, Call.hook?, same, other]

private theorem hooksBy_concat_unknown {named : Value} (invocation : Invocation)
    (unknown : HookKind.ofValue? named = none) :
    hooksBy (calls ++ [⟨group, .hook named invocation⟩]) number = hooksBy calls number := by
  simp [hooksBy, Call.hook?, unknown]

namespace AsCalled

/-- At first nothing was called. -/
theorem initial : AsCalled [] ({} : Register).elements where
  declared := rfl
  hooks {number name hooks} found := by
    obtain _ | number := number
    · cases found
      rfl
    · simp [itemOf] at found
  inside := nofun

variable (asCalled : AsCalled calls elements)

include asCalled

/-- The body of a group that is not declared yet has called for no hook. -/
theorem hooksBy_free : hooksBy calls elements.length = {} := by
  have silent (kind : HookKind) : calls.filterMap (Call.hook? elements.length kind) = [] := by
    refine List.filterMap_eq_nil_iff.mpr fun call member => ?_
    obtain ⟨executing, act⟩ := call
    have apart : executing ≠ elements.length := Nat.ne_of_lt (asCalled.inside _ member).lt_length
    cases act with
    | hook named invocation => simp [Call.hook?, apart]
    | group | test => rfl
  rw [hooksBy, silent, silent]

variable (isGroup : IsGroup elements group)

include isGroup

/-- A new element is the one that is called for; a group has no hooks at first. -/
theorem declare (item : Item) (fresh : ∀ {name hooks}, item = .group name hooks → hooks = {})
    (declares : (Call.mk group item.act).declares = true) :
    AsCalled (calls ++ [⟨group, item.act⟩]) (ScenarioTree.declared elements group item) := by
  constructor
  case declared =>
    rw [ScenarioTree.declared, List.map_append, call?_modify, asCalled.declared, List.filter_append,
      List.map_append, List.filter_cons_of_pos declares]
    rfl
  case hooks =>
    intro number name hooks found
    rw [itemOf_declared] at found
    rw [hooksBy_concat_of_declares declares]
    split at found
    case isTrue new =>
      rw [new, asCalled.hooksBy_free]
      exact fresh (Option.some.inj found)
    case isFalse => exact asCalled.hooks found
  case inside =>
    intro call member
    rcases List.mem_append.mp member with member | own
    · exact (asCalled.inside call member).declared
    · rw [List.mem_singleton.mp own]
      exact isGroup.declared

theorem hook {named : Value} {kind : HookKind} (invocation : Invocation)
    (known : HookKind.ofValue? named = some kind) :
    AsCalled (calls ++ [⟨group, .hook named invocation⟩]) (hooked elements group kind invocation) := by
  constructor
  case declared =>
    rw [hooked, call?_modify, asCalled.declared, List.filter_append]
    simp [Call.declares]
  case hooks =>
    intro number name hooks found
    rw [hooked, itemOf_modify] at found
    rw [hooksBy_concat_hook invocation known]
    split at found
    case isTrue same =>
      subst same
      obtain ⟨item, before, grown⟩ := Option.map_eq_some_iff.mp found
      cases item with
      | test name body => cases grown
      | group name own =>
        cases grown
        rw [if_pos rfl, ← asCalled.hooks before, Hooks.append_add_empty]
    case isFalse other =>
      rw [if_neg other]
      exact asCalled.hooks found
  case inside =>
    intro call member
    rcases List.mem_append.mp member with member | own
    · exact (asCalled.inside call member).modify _ _
    · rw [List.mem_singleton.mp own]
      exact isGroup.modify _ _

theorem refuse {named : Value} (invocation : Invocation) (unknown : HookKind.ofValue? named = none) :
    AsCalled (calls ++ [⟨group, .hook named invocation⟩]) elements := by
  constructor
  case declared =>
    rw [asCalled.declared, List.filter_append]
    simp [Call.declares]
  case hooks =>
    intro number name hooks found
    rw [hooksBy_concat_unknown invocation unknown]
    exact asCalled.hooks found
  case inside =>
    intro call member
    rcases List.mem_append.mp member with member | own
    · exact asCalled.inside call member
    · rw [List.mem_singleton.mp own]
      exact isGroup

end AsCalled

end

end ScenarioTree
