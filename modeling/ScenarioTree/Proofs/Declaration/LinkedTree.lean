import Mathlib.Data.List.Forall2
import ScenarioTree.Proofs.Declaration.Links

/-! # The tree of a program of declarations

The tree that a recorder holds can be listed depth first, as elements that are linked both ways and numbered in
the order of the list. A register on which the same program is run holds exactly this list: its order, which is
that of the calls, is the depth-first order of the tree. So the groups around an element can be found in either
direction, from the root down along the children or from the element up along the links to the groups around.
-/

namespace ScenarioTree

mutual

/-- How many elements a declaration is listed as: itself and everything inside. -/
def Declaration.extent : Declaration → Nat
  | .test _ _ => 1
  | .group _ _ children => extentOf children + 1

/-- How many elements successive declarations are listed as. -/
def extentOf : List Declaration → Nat
  | [] => 0
  | declaration :: rest => declaration.extent + extentOf rest

end

/-- The numbers of successive declarations, the first of which has the given number. -/
def numbersFrom (number : Nat) : List Declaration → List Nat
  | [] => []
  | declaration :: rest => number :: numbersFrom (number + declaration.extent) rest

mutual

/-- The elements of a declaration with the given number, depth first. -/
def Declaration.listing (parent : Option Nat) (number : Nat) : Declaration → List Element
  | .test name body => [⟨parent, .test name body, []⟩]
  | .group name hooks children =>
    ⟨parent, .group name hooks, numbersFrom (number + 1) children⟩ :: listingOf number (number + 1) children

/-- The elements of successive children of a group, depth first; the first child has the given number. -/
def listingOf (group number : Nat) : List Declaration → List Element
  | [] => []
  | declaration :: rest =>
    declaration.listing (some group) number ++ listingOf group (number + declaration.extent) rest

end

/-- The elements of a tree, depth first, the root first. -/
def Group.listing (root : Group) : List Element := root.toDeclaration.listing none 0

mutual

theorem Declaration.length_listing (declaration : Declaration) (parent : Option Nat) (number : Nat) :
    (declaration.listing parent number).length = declaration.extent := by
  match declaration with
  | .test name body => rfl
  | .group name hooks children =>
    rw [Declaration.listing, Declaration.extent, List.length_cons, length_listingOf children]
termination_by structural declaration

private theorem length_listingOf (declarations : List Declaration) (group number : Nat) :
    (listingOf group number declarations).length = extentOf declarations := by
  match declarations with
  | [] => rfl
  | declaration :: rest =>
    rw [listingOf, extentOf, List.length_append, declaration.length_listing, length_listingOf rest]
termination_by structural declarations

end

private theorem numbersFrom_append (number : Nat) (first others : List Declaration) :
    numbersFrom number (first ++ others) =
      numbersFrom number first ++ numbersFrom (number + extentOf first) others := by
  induction first generalizing number with
  | nil => rfl
  | cons declaration rest ih =>
    rw [List.cons_append, numbersFrom, ih, numbersFrom, extentOf, List.cons_append, Nat.add_assoc]

private theorem listingOf_append (group number : Nat) (first others : List Declaration) :
    listingOf group number (first ++ others) =
      listingOf group number first ++ listingOf group (number + extentOf first) others := by
  induction first generalizing number with
  | nil => rfl
  | cons declaration rest ih =>
    rw [List.cons_append, listingOf, ih, listingOf, extentOf, List.append_assoc, Nat.add_assoc]

section

variable {α : Type} {items others : List α} {place : Nat} {change : α → α}

private theorem modify_append_of_lt (inside : place < items.length) :
    (items ++ others).modify place change = items.modify place change ++ others := by
  induction items generalizing place with
  | nil => cases inside
  | cons item rest ih =>
    cases place with
    | zero => rfl
    | succ place => simp [ih (Nat.lt_of_succ_lt_succ inside)]

private theorem modify_concat {last : α} (behind : items.length = place) :
    (items ++ [last]).modify place change = items ++ [change last] := by
  subst behind
  induction items with
  | nil => rfl
  | cons item rest ih => simp [ih]

end

/-- The elements with what a program adds to a group of theirs. -/
def grown (elements : List Element) (group : Nat) (gain : Gain) : List Element :=
  elements.modify group (Element.grow gain.hooks (numbersFrom elements.length gain.children)) ++
    listingOf group elements.length gain.children

@[simp] theorem Element.grow_nothing (element : Element) : element.grow {} [] = element := by
  simp [grow]

private theorem Element.grow_comp (hooks others : Hooks) (children more : List Nat) :
    Element.grow others more ∘ Element.grow hooks children =
      Element.grow (hooks.append others) (children ++ more) := by
  funext element
  obtain ⟨parent, _ | _, own⟩ := element <;> simp [grow, Item.grow]

section

variable {elements : List Element} {group number : Nat} {gain : Gain}

private theorem length_grown : (grown elements group gain).length = elements.length + extentOf gain.children := by
  rw [grown, List.length_append, List.length_modify, length_listingOf]

private theorem grown_nothing (outcome : Except Failure Unit) : grown elements group { outcome } = elements := by
  have same : Element.grow {} [] = id := funext Element.grow_nothing
  simp [grown, numbersFrom, listingOf, same]

/-- What two programs add is what they add one after the other. -/
theorem grown_grown (inside : group < elements.length) (first second : Gain) :
    grown (grown elements group first) group second = grown elements group (first.followedBy second) := by
  rw [grown, length_grown, grown]
  rw [modify_append_of_lt (by rwa [List.length_modify]), List.modify_modify_eq, Element.grow_comp]
  rw [List.append_assoc, ← listingOf_append, ← numbersFrom_append]
  rfl

/-- What is added to a group that was just declared is added to the group around it, inside. -/
theorem grown_declared (inside : Gain) (name : String) :
    grown (declared elements group (.group name {})) elements.length inside =
      grown elements group { children := [.group name inside.hooks inside.children], outcome := inside.outcome } := by
  have length : (declared elements group (.group name {})).length = elements.length + 1 := by simp [declared]
  rw [grown, length, declared]
  rw [modify_concat (List.length_modify ..)]
  simp [grown, Element.grow, Item.grow, listingOf, Declaration.listing, numbersFrom]

private theorem parentOf_grown (known : number < elements.length) :
    parentOf (grown elements group gain) number = parentOf elements number := by
  rw [parentOf, grown, List.getElem?_append_left (by rwa [List.length_modify])]
  exact parentOf_modify _ _

/-- A group stays one when something is added to a group. -/
theorem IsGroup.grown (isGroup : IsGroup elements number) : IsGroup (grown elements group gain) number := by
  have kept : IsGroup (elements.modify group
      (Element.grow gain.hooks (numbersFrom elements.length gain.children))) number := isGroup.modify _ _
  rw [IsGroup, itemOf, ScenarioTree.grown, List.getElem?_append_left kept.lt_length]
  exact kept

end

/-- A register in the body of the given group: the group is current, and all is linked and as it was called. -/
structure Register.Sound (executing : Nat) (register : Register) : Prop where
  current : register.current = executing
  isGroup : IsGroup register.elements executing
  linked : WellLinked register.elements
  asCalled : AsCalled register.calls register.elements

/-- A register grows by what its current group gains, and stays sound. -/
def Register.Grows (executing : Nat) (before : Register) (gain : Gain) (after : Register) : Prop :=
  before.Sound executing → after.Sound executing ∧ after.elements = grown before.elements executing gain

namespace Register

variable {executing : Nat}

theorem growth : Growth (Grows executing) where
  refl register outcome := fun sound => ⟨sound, (grown_nothing outcome).symm⟩
  trans := by
    intro before middle after first second grows more sound
    obtain ⟨between, elements⟩ := grows sound
    obtain ⟨final, others⟩ := more between
    refine ⟨final, ?_⟩
    rw [others, elements, grown_grown sound.isGroup.lt_length]

/-- At first the root is current. -/
theorem sound_initial : Sound 0 {} where
  current := rfl
  isGroup := ⟨"", {}, rfl⟩
  linked := .initial
  asCalled := .initial

namespace Sound

variable {register : Register} (sound : register.Sound executing)

include sound

theorem declare (item : Item) (fresh : ∀ {name hooks}, item = .group name hooks → hooks = {})
    (declares : (Call.mk executing item.act).declares = true) :
    ((register.note executing item.act).declare item).Sound executing := by
  obtain ⟨rfl, isGroup, linked, asCalled⟩ := sound
  exact ⟨rfl, isGroup.declared, linked.declared isGroup item, asCalled.declare isGroup item fresh declares⟩

/-- A hook is declared in the body that is executed. -/
theorem hook {named : Value} {kind : HookKind} (invocation : Invocation)
    (known : HookKind.ofValue? named = some kind) :
    ((register.note executing (.hook named invocation)).hook kind invocation).Sound executing := by
  obtain ⟨rfl, isGroup, linked, asCalled⟩ := sound
  exact ⟨rfl, isGroup.modify _ _, linked.hooked isGroup.lt_length kind invocation,
    asCalled.hook isGroup invocation known⟩

theorem refuse {named : Value} (invocation : Invocation) (unknown : HookKind.ofValue? named = none) :
    (register.note executing (.hook named invocation)).Sound executing :=
  ⟨sound.current, sound.isGroup, sound.linked, sound.asCalled.refuse sound.isGroup invocation unknown⟩

theorem enter (name : String) :
    (((register.note executing (.group name)).declare (.group name {})).moveTo register.elements.length).Sound
      register.elements.length := by
  obtain ⟨_, _, linked, asCalled⟩ := sound.declare (.group name {}) (by rintro _ _ ⟨⟩; rfl) rfl
  have own : itemOf (declared register.elements register.current (.group name {})) register.elements.length =
      some (.group name {}) := itemOf_declared.trans (if_pos rfl)
  exact ⟨rfl, ⟨name, {}, own⟩, linked, asCalled⟩

end Sound

end Register

/-- Running a program on a register that is in the body of a group adds to the group what the program adds. -/
theorem Program.link_adds (program : Program) (executing : Nat) :
    Adds (Register.Grows executing) (program.link executing) program.gain := by
  induction program generalizing executing with
  | done => exact Register.growth.done
  | fail failure => exact Register.growth.fail failure
  | next first second first_ih second_ih => exact Register.growth.next (first_ih executing) (second_ih executing)
  | attempt body handle body_ih handle_ih =>
    exact Register.growth.attempt (body_ih executing) fun failure => handle_ih failure executing
  | test name body =>
    refine fun before => ⟨_, rfl, fun sound => ⟨sound.declare (.test name body) nofun rfl, ?_⟩⟩
    obtain ⟨rfl, _⟩ := sound
    rfl
  | hook kind invocation =>
    intro before
    rw [link, gain]
    cases known : HookKind.ofValue? kind with
    | none => exact ⟨_, rfl, fun sound => ⟨sound.refuse invocation known, (grown_nothing _).symm⟩⟩
    | some kind =>
      refine ⟨_, rfl, fun sound => ⟨sound.hook invocation known, ?_⟩⟩
      obtain ⟨rfl, _⟩ := sound
      simp [Register.hook, Register.note, hooked, grown, numbersFrom, listingOf]
  | group name body ih =>
    intro before
    let number := before.elements.length
    let opened := ((before.note executing (.group name)).declare (.group name {})).moveTo number
    obtain ⟨after, ran, grows⟩ := ih number opened
    refine ⟨after.leave number, ?_, fun sound => ?_⟩
    · change ((((body.link number).run.run opened).1, ((body.link number).run.run opened).2.leave number)) = _
      rw [ran]
      rfl
    · have entered := sound.enter name
      obtain ⟨inside, elements⟩ := grows entered
      obtain ⟨rfl, isGroup, _, _⟩ := sound
      have around : parentOf after.elements number = some before.current := by
        rw [elements, parentOf_grown entered.isGroup.lt_length]
        exact parentOf_declared.trans (if_pos rfl)
      have gained : after.elements = grown before.elements before.current (group name body).gain :=
        elements.trans (grown_declared body.gain name)
      refine ⟨⟨?_, ?_, inside.linked, inside.asCalled⟩, gained⟩
      · change (parentOf after.elements number).getD 0 = before.current
        rw [around]
        rfl
      · change IsGroup after.elements before.current
        rw [gained]
        exact isGroup.grown

mutual

/-- A walk through a tree, depth first: an element comes before what is below it. -/
inductive Walk (elements : List Element) : Nat → List Nat → Prop where
  | visit {number : Nat} {below : List Nat} (descends : Walks elements (childrenOf elements number) below) :
      Walk elements number (number :: below)

/-- Walks through the trees of successive elements. -/
inductive Walks (elements : List Element) : List Nat → List Nat → Prop where
  | nil : Walks elements [] []
  | cons {number : Nat} {rest first others : List Nat} (walk : Walk elements number first)
      (walks : Walks elements rest others) : Walks elements (number :: rest) (first ++ others)

end

/-- The way down to an element at a position: from the root along the links of the groups to their children. The
groups on the way are told, the root first. -/
inductive Descends (elements : List Element) : List Nat → Nat → List Nat → Prop where
  | root : Descends elements [] 0 []
  | child {position around : List Nat} {group place child : Nat} (descends : Descends elements position group around)
      (found : (childrenOf elements group)[place]? = some child) :
      Descends elements (position ++ [place]) child (around ++ [group])

/-- The way up from an element: the link to the group around is followed until there is none. The groups that are met
are told, the outermost first. -/
inductive Ancestors (elements : List Element) : Nat → List Nat → Prop where
  | outermost {number : Nat} (alone : parentOf elements number = none) : Ancestors elements number []
  | inside {number group : Nat} {around : List Nat} (found : parentOf elements number = some group)
      (ancestors : Ancestors elements group around) : Ancestors elements number (around ++ [group])

/-- The elements stand one after the other, the first of them at the given number. -/
def StandAt (elements : List Element) (number : Nat) (segment : List Element) : Prop :=
  segment <+: elements.drop number

section

variable {elements : List Element} {number : Nat}

theorem StandAt.head {element : Element} {rest : List Element} (stand : StandAt elements number (element :: rest)) :
    elements[number]? = some element := by
  obtain ⟨later, same⟩ := stand
  have found : (elements.drop number)[0]? = some element := by
    rw [← same]
    rfl
  simpa using found

theorem StandAt.left {first others : List Element} (stand : StandAt elements number (first ++ others)) :
    StandAt elements number first := (List.prefix_append ..).trans stand

theorem StandAt.right {first others : List Element} (stand : StandAt elements number (first ++ others)) :
    StandAt elements (number + first.length) others := by
  obtain ⟨later, same⟩ := stand
  refine ⟨later, ?_⟩
  rw [← List.drop_drop, ← same, List.append_assoc, List.drop_left]

theorem StandAt.tail {element : Element} {rest : List Element} (stand : StandAt elements number (element :: rest)) :
    StandAt elements (number + 1) rest := by
  have split : StandAt elements number ([element] ++ rest) := stand
  exact split.right

private theorem childrenOf_of_getElem? {element : Element} (found : elements[number]? = some element) :
    childrenOf elements number = element.children := by
  rw [childrenOf, found]
  rfl

theorem itemOf_of_getElem? {element : Element} (found : elements[number]? = some element) :
    itemOf elements number = some element.item := by
  rw [itemOf, found]
  rfl

/-- The group around a declaration that is listed is the one that it is listed with. -/
theorem StandAt.parentOf {declaration : Declaration} {parent : Option Nat}
    (stand : StandAt elements number (declaration.listing parent number)) :
    ScenarioTree.parentOf elements number = parent := by
  cases declaration with
  | test name body =>
    rw [ScenarioTree.parentOf, stand.head]
    rfl
  | group name hooks children =>
    rw [Declaration.listing] at stand
    rw [ScenarioTree.parentOf, stand.head]
    rfl

mutual

/-- A walk through a declaration passes its elements in the order of their numbers. -/
theorem Declaration.walk (declaration : Declaration) {parent : Option Nat} {number : Nat}
    (stand : StandAt elements number (declaration.listing parent number)) :
    Walk elements number (List.range' number declaration.extent) := by
  match declaration with
  | .test name body =>
    have childless : childrenOf elements number = [] := childrenOf_of_getElem? stand.head
    refine .visit ?_
    rw [childless]
    exact .nil
  | .group name hooks children =>
    rw [Declaration.listing] at stand
    have below : childrenOf elements number = numbersFrom (number + 1) children := childrenOf_of_getElem? stand.head
    rw [Declaration.extent, List.range'_succ]
    refine .visit ?_
    rw [below]
    exact walksOf children stand.tail
termination_by structural declaration

/-- Walks through successive declarations pass their elements in the order of their numbers. -/
theorem walksOf (declarations : List Declaration) {group number : Nat}
    (stand : StandAt elements number (listingOf group number declarations)) :
    Walks elements (numbersFrom number declarations) (List.range' number (extentOf declarations)) := by
  match declarations with
  | [] => exact .nil
  | declaration :: rest =>
    rw [listingOf] at stand
    have later := stand.right
    rw [declaration.length_listing] at later
    rw [numbersFrom, extentOf, ← List.range'_append_1]
    exact .cons (declaration.walk stand.left) (walksOf rest later)
termination_by structural declarations

end

/-- A child of a group stands where the group has its number, and is listed there. -/
theorem standAt_of_numbersFrom {declarations : List Declaration} {group number place child : Nat}
    (stand : StandAt elements number (listingOf group number declarations))
    (found : (numbersFrom number declarations)[place]? = some child) :
    ∃ declaration, declarations[place]? = some declaration ∧
      StandAt elements child (declaration.listing (some group) child) := by
  induction declarations generalizing number place with
  | nil => simp [numbersFrom] at found
  | cons declaration rest ih =>
    rw [listingOf] at stand
    cases place with
    | zero =>
      cases found
      exact ⟨declaration, rfl, stand.left⟩
    | succ place =>
      have later := stand.right
      rw [declaration.length_listing] at later
      exact ih later found

/-- The way up from an element meets no other groups. -/
theorem Ancestors.unique {around others : List Nat} (ancestors : Ancestors elements number around)
    (other : Ancestors elements number others) : others = around := by
  induction ancestors generalizing others with
  | outermost alone =>
    cases other with
    | outermost => rfl
    | inside found => simp [alone] at found
  | inside found _ ih =>
    cases other with
    | outermost alone => simp [alone] at found
    | inside same ancestors =>
      rw [found] at same
      cases same
      rw [ih ancestors]

namespace WellLinked

variable (linked : WellLinked elements)

include linked

/-- Every element can be reached from the root. -/
theorem exists_descends {number : Nat} (known : number < elements.length) :
    ∃ position around, Descends elements position number around := by
  induction number using Nat.strongRecOn with
  | ind number ih =>
    cases around : parentOf elements number with
    | none =>
      have root : number = 0 := by
        by_cases root : number = 0
        · exact root
        · have found := (linked.parent_isSome_iff known).mpr root
          simp [around] at found
      subst root
      exact ⟨[], [], .root⟩
    | some group =>
      have before := linked.parent_lt around
      obtain ⟨position, outer, descends⟩ := ih group before (Nat.lt_trans before known)
      obtain ⟨place, found⟩ := List.getElem?_of_mem (linked.mem_children_iff.mpr around)
      exact ⟨_, _, descends.child found⟩

/-- The groups that are passed on the way down to an element are met on the way up. -/
theorem ancestors_of_descends {position around : List Nat} (descends : Descends elements position number around) :
    Ancestors elements number around := by
  induction descends with
  | root =>
    refine .outermost ?_
    cases around : parentOf elements 0 with
    | none => rfl
    | some group => exact absurd (linked.parent_lt around) (Nat.not_lt_zero group)
  | child _ found ih => exact .inside (linked.mem_children_iff.mp (List.mem_of_getElem? found)) ih

end WellLinked

/-- The element with the given number is the group at its position in the tree. -/
def StandsFor (elements : List Element) (number : Nat) (group : Enclosing) : Prop :=
  itemOf elements number = some (.group group.name group.hooks) ∧
    ∃ around, Descends elements group.position number around

/-- Child indices lead on from the group that the first of them lead to. -/
theorem Placed.reach_append {placed inner : Placed} {indices : List Int} (further : List Int)
    (reached : placed.reach indices = .group inner) : placed.reach (indices ++ further) = inner.reach further := by
  induction indices generalizing placed with
  | nil =>
    cases reached
    rfl
  | cons index rest ih =>
    rw [reach] at reached
    rw [List.cons_append, reach]
    split at reached
    · cases reached
    · split at reached
      · cases reached
      · split at reached <;> cases reached
      · exact ih reached

/-- What leads to a declaration inside groups leads to a group or to a test. -/
def Declaration.reached (enclosing : List Enclosing) (position : List Nat) : Declaration → Reached
  | .test _ _ => .test enclosing
  | .group name hooks children => .group ⟨enclosing, position, ⟨name, hooks, children⟩⟩

/-- The index of a child leads to it. -/
theorem Placed.reach_child {placed : Placed} {place : Nat} {declaration : Declaration}
    (found : placed.group.children[place]? = some declaration) :
    placed.reach [(place : Int)] =
      declaration.reached (placed.enclosing ++ [placed.asEnclosing]) (placed.position ++ [place]) := by
  have known : place < placed.group.children.length := (List.getElem?_eq_some_iff.mp found).1
  have own : placeOf? placed.group.children.length (place : Int) = some place := by
    simp [placeOf?, known]
  rw [reach, own]
  dsimp only
  rw [found]
  cases declaration <;> rfl

/-- The way down to an element leads to the same place in the tree that the elements list, through the groups that
are passed. -/
theorem reach_of_descends {root : Group} {position around : List Nat}
    (descends : Descends root.listing position number around) :
    ∃ (declaration : Declaration) (enclosing : List Enclosing),
      StandAt root.listing number (declaration.listing (parentOf root.listing number) number) ∧
      (Placed.root root).reach (position.map Nat.cast) = declaration.reached enclosing position ∧
      List.Forall₂ (StandsFor root.listing) around enclosing := by
  induction descends with
  | root => exact ⟨root.toDeclaration, [], List.prefix_refl _, rfl, .nil⟩
  | @child position around group place child descends found ih =>
    obtain ⟨declaration, enclosing, stand, reached, same⟩ := ih
    cases declaration with
    | test name body =>
      rw [childrenOf_of_getElem? stand.head] at found
      simp at found
    | group name hooks children =>
      rw [Declaration.listing] at stand
      rw [childrenOf_of_getElem? stand.head] at found
      obtain ⟨declaration, own, standing⟩ := standAt_of_numbersFrom stand.tail found
      rw [← standing.parentOf] at standing
      refine ⟨declaration, enclosing ++ [⟨position, name, hooks⟩], standing, ?_, ?_⟩
      · rw [List.map_append, Placed.reach_append _ reached]
        exact Placed.reach_child own
      · exact List.rel_append same (.cons ⟨itemOf_of_getElem? stand.head, around, descends⟩ .nil)

end

/-- A tree is listed in the order of a walk through it, depth first. -/
theorem Group.walk (root : Group) : Walk root.listing 0 (List.range root.listing.length) := by
  have stand : StandAt root.listing 0 (root.toDeclaration.listing none 0) := List.prefix_refl _
  have walk := root.toDeclaration.walk stand
  have length : root.toDeclaration.extent = root.listing.length := (root.toDeclaration.length_listing none 0).symm
  rwa [length, ← List.range_eq_range'] at walk

/-- The tree that a new recorder holds after a program. -/
theorem Group.listing_grow (gain : Gain) : (Group.grow {} gain).listing = grown ({} : Register).elements 0 gain := by
  simp [Group.grow, Group.listing, Group.toDeclaration, Declaration.listing, grown, Element.grow, Item.grow]

/-- A hook kind that is neither of the two names is unknown. -/
theorem HookKind.ofValue?_eq_none {kind : Value} (notBefore : kind ≠ .str "before")
    (notEach : kind ≠ .str "before_each") : HookKind.ofValue? kind = none := by
  rw [ofValue?]
  · exact notBefore
  · exact notEach

variable {σ : Type}

/-- Run on a new register, a program leaves the list of the tree that it leaves in a new recorder. -/
theorem Program.link_initial (program : Program) :
    let linked := (program.link 0).run.run {}
    linked.1 = program.gain.outcome ∧ linked.2.elements = (Group.grow {} program.gain).listing := by
  obtain ⟨after, ran, grows⟩ := program.link_adds 0 {}
  obtain ⟨_, elements⟩ := grows Register.sound_initial
  intro linked
  have same : linked = (program.gain.outcome, after) := ran
  rw [same, Group.listing_grow]
  exact ⟨rfl, elements⟩

/-- A program leaves a sound register sound, with the cursor where it was. -/
theorem Register.Sound.link {executing : Nat} {register : Register} (sound : register.Sound executing)
    (program : Program) : ((program.link executing).run.run register).2.Sound executing := by
  obtain ⟨after, ran, grows⟩ := program.link_adds executing register
  rw [ran]
  exact (grows sound).1

/-- What a program of declarations leaves behind, however its groups fail and whoever handles that. The group that
was current is current again: a recorder has the same open groups, and the current one has only gained hooks and
children; the cursor of a register is at the group in whose body the program was run. From a new recorder, the tree
is the one that the register lists: both end in the same way, a walk through the tree, depth first, passes every
element once, in the order of the calls, and the links agree with each other and with the calls. The groups that are
met on the way up from an element are those on the way down to it from the root, where the recorder has them. A
hook of an unknown kind changes nothing. -/
theorem Program.keeps_tree (program : Program) (world : World σ) :
    let ended := program.run.run.run { world }
    let linked := (program.link 0).run.run {}
    let root := ended.2.recorder.root
    let elements := linked.2.elements
    linked.1 = ended.1 ∧ elements = root.listing ∧ linked.2.current = 0 ∧
    Walk elements 0 (List.range elements.length) ∧ WellLinked elements ∧ AsCalled linked.2.calls elements ∧
    (∀ number < elements.length, ∃ around position, ∃ (declaration : Declaration) (enclosing : List Enclosing),
      Ancestors elements number around ∧ (∀ other, Ancestors elements number other → other = around) ∧
      Descends elements position number around ∧
      StandAt elements number (declaration.listing (parentOf elements number) number) ∧
      (Placed.root root).reach (position.map Nat.cast) = declaration.reached enclosing position ∧
      List.Forall₂ (StandsFor elements) around enclosing) ∧
    (∃ gain, ∀ recording : Recording σ, program.run.run.run recording = (ended.1, { recording with
      recorder := { recording.recorder with current := recording.recorder.current.grow gain } })) ∧
    (∀ executing (register : Register), register.Sound executing →
      ((program.link executing).run.run register).2.Sound executing) ∧
    ∀ (kind : Value) (invocation : Invocation), kind ≠ .str "before" → kind ≠ .str "before_each" →
      (∀ recording : Recording σ,
        (hook kind invocation).run.run.run recording = (.error (.unknownHook kind), recording)) ∧
      ∀ executing (register : Register), ∃ calls,
        ((hook kind invocation).link executing).run.run register =
          (.error (.unknownHook kind), { register with calls }) := by
  intro ended linked root elements
  obtain ⟨outcome, listed⟩ := program.link_initial
  have recorded : ended = (program.gain.outcome, _) := program.run_eq { world }
  have tree : root = Group.grow {} program.gain := congrArg (·.2.recorder.root) recorded
  have same : elements = root.listing := by rw [tree, ← listed]
  have sound : linked.2.Sound 0 := Register.sound_initial.link program
  refine ⟨?outcome, same, sound.current, ?walk, sound.linked, sound.asCalled, ?chains, ?restored, ?kept, ?unknown⟩
  case outcome => rw [recorded, ← outcome]
  case walk =>
    rw [same]
    exact root.walk
  case chains =>
    intro number known
    obtain ⟨position, around, descends⟩ := sound.linked.exists_descends known
    have ancestors := sound.linked.ancestors_of_descends descends
    have listed : Descends root.listing position number around := same ▸ descends
    obtain ⟨declaration, enclosing, places⟩ := reach_of_descends listed
    rw [← same] at places
    exact ⟨around, position, declaration, enclosing, ancestors, fun _ => ancestors.unique, descends, places⟩
  case restored =>
    refine ⟨program.gain, fun recording => ?_⟩
    rw [program.run_eq, recorded]
    rfl
  case kept => exact fun executing register sound => sound.link program
  case unknown =>
    intro kind invocation notBefore notEach
    have unknown := HookKind.ofValue?_eq_none notBefore notEach
    constructor
    · intro recording
      rw [run, Declaring.hookNamed, unknown]
      rfl
    · intro executing register
      rw [link, unknown]
      exact ⟨_, rfl⟩

/-- A program whose inner group stops at a hook of an unknown kind. The failure passes the group around it and is
handled outside, where another test is declared. -/
def hastyProgram : Program :=
  let first := Program.test (.str "one") (.invoke ⟨.null, []⟩)
  let inner := Program.group "inner" (.next first (.hook (.str "after") ⟨.null, []⟩))
  let outer := Program.group "outer" (.next (.hook (.str "before") ⟨.null, []⟩) inner)
  .next (.attempt outer fun _ => .done) (.test (.str "two") (.invoke ⟨.null, []⟩))

/-- Both groups and the test inside are kept, below each other, and the test behind them is below the root. -/
theorem hastyProgram_keeps_tree :
    let linked := (hastyProgram.link 0).run.run {}
    let elements := linked.2.elements
    elements.map (fun element => (element.parent, element.children)) =
      [(none, [1, 4]), (some 0, [2]), (some 1, [3]), (some 2, []), (some 0, [])] ∧
    linked.2.current = 0 ∧ Walk elements 0 [0, 1, 2, 3, 4] ∧ hooksBy linked.2.calls 1 = ⟨[⟨.null, []⟩], []⟩ ∧
    (∃ position, Descends elements position 3 [0, 1, 2]) ∧
    (Program.hook (.str "after") ⟨.null, []⟩).run.run.run (⟨{}, { store := () }⟩ : Recording Unit) =
      (.error (.unknownHook (.str "after")), ⟨{}, { store := () }⟩) := by
  intro linked elements
  obtain ⟨_, _, current, walk, _, _, chains, _, _, refused⟩ := hastyProgram.keeps_tree ({ store := () } : World Unit)
  obtain ⟨around, position, _, _, _, unique, descends, _⟩ := chains 3 (by decide)
  have met : Ancestors elements 3 [0, 1, 2] := .inside rfl (.inside rfl (.inside rfl (.outermost rfl)))
  rw [← unique _ met] at descends
  exact ⟨rfl, current, walk, rfl, ⟨position, descends⟩, (refused _ _ (by simp) (by simp)).1 _⟩

end ScenarioTree
