import ScenarioTree.Value.Mask

/-! # Declarations

Expanding a feature tree declares groups, hooks and tests. The declared tree is plain data: a hook
is a call that is made later, and a test is a call or a scenario together with what it runs
against. Groups are named by text; a test is named by whatever its scenario exposes as its title.
Positions count the children of every group from zero.
-/

namespace ScenarioTree

structure Invocation where
  target : Value
  arguments : List Value := []
deriving Repr, Inhabited

inductive HookKind where
  | before
  | beforeEach
deriving Repr, DecidableEq, Inhabited

def HookKind.ofValue? : Value → Option HookKind
  | .str "before" => some .before
  | .str "before_each" => some .beforeEach
  | _ => none

/-- The hooks of a group, each kind in the order of declaration. -/
structure Hooks where
  before : List Invocation := []
  beforeEach : List Invocation := []
deriving Repr, Inhabited

/-- The hooks with one more at the end of its kind. -/
def Hooks.add (hooks : Hooks) (hook : Invocation) : HookKind → Hooks
  | .before => { hooks with before := hooks.before ++ [hook] }
  | .beforeEach => { hooks with beforeEach := hooks.beforeEach ++ [hook] }

/-- What a test does: it checks a scenario against a scope and a context, or makes a call. -/
inductive Body where
  | scenario (subject scope context : Value)
  | invoke (invocation : Invocation)
deriving Repr, Inhabited

inductive Declaration where
  | group (name : String) (hooks : Hooks) (children : List Declaration)
  | test (name : Value) (body : Body)
deriving Repr, Inhabited

/-- A group as a whole: the root of a tree, or a group that is being declared. -/
structure Group where
  name : String := ""
  hooks : Hooks := {}
  children : List Declaration := []
deriving Repr, Inhabited

def Group.toDeclaration (group : Group) : Declaration :=
  .group group.name group.hooks group.children

mutual

/-- A declaration as plain data: a test is its name, a group maps its name to its children. -/
def Declaration.outline : Declaration → Plain
  | .test name _ => name.mask
  | .group name _ children => .map [(name, .list (outlines children))]

def outlines : List Declaration → List Plain
  | [] => []
  | declaration :: rest => declaration.outline :: outlines rest

end

def Group.outline (group : Group) : Plain := .list (outlines group.children)

/-- A group around a declaration. -/
structure Enclosing where
  position : List Nat
  name : String
  hooks : Hooks
deriving Repr, Inhabited

/-- The names of groups; groups without a name are left out. -/
def namesOf (enclosing : List Enclosing) : List String :=
  (enclosing.map Enclosing.name).filter (!·.isEmpty)

/-- The names that lead to what has a name inside groups. -/
def pathThrough (enclosing : List Enclosing) (name : Value) : List Value :=
  (namesOf enclosing).map .str ++ [name]

/-- A test with the groups around it, the outermost first. -/
structure Case where
  enclosing : List Enclosing
  name : Value
  body : Body
deriving Repr, Inhabited

/-- The names that lead to a test. -/
def Case.path (case : Case) : List Value := pathThrough case.enclosing case.name

mutual

def Declaration.cases (enclosing : List Enclosing) (position : List Nat) : Declaration → List Case
  | .test name body => [⟨enclosing, name, body⟩]
  | .group name hooks children =>
    casesOf (enclosing ++ [⟨position, name, hooks⟩]) position 0 children

/-- The tests of successive children of a group, the first of them at the given index. -/
def casesOf (enclosing : List Enclosing) (position : List Nat) (index : Nat) :
    List Declaration → List Case
  | [] => []
  | child :: rest =>
    child.cases enclosing (position ++ [index]) ++ casesOf enclosing position (index + 1) rest

end

/-- A group in its tree: the groups around it, its position, and itself. -/
structure Placed where
  enclosing : List Enclosing
  position : List Nat
  group : Group
deriving Repr, Inhabited

namespace Placed

def root (group : Group) : Placed := ⟨[], [], group⟩

/-- A placed group as a group around others. -/
def asEnclosing (placed : Placed) : Enclosing :=
  ⟨placed.position, placed.group.name, placed.group.hooks⟩

/-- The names that lead to a group. -/
def path (placed : Placed) : List String := namesOf placed.enclosing ++ [placed.group.name]

/-- The tests of a group, depth first. -/
def cases (placed : Placed) : List Case :=
  casesOf (placed.enclosing ++ [placed.asEnclosing]) placed.position 0 placed.group.children

end Placed

/-- What child indices lead to. -/
inductive Reached where
  | group (placed : Placed)
  /-- A test, with the groups around it. -/
  | test (enclosing : List Enclosing)
  /-- A test is on the way, and has no children. -/
  | belowTest
  | nothing
deriving Repr, Inhabited

/-- What child indices lead to from a group. A negative index counts from the last child. -/
def Placed.reach (placed : Placed) : List Int → Reached
  | [] => .group placed
  | index :: rest =>
    match placeOf? placed.group.children.length index with
    | none => .nothing
    | some place =>
      match placed.group.children[place]? with
      | none => .nothing
      | some (.test _ _) =>
        if rest.isEmpty then .test (placed.enclosing ++ [placed.asEnclosing]) else .belowTest
      | some (.group name hooks children) =>
        reach ⟨placed.enclosing ++ [placed.asEnclosing], placed.position ++ [place],
          ⟨name, hooks, children⟩⟩ rest

mutual

def Declaration.groups (enclosing : List Enclosing) (position : List Nat) :
    Declaration → List Placed
  | .test _ _ => []
  | .group name hooks children =>
    ⟨enclosing, position, ⟨name, hooks, children⟩⟩ ::
      groupsOf (enclosing ++ [⟨position, name, hooks⟩]) position 0 children

/-- The groups of successive children of a group, the first of them at the given index. -/
def groupsOf (enclosing : List Enclosing) (position : List Nat) (index : Nat) :
    List Declaration → List Placed
  | [] => []
  | child :: rest =>
    child.groups enclosing (position ++ [index]) ++ groupsOf enclosing position (index + 1) rest

end

/-- The tests of a tree, depth first. -/
def Group.cases (group : Group) : List Case := (Placed.root group).cases

/-- The groups of a tree, its root first, depth first. -/
def Group.groups (group : Group) : List Placed :=
  (group.toDeclaration).groups [] []

end ScenarioTree
