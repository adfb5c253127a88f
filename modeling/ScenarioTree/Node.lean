/-! # Typed nodes

A feature tree is made of groups and scenarios. Each of the six variants has exactly the callables
that it uses, and a name that is not empty, so a typed node has no field that is only sometimes
valid. A callable is known by its identity; what it does when it is called is not part of the tree.
-/

namespace ScenarioTree

/-- The name under which a group or a test is declared: text with at least one character. -/
structure DisplayName where
  text : String
  nonempty : text ≠ ""
deriving Repr, DecidableEq

namespace DisplayName

/-- The name that a literal spells. -/
def of (text : String) (nonempty : (text != "") = true := by exact Eq.refl true) : DisplayName :=
  ⟨text, bne_iff_ne.mp nonempty⟩

@[simp] theorem text_of (text : String) (nonempty : (text != "") = true) : (of text nonempty).text = text := rfl

instance : Coe DisplayName String := ⟨text⟩

instance : Inhabited DisplayName := ⟨.of "name"⟩

end DisplayName

/-- How a callable was defined. Only plain functions serve as factories of module attributes. -/
inductive CallableForm where
  | object
  | function
deriving Repr, DecidableEq, Inhabited

/-- A callable of a tree: a defined one, or the stand-in for a missing one, which always fails. -/
inductive Callable where
  | defined (id : Nat) (name : String) (form : CallableForm)
  | missing (key : String)
deriving Repr, DecidableEq, Inhabited

structure GroupHead where
  name : DisplayName
  before : Option Callable
  beforeEach : Option Callable
deriving Repr, DecidableEq, Inhabited

/-- What gathers the data of a test and what verifies it. -/
structure Check where
  getActual : Callable
  comparison : Callable
deriving Repr, DecidableEq, Inhabited

inductive Variant where
  | fanOutGroup
  | plainGroup
  | fanOutLeaf
  | inheritingLeaf
  | conditionalLeaf
  | directLeaf
deriving Repr, DecidableEq, Inhabited

namespace Variant

/-- The tag of a variant in the location of an error. -/
def tag : Variant → String
  | fanOutGroup => "fan-out-group"
  | plainGroup => "plain-group"
  | fanOutLeaf => "fan-out-leaf"
  | inheritingLeaf => "inheriting-leaf"
  | conditionalLeaf => "conditional-leaf"
  | directLeaf => "direct-leaf"

def all : List Variant :=
  [fanOutGroup, plainGroup, fanOutLeaf, inheritingLeaf, conditionalLeaf, directLeaf]

def isGroup : Variant → Bool
  | fanOutGroup | plainGroup => true
  | _ => false

/-- Whether a variant gathers and verifies data itself. -/
def isExecutable : Variant → Bool
  | fanOutLeaf | conditionalLeaf | directLeaf => true
  | _ => false

end Variant

inductive Node where
  | plainGroup (head : GroupHead) (tests : List Node)
  | fanOutGroup (head : GroupHead) (fragmentSet : Callable) (tests : List Node)
  | directLeaf (name : DisplayName) (check : Check) (getFragment : Option Callable)
  | conditionalLeaf (name : DisplayName) (check : Check) (getFragment : Option Callable)
      (given : Callable)
  | fanOutLeaf (name : DisplayName) (check : Check) (fragmentSet : Callable) (given : Option Callable)
  | inheritingLeaf (name : DisplayName) (getFragment : Option Callable) (inherited : List Node)
deriving Repr, Inhabited

namespace Node

def variant : Node → Variant
  | plainGroup .. => .plainGroup
  | fanOutGroup .. => .fanOutGroup
  | directLeaf .. => .directLeaf
  | conditionalLeaf .. => .conditionalLeaf
  | fanOutLeaf .. => .fanOutLeaf
  | inheritingLeaf .. => .inheritingLeaf

def displayName : Node → DisplayName
  | plainGroup head _ | fanOutGroup head _ _ => head.name
  | directLeaf name .. | conditionalLeaf name .. | fanOutLeaf name .. | inheritingLeaf name .. =>
    name

def name (node : Node) : String := node.displayName

mutual

/-- Whether two nodes are of one variant and have the same fields. -/
def same : Node → Node → Bool
  | .plainGroup head tests, .plainGroup head' tests' => head == head' && sameAll tests tests'
  | .fanOutGroup head fragmentSet tests, .fanOutGroup head' fragmentSet' tests' =>
    head == head' && fragmentSet == fragmentSet' && sameAll tests tests'
  | .directLeaf name check getFragment, .directLeaf name' check' getFragment' =>
    name == name' && check == check' && getFragment == getFragment'
  | .conditionalLeaf name check getFragment given,
      .conditionalLeaf name' check' getFragment' given' =>
    name == name' && check == check' && getFragment == getFragment' && given == given'
  | .fanOutLeaf name check fragmentSet given, .fanOutLeaf name' check' fragmentSet' given' =>
    name == name' && check == check' && fragmentSet == fragmentSet' && given == given'
  | .inheritingLeaf name getFragment inherited, .inheritingLeaf name' getFragment' inherited' =>
    name == name' && getFragment == getFragment' && sameAll inherited inherited'
  | _, _ => false

def sameAll : List Node → List Node → Bool
  | [], [] => true
  | node :: rest, node' :: rest' => same node node' && sameAll rest rest'
  | _, _ => false

end

def children : Node → List Node
  | plainGroup _ tests | fanOutGroup _ _ tests => tests
  | inheritingLeaf _ _ inherited => inherited
  | _ => []

end Node

/-- Nodes outside the six variants: the bare common parts of groups and of scenarios, and a
scenario of a kind that is not known. -/
inductive Outsider where
  | baseGroup (head : GroupHead)
  | baseLeaf (name : DisplayName)
  | alien (name : DisplayName)
deriving Repr, DecidableEq, Inhabited

/-- A built node: one of the six variants, or an outsider. -/
inductive Model where
  | node (node : Node)
  | outsider (outsider : Outsider)
deriving Repr, Inhabited

/-- The classes of built nodes. -/
inductive ModelClass where
  | variant (variant : Variant)
  | baseGroup
  | baseLeaf
  | alien
deriving Repr, DecidableEq, Inhabited

namespace ModelClass

def name : ModelClass → String
  | variant .fanOutGroup => "FanOutGroup"
  | variant .plainGroup => "PlainGroup"
  | variant .fanOutLeaf => "FanOutLeaf"
  | variant .inheritingLeaf => "InheritingLeaf"
  | variant .conditionalLeaf => "ConditionalLeaf"
  | variant .directLeaf => "DirectLeaf"
  | baseGroup => "BaseGroup"
  | baseLeaf => "BaseLeaf"
  | alien => "Alien"

/-- Whether the instances of a class are instances of another one, too. -/
def isSubclass : ModelClass → ModelClass → Bool
  | variant v, baseGroup => v.isGroup
  | variant v, baseLeaf => !v.isGroup
  | alien, baseLeaf => true
  | a, b => a == b

end ModelClass

namespace Model

def modelClass : Model → ModelClass
  | node n => .variant n.variant
  | outsider (.baseGroup _) => .baseGroup
  | outsider (.baseLeaf _) => .baseLeaf
  | outsider (.alien _) => .alien

/-- Whether two built nodes are of one class and have the same fields. -/
def same : Model → Model → Bool
  | node a, node b => a.same b
  | outsider a, outsider b => a == b
  | _, _ => false

def name : Model → String
  | node n => n.name
  | outsider (.baseGroup head) => head.name
  | outsider (.baseLeaf name) | outsider (.alien name) => name

/-- The kind by which built nodes are told apart; the common parts have none. -/
def kind? : Model → Option String
  | node n => some n.variant.tag
  | outsider (.alien _) => some "alien"
  | outsider _ => none

end Model

end ScenarioTree
