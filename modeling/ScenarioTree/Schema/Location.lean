import ScenarioTree.Value.Mapping
import ScenarioTree.Value.Text

/-! # Locations

A location leads from a value into it, by the keys of mappings and the positions of sequences. It
is written from a root sign, positions in brackets and keys after a dot.
-/

namespace ScenarioTree

/-- One step of a location. A truth value counts as the position zero or one. -/
inductive Segment where
  | key (name : String)
  | index (position : Int)
  | flag (value : Bool)
deriving Repr, DecidableEq, Inhabited

namespace Segment

/-- The position that a step stands for, if it is one. -/
def position? : Segment → Option Int
  | key _ => none
  | index i => some i
  | flag b => some (if b then 1 else 0)

/-- A step as the key of a mapping. -/
def toValue : Segment → Value
  | key name => .str name
  | index i => .int i
  | flag b => .bool b

def render : Segment → List Char
  | key name => '.' :: name.toList
  | index i => '[' :: (toString i).toList ++ [']']
  | flag b => '[' :: (boolLiteral b).toList ++ [']']

end Segment

def renderPath (path : List Segment) : String :=
  String.ofList ('$' :: path.flatMap Segment.render)

/-- What one step leads to: an item of a list or tuple, or the value under a key of a mapping. -/
def Value.step? (v : Value) (segment : Segment) : Option Value :=
  match v.indexedItems? with
  | some items => segment.position?.bind fun i => if 0 ≤ i then items[i.toNat]? else none
  | none => v.entries?.bind (Value.lookup? segment.toValue)

def Value.follow? (v : Value) : List Segment → Option Value
  | [] => some v
  | segment :: rest => (v.step? segment).bind fun next => next.follow? rest

end ScenarioTree
