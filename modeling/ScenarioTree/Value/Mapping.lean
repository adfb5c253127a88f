import ScenarioTree.Plain
import ScenarioTree.Value.Basic
import ScenarioTree.Decimal.Shortest

/-! # Mappings

The keys of a mapping are pairwise different. Numbers are the same key when they are equal,
whatever their type, so that a truth value is the same key as zero or one. Tuples are compared
item by item, built nodes field by field, and things without a value of their own by identity.
-/

namespace ScenarioTree.Value

/-- The whole number that a double is equal to, if there is one. -/
def wholeNumber? (x : Float) : Option Int :=
  let size := x.toBits.toNat % Nat.pow 2 63
  let binary := Decimal.Binary.ofBits x.toBits
  let magnitude? : Option Nat :=
    if 2047 * Nat.pow 2 52 ≤ size then none
    else if 0 ≤ binary.exponent then some (binary.significand * Nat.pow 2 binary.exponent.toNat)
    else
      let unit := Nat.pow 2 binary.exponent.natAbs
      if binary.significand % unit = 0 then some (binary.significand / unit) else none
  magnitude?.map fun n => if Nat.pow 2 63 ≤ x.toBits.toNat then -(n : Int) else n

def asWhole? : Value → Option Int
  | bool b => some (if b then 1 else 0)
  | int i => some i
  | float x => wholeNumber? x
  | _ => none

mutual

def sameKey : Value → Value → Bool
  | null, null => true
  | str a, str b => a == b
  | bytes a, bytes b => a == b
  | tuple as, tuple bs => sameKeys as bs
  | callable a, callable b => a == b
  | deferred a _, deferred b _ => a == b
  | iter a _, iter b _ => a == b
  | range a, range b => a.toNat == b.toNat
  | model a, model b => a.same b
  | float a, float b => a == b
  | a, b =>
    match asWhole? a, asWhole? b with
    | some i, some j => i == j
    | _, _ => false

def sameKeys : List Value → List Value → Bool
  | [], [] => true
  | a :: as, b :: bs => sameKey a b && sameKeys as bs
  | _, _ => false

end

mutual

/-- The class of what keeps a value from being a key, if anything does. Collections that can change
are no keys, and neither are tuples that hold one. -/
def keyObstacle? : Value → Option String
  | tuple items => keyObstacles? items
  | list _ => some (list []).className
  | deque _ => some (deque []).className
  | set _ => some (set []).className
  | bytearray _ => some (bytearray []).className
  | map _ => some (map []).className
  | proxy _ => some (proxy []).className
  | _ => none

def keyObstacles? : List Value → Option String
  | [] => none
  | item :: rest => (keyObstacle? item).or (keyObstacles? rest)

end

/-- The entries of a mapping given by successive assignments. -/
def assigned (entries : List (Value × Value)) : List (Value × Value) :=
  @assignAll Value Value ⟨sameKey⟩ entries

def lookup? (key : Value) (entries : List (Value × Value)) : Option Value :=
  (entries.find? fun entry => sameKey entry.1 key).map Prod.snd

/-- Whether a key is the given string. -/
def isName (name : String) : Value → Bool
  | str s => s == name
  | _ => false

def named? (name : String) (entries : List (Value × Value)) : Option Value :=
  (entries.find? fun entry => isName name entry.1).map Prod.snd

/-- Whether a mapping has a string key. -/
def hasName (name : String) (entries : List (Value × Value)) : Bool :=
  entries.any fun entry => isName name entry.1

/-- The document that a context exposes, null if there is none: a mapping under the key
`document`, anything else as the attribute of that name. -/
def document (context : Value) : Value :=
  match context.entries? with
  | some entries => (named? "document" entries).getD null
  | none => (context.exposed? "document").getD null

end ScenarioTree.Value
