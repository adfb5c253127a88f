/-! # Similar texts

Two texts are the more alike the more characters they share in order. The shared characters are
counted block by block: first the longest common block, of several the leftmost, and then the
blocks on either side of it. The similarity is twice that count over the length of both texts.
-/

namespace ScenarioTree.Text

/-- A block that two texts have in common, by where it starts in each and its length. -/
structure CommonBlock where
  left : Nat
  right : Nat
  length : Nat
deriving Repr, DecidableEq

/-- The length of the common start of two texts. -/
def commonStart : List Char → List Char → Nat
  | a :: as, b :: bs => if a == b then commonStart as bs + 1 else 0
  | _, _ => 0

/-- The longest common block of two texts, the leftmost in the first one and then in the second. -/
def longestBlock (a b : List Char) : CommonBlock :=
  let starts := (List.range a.length).flatMap fun i =>
    (List.range b.length).map fun j => CommonBlock.mk i j (commonStart (a.drop i) (b.drop j))
  starts.foldl (fun best block => if best.length < block.length then block else best) ⟨0, 0, 0⟩

/-- The number of characters that two texts share in order. Every block is at least one character
long, so `fuel` need not exceed the length of the first text. -/
def sharedCount : Nat → List Char → List Char → Nat
  | 0, _, _ => 0
  | fuel + 1, a, b =>
    let block := longestBlock a b
    if block.length = 0 then 0
    else
      sharedCount fuel (a.take block.left) (b.take block.right) + block.length +
        sharedCount fuel (a.drop (block.left + block.length)) (b.drop (block.right + block.length))

/-- Whether two texts share at least three fifths of their characters. -/
def isSimilar (a b : String) : Bool :=
  let shared := sharedCount a.length a.toList b.toList
  3 * (a.length + b.length) ≤ 10 * shared

/-- The candidates that are similar to a text, in the order of the alphabet. -/
def similarTo (text : String) (candidates : List String) : List String :=
  (candidates.filter fun candidate => isSimilar candidate text).mergeSort fun a b => a ≤ b

end ScenarioTree.Text
