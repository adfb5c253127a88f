/-! # Lines and blank text

A line ends at any of the ten line boundaries of Unicode text, a carriage return and a line feed
together counting as one. A final boundary opens no further line, so a text without characters
has no lines at all.
-/

namespace ScenarioTree.Text

def isLineEnd (c : Char) : Bool :=
  let n := c.toNat
  (0x0a ≤ n && n ≤ 0x0d) || (0x1c ≤ n && n ≤ 0x1e) || n == 0x85 || n == 0x2028 || n == 0x2029

/-- The characters that take no ink: the separators of Unicode and the control characters used
as such. -/
def isBlank (c : Char) : Bool :=
  let n := c.toNat
  (0x09 ≤ n && n ≤ 0x0d) || (0x1c ≤ n && n ≤ 0x20) || n == 0x85 || n == 0xa0 || n == 0x1680 ||
    (0x2000 ≤ n && n ≤ 0x200a) || n == 0x2028 || n == 0x2029 || n == 0x202f || n == 0x205f ||
    n == 0x3000

theorem isBlank_of_isLineEnd {c : Char} (ends : isLineEnd c = true) : isBlank c = true := by
  simp only [isLineEnd, isBlank, Bool.or_eq_true, Bool.and_eq_true, decide_eq_true_eq,
    beq_iff_eq] at *
  omega

/-- The lines of a text, without the characters that end them. -/
def lines : List Char → List (List Char)
  | [] => []
  | '\r' :: '\n' :: rest => [] :: lines rest
  | c :: rest =>
    if isLineEnd c then [] :: lines rest
    else match lines rest with
      | [] => [[c]]
      | line :: others => (c :: line) :: others

/-- The text between its outer blanks. -/
def trim (text : List Char) : List Char :=
  ((text.dropWhile isBlank).reverse.dropWhile isBlank).reverse

/-- Lines of a string that hold something other than blanks. -/
def inkedLines (text : String) : List String :=
  ((lines text.toList).filter fun line => !line.all isBlank).map String.ofList

/-- The first line that holds something, without its outer blanks. -/
def headline? (text : String) : Option String :=
  ((lines text.toList).map trim).find? (fun line => !line.isEmpty) |>.map String.ofList

end ScenarioTree.Text
