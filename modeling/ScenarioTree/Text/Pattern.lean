/-! # Name patterns

A pattern is a sequence of characters, each of which may be repeated, and of anchors. A dot stands
for any character but a line feed, a plus for one or more of the character before it, a star for
any number of them. A plus behind a repetition makes it possessive: it takes all it can, and gives
nothing back. A backslash makes the next character stand for itself. A name matches when some
beginning of it does.
-/

namespace ScenarioTree.Text

/-- What one character of a name may be. -/
inductive CharPattern where
  | exactly (c : Char)
  | any
deriving Repr, DecidableEq

/-- Whether a character is as described. -/
def CharPattern.accepts : CharPattern → Char → Bool
  | exactly c, d => c == d
  | any, d => d != '\n'

inductive PatternMark where
  | char (char : CharPattern)
  | start
  | finish
  | plus
  | star
  /-- A backslash with nothing behind it. -/
  | dangling
deriving Repr, DecidableEq

/-- The mark that a character stands for by itself. -/
def PatternMark.ofChar (c : Char) : PatternMark :=
  match c with
  | '^' => start
  | '$' => finish
  | '+' => plus
  | '*' => star
  | '.' => char .any
  | c => char (.exactly c)

/-- The marks of a pattern text with their positions, the first of which is given. -/
def patternMarks (position : Nat) : List Char → List (Nat × PatternMark)
  | [] => []
  | ['\\'] => [(position, .dangling)]
  | '\\' :: c :: rest => (position, .char (.exactly c)) :: patternMarks (position + 2) rest
  | c :: rest => (position, .ofChar c) :: patternMarks (position + 1) rest

inductive PatternItem where
  | once (char : CharPattern)
  /-- At least so many accepted characters. -/
  | repeated (char : CharPattern) (least : Nat) (possessive : Bool)
  | start
  | finish
deriving Repr, DecidableEq

inductive PatternFault where
  | nothingToRepeat (position : Nat)
  | multipleRepeat (position : Nat)
  | danglingEscape (position : Nat)
deriving Repr, DecidableEq, Inhabited

namespace PatternFault

def position : PatternFault → Nat
  | nothingToRepeat p | multipleRepeat p | danglingEscape p => p

def reason : PatternFault → String
  | nothingToRepeat _ => "nothing to repeat"
  | multipleRepeat _ => "multiple repeat"
  | danglingEscape _ => "bad escape (end of pattern)"

/-- The place of a fault in a text of several lines, by line and column, which count from one. -/
def place (pattern : List Char) (position : Nat) : String :=
  let before := pattern.take position
  if pattern.contains '\n' then
    " (line " ++ toString (before.count '\n' + 1) ++ ", column " ++
      toString ((before.reverse.takeWhile (· != '\n')).length + 1) ++ ")"
  else ""

def message (pattern : String) (fault : PatternFault) : String :=
  fault.reason ++ " at position " ++ toString fault.position ++ place pattern.toList fault.position

end PatternFault

/-- The elements of marks. The flag tells whether a repetition comes before them, which cannot be
repeated again. A dangling escape is noticed one mark ahead. -/
def patternItems (repeated : Bool) :
    List (Nat × PatternMark) → Except PatternFault (List PatternItem)
  | [] => .ok []
  | (p, .dangling) :: _ => .error (.danglingEscape p)
  | _ :: (p, .dangling) :: _ => .error (.danglingEscape p)
  | (_, .start) :: rest => (patternItems false rest).map (.start :: ·)
  | (_, .finish) :: rest => (patternItems false rest).map (.finish :: ·)
  | (_, .char c) :: (_, .plus) :: (_, .plus) :: rest =>
    (patternItems true rest).map (.repeated c 1 true :: ·)
  | (_, .char c) :: (_, .star) :: (_, .plus) :: rest =>
    (patternItems true rest).map (.repeated c 0 true :: ·)
  | (_, .char c) :: (_, .plus) :: rest => (patternItems true rest).map (.repeated c 1 false :: ·)
  | (_, .char c) :: (_, .star) :: rest => (patternItems true rest).map (.repeated c 0 false :: ·)
  | (_, .char c) :: rest => (patternItems false rest).map (.once c :: ·)
  | (p, .plus) :: _ | (p, .star) :: _ =>
    .error (if repeated then .multipleRepeat p else .nothingToRepeat p)

/-- The elements of a pattern text. -/
def readPattern (pattern : String) : Except PatternFault (List PatternItem) :=
  patternItems false (patternMarks 0 pattern.toList)

/-- Whether some rest that is left after any number of accepted characters goes on as required. -/
def anyNumberThen (char : CharPattern) (goesOn : List Char → Bool) : List Char → Bool
  | [] => goesOn []
  | c :: rest => goesOn (c :: rest) || (char.accepts c && anyNumberThen char goesOn rest)

/-- Whether a text goes on as required after accepted characters, of which the first ones are
needed. A possessive repetition leaves no choice. -/
def repeatedThen (char : CharPattern) (least : Nat) (possessive : Bool)
    (goesOn : List Char → Bool) (text : List Char) : Bool :=
  let needed := text.take least
  needed.length == least && needed.all char.accepts &&
    if possessive then goesOn ((text.drop least).dropWhile char.accepts)
    else anyNumberThen char goesOn (text.drop least)

/-- Whether some beginning of a text matches. The length of the whole name tells the start. -/
def matchesFrom (whole : Nat) : List PatternItem → List Char → Bool
  | [], _ => true
  | .once char :: items, text =>
    match text with
    | c :: rest => char.accepts c && matchesFrom whole items rest
    | [] => false
  | .repeated char least possessive :: items, text =>
    repeatedThen char least possessive (matchesFrom whole items) text
  | .start :: items, text => text.length == whole && matchesFrom whole items text
  | .finish :: items, text => (text.isEmpty || text == ['\n']) && matchesFrom whole items text

/-- Whether some beginning of a name matches a pattern, if the pattern is sound. -/
def matchesPattern (pattern name : String) : Except PatternFault Bool :=
  (readPattern pattern).map fun items => matchesFrom name.length items name.toList

end ScenarioTree.Text
