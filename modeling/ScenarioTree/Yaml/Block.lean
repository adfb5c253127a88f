import ScenarioTree.Plain
import ScenarioTree.Decimal.Notation
import ScenarioTree.Text.Base64
import ScenarioTree.Yaml.Cursor
import ScenarioTree.Yaml.Scalar

/-! # Block style

A document of plain data in block style: one item or entry a line, nested collections indented by
two columns, a sequence below a key not indented. Scalars are folded at spaces beyond 80 columns.
Keys keep their order, and visible characters of every script stand for themselves.
-/

namespace ScenarioTree.Yaml

/-- The column after which a scalar is folded at the next chance. -/
def foldingColumn : Nat := 80

/-- The number of columns by which a nested collection is indented. -/
def indentWidth : Nat := 2

/-- The characters of a scalar by their part in folding. -/
inductive CharClass where
  | space
  | lineBreak
  | ink
deriving Repr, DecidableEq

def charClass (c : Char) : CharClass :=
  if c == ' ' then .space else if isBreak c then .lineBreak else .ink

/-- The longest runs of characters of one class. -/
def runs (text : List Char) : List (List Char) :=
  text.splitBy fun a b => charClass a == charClass b

/-- Writes the breaks within a quoted scalar: the first line feed twice, so that it is not folded
into a space, and then the indentation. -/
def putBreaks (column : Nat) (breaks : List Char) (c : Cursor) : Cursor :=
  let c := if breaks.head? == some '\n' then c.lineBreak else c
  (breaks.foldl (fun c mark => c.lineBreak mark) c).indentTo column

/-- Writes the runs of a plain scalar. A single space beyond the folding column becomes a line
break where folding is allowed. -/
def putPlainRuns (fold : Bool) (column : Nat) : List (List Char) → Cursor → Cursor
  | [], c => c
  | run :: rest, c =>
    if run == [' '] && c.column > foldingColumn && fold && !rest.isEmpty then
      putPlainRuns fold column rest (c.indentTo column).inside
    else putPlainRuns fold column rest (c.put run)

def putPlain (fold : Bool) (column : Nat) (text : List Char) (c : Cursor) : Cursor :=
  if text.isEmpty then c
  else
    let c := if c.spaced then c else c.put [' ']
    putPlainRuns fold column (runs text) c.inside

def doubleQuotes (run : List Char) : List Char :=
  run.flatMap fun c => if c == '\x27' then [c, c] else [c]

/-- Writes the runs of a single-quoted scalar; the flag tells whether some were written before. -/
def putSingleRuns (fold : Bool) (column : Nat) : Bool → List (List Char) → Cursor → Cursor
  | _, [], c => c
  | started, run :: rest, c =>
    match run.head?.map charClass with
    | some .lineBreak => putSingleRuns fold column true rest (putBreaks column run c)
    | some .space =>
      if run == [' '] && c.column > foldingColumn && fold && started && !rest.isEmpty then
        putSingleRuns fold column true rest (c.indentTo column)
      else putSingleRuns fold column true rest (c.put run)
    | _ => putSingleRuns fold column true rest (c.put (doubleQuotes run))

/-- Writes a single-quoted scalar. -/
def putSingle (fold : Bool) (column : Nat) (text : List Char) (c : Cursor) : Cursor :=
  let c := c.indicator ['\x27'] true
  (putSingleRuns fold column false (runs text) c).indicator ['\x27'] false

/-- Continues a double-quoted scalar on the next line. A space that comes next is escaped, so that
it does not count as indentation. -/
def continueDouble (column : Nat) (next : Option Char) (c : Cursor) : Cursor :=
  let c := ((c.put ['\\']).indentTo column).inside
  if next == some ' ' then c.put ['\\'] else c

/-- Writes the inside of a double-quoted scalar. `pending` holds the characters not written yet;
a line may end before a space, before the first of them, and after an escape. -/
def putDoubleRest (fold : Bool) (column : Nat) :
    Bool → List Char → List Char → Cursor → Cursor
  | _, pending, [], c => c.put pending
  | started, pending, char :: rest, c =>
    let mayFold := fold && started && !rest.isEmpty
    if isEscaped char then
      let c := (c.put pending).put (escape char)
      if mayFold && c.column > foldingColumn + 1 then
        putDoubleRest fold column true [] rest (continueDouble column rest.head? c)
      else putDoubleRest fold column true [] rest c
    else if mayFold && (char == ' ' || pending.isEmpty) &&
        c.column + pending.length > foldingColumn then
      putDoubleRest fold column true [char] rest
        (continueDouble column (some char) (c.put pending))
    else putDoubleRest fold column true (pending ++ [char]) rest c

/-- Writes a double-quoted scalar. -/
def putDouble (fold : Bool) (column : Nat) (text : List Char) (c : Cursor) : Cursor :=
  let c := c.indicator ['\x22'] true
  (putDoubleRest fold column false [] text c).indicator ['\x22'] false

/-- Writes a string in its style. -/
def putString (simpleKey : Bool) (column : Nat) (text : String) (c : Cursor) : Cursor :=
  let put := match stringStyle simpleKey text with
    | .plain => putPlain
    | .single => putSingle
    | .double => putDouble
  put (!simpleKey) column text.toList c

/-- Writes a byte string: its tag, and its base 64 form as a literal block. -/
def putBytes (column : Nat) (bytes : List UInt8) (c : Cursor) : Cursor :=
  let c := c.indicator "!!binary".toList true
  match Text.base64Lines bytes with
  | [] => (c.indicator ['\x22'] true).indicator ['\x22'] false
  | lines =>
    let c := (c.indicator ['|'] true).lineBreak
    lines.foldl (fun c line => ((c.indentTo column).put line).lineBreak) c

/-- The text of a number with a point; an exponent comes only after a point. -/
def floatText (x : Float) : List Char :=
  let text := (Decimal.text x).toList
  if text == ['n', 'a', 'n'] then ".nan".toList
  else if text == ['i', 'n', 'f'] then ".inf".toList
  else if text == ['-', 'i', 'n', 'f'] then "-.inf".toList
  else if text.contains '.' then text
  else text.flatMap fun c => if c == 'e' then ['.', '0', 'e'] else [c]

/-- Where a node stands in its document. -/
inductive Place where
  | root
  | item
  | entry
deriving Repr, DecidableEq

mutual

/-- Writes a node. `indent?` is the column of the enclosing collection, if there is one. -/
def putNode (place : Place) (indent? : Option Nat) : Plain → Cursor → Cursor
  | .null, c => putPlain true 0 "null".toList c
  | .bool value, c => putPlain true 0 (if value then "true" else "false").toList c
  | .int value, c => putPlain true 0 (toString value).toList c
  | .float value, c => putPlain true 0 (floatText value) c
  | .str value, c => putString false ((indent?.getD 0) + indentWidth) value c
  | .bytes value, c => putBytes ((indent?.getD 0) + indentWidth) value c
  | .list [], c => (c.indicator ['['] true true).indicator [']'] false
  | .map [], c => (c.indicator ['\x7b'] true true).indicator ['\x7d'] false
  | .list items, c =>
    let below := match indent? with
      | none => 0
      | some indent => if place == .entry && !c.indenting then indent else indent + indentWidth
    putItems below items c
  | .map entries, c =>
    let below := match indent? with
      | none => 0
      | some indent => indent + indentWidth
    putEntries below entries c

/-- Writes the items of a sequence. -/
def putItems (indent : Nat) : List Plain → Cursor → Cursor
  | [], c => c
  | item :: rest, c =>
    let c := (c.indentTo indent).indicator ['-'] true false true
    putItems indent rest (putNode .item (some indent) item c)

/-- Writes the entries of a mapping. A key that is not simple is marked, and so is its value. -/
def putEntries (indent : Nat) : List (String × Plain) → Cursor → Cursor
  | [], c => c
  | (key, value) :: rest, c =>
    let c := c.indentTo indent
    let c :=
      if isSimpleKey key then
        (putString true (indent + indentWidth) key c).indicator [':'] false
      else
        let c := c.indicator ['?'] true false true
        let c := putString false (indent + indentWidth) key c
        (c.indentTo indent).indicator [':'] true false true
    putEntries indent rest (putNode .entry (some indent) value c)

end

/-- Whether a node is written as a bare word, after which the document could go on. -/
def isBareWord : Plain → Bool
  | .str value => stringStyle false value == .plain
  | .list _ | .map _ | .bytes _ => false
  | _ => true

/-- The document of a node. A bare word is followed by the mark that ends a document. -/
def document (node : Plain) : String :=
  let c := (putNode .root none node {}).indentTo 0
  let c := if isBareWord node then (c.indicator ['.', '.', '.'] true).indentTo 0 else c
  c.text

end ScenarioTree.Yaml
