import ScenarioTree.Yaml.Implicit

/-! # Styles of string scalars

A string is written plainly where its text cannot be mistaken for anything else, between single
quotes where it holds visible characters and harmless line breaks only, and between double quotes,
with escapes, otherwise.
-/

namespace ScenarioTree.Yaml

/-- The characters that break a line within a scalar. -/
def isBreak (c : Char) : Bool :=
  c == '\n' || c.toNat == 0x85 || c.toNat == 0x2028 || c.toNat == 0x2029

/-- The characters that separate an indicator from what follows it. -/
def isSeparator (c : Char) : Bool :=
  isBreak c || c == ' ' || c == '\t' || c == '\r' || c.toNat == 0

/-- The characters that appear as they are outside double quotes. -/
def isVisible (c : Char) : Bool :=
  let n := c.toNat
  c == '\n' || (0x20 ≤ n && n ≤ 0x7e) ||
    ((n == 0x85 || (0xa0 ≤ n && n ≤ 0xd7ff) || (0xe000 ≤ n && n ≤ 0xfffd) ||
      (0x10000 ≤ n && n < 0x10ffff)) && n != 0xfeff)

/-- The characters that start something other than a plain scalar. -/
def isLeadingIndicator (c : Char) : Bool :=
  ['#', ',', '[', ']', '\x7b', '\x7d', '&', '*', '!', '|', '>', '\x27', '\x22', '%', '@',
    '\x60'].contains c

/-- Whether the first character of a text, if there is one, separates. -/
def startsSeparate : List Char → Bool
  | [] => true
  | c :: _ => isSeparator c

/-- Whether a text holds a colon that ends a key, or a comment sign that starts a comment. The
flag tells whether a separator comes before the text. -/
def hasInnerIndicator : Bool → List Char → Bool
  | _, [] => false
  | separated, c :: rest =>
    (c == ':' && startsSeparate rest) || (c == '#' && separated) ||
      hasInnerIndicator (isSeparator c) rest

/-- Whether a text reads as structure instead of a plain scalar. -/
def hasIndicator : List Char → Bool
  | [] => false
  | first :: rest =>
    let text := first :: rest
    ['-', '-', '-'].isPrefixOf text || ['.', '.', '.'].isPrefixOf text ||
      isLeadingIndicator first ||
      ((first == '?' || first == ':' || first == '-') && startsSeparate rest) ||
      hasInnerIndicator (isSeparator first) rest

/-- Whether some character of a text satisfies `p` and the next one `q`. -/
def hasPair (p q : Char → Bool) : List Char → Bool
  | a :: b :: rest => (p a && q b) || hasPair p q (b :: rest)
  | _ => false

/-- What decides the style of a string. -/
structure Analysis where
  /-- The string has line breaks. -/
  multiline : Bool
  /-- The string can be written without quotes. -/
  plain : Bool
  /-- The string can be written between single quotes. -/
  single : Bool
deriving Repr, DecidableEq

def analyze (text : List Char) : Analysis :=
  let isSpace := fun c => c == ' '
  let atEdge := fun c => isSpace c || isBreak c
  let multiline := text.any isBreak
  let visible := text.all isVisible
  let spaceThenBreak := hasPair isSpace isBreak text
  let breakThenSpace := hasPair isBreak isSpace text
  { multiline
    plain := visible && !multiline && !(text.head?.any atEdge) && !(text.getLast?.any atEdge) &&
      !hasIndicator text
    single := visible && !spaceThenBreak && !breakThenSpace }

/-- The styles of string scalars. -/
inductive Style where
  | plain
  | single
  | double
deriving Repr, DecidableEq

/-- The style of a string. As a simple key a string stays on one line and is not empty when
plain. -/
def stringStyle (simpleKey : Bool) (text : String) : Style :=
  let analysis := analyze text.toList
  if analysis.plain && !isTyped text && !(simpleKey && text.isEmpty) then .plain
  else if analysis.single && !(simpleKey && analysis.multiline) then .single
  else .double

/-- The longest simple key; longer keys are marked as explicit ones. -/
def longestSimpleKey : Nat := 122

/-- Whether a key needs no mark in front of it. -/
def isSimpleKey (key : String) : Bool :=
  !key.isEmpty && key.length ≤ longestSimpleKey && !key.toList.any isBreak

/-- The letter that escapes a character between double quotes. -/
def escapeLetter? (c : Char) : Option Char :=
  match c.toNat with
  | 0x00 => some '0'
  | 0x07 => some 'a'
  | 0x08 => some 'b'
  | 0x09 => some 't'
  | 0x0a => some 'n'
  | 0x0b => some 'v'
  | 0x0c => some 'f'
  | 0x0d => some 'r'
  | 0x1b => some 'e'
  | 0x22 => some '\x22'
  | 0x5c => some '\\'
  | 0x85 => some 'N'
  | 0xa0 => some '_'
  | 0x2028 => some 'L'
  | 0x2029 => some 'P'
  | _ => none

/-- Whether a character is escaped between double quotes. -/
def isEscaped (c : Char) : Bool :=
  let n := c.toNat
  n == 0x22 || n == 0x5c || n == 0x85 || n == 0x2028 || n == 0x2029 || n == 0xfeff ||
    !((0x20 ≤ n && n ≤ 0x7e) || (0xa0 ≤ n && n ≤ 0xd7ff) || (0xe000 ≤ n && n ≤ 0xfffd))

/-- Hexadecimal digits in upper case, padded with zeros to a width. -/
def upperHex (width n : Nat) : List Char :=
  let digits := (Nat.toDigits 16 n).map Char.toUpper
  List.replicate (width - digits.length) '0' ++ digits

/-- The escape of a character between double quotes. -/
def escape (c : Char) : List Char :=
  match escapeLetter? c with
  | some letter => ['\\', letter]
  | none =>
    let n := c.toNat
    if n ≤ 0xff then '\\' :: 'x' :: upperHex 2 n
    else if n ≤ 0xffff then '\\' :: 'u' :: upperHex 4 n
    else '\\' :: 'U' :: upperHex 8 n

end ScenarioTree.Yaml
