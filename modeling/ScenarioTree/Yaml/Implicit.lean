/-! # Implicit types of plain scalars

An unquoted scalar of a YAML 1.1 document stands for a truth value, a null, a number, a point in
time, or one of the reserved marks when it has that form; otherwise it is a string. A string of
such a form therefore needs quotes.
-/

namespace ScenarioTree.Yaml

/-- The words for truth values. -/
def boolWords : List String :=
  ["yes", "Yes", "YES", "no", "No", "NO", "true", "True", "TRUE", "false", "False", "FALSE",
   "on", "On", "ON", "off", "Off", "OFF"]

/-- The words for the null value, the empty one among them. -/
def nullWords : List String := ["~", "null", "Null", "NULL", ""]

/-- The marks that merge, default, tag, anchor or alias. -/
def reservedMarks : List String := ["<<", "=", "!", "&", "*"]

def dropSign : List Char → List Char
  | '-' :: rest => rest
  | '+' :: rest => rest
  | text => text

/-- A digit, or the underscore that may separate digits. -/
def isDigitOrGap (c : Char) : Bool := c.isDigit || c == '_'

/-- A minute or second of a sexagesimal number. -/
def isSixtieth : List Char → Bool
  | [a] => a.isDigit
  | [a, b] => '0' ≤ a && a ≤ '5' && b.isDigit
  | _ => false

def colonParts : List Char → List (List Char)
  | [] => [[]]
  | c :: rest =>
    if c == ':' then [] :: colonParts rest
    else match colonParts rest with
      | part :: others => (c :: part) :: others
      | [] => [[c]]

/-- A whole number that does not start with zero. -/
def isCount : List Char → Bool
  | first :: rest => first.isDigit && first != '0' && rest.all isDigitOrGap
  | [] => false

/-- A whole number in binary, octal, decimal, hexadecimal or sexagesimal form. -/
def isInteger (text : List Char) : Bool :=
  match dropSign text with
  | ['0'] => true
  | '0' :: 'b' :: d :: rest => (d :: rest).all fun c => c == '0' || c == '1' || c == '_'
  | '0' :: 'x' :: d :: rest =>
    (d :: rest).all fun c =>
      isDigitOrGap c || ('a' ≤ c && c ≤ 'f') || ('A' ≤ c && c ≤ 'F')
  | '0' :: rest => rest.all fun c => ('0' ≤ c && c ≤ '7') || c == '_'
  | unsigned =>
    match colonParts unsigned with
    | [whole] => isCount whole
    | whole :: sixtieths => isCount whole && sixtieths.all isSixtieth
    | [] => false

def isExponent : List Char → Bool
  | [] => true
  | mark :: sign :: digits =>
    (mark == 'e' || mark == 'E') && (sign == '-' || sign == '+') && !digits.isEmpty &&
      digits.all Char.isDigit
  | _ => false

def isDigits : List Char → Bool
  | first :: rest => first.isDigit && rest.all isDigitOrGap
  | [] => false

/-- A number with a point, an infinity, or no number. Without digits before the point there is no
sign. -/
def isFractional (text : List Char) : Bool :=
  let unsigned := dropSign text
  let whole := unsigned.takeWhile (· != '.')
  let afterPoint := (unsigned.dropWhile (· != '.')).drop 1
  if !unsigned.contains '.' then false
  else if whole.isEmpty then
    let word := String.ofList afterPoint
    if ["inf", "Inf", "INF"].contains word then true
    else if unsigned.length < text.length then false
    else ["nan", "NaN", "NAN"].contains word ||
      (isDigits (afterPoint.takeWhile isDigitOrGap) && isExponent (afterPoint.dropWhile isDigitOrGap))
  else
    match colonParts whole with
    | [digits] => isDigits digits && isExponent (afterPoint.dropWhile isDigitOrGap)
    | digits :: sixtieths =>
      isDigits digits && sixtieths.all isSixtieth && afterPoint.all isDigitOrGap
    | [] => false

/-- Between `least` and `most` digits at the front of a text, and what follows them. -/
def dropDigits? (least most : Nat) (text : List Char) : Option (List Char) :=
  let width := min most (text.takeWhile Char.isDigit).length
  if least ≤ width then some (text.drop width) else none

/-- The text after a given character. -/
def dropChar? (c : Char) : List Char → Option (List Char)
  | first :: rest => if first == c then some rest else none
  | [] => none

/-- The text after the blanks at its front. -/
def dropGap (text : List Char) : List Char := text.dropWhile fun c => c == ' ' || c == '\t'

/-- The zone at the end of a point in time: none, the universal one, or an offset. -/
def isZone (text : List Char) : Bool :=
  text.isEmpty || match dropGap text with
    | ['Z'] => true
    | sign :: rest =>
      (sign == '-' || sign == '+') && match dropDigits? 1 2 rest with
        | some [] => true
        | some (':' :: minutes) => dropDigits? 2 2 minutes == some []
        | _ => false
    | [] => false

/-- The time of day, from the mark that follows the date on. -/
def isTimeOfDay (text : List Char) : Bool :=
  let afterMark? := match text with
    | 'T' :: rest => some rest
    | 't' :: rest => some rest
    | ' ' :: rest => some (dropGap rest)
    | '\t' :: rest => some (dropGap rest)
    | _ => none
  let rest? := do
    let rest ← dropDigits? 1 2 (← afterMark?)
    let rest ← dropDigits? 2 2 (← dropChar? ':' rest)
    dropDigits? 2 2 (← dropChar? ':' rest)
  match rest? with
  | some ('.' :: rest) => isZone (rest.dropWhile Char.isDigit)
  | some rest => isZone rest
  | none => false

/-- A date with two-digit month and day, or a date with a time of day. -/
def isTimestamp (text : List Char) : Bool :=
  let day? := do dropChar? '-' (← dropDigits? 4 4 text)
  let precise? := do
    let rest ← dropChar? '-' (← dropDigits? 2 2 (← day?))
    dropDigits? 2 2 rest
  let loose? := do
    let rest ← dropChar? '-' (← dropDigits? 1 2 (← day?))
    dropDigits? 1 2 rest
  precise? == some [] || match loose? with
    | some rest => isTimeOfDay rest
    | none => false

/-- Whether an unquoted scalar of this text stands for something other than the text. -/
def isTyped (text : String) : Bool :=
  let chars := text.toList
  boolWords.contains text || nullWords.contains text || reservedMarks.contains text ||
    isInteger chars || isFractional chars || isTimestamp chars

end ScenarioTree.Yaml
