import ScenarioTree.Json.Basic
import ScenarioTree.Decimal.Notation

/-! # Reading JSON

The reader takes one document off the front of a text and returns what follows it. A pair of
escaped surrogates stands for the one character it encodes.
-/

namespace ScenarioTree.Json

/-- The blanks that may stand between the tokens of a document. -/
def skipSpace (text : List Char) : List Char :=
  text.dropWhile fun c => c == ' ' || c == '\n' || c == '\r' || c == '\t'

/-- The value of a hexadecimal digit. -/
def hexValue? (c : Char) : Option Nat :=
  if '0' ≤ c && c ≤ '9' then some (c.toNat - 0x30)
  else if 'a' ≤ c && c ≤ 'f' then some (c.toNat - 0x61 + 10)
  else if 'A' ≤ c && c ≤ 'F' then some (c.toNat - 0x41 + 10)
  else none

/-- Four hexadecimal digits at the front of a text. -/
def takeUnit? : List Char → Option (Nat × List Char)
  | a :: b :: c :: d :: rest => do
    let a ← hexValue? a
    let b ← hexValue? b
    let c ← hexValue? c
    let d ← hexValue? d
    some (((a * 16 + b) * 16 + c) * 16 + d, rest)
  | _ => none

/-- The character of a one-letter escape. -/
def escaped? (c : Char) : Option Char :=
  if c == 'n' then some '\n'
  else if c == 't' then some '\t'
  else if c == 'r' then some '\r'
  else if c == 'b' then some '\x08'
  else if c == 'f' then some '\x0c'
  else if c == '/' || c == '\\' || c == '\x22' then some c
  else none

/-- The character of a code escape, whose mark has been read. -/
def takeCode? (text : List Char) : Option (Char × List Char) := do
  let (unit, rest) ← takeUnit? text
  if 0xd800 ≤ unit && unit < 0xdc00 then
    match rest with
    | '\\' :: 'u' :: more =>
      let (low, rest) ← takeUnit? more
      some (Char.ofNat (0x10000 + (unit - 0xd800) * 0x400 + (low - 0xdc00)), rest)
    | _ => none
  else some (Char.ofNat unit, rest)

/-- The characters of a string up to its closing quote, the opening one having been read. -/
def takeString? : Nat → List Char → Option (List Char × List Char)
  | 0, _ => none
  | _, [] => none
  | fuel + 1, '\\' :: 'u' :: rest => do
    let (c, rest) ← takeCode? rest
    let (text, rest) ← takeString? fuel rest
    some (c :: text, rest)
  | fuel + 1, '\\' :: c :: rest => do
    let c ← escaped? c
    let (text, rest) ← takeString? fuel rest
    some (c :: text, rest)
  | fuel + 1, c :: rest =>
    if c == '\x22' then some ([], rest)
    else do
      let (text, rest) ← takeString? fuel rest
      some (c :: text, rest)

def takeNumber? (text : List Char) : Option (Json × List Char) :=
  let shown := text.takeWhile fun c =>
    c.isDigit || c == '-' || c == '+' || c == '.' || c == 'e' || c == 'E'
  let rest := text.drop shown.length
  if shown.any fun c => c == '.' || c == 'e' || c == 'E' then
    (Decimal.read? (String.ofList shown)).map fun value => (.float value, rest)
  else match shown with
    | '-' :: digits => match Decimal.takeDigits digits with
      | (_, 0, _) => none
      | (n, _, []) => some (.int (-(n : Int)), rest)
      | _ => none
    | digits => match Decimal.takeDigits digits with
      | (_, 0, _) => none
      | (n, _, []) => some (.int n, rest)
      | _ => none

mutual

/-- A document at the front of a text. -/
def take? : Nat → List Char → Option (Json × List Char)
  | 0, _ => none
  | fuel + 1, text =>
    match skipSpace text with
    | 'n' :: 'u' :: 'l' :: 'l' :: rest => some (.null, rest)
    | 't' :: 'r' :: 'u' :: 'e' :: rest => some (.bool true, rest)
    | 'f' :: 'a' :: 'l' :: 's' :: 'e' :: rest => some (.bool false, rest)
    | '[' :: rest =>
      match skipSpace rest with
      | ']' :: rest => some (.arr [], rest)
      | rest => (takeItems? fuel rest).map fun (items, rest) => (.arr items, rest)
    | '\x7b' :: rest =>
      match skipSpace rest with
      | '\x7d' :: rest => some (.obj [], rest)
      | rest => (takeMembers? fuel rest).map fun (members, rest) => (.obj members, rest)
    | '\x22' :: rest =>
      (takeString? (rest.length + 1) rest).map fun (chars, rest) => (.str (String.ofList chars), rest)
    | other => takeNumber? other

/-- The items of an array up to its closing bracket. -/
def takeItems? : Nat → List Char → Option (List Json × List Char)
  | 0, _ => none
  | fuel + 1, text => do
    let (item, rest) ← take? fuel text
    match skipSpace rest with
    | ',' :: rest =>
      let (items, rest) ← takeItems? fuel rest
      some (item :: items, rest)
    | ']' :: rest => some ([item], rest)
    | _ => none

/-- The members of an object up to its closing brace. -/
def takeMembers? : Nat → List Char → Option (List (String × Json) × List Char)
  | 0, _ => none
  | fuel + 1, text => do
    match skipSpace text with
    | '\x22' :: rest =>
      let (name, rest) ← takeString? (rest.length + 1) rest
      match skipSpace rest with
      | ':' :: rest =>
        let (value, rest) ← take? fuel rest
        match skipSpace rest with
        | ',' :: rest =>
          let (members, rest) ← takeMembers? fuel rest
          some ((String.ofList name, value) :: members, rest)
        | '\x7d' :: rest => some ([(String.ofList name, value)], rest)
        | _ => none
      | _ => none
    | _ => none

end

/-- The document that a text consists of. -/
def read? (text : String) : Option Json :=
  let chars := text.toList
  match take? (2 * chars.length + 2) chars with
  | some (document, rest) => if (skipSpace rest).isEmpty then some document else none
  | none => none

end ScenarioTree.Json
