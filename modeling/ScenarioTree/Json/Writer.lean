import ScenarioTree.Json.Basic
import ScenarioTree.Decimal.Notation
import ScenarioTree.Text.Quoted

/-! # Writing JSON

Documents are written on one line without blanks. Quotes, backslashes and control characters are
escaped, and every other character stands for itself.
-/

namespace ScenarioTree.Json

def writeChar (c : Char) : List Char :=
  if c == '\x22' || c == '\\' then ['\\', c]
  else if c.toNat < 0x20 then '\\' :: 'u' :: Text.hex 4 c.toNat
  else [c]

def writeString (text : String) : List Char :=
  '\x22' :: text.toList.flatMap writeChar ++ ['\x22']

mutual

def write : Json → List Char
  | null => "null".toList
  | bool value => (if value then "true" else "false").toList
  | int value => (toString value).toList
  | float value => (Decimal.text value).toList
  | str value => writeString value
  | arr [] => ['[', ']']
  | arr (item :: rest) => '[' :: write item ++ writeItems rest
  | obj [] => ['\x7b', '\x7d']
  | obj ((name, item) :: rest) =>
    '\x7b' :: writeString name ++ ':' :: write item ++ writeMembers rest

/-- The items of an array after the first, with its end. -/
def writeItems : List Json → List Char
  | [] => [']']
  | item :: rest => ',' :: write item ++ writeItems rest

/-- The members of an object after the first, with its end. -/
def writeMembers : List (String × Json) → List Char
  | [] => ['\x7d']
  | (name, item) :: rest => ',' :: writeString name ++ ':' :: write item ++ writeMembers rest

end

def text (document : Json) : String := String.ofList document.write

end ScenarioTree.Json
