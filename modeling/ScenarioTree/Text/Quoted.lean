import ScenarioTree.Text.Printable

/-! # Quoted text

The quoted form of a text shows every character unambiguously on one line. Single quotes enclose
it, unless it holds a single quote and no double one. The backslash and the enclosing quote are
escaped, as are all characters without a visible form: tab, line feed and carriage return by their
letters, the others by the shortest of the three hexadecimal escapes that holds their code.
-/

namespace ScenarioTree.Text

/-- The hexadecimal digits of a number in lower case, padded with zeros to a width. -/
def hex (width n : Nat) : List Char :=
  let digits := Nat.toDigits 16 n
  List.replicate (width - digits.length) '0' ++ digits

/-- The enclosing quote: single, unless only that one occurs in the text. -/
def enclosingQuote (hasSingle hasDouble : Bool) : Char :=
  if hasSingle && !hasDouble then '\x22' else '\x27'

def escapeCode (n : Nat) : List Char :=
  if n ≤ 0xff then '\\' :: 'x' :: hex 2 n
  else if n ≤ 0xffff then '\\' :: 'u' :: hex 4 n
  else '\\' :: 'U' :: hex 8 n

/-- One character of a quoted text. -/
def quoteChar (enclosing c : Char) : List Char :=
  if c == enclosing || c == '\\' then ['\\', c]
  else if c == '\t' then ['\\', 't']
  else if c == '\n' then ['\\', 'n']
  else if c == '\r' then ['\\', 'r']
  else if isPrintable c then [c]
  else escapeCode c.toNat

def quote (text : String) : String :=
  let chars := text.toList
  let enclosing := enclosingQuote (chars.contains '\x27') (chars.contains '\x22')
  String.ofList (enclosing :: chars.flatMap (quoteChar enclosing) ++ [enclosing])

/-- One byte of a quoted byte string: ASCII is shown as text, all else by its code. -/
def quoteByte (enclosing : Char) (byte : UInt8) : List Char :=
  if byte.toNat < 0x80 then quoteChar enclosing (Char.ofNat byte.toNat)
  else escapeCode byte.toNat

def bytesQuote (bytes : List UInt8) : Char :=
  enclosingQuote (bytes.contains 0x27) (bytes.contains 0x22)

/-- The quoted form of a byte string, marked by a leading letter. -/
def quoteBytes (bytes : List UInt8) : String :=
  let enclosing := bytesQuote bytes
  String.ofList ('b' :: enclosing :: bytes.flatMap (quoteByte enclosing) ++ [enclosing])

/-- The quoted form of a byte array. A single quote is escaped whichever quote encloses it. -/
def quoteByteArray (bytes : List UInt8) : String :=
  let enclosing := bytesQuote bytes
  String.ofList ('b' :: enclosing :: bytes.flatMap (quoteByte '\x27') ++ [enclosing])

end ScenarioTree.Text
