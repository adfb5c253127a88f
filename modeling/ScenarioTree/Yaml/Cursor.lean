/-! # Writing position

Block style depends on where the last character was written: indicators are set off by a space
unless a blank comes before them, and a line is broken only where something but indentation
already stands on it.
-/

namespace ScenarioTree.Yaml

/-- The text written so far and what its end looks like. -/
structure Cursor where
  text : String := ""
  column : Nat := 0
  /-- The text ends with a blank, or is empty. -/
  spaced : Bool := true
  /-- Only indentation and indicators that indent stand on the current line. -/
  indenting : Bool := true
deriving Repr, Inhabited

namespace Cursor

/-- Writes the inside of a scalar. -/
def put (c : Cursor) (chars : List Char) : Cursor :=
  { c with text := c.text ++ String.ofList chars, column := c.column + chars.length }

def indicator (c : Cursor) (mark : List Char) (setOff : Bool) (spaced indents : Bool := false) :
    Cursor :=
  let shown := if setOff && !c.spaced then ' ' :: mark else mark
  { c.put shown with spaced, indenting := c.indenting && indents }

def lineBreak (c : Cursor) (mark : Char := '\n') : Cursor :=
  { c with text := c.text.push mark, column := 0, spaced := true, indenting := true }

/-- Moves to a column, on a new line unless the current one is still free up to there. -/
def indentTo (c : Cursor) (column : Nat) : Cursor :=
  let c :=
    if !c.indenting || c.column > column || (c.column == column && !c.spaced) then c.lineBreak
    else c
  if c.column < column then
    { c.put (List.replicate (column - c.column) ' ') with spaced := true }
  else c

/-- Marks that the inside of a scalar was written last. -/
def inside (c : Cursor) : Cursor := { c with spaced := false, indenting := false }

end Cursor

end ScenarioTree.Yaml
