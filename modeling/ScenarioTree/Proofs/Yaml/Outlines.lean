import ScenarioTree.Proofs.Declaration.Views
import ScenarioTree.Proofs.Yaml.Scalars

/-! # Counting the strings of printed outlines

Every item of an outline is a string or a mapping with one key, whose value is again a list of items. Each of them
is printed from its dash on, and what is printed of it ends at its column. So a reader that counts dashes and takes
back those of mappings counts the strings, and these are the tests.
-/

namespace ScenarioTree.Yaml

namespace Reader

variable {reader : Reader} {column strings : Nat}

/-- A line that is begun between scalars is free. -/
theorem free_of_step (blank : (reader.step '\n').reading = .blank) (start : (reader.step '\n').column = 0)
    (column : Nat) :
    (reader.run ('\n' :: List.replicate column ' ')).Free column (reader.step '\n').strings := by
  rw [run_cons, run_spaces (.inl blank)]
  exact ⟨.inl blank, by simp [start], rfl⟩

theorem Free.step (free : reader.Free column strings) {sign : Char} (proper : sign = '-' ∨ sign = '?' ∨ sign = ':') :
    reader.step sign = { reader with reading := .sign sign, column := column + 1 } := by
  obtain ⟨blank | ⟨folded, further⟩, rfl, rfl⟩ := free
  · obtain rfl | rfl | rfl := proper <;> simp [Reader.step, move, begin, blank]
  · have left : ¬ reader.indent < reader.column := Nat.not_lt.mpr further
    obtain rfl | rfl | rfl := proper <;> simp [Reader.step, move, begin, folded, left]

/-- A colon behind a key is one that ends it if a blank follows. -/
theorem Passed.step_colon {indent : Nat} (passed : reader.Passed indent strings) :
    (reader.step ':').Within .colon indent strings := by
  obtain ⟨(plain | ⟨folded, further⟩) | closed, rfl, rfl⟩ := passed
  · rw [Reader.step, plain]
    exact ⟨rfl, rfl, rfl⟩
  · rw [Reader.step, folded]
    simp only [further, if_true]
    exact ⟨rfl, rfl, rfl⟩
  · rw [Reader.step, closed]
    exact ⟨rfl, rfl, rfl⟩

/-- An empty list is passed. -/
theorem Within.run_brackets {indent : Nat} (blank : reader.Within .blank indent strings) :
    ((reader.step '[').step ']').Within .blank indent strings := by
  obtain ⟨blank, rfl, rfl⟩ := blank
  simp only [Reader.step, blank, begin]
  exact ⟨rfl, rfl, rfl⟩

end Reader

namespace Cursor

/-- An item or a key can be written in a column. -/
structure Opens (c : Cursor) (column strings : Nat) : Prop where
  free : (c.indentTo column).reader.Free column strings
  column_eq : (c.indentTo column).column = column
  spaced : (c.indentTo column).spaced = true
  indenting : (c.indentTo column).indenting = true

/-- The sign of an indicator is written in a column. -/
structure Behind (c : Cursor) (sign : Char) (column strings : Nat) : Prop where
  reading_eq : c.reader.reading = .sign sign
  reader_column : c.reader.column = column + 1
  strings_eq : c.reader.strings = strings
  column_eq : c.column = column + 1
  spaced : c.spaced = false
  indenting : c.indenting = true

/-- All that starts in a column is written, and more can be written there or further to the left. -/
structure Closes (c : Cursor) (column strings : Nat) : Prop where
  written : c.indenting = false
  isOver : c.reader.reading = .blank ∨ c.reader.InPlain ∨ c.reader.reading = .closed
  further : column ≤ c.reader.indent
  strings_eq : c.reader.strings = strings

variable {c : Cursor} {column strings : Nat}

theorem Closes.mono (closes : c.Closes column strings) {left : Nat} (further : left ≤ column) :
    c.Closes left strings :=
  ⟨closes.written, closes.isOver, Nat.le_trans further closes.further, closes.strings_eq⟩

private theorem HasPassed.closes {indent : Nat} (passed : c.HasPassed indent strings) (further : column ≤ indent) :
    c.Closes column strings := by
  obtain ⟨written, isOver, rfl, rfl⟩ := passed
  exact ⟨written, .inr isOver, further, rfl⟩

/-- A column is moved to on a new line. -/
theorem opens_of_written (written : c.indenting = false)
    (free : (c.reader.run ('\n' :: List.replicate column ' ')).Free column strings) : c.Opens column strings := by
  refine ⟨by rwa [reader_indentTo written], ?_, ?_, ?_⟩
  all_goals
    simp only [indentTo, written, Bool.not_false, Bool.true_or, if_true]
    split
    · simp_all [put, lineBreak]
    · simp_all [lineBreak]

theorem Closes.opens (closes : c.Closes column strings) {left : Nat} (further : left ≤ column) :
    c.Opens left strings := by
  obtain ⟨written, isOver, deep, rfl⟩ := closes
  refine opens_of_written written ?_
  obtain blank | inside | closed := isOver
  · have stepped : c.reader.step '\n' = { c.reader with column := 0 } := by
      simp [Reader.step, Reader.move, Reader.begin, blank]
    have free := Reader.free_of_step (by rw [stepped, blank]) (by rw [stepped]) left
    rwa [stepped] at free
  · rw [inside.run_line]
    exact ⟨.inr ⟨rfl, Nat.le_trans further deep⟩, rfl, rfl⟩
  · have stepped : c.reader.step '\n' = { c.reader with reading := .blank, column := 0 } := by
      simp [Reader.step, Reader.move, Reader.goOnClosed, Reader.begin, closed]
    have free := Reader.free_of_step (by rw [stepped]) (by rw [stepped]) left
    rwa [stepped] at free

theorem Opens.indicator (opens : c.Opens column strings) {sign : Char}
    (proper : sign = '-' ∨ sign = '?' ∨ sign = ':') :
    ((c.indentTo column).indicator [sign] true false true).Behind sign column strings := by
  obtain ⟨free, column_eq, spaced, indenting⟩ := opens
  generalize c.indentTo column = c at free column_eq spaced indenting ⊢
  have read : (c.indicator [sign] true false true).reader =
      { c.reader with reading := .sign sign, column := column + 1 } := by
    rw [reader_indicator_setOff, if_pos spaced, Reader.run_cons, free.step proper]
    rfl
  refine ⟨by rw [read], by rw [read], by rw [read, ← free.strings_eq], ?_, rfl, ?_⟩
  · simp [Cursor.indicator, spaced, put, column_eq]
  · simp [Cursor.indicator, indenting]

namespace Behind

variable {sign : Char} (behind : c.Behind sign column strings)

include behind

private theorem step_space : c.reader.step ' ' =
    ⟨.blank, column + indentWidth, column, Reader.counted sign strings⟩ := by
  obtain ⟨reading_eq, reader_column, rfl, _⟩ := behind
  simp [Reader.step, reading_eq, Reader.move, Reader.indicate, reader_column, indentWidth]

theorem awaits : c.Awaits column (Reader.counted sign strings) := by
  rw [Awaits, if_neg (by simp [behind.spaced]), reader_put, Reader.run_cons, behind.step_space]
  exact ⟨rfl, rfl, rfl⟩

private theorem indentTo_next : c.indentTo (column + indentWidth) = { c.put [' '] with spaced := true } := by
  obtain ⟨_, _, _, column_eq, spaced, indenting⟩ := behind
  simp [indentTo, column_eq, indenting, indentWidth]

/-- What is inside starts behind the indicator, on the same line. -/
theorem opens_next : c.Opens (column + indentWidth) (Reader.counted sign strings) := by
  have read : (c.indentTo (column + indentWidth)).reader =
      ⟨.blank, column + indentWidth, column, Reader.counted sign strings⟩ := by
    rw [behind.indentTo_next]
    exact (reader_put ..).trans behind.step_space
  refine ⟨?_, ?_, ?_, ?_⟩
  · rw [read]
    exact ⟨.inl rfl, rfl, rfl⟩
  all_goals rw [behind.indentTo_next]
  · exact congrArg (· + 1) behind.column_eq
  · exact behind.indenting

private theorem awaits_next : (c.indentTo (column + indentWidth)).Awaits column (Reader.counted sign strings) := by
  rw [Awaits, if_pos behind.opens_next.spaced, behind.indentTo_next]
  have read := (reader_put c [' ']).trans behind.step_space
  exact ⟨congrArg Reader.reading read, congrArg Reader.indent read, congrArg Reader.strings read⟩

end Behind

structure Keyed (c : Cursor) (column strings : Nat) : Prop where
  written : c.indenting = false
  spaced : c.spaced = false
  colon : c.reader.Within .colon column (strings + 1)

private theorem Awaits.keyed (awaits : c.Awaits column (strings + 1)) (key : String) (width : Nat) :
    ((putString true width key c).indicator [':'] false).Keyed column strings := by
  obtain ⟨_, passed⟩ := putString_hasPassed key awaits (.inl rfl)
  refine ⟨indenting_indicator .., rfl, ?_⟩
  rw [reader_indicator]
  exact passed.step_colon

namespace Keyed

variable (keyed : c.Keyed column strings)

include keyed

theorem awaits : c.Awaits column strings := by
  obtain ⟨_, spaced, colon, rfl, counted⟩ := keyed
  rw [Awaits, if_neg (by simp [spaced]), reader_put, Reader.run_cons, Reader.step, colon]
  refine ⟨rfl, rfl, ?_⟩
  simp [counted]

theorem opens (left : Nat) : c.Opens left strings := by
  obtain ⟨written, _, colon, rfl, counted⟩ := keyed
  have stepped : c.reader.step '\n' = { c.reader with reading := .blank, column := 0, strings } := by
    simp [Reader.step, Reader.move, colon, counted]
  have free : (c.reader.run ('\n' :: List.replicate left ' ')).Free left strings := by
    have free := Reader.free_of_step (by rw [stepped]) (by rw [stepped]) left
    rwa [stepped] at free
  exact opens_of_written written free

end Keyed

/-- An empty list is written behind a key. -/
theorem Awaits.brackets {indent : Nat} (awaits : c.Awaits indent strings) :
    ((c.indicator ['['] true true).indicator [']'] false).Closes indent strings := by
  have read : ((c.indicator ['['] true true).indicator [']'] false).reader.Within .blank indent strings := by
    rw [reader_indicator, reader_indicator_setOff]
    exact Reader.Within.run_brackets awaits
  obtain ⟨blank, rfl, counted⟩ := read
  exact ⟨indenting_indicator .., .inl blank, Nat.le_refl _, counted⟩

/-- A list can be written as the value of a key in a column: an empty one on the line, any other one from its own
column on. -/
structure TakesList (c : Cursor) (column strings : Nat) : Prop where
  awaits : ∃ indent, column ≤ indent + indentWidth ∧ c.Awaits indent strings
  opens : c.Opens (if c.indenting then column + indentWidth else column) strings

/-- A key is written from its column on, behind the dash of its item. -/
theorem Behind.takesList (behind : c.Behind '-' column strings) (key : String) :
    (if isSimpleKey key then
        (putString true (column + indentWidth + indentWidth) key (c.indentTo (column + indentWidth))).indicator [':']
          false
      else
        ((putString false (column + indentWidth + indentWidth) key
          ((c.indentTo (column + indentWidth)).indicator ['?'] true false true)).indentTo
            (column + indentWidth)).indicator [':'] true false true).TakesList (column + indentWidth) strings := by
  split
  · have keyed := behind.awaits_next.keyed key (column + indentWidth + indentWidth)
    refine ⟨⟨column, Nat.le_refl _, keyed.awaits⟩, ?_⟩
    rw [keyed.written]
    exact keyed.opens _
  · have asked := behind.opens_next.indicator (.inr (.inl rfl))
    have further : false = true ∨ column + indentWidth < column + indentWidth + indentWidth :=
      .inr (Nat.lt_add_of_pos_right Nat.two_pos)
    have passed := putString_hasPassed key asked.awaits further
    have answered := ((passed.closes (Nat.le_refl _)).opens (Nat.le_refl _)).indicator (.inr (.inr rfl))
    refine ⟨⟨_, Nat.le_add_right .., answered.awaits⟩, ?_⟩
    rw [if_pos answered.indenting]
    exact answered.opens_next

end Cursor

open Cursor

/-- A list of items is printed as the value of a key, if its items are printed from their column on. -/
theorem putList_closes {children : List Declaration} {c : Cursor} {column strings : Nat}
    (takes : c.TakesList (column + indentWidth) strings)
    (items : ∀ {below}, children ≠ [] → c.Opens below strings →
      (putItems below (outlines children) c).Closes below (strings + (chainsOf (outlines children)).length)) :
    (putNode .entry (some (column + indentWidth)) (.list (outlines children)) c).Closes column
      (strings + (chainsOf (outlines children)).length) := by
  obtain ⟨⟨indent, near, awaits⟩, opens⟩ := takes
  cases children with
  | nil => exact awaits.brackets.mono (Nat.le_of_add_le_add_right near)
  | cons child rest =>
    have below : (putNode .entry (some (column + indentWidth)) (.list (outlines (child :: rest))) c) =
        putItems (if c.indenting then column + indentWidth + indentWidth else column + indentWidth)
          (outlines (child :: rest)) c := by
      rw [outlines, putNode]
      · cases c.indenting <;> rfl
      · exact nofun
    rw [below]
    refine (items nofun opens).mono ?_
    split <;> omega

mutual

/-- What is printed of a declaration counts as many strings as its outline has texts. -/
theorem putNode_closes {group : String → Prop} (declaration : Declaration)
    (named : declaration.ConsistsOf group HasTitle) {c : Cursor} {column strings : Nat}
    (behind : c.Behind '-' column strings) :
    (putNode .item (some column) declaration.outline c).Closes column
      (strings + declaration.outline.chains.length) := by
  match declaration with
  | .test name body =>
    obtain ⟨text, rfl⟩ := named
    have further : false = true ∨ column < column + indentWidth := .inr (Nat.lt_add_of_pos_right Nat.two_pos)
    exact (putString_hasPassed text behind.awaits further).closes (Nat.le_refl column)
  | .group name hooks children =>
    have texts : (Declaration.group name hooks children).outline.chains.length =
        (chainsOf (outlines children)).length := by
      simp [Declaration.outline, Plain.chains, chainsUnder]
    rw [texts]
    refine putList_closes (behind.takesList name) fun some opens => putItems_closes children named.2 some opens
termination_by structural declaration

private theorem putItems_closes {group : String → Prop} (declarations : List Declaration)
    (named : ConsistOf group HasTitle declarations) (some : declarations ≠ []) {c : Cursor} {column strings : Nat}
    (opens : c.Opens column strings) :
    (putItems column (outlines declarations) c).Closes column
      (strings + (chainsOf (outlines declarations)).length) := by
  match declarations with
  | [] => exact absurd rfl some
  | declaration :: rest =>
    have closes := putNode_closes declaration named.1 (opens.indicator (.inl rfl))
    rw [outlines, putItems, chainsOf, List.length_append, ← Nat.add_assoc]
    match rest with
    | [] => exact closes
    | next :: rest => exact putItems_closes (next :: rest) named.2 nofun (closes.opens (Nat.le_refl column))
termination_by structural declarations

end

/-- A printed outline counts as many strings as the outline has texts. -/
theorem countStrings_document {group : String → Prop} {root : Group}
    (named : ConsistOf group HasTitle root.children) :
    countStrings (document root.outline) = root.outline.chains.length := by
  have opens : ({} : Cursor).Opens 0 0 := ⟨⟨.inl rfl, rfl, rfl⟩, rfl, rfl, rfl⟩
  obtain ⟨name, hooks, children⟩ := root
  cases children with
  | nil =>
    change countStrings (document (.list [])) = 0
    decide +kernel
  | cons child rest =>
    have closes := putItems_closes (child :: rest) named nofun opens
    have ended := (closes.opens (Nat.le_refl 0)).free.strings_eq
    rw [Nat.zero_add] at ended
    exact ended

/-- A quoted item, an item that goes on in a second line, and an empty group. -/
example : countStrings "- Menu:\n  - 'Link: - home'\n- A title\n  - and more\n- Pages: []\n" = 2 := by decide +kernel

end ScenarioTree.Yaml
