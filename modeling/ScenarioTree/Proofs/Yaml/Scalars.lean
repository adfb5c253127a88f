import Mathlib.Data.List.SplitBy
import ScenarioTree.Yaml.Block

/-! # Reading printed scalars

A printed outline is read character by character, and the strings among its items are counted on the way. The reader
knows nothing of what was printed. It tells indicators from the insides of scalars by the marks that stand around
these, and by the columns of their lines. Whatever the style of a scalar is and wherever it is folded, the reader
passes it in one piece.
-/

namespace ScenarioTree.Yaml

/-- What a reader of a document is in. -/
inductive Reading where
  | blank
  /-- Behind a sign that is an indicator if a blank follows. -/
  | sign (c : Char)
  | plain
  /-- Behind a colon that ends a key if a blank follows. -/
  | colon
  /-- At the start of a line below a plain scalar, which goes on if the line is indented further. -/
  | folded
  | single
  | double
  | escape
  /-- Behind a closing quote. -/
  | closed
deriving DecidableEq

/-- A reader that counts the items that are strings. An item counts as one until it turns out to be a mapping, which
starts with a key. -/
structure Reader where
  reading : Reading := .blank
  column : Nat := 0
  /-- The column of the last indicator. -/
  indent : Nat := 0
  strings : Nat := 0

namespace Reader

/-- Reads what stands between scalars. -/
def begin (reader : Reader) (c : Char) : Reader :=
  match c with
  | ' ' | '\n' | '[' | ']' => { reader with reading := .blank }
  | '-' | '?' | ':' => { reader with reading := .sign c }
  | '\x27' => { reader with reading := .single }
  | '\x22' => { reader with reading := .double }
  | _ => { reader with reading := .plain }

/-- Goes on with a plain scalar. -/
def goOn (reader : Reader) (c : Char) : Reader :=
  match c with
  | ':' => { reader with reading := .colon }
  | '\n' => { reader with reading := .folded }
  | _ => { reader with reading := .plain }

/-- The strings that are counted when a sign is an indicator: a dash begins an item, a question mark a key. -/
def counted (sign : Char) (strings : Nat) : Nat :=
  match sign with
  | '-' => strings + 1
  | '?' => strings - 1
  | _ => strings

/-- The sign that was read in a column is an indicator. -/
def indicate (reader : Reader) (sign : Char) (column : Nat) : Reader :=
  { reader with reading := .blank, indent := column, strings := counted sign reader.strings }

/-- Goes on between double quotes. -/
def goOnDouble (reader : Reader) (c : Char) : Reader :=
  match c with
  | '\x22' => { reader with reading := .closed }
  | '\\' => { reader with reading := .escape }
  | _ => reader

/-- Goes on behind a closing quote, which a second one takes back. -/
def goOnClosed (reader : Reader) (c : Char) : Reader :=
  match c with
  | '\x27' => { reader with reading := .single }
  | ':' => { reader with reading := .colon }
  | _ => reader.begin c

/-- The reader behind a character. -/
def move (reader : Reader) (c : Char) : Reader :=
  { reader with column := if c = '\n' then 0 else reader.column + 1 }

def step (reader : Reader) (c : Char) : Reader :=
  let next := reader.move c
  match reader.reading with
  | .blank => next.begin c
  | .sign sign => if c = ' ' then next.indicate sign (reader.column - 1) else next.goOn c
  | .plain => next.goOn c
  | .colon =>
    if c = ' ' ∨ c = '\n' then { next with reading := .blank, strings := reader.strings - 1 } else next.goOn c
  | .folded => if c = ' ' then next else if reader.indent < reader.column then next.goOn c else next.begin c
  | .single => if c = '\x27' then { next with reading := .closed } else next
  | .double => next.goOnDouble c
  | .escape => { next with reading := .double }
  | .closed => next.goOnClosed c

/-- Reads characters one after the other. -/
def run (reader : Reader) (chars : List Char) : Reader := chars.foldl step reader

end Reader

/-- The number of items of a document that are strings. -/
def countStrings (document : String) : Nat := (Reader.run {} document.toList).strings

/-- The reader of what is written so far. -/
def Cursor.reader (c : Cursor) : Reader := Reader.run {} c.text.toList

namespace Reader

variable {reader : Reader} {column indent strings : Nat}

@[simp] theorem run_nil (reader : Reader) : reader.run [] = reader := rfl

@[simp] theorem run_cons (reader : Reader) (c : Char) (chars : List Char) :
    reader.run (c :: chars) = (reader.step c).run chars := rfl

@[simp] theorem run_append (reader : Reader) (first others : List Char) :
    reader.run (first ++ others) = (reader.run first).run others := List.foldl_append ..

/-- An indicator or a scalar that starts at the column is read as such. -/
structure Free (reader : Reader) (column strings : Nat) : Prop where
  isFree : reader.reading = .blank ∨ reader.reading = .folded ∧ column ≤ reader.indent
  column_eq : reader.column = column
  strings_eq : reader.strings = strings

/-- The reader is in a plain scalar, maybe at the start of one of its lines. -/
def InPlain (reader : Reader) : Prop :=
  reader.reading = .plain ∨ reader.reading = .folded ∧ reader.indent < reader.column

/-- The reader has passed a scalar that started behind an indicator in a column. -/
structure Passed (reader : Reader) (indent strings : Nat) : Prop where
  isOver : reader.InPlain ∨ reader.reading = .closed
  indent_eq : reader.indent = indent
  strings_eq : reader.strings = strings

/-- Between scalars and where a plain scalar may go on, spaces only move the reader. -/
theorem run_spaces (rests : reader.reading = .blank ∨ reader.reading = .folded) (column : Nat) :
    reader.run (List.replicate column ' ') = { reader with column := reader.column + column } := by
  induction column generalizing reader with
  | zero => rfl
  | succ column ih =>
    have stepped : reader.step ' ' = { reader with column := reader.column + 1 } := by
      obtain blank | folded := rests
      · simp [step, move, blank, begin]
      · simp [step, move, folded]
    have later := @ih { reader with column := reader.column + 1 } rests
    rw [List.replicate_succ, run_cons, stepped, later, Nat.add_assoc, Nat.add_comm 1]

private theorem InPlain.step_lineBreak (inside : reader.InPlain) :
    reader.step '\n' = { reader with reading := .folded, column := 0 } := by
  obtain plain | ⟨folded, further⟩ := inside
  · simp [step, move, plain, goOn]
  · simp [step, move, folded, further, goOn]

theorem InPlain.run_line (inside : reader.InPlain) (column : Nat) :
    reader.run ('\n' :: List.replicate column ' ') = { reader with reading := .folded, column } := by
  rw [run_cons, inside.step_lineBreak, run_spaces (.inr rfl), Nat.zero_add]

/-- The reader is before the rest of a plain scalar: at its start, inside, or behind a sign that nothing blank
follows. -/
inductive Before (reader : Reader) : List Char → Prop
  | start {first : Char} {rest : List Char} (blank : reader.reading = .blank)
      (unmarked : hasIndicator (first :: rest) = false) (ink : first ≠ ' ') : Before reader (first :: rest)
  | inside {text : List Char} (inside : reader.InPlain) : Before reader text
  | behind {text : List Char} (sign : reader.reading = .colon ∨ ∃ sign, reader.reading = .sign sign)
      (goesOn : startsSeparate text = false) : Before reader text

/-- The same scalar is read, at the same depth, and as many strings are counted. -/
structure Keeps (reader after : Reader) : Prop where
  indent_eq : after.indent = reader.indent
  strings_eq : after.strings = reader.strings

theorem Keeps.rfl : reader.Keeps reader := ⟨Eq.refl _, Eq.refl _⟩

theorem Keeps.trans {middle after : Reader} (first : reader.Keeps middle) (second : middle.Keeps after) :
    reader.Keeps after :=
  ⟨second.indent_eq.trans first.indent_eq, second.strings_eq.trans first.strings_eq⟩

end Reader

def NoKeyEnd : List Char → Prop
  | [] => True
  | c :: rest => ¬ (c = ':' ∧ startsSeparate rest = true) ∧ NoKeyEnd rest

private theorem noKeyEnd_of_hasInnerIndicator {separated : Bool} {text : List Char}
    (none : hasInnerIndicator separated text = false) : NoKeyEnd text := by
  induction text generalizing separated with
  | nil => trivial
  | cons c rest ih =>
    simp only [hasInnerIndicator, Bool.or_eq_false_iff, Bool.and_eq_false_iff] at none
    refine ⟨fun ⟨colon, ends⟩ => ?_, ih none.2⟩
    simp [colon, ends] at none

private theorem noKeyEnd_of_hasIndicator {text : List Char} (none : hasIndicator text = false) : NoKeyEnd text := by
  cases text with
  | nil => trivial
  | cons first rest =>
    simp only [hasIndicator, Bool.or_eq_false_iff] at none
    obtain ⟨⟨_, sign⟩, inner⟩ := none
    refine ⟨fun ⟨colon, ends⟩ => ?_, noKeyEnd_of_hasInnerIndicator inner⟩
    simp [colon, ends] at sign

namespace Reader

variable {reader : Reader} {c : Char} {rest : List Char}

private theorem goOn_before (reader : Reader) (noKey : ¬ (c = ':' ∧ startsSeparate rest = true))
    (sameLine : c ≠ '\n') :
    (reader.goOn c).Before rest ∧ reader.Keeps (reader.goOn c) := by
  unfold goOn
  split
  · have goesOn : startsSeparate rest = false := by simpa using noKey
    exact ⟨.behind (.inl rfl) goesOn, ⟨rfl, rfl⟩⟩
  · exact absurd rfl sameLine
  · exact ⟨.inside (.inl rfl), ⟨rfl, rfl⟩⟩

private theorem begin_before (reader : Reader) (unmarked : hasIndicator (c :: rest) = false) (ink : c ≠ ' ')
    (sameLine : c ≠ '\n') :
    (reader.begin c).Before rest ∧ reader.Keeps (reader.begin c) := by
  simp only [hasIndicator, Bool.or_eq_false_iff] at unmarked
  obtain ⟨⟨⟨_, leading⟩, sign⟩, _⟩ := unmarked
  unfold begin
  split
  · exact absurd rfl ink
  · exact absurd rfl sameLine
  · simp [isLeadingIndicator] at leading
  · simp [isLeadingIndicator] at leading
  · exact ⟨.behind (.inr ⟨_, rfl⟩) (by simpa using sign), ⟨rfl, rfl⟩⟩
  · exact ⟨.behind (.inr ⟨_, rfl⟩) (by simpa using sign), ⟨rfl, rfl⟩⟩
  · exact ⟨.behind (.inr ⟨_, rfl⟩) (by simpa using sign), ⟨rfl, rfl⟩⟩
  · simp [isLeadingIndicator] at leading
  · simp [isLeadingIndicator] at leading
  · exact ⟨.inside (.inl rfl), ⟨rfl, rfl⟩⟩

/-- A character of a plain scalar leads on to what follows it there. -/
theorem Before.step (before : reader.Before (c :: rest)) (noKey : ¬ (c = ':' ∧ startsSeparate rest = true))
    (sameLine : c ≠ '\n') : (reader.step c).Before rest ∧ reader.Keeps (reader.step c) := by
  have goes : ((reader.move c).goOn c).Before rest ∧ reader.Keeps ((reader.move c).goOn c) := by
    obtain ⟨before, keeps⟩ := (reader.move c).goOn_before noKey sameLine
    exact ⟨before, keeps.indent_eq, keeps.strings_eq⟩
  cases before with
  | start blank unmarked ink =>
    obtain ⟨before, keeps⟩ := (reader.move c).begin_before unmarked ink sameLine
    rw [Reader.step, blank]
    exact ⟨before, keeps.indent_eq, keeps.strings_eq⟩
  | inside inside =>
    obtain plain | ⟨folded, further⟩ := inside
    · rwa [Reader.step, plain]
    · rw [Reader.step, folded]
      dsimp only
      by_cases space : c = ' '
      · rw [if_pos space]
        refine ⟨.inside (.inr ⟨folded, ?_⟩), ⟨rfl, rfl⟩⟩
        simp only [move, if_neg sameLine]
        exact Nat.lt_succ_of_lt further
      · rwa [if_neg space, if_pos further]
  | behind sign goesOn =>
    have ink : c ≠ ' ' := by
      rintro rfl
      simp [startsSeparate, isSeparator] at goesOn
    obtain colon | ⟨sign, behind⟩ := sign
    · rw [Reader.step, colon]
      dsimp only
      rwa [if_neg (by simp [ink, sameLine])]
    · rw [Reader.step, behind]
      dsimp only
      rwa [if_neg ink]

/-- Before a space a plain scalar is not at its start, and nothing there could be an indicator. -/
theorem Before.inPlain_of_space (before : reader.Before (' ' :: rest)) : reader.InPlain := by
  cases before with
  | start _ _ ink => exact absurd rfl ink
  | inside inside => exact inside
  | behind _ goesOn => simp [startsSeparate, isSeparator] at goesOn

private theorem Before.inPlain_of_nil (before : reader.Before []) : reader.InPlain := by
  cases before with
  | inside inside => exact inside
  | behind _ goesOn => cases goesOn

/-- Reading a part of a plain scalar leads on to what follows it. -/
theorem Before.run {part : List Char} (before : reader.Before (part ++ rest)) (noKey : NoKeyEnd (part ++ rest))
    (sameLine : '\n' ∉ part) : (reader.run part).Before rest ∧ NoKeyEnd rest ∧ reader.Keeps (reader.run part) := by
  induction part generalizing reader with
  | nil => exact ⟨before, noKey, .rfl⟩
  | cons c part ih =>
    obtain ⟨stepped, kept⟩ := before.step noKey.1 (List.ne_of_not_mem_cons sameLine).symm
    obtain ⟨ran, noKey, keeps⟩ := ih stepped noKey.2 (List.not_mem_of_not_mem_cons sameLine)
    exact ⟨ran, noKey, kept.trans keeps⟩

end Reader

namespace Cursor

variable {c : Cursor}

@[simp] theorem reader_put (c : Cursor) (chars : List Char) : (c.put chars).reader = c.reader.run chars := by
  simp [reader, put]

@[simp] theorem reader_lineBreak (c : Cursor) (mark : Char) : (c.lineBreak mark).reader = c.reader.step mark := by
  simp [reader, lineBreak]

@[simp] theorem reader_inside (c : Cursor) : c.inside.reader = c.reader := rfl

private theorem reader_lineBreaks (marks : List Char) (c : Cursor) :
    (marks.foldl (fun c mark => c.lineBreak mark) c).reader = c.reader.run marks := by
  induction marks generalizing c with
  | nil => rfl
  | cons mark rest ih => rw [List.foldl_cons, ih, reader_lineBreak, Reader.run_cons]

/-- Once something but indentation stands on a line, a column is moved to on a new line. -/
theorem reader_indentTo (written : c.indenting = false) (column : Nat) :
    (c.indentTo column).reader = c.reader.run ('\n' :: List.replicate column ' ') := by
  simp only [indentTo, written, Bool.not_false, Bool.true_or, if_true]
  split
  · exact (reader_put ..).trans (congrArg (Reader.run · _) (reader_lineBreak ..))
  · rename_i here
    obtain rfl : column = 0 := by simpa [lineBreak] using here
    exact reader_lineBreak ..

end Cursor

/-- The runs of a plain scalar are passed, wherever it is folded. -/
theorem putPlainRuns_reader {fold : Bool} {column : Nat} {runs : List (List Char)} {c : Cursor}
    (before : c.reader.Before runs.flatten) (noKey : NoKeyEnd runs.flatten) (sameLine : '\n' ∉ runs.flatten)
    (further : fold = true → c.reader.indent < column) (written : c.indenting = false) :
    (putPlainRuns fold column runs c).indenting = false ∧ (putPlainRuns fold column runs c).reader.InPlain ∧
      c.reader.Keeps (putPlainRuns fold column runs c).reader := by
  induction runs generalizing c with
  | nil => exact ⟨written, before.inPlain_of_nil, .rfl⟩
  | cons run rest ih =>
    rw [List.flatten_cons] at before noKey sameLine
    have notHere : '\n' ∉ run := fun here => sameLine (List.mem_append_left _ here)
    have notLater : '\n' ∉ rest.flatten := fun later => sameLine (List.mem_append_right _ later)
    obtain ⟨ran, later, kept⟩ := before.run noKey notHere
    rw [putPlainRuns]
    split
    · -- the space is written as the start of a line
      rename_i folds
      simp only [Bool.and_eq_true, beq_iff_eq] at folds
      obtain ⟨⟨⟨rfl, _⟩, fold⟩, _⟩ := folds
      have inside := before.inPlain_of_space
      have moved : (c.indentTo column).reader = { c.reader with reading := .folded, column } := by
        rw [Cursor.reader_indentTo written, inside.run_line]
      have inLine : (c.indentTo column).inside.reader.InPlain := by
        rw [Cursor.reader_inside, moved]
        exact .inr ⟨rfl, further fold⟩
      have kept : c.reader.Keeps (c.indentTo column).inside.reader := by
        rw [Cursor.reader_inside, moved]
        exact ⟨rfl, rfl⟩
      obtain ⟨written, passed, keeps⟩ := ih (.inside inLine) later notLater
        (fun folds => kept.indent_eq.trans_lt (further folds)) rfl
      exact ⟨written, passed, kept.trans keeps⟩
    · rw [← Cursor.reader_put] at ran kept
      obtain ⟨written, passed, keeps⟩ := ih ran later notLater
        (fun folds => kept.indent_eq.trans_lt (further folds)) written
      exact ⟨written, passed, kept.trans keeps⟩

namespace Reader

variable {reader : Reader} {chars : List Char}

/-- The reader stays between quotes. -/
structure Within (reader : Reader) (reading : Reading) (indent strings : Nat) : Prop where
  reading_eq : reader.reading = reading
  indent_eq : reader.indent = indent
  strings_eq : reader.strings = strings

variable {indent strings : Nat}

private theorem Within.step_single (within : reader.Within .single indent strings) {c : Char} (inner : c ≠ '\x27') :
    (reader.step c).Within .single indent strings := by
  obtain ⟨single, rfl, rfl⟩ := within
  rw [step, single]
  dsimp only
  rw [if_neg inner]
  exact ⟨single, rfl, rfl⟩

private theorem Within.run_single (within : reader.Within .single indent strings) (inner : '\x27' ∉ chars) :
    (reader.run chars).Within .single indent strings := by
  induction chars generalizing reader with
  | nil => exact within
  | cons c rest ih =>
    exact ih (within.step_single (List.ne_of_not_mem_cons inner).symm) (List.not_mem_of_not_mem_cons inner)

private theorem Within.run_doubleQuotes (within : reader.Within .single indent strings) (chars : List Char) :
    (reader.run (doubleQuotes chars)).Within .single indent strings := by
  induction chars generalizing reader with
  | nil => exact within
  | cons c rest ih =>
    rw [doubleQuotes, List.flatMap_cons, run_append]
    refine ih ?_
    by_cases quote : c = '\x27'
    · subst quote
      obtain ⟨single, rfl, rfl⟩ := within
      have twice : reader.run ['\x27', '\x27'] = { (reader.move '\x27').move '\x27' with reading := .single } := by
        simp [step, single, move, goOnClosed]
      simp only [beq_self_eq_true, if_true]
      rw [twice]
      exact ⟨rfl, rfl, rfl⟩
    · rw [if_neg (by simpa using quote)]
      exact within.run_single (by simpa using Ne.symm quote)

end Reader

private theorem Cursor.reader_indentTo_single {c : Cursor} {indent strings : Nat}
    (within : c.reader.Within .single indent strings) (column : Nat) :
    (c.indentTo column).reader.Within .single indent strings := by
  have broken : ∀ c : Cursor, c.reader.Within .single indent strings →
      (if c.column < column then { c.put (List.replicate (column - c.column) ' ') with spaced := true } else
        c).reader.Within .single indent strings := by
    intro c within
    split
    · exact (c.reader_put _).symm ▸ within.run_single (by simp)
    · exact within
  rw [indentTo]
  refine broken _ ?_
  split
  · rw [reader_lineBreak]
    exact within.step_single (by decide)
  · exact within

private theorem charClass_of_mem_runs {text run : List Char} {first c : Char} (member : first :: run ∈ runs text)
    (inside : c ∈ first :: run) : charClass c = charClass first := by
  have chain : List.IsChain (fun a b => charClass a = charClass b) (first :: run) :=
    (List.isChain_of_mem_splitBy member).imp fun _ _ same => eq_of_beq same
  have transitive : Trans (fun a b => charClass a = charClass b) (fun a b => charClass a = charClass b)
      fun a b => charClass a = charClass b := ⟨Eq.trans⟩
  obtain ⟨later, _⟩ := List.pairwise_cons.mp chain.pairwise
  obtain rfl | inside := List.mem_cons.mp inside
  · rfl
  · exact (later c inside).symm

private theorem quote_notMem_of_runs {text run : List Char} {first : Char} (member : first :: run ∈ runs text)
    (blank : charClass first ≠ .ink) : '\x27' ∉ first :: run := by
  intro quoted
  have ink : charClass '\x27' = .ink := rfl
  rw [charClass_of_mem_runs member quoted] at ink
  exact blank ink

/-- The runs of a single-quoted scalar are passed, wherever it is folded. -/
theorem putSingleRuns_reader {fold started : Bool} {column indent strings : Nat} {text : List Char}
    {rest : List (List Char)} (members : ∀ run ∈ rest, run ∈ runs text) {c : Cursor}
    (within : c.reader.Within .single indent strings) :
    (putSingleRuns fold column started rest c).reader.Within .single indent strings := by
  induction rest generalizing c started with
  | nil => exact within
  | cons run rest ih =>
    obtain ⟨member, later⟩ := List.forall_mem_cons.mp members
    rw [putSingleRuns]
    split
    · rename_i breaks
      refine ih later ?_
      cases run with
      | nil => cases breaks
      | cons first run =>
        have inner := quote_notMem_of_runs member (by simp_all)
        rw [putBreaks]
        refine Cursor.reader_indentTo_single ?_ column
        rw [Cursor.reader_lineBreaks]
        refine Reader.Within.run_single ?_ inner
        split
        · rw [Cursor.reader_lineBreak]
          exact within.step_single (by decide)
        · exact within
    · rename_i space
      split
      · exact ih later (Cursor.reader_indentTo_single within column)
      · refine ih later ?_
        rw [Cursor.reader_put]
        cases run with
        | nil => exact within
        | cons first run =>
          have inner := quote_notMem_of_runs member (by simp_all)
          exact within.run_single inner
    · refine ih later ?_
      rw [Cursor.reader_put]
      exact within.run_doubleQuotes run

namespace Reader

variable {reader : Reader} {chars : List Char} {indent strings : Nat}

/-- The reader is between double quotes, maybe behind the sign that escapes a space that follows. -/
def WithinDouble (reader : Reader) (rest : List Char) (indent strings : Nat) : Prop :=
  reader.Within .double indent strings ∨ reader.Within .escape indent strings ∧ rest.head? = some ' '

private theorem Within.step_escape (within : reader.Within .escape indent strings) (c : Char) :
    (reader.step c).Within .double indent strings := by
  obtain ⟨escape, rfl, rfl⟩ := within
  rw [step, escape]
  exact ⟨rfl, rfl, rfl⟩

private theorem Within.step_double (within : reader.Within .double indent strings) {c : Char} (notQuote : c ≠ '\x22')
    (notSign : c ≠ '\\') : (reader.step c).Within .double indent strings := by
  obtain ⟨double, rfl, rfl⟩ := within
  rw [step, double]
  dsimp only
  rw [goOnDouble]
  · exact ⟨double, rfl, rfl⟩
  · exact notQuote
  · exact notSign

private theorem Within.step_sign (within : reader.Within .double indent strings) :
    (reader.step '\\').Within .escape indent strings := by
  obtain ⟨double, rfl, rfl⟩ := within
  rw [step, double]
  exact ⟨rfl, rfl, rfl⟩

private theorem Within.run_double (within : reader.Within .double indent strings)
    (inner : ∀ c ∈ chars, c ≠ '\x22' ∧ c ≠ '\\') : (reader.run chars).Within .double indent strings := by
  induction chars generalizing reader with
  | nil => exact within
  | cons c rest ih =>
    obtain ⟨⟨notQuote, notSign⟩, later⟩ := List.forall_mem_cons.mp inner
    exact ih (within.step_double notQuote notSign) later

/-- A character that needs no escape is no quote and no sign that escapes. -/
theorem ne_of_isEscaped {c : Char} (visible : isEscaped c = false) : c ≠ '\x22' ∧ c ≠ '\\' := by
  refine ⟨?_, ?_⟩ <;> rintro rfl <;> revert visible <;> decide

theorem WithinDouble.run {rest : List Char} (within : reader.WithinDouble (chars ++ rest) indent strings)
    (visible : ∀ c ∈ chars, isEscaped c = false) : (reader.run chars).WithinDouble rest indent strings := by
  cases chars with
  | nil => exact within
  | cons c chars =>
    obtain ⟨here, later⟩ := List.forall_mem_cons.mp visible
    have inner : ∀ c ∈ chars, c ≠ '\x22' ∧ c ≠ '\\' := fun c inside => ne_of_isEscaped (later c inside)
    obtain double | ⟨escape, _⟩ := within
    · obtain ⟨notQuote, notSign⟩ := ne_of_isEscaped here
      exact .inl ((double.step_double notQuote notSign).run_double inner)
    · exact .inl ((escape.step_escape c).run_double inner)

private theorem mem_toDigits {base n : Nat} {c : Char} (proper : 1 < base) (member : c ∈ Nat.toDigits base n) :
    ∃ digit < base, c = digit.digitChar := by
  induction n using Nat.strongRecOn with
  | ind n ih =>
    rw [Nat.toDigits_eq_if proper] at member
    split at member
    · rename_i small
      exact ⟨n, small, List.mem_singleton.mp member⟩
    · rename_i large
      obtain front | last := List.mem_append.mp member
      · exact ih (n / base) (Nat.div_lt_self (by omega) proper) front
      · exact ⟨n % base, Nat.mod_lt n (by omega), List.mem_singleton.mp last⟩

private theorem ne_of_mem_upperHex {width n : Nat} {c : Char} (member : c ∈ upperHex width n) :
    c ≠ '\x22' ∧ c ≠ '\\' := by
  have digits : ∀ digit < 16, (Nat.digitChar digit).toUpper ≠ '\x22' ∧ (Nat.digitChar digit).toUpper ≠ '\\' := by
    decide
  rw [upperHex] at member
  obtain zero | digit := List.mem_append.mp member
  · obtain rfl := List.eq_of_mem_replicate zero
    decide
  · obtain ⟨digit, inside, rfl⟩ := List.mem_map.mp digit
    obtain ⟨value, small, rfl⟩ := mem_toDigits (by decide) inside
    exact digits value small

/-- An escaped character is read in one piece. -/
theorem Within.run_escape (within : reader.Within .double indent strings) (c : Char) :
    (reader.run (escape c)).Within .double indent strings := by
  have hex (mark : Char) (width : Nat) :
      (reader.run ('\\' :: mark :: upperHex width c.toNat)).Within .double indent strings :=
    (within.step_sign.step_escape mark).run_double fun _ member => ne_of_mem_upperHex member
  rw [escape]
  split
  · exact within.step_sign.step_escape _
  · dsimp only
    split
    · exact hex 'x' 2
    · split
      · exact hex 'u' 4
      · exact hex 'U' 8

end Reader

/-- A line that is broken between double quotes goes on between them. -/
theorem continueDouble_reader {c : Cursor} (column : Nat) (rest : List Char) {indent strings : Nat}
    (within : c.reader.Within .double indent strings ∨ c.reader.Within .escape indent strings)
    (written : c.indenting = false) :
    (continueDouble column rest.head? c).reader.WithinDouble rest indent strings ∧
      (continueDouble column rest.head? c).indenting = false := by
  have blanks : ∀ b ∈ List.replicate column ' ', b ≠ '\x22' ∧ b ≠ '\\' := by
    intro b member
    obtain rfl := List.eq_of_mem_replicate member
    decide
  have broken : ((c.put ['\\']).indentTo column).inside.reader.Within .double indent strings := by
    have written : (c.put ['\\']).indenting = false := written
    rw [Cursor.reader_inside, Cursor.reader_indentTo written, Cursor.reader_put]
    obtain double | escape := within
    · exact (double.step_sign.step_escape '\n').run_double blanks
    · exact ((escape.step_escape '\\').step_double (by decide) (by decide)).run_double blanks
  rw [continueDouble]
  split
  · rename_i space
    refine ⟨.inr ⟨?_, eq_of_beq space⟩, rfl⟩
    rw [Cursor.reader_put]
    exact broken.step_sign
  · exact ⟨.inl broken, rfl⟩

/-- The inside of a double-quoted scalar is passed, wherever it is folded. -/
theorem putDoubleRest_reader {fold started : Bool} {column indent strings : Nat} {pending rest : List Char}
    {c : Cursor} (visible : ∀ c ∈ pending, isEscaped c = false)
    (within : c.reader.WithinDouble (pending ++ rest) indent strings) (written : c.indenting = false) :
    (putDoubleRest fold column started pending rest c).reader.Within .double indent strings := by
  induction rest generalizing started pending c with
  | nil =>
    rw [putDoubleRest, Cursor.reader_put]
    obtain double | ⟨_, space⟩ := within.run visible
    · exact double
    · cases space
  | cons char rest ih =>
    have reached : (c.put pending).reader.WithinDouble (char :: rest) indent strings := by
      rw [Cursor.reader_put]
      exact within.run visible
    rw [putDoubleRest]
    dsimp only
    split
    · rename_i escaped
      have double : (c.put pending).reader.Within .double indent strings := by
        obtain double | ⟨_, space⟩ := reached
        · exact double
        · cases space
          cases escaped
      have behind : ((c.put pending).put (escape char)).reader.Within .double indent strings := by
        rw [Cursor.reader_put]
        exact double.run_escape char
      split
      · obtain ⟨within, written⟩ := continueDouble_reader column rest (.inl behind) written
        exact ih nofun within written
      · exact ih nofun (.inl behind) written
    · rename_i ink
      have here : ∀ c ∈ [char], isEscaped c = false := by simpa using ink
      split
      · have either : (c.put pending).reader.Within .double indent strings ∨
            (c.put pending).reader.Within .escape indent strings := reached.imp id And.left
        obtain ⟨within, written⟩ := continueDouble_reader column (char :: rest) either written
        exact ih here within written
      · refine ih (List.forall_mem_append.mpr ⟨visible, here⟩) ?_ written
        rwa [List.append_assoc]

namespace Reader

variable {reader : Reader} {indent strings : Nat}

private theorem Within.begin_quote (within : reader.Within .blank indent strings) :
    (reader.step '\x27').Within .single indent strings ∧ (reader.step '\x22').Within .double indent strings := by
  obtain ⟨blank, rfl, rfl⟩ := within
  rw [step, step, blank]
  exact ⟨⟨rfl, rfl, rfl⟩, rfl, rfl, rfl⟩

private theorem Within.close_single (within : reader.Within .single indent strings) :
    (reader.step '\x27').Passed indent strings := by
  obtain ⟨single, rfl, rfl⟩ := within
  rw [step, single]
  exact ⟨.inr rfl, rfl, rfl⟩

private theorem Within.close_double (within : reader.Within .double indent strings) :
    (reader.step '\x22').Passed indent strings := by
  obtain ⟨double, rfl, rfl⟩ := within
  rw [step, double]
  exact ⟨.inr rfl, rfl, rfl⟩

end Reader

namespace Cursor

variable {c : Cursor} {column indent strings : Nat} {text : List Char}

/-- A scalar can be written: the reader is between scalars, once it is set off from what stands before it. -/
def Awaits (c : Cursor) (indent strings : Nat) : Prop :=
  (if c.spaced then c else c.put [' ']).reader.Within .blank indent strings

structure HasPassed (c : Cursor) (indent strings : Nat) : Prop where
  written : c.indenting = false
  passed : c.reader.Passed indent strings

theorem reader_indicator_setOff (c : Cursor) (mark : List Char) (spaced indents : Bool) :
    (c.indicator mark true spaced indents).reader = (if c.spaced then c else c.put [' ']).reader.run mark := by
  cases held : c.spaced <;> simp [indicator, held, reader, put]

theorem reader_indicator (c : Cursor) (mark : List Char) (spaced indents : Bool) :
    (c.indicator mark false spaced indents).reader = c.reader.run mark := by
  simp [indicator, reader, put]

theorem indenting_indicator (c : Cursor) (mark : List Char) (setOff spaced : Bool) :
    (c.indicator mark setOff spaced).indenting = false := by
  simp [indicator]

end Cursor

section

variable {fold : Bool} {c : Cursor} {column indent strings : Nat} {text : List Char}

private theorem putPlain_hasPassed (awaits : c.Awaits indent strings) (unmarked : hasIndicator text = false)
    (full : text ≠ []) (starts : text.head? ≠ some ' ') (sameLine : '\n' ∉ text)
    (further : fold = true → indent < column) : (putPlain fold column text c).HasPassed indent strings := by
  obtain ⟨blank, rfl, rfl⟩ := awaits
  rw [putPlain, if_neg (by simpa using full)]
  dsimp only
  generalize (if c.spaced then c else c.put [' ']) = start at blank further ⊢
  have whole : (runs text).flatten = text := List.flatten_splitBy ..
  have before : start.inside.reader.Before text := by
    cases text with
    | nil => exact absurd rfl full
    | cons first rest => exact .start blank unmarked (by simpa using starts)
  have noKey := noKeyEnd_of_hasIndicator unmarked
  rw [← whole] at before noKey sameLine
  obtain ⟨written, inside, keeps⟩ := putPlainRuns_reader before noKey sameLine further rfl
  exact ⟨written, .inl inside, keeps.indent_eq, keeps.strings_eq⟩

private theorem putSingle_hasPassed (awaits : c.Awaits indent strings) :
    (putSingle fold column text c).HasPassed indent strings := by
  have opened : (c.indicator ['\x27'] true).reader.Within .single indent strings := by
    rw [Cursor.reader_indicator_setOff]
    exact awaits.begin_quote.1
  have members : ∀ run ∈ runs text, run ∈ runs text := fun _ member => member
  refine ⟨Cursor.indenting_indicator .., ?_⟩
  rw [putSingle, Cursor.reader_indicator]
  exact (putSingleRuns_reader members opened).close_single

private theorem putDouble_hasPassed (awaits : c.Awaits indent strings) :
    (putDouble fold column text c).HasPassed indent strings := by
  have opened : (c.indicator ['\x22'] true).reader.WithinDouble ([] ++ text) indent strings := by
    rw [Cursor.reader_indicator_setOff]
    exact .inl awaits.begin_quote.2
  have visible : ∀ c ∈ ([] : List Char), isEscaped c = false := nofun
  refine ⟨Cursor.indenting_indicator .., ?_⟩
  rw [putDouble, Cursor.reader_indicator]
  exact (putDoubleRest_reader visible opened (Cursor.indenting_indicator ..)).close_double

/-- What is written plainly is not empty, is a single line that starts with ink, and holds no indicator. -/
theorem of_stringStyle_plain {simpleKey : Bool} {text : String} (plain : stringStyle simpleKey text = .plain) :
    hasIndicator text.toList = false ∧ text.toList ≠ [] ∧ text.toList.head? ≠ some ' ' ∧ '\n' ∉ text.toList := by
  have decided : (analyze text.toList).plain = true ∧ isTyped text = false := by
    rw [stringStyle] at plain
    split at plain
    · rename_i held
      simp only [Bool.and_eq_true, Bool.not_eq_true'] at held
      exact held.1
    · split at plain <;> cases plain
  obtain ⟨analyzed, untyped⟩ := decided
  simp only [analyze, Bool.and_eq_true, Bool.not_eq_true'] at analyzed
  obtain ⟨⟨⟨⟨_, oneLine⟩, starts⟩, _⟩, unmarked⟩ := analyzed
  refine ⟨unmarked, fun empty => ?_, fun space => ?_, fun inside => ?_⟩
  · obtain rfl : text = "" := String.toList_eq_nil_iff.mp empty
    revert untyped
    decide +kernel
  · simp [space] at starts
  · have broken : text.toList.any isBreak = true := List.any_eq_true.mpr ⟨_, inside, rfl⟩
    simp [broken] at oneLine

/-- A string is read in one piece, whatever its style is and wherever it is folded. -/
theorem putString_hasPassed {simpleKey : Bool} (text : String) (awaits : c.Awaits indent strings)
    (further : simpleKey = true ∨ indent < column) :
    (putString simpleKey column text c).HasPassed indent strings := by
  rw [putString]
  split
  · rename_i plain
    obtain ⟨unmarked, full, starts, sameLine⟩ := of_stringStyle_plain plain
    exact putPlain_hasPassed awaits unmarked full starts sameLine fun folds =>
      further.resolve_left (by simpa using folds)
  · exact putSingle_hasPassed awaits
  · exact putDouble_hasPassed awaits

end

end ScenarioTree.Yaml
