import ScenarioTree.Schema.Issue
import ScenarioTree.Text.Lines
import ScenarioTree.Value.Mask
import ScenarioTree.Yaml.Block

/-! # Reports

A report shows a message, the module it is about, the place in the tree, and the element found
there, masked and in block style.
-/

namespace ScenarioTree

/-- What an error message is about. -/
structure Context where
  filename : Option String := none
  path : Option (List Segment) := none
  element : Option Value := none
deriving Repr, Inhabited

namespace Context

/-- The indentation of the location lines. -/
def placeIndent : String := "    "

/-- The indentation of the snippet lines. -/
def elementIndent : String := "        "

/-- What stands for the name of a module that is not known. -/
def unknownModule : String := "<unknown module>"

/-- The lines that tell where an element comes from. -/
def placeLines (context : Context) : List String :=
  let filename := match context.filename with
    | some name => if name.isEmpty then unknownModule else name
    | none => unknownModule
  let path := match context.path with
    | some (segment :: rest) => [placeIndent ++ "at node " ++ renderPath (segment :: rest)]
    | _ => []
  (placeIndent ++ "in \"" ++ filename ++ "\"") :: path

def elementLines (context : Context) : List String :=
  match context.element with
  | none | some .null => []
  | some element =>
    (elementIndent ++ " ...") ::
      (Text.inkedLines (Yaml.document element.mask)).map (elementIndent ++ ·)

end Context

mutual

/-- The error of writing plain data, the first in order: a whole number of too many digits is not written. -/
def Plain.writingError? : Plain → Option RaisedError
  | .int value => RaisedError.within? (integerText value)
  | .list items => itemsWritingError? items
  | .map entries => entriesWritingError? entries
  | _ => none

def itemsWritingError? : List Plain → Option RaisedError
  | [] => none
  | item :: rest => item.writingError?.or (itemsWritingError? rest)

def entriesWritingError? : List (String × Plain) → Option RaisedError
  | [] => none
  | (_, value) :: rest => value.writingError?.or (entriesWritingError? rest)

end

/-- The error of showing the element of a context: of masking it, or of writing what it is masked as. -/
def Context.showingError? (context : Context) : Option RaisedError :=
  match context.element with
  | none | some .null => none
  | some element =>
    match element.masked with
    | .error error => some error
    | .ok plain => plain.writingError?

/-- A message with what it is about. Without a context it is the message alone; otherwise every
line is ended. -/
def formatMessage (message : String) : Option Context → String
  | none => message
  | some context =>
    "\n".intercalate (message :: context.placeLines ++ context.elementLines ++ [""])

structure Located where
  message : String
  path : List Segment
  element : Value
deriving Repr, Inhabited

/-- The progress of following a location as far as it leads. -/
structure Trail where
  /-- The steps that could be made. -/
  path : List Segment
  /-- Where they lead. -/
  here : Value
  /-- The steps up to the last mapping on the way. -/
  nodePath : List Segment
  /-- The last mapping on the way, at first the root. -/
  node : Value
deriving Repr, Inhabited

namespace Trail

def start (root : Value) : Trail := ⟨[], root, [], root⟩

/-- Makes one step, if it can be made. -/
def advance (trail : Trail) (segment : Segment) : Trail :=
  match trail.here.step? segment with
  | none => trail
  | some next => { trail with path := trail.path ++ [segment], here := next }

/-- Remembers the current place if it is a mapping. -/
def remember (trail : Trail) : Trail :=
  if trail.here.entries?.isSome then { trail with nodePath := trail.path, node := trail.here }
  else trail

/-- Whether a value has places inside. -/
def isOpen (v : Value) : Bool := v.indexedItems?.isSome || v.entries?.isSome

/-- Follows a location. Steps that cannot be made are left out, such as the tags of variants; at a
value without places inside the rest is given up. -/
def follow (trail : Trail) : List Segment → Trail
  | [] => trail
  | segment :: rest =>
    if isOpen trail.here then follow (trail.advance segment).remember rest else trail

end Trail

/-- The key that a location ends with, unless it is empty or the tag of a variant. -/
def offendingKey? (location : List Segment) : Option String :=
  match location.getLast? with
  | some (.key name) => if name.isEmpty || name.toList.contains '-' then none else some name
  | _ => none

/-- The first line of a message, located at the innermost mapping on the way to a location. The key
that the location ends with follows the message. -/
def locate? (root : Value) (location : List Segment) (message : String) : Option Located :=
  (Text.headline? message).map fun line =>
    let trail := (Trail.start root).follow location
    let message := match offendingKey? location with
      | some name => line ++ ": " ++ Text.quote name
      | none => line
    ⟨message, trail.nodePath, trail.node⟩

/-- What is wrong with a tree, and with which module it came. -/
structure Report where
  message : String
  filename : Option String
  found : Option (List Segment × Value)
deriving Repr, Inhabited

namespace Report

/-- The report on the first of several located messages that has a text. Only lists and tuples that
are not empty are looked into. -/
def ofMessages (data : Value) (messages : List (List Segment × String))
    (filename : Option String) : Report :=
  match data.indexedItems? with
  | none | some [] => ⟨"Node sequence validation error", filename, none⟩
  | some _ =>
    match messages.findSome? fun (location, message) => locate? data location message with
    | some located => ⟨located.message, filename, some (located.path, located.element)⟩
    | none => ⟨"Node validation error", filename, none⟩

def ofIssues (data : Value) (issues : List Issue) (filename : Option String) : Report :=
  ofMessages data (issues.map fun issue => (issue.location, issue.fault.message)) filename

def context (report : Report) : Context :=
  { filename := report.filename
    path := report.found.map Prod.fst
    element := report.found.map Prod.snd }

end Report

end ScenarioTree
