import ScenarioTree.ModuleFile
import ScenarioTree.Json.Reader
import ScenarioTree.Script.Basic

/-! # Reading scripted values

Values are read from the form in which they are written. A callable is given with its script, and
from then on it can be referred to by its name; of several with the same name the last one counts.
Built nodes are given by their fields, which are validated. What is written may have no meaning, or
mean something that cannot be, such as a node that is not valid.
-/

namespace ScenarioTree

structure Casting where
  stage : Stage := {}
  /-- The callables that have a name, the last one first. -/
  named : List (String × Value) := []
  iteratorCount : Nat := 0
  sequenceCount : Nat := 0

inductive Refusal where
  | meaningless
  /-- What is written cannot be, for the given failure. -/
  | impossible (failure : Failure)
deriving Repr, Inhabited

abbrev Reading := StateT Casting (Except Refusal)

def Reading.refuse {α : Type} : Reading α := throw .meaningless

/-- Gives nothing, for the given failure. -/
def Reading.fail {α : Type} (failure : Failure) : Reading α := throw (.impossible failure)

/-- A value that may be missing. -/
def Reading.ofOption {α : Type} (value? : Option α) : Reading α :=
  match value? with
  | some value => pure value
  | none => Reading.refuse

def newIterator : Reading Nat := do
  let casting ← get
  set { casting with iteratorCount := casting.iteratorCount + 1 }
  pure casting.iteratorCount

def newSequence : Reading Nat := do
  let casting ← get
  set { casting with sequenceCount := casting.sequenceCount + 1 }
  pure casting.sequenceCount

/-- Gives a callable its script and remembers it by its name. -/
def castCallable (form : CallableForm) (script : Script) : Reading Value := do
  let casting ← get
  let stage := casting.stage
  let callable := Value.callable (.defined stage.scripts.length script.name form)
  set { casting with
    stage := { stage with scripts := stage.scripts ++ [script] }
    named := (script.name, callable) :: casting.named }
  pure callable

def castNamed (name : String) : Reading Value := do
  let casting ← get
  match casting.named.lookup name with
  | some value => pure value
  | none => Reading.fail (.raised ⟨.keyError, name⟩)

def castDeferral (deferral : Deferral) : Reading Value := do
  let casting ← get
  let (value, stage) := casting.stage.defer deferral
  set { casting with stage }
  pure value

/-- The value of a hexadecimal text. -/
def readHex? : List Char → Option (List UInt8)
  | [] => some []
  | [_] => none
  | high :: low :: rest => do
    let high ← Json.hexValue? high
    let low ← Json.hexValue? low
    let rest ← readHex? rest
    some (UInt8.ofNat (high * 16 + low) :: rest)

def Json.str? : Json → Option String
  | .str text => some text
  | _ => none

/-- The truth value of a document, if it is one. -/
def Json.bool? : Json → Option Bool
  | .bool value => some value
  | _ => none

/-- The position that a document stands for. -/
def Json.index? : Json → Option Int
  | .int i => some i
  | _ => none

def textMember? (name : String) (members : List (String × Json)) : Option String :=
  (members.lookup name).bind Json.str?

def Json.scalar? : Json → Option Value
  | .null => some .null
  | .bool value => some (.bool value)
  | .int value => some (.int value)
  | .float value => some (.float value)
  | .str value => some (.str value)
  | _ => none

/-- The classes by the kinds that they are read from. -/
def ModelClass.ofKind? (kind : String) : Option ModelClass :=
  if kind == "base-group" then some .baseGroup
  else if kind == "base-leaf" then some .baseLeaf
  else if kind == "alien" then some .alien
  else (Variant.all.find? fun v => v.tag == kind).map .variant

/-- A built node, validated from its fields. -/
def buildModel (kind : Option String) (fields : List (Value × Value)) : Reading Value := do
  let modelClass ← Reading.ofOption (kind.bind ModelClass.ofKind?)
  match (validateEntries modelClass (Value.assigned fields)).run [] |>.1 with
  | .valid model => pure (.model model)
  | .invalid issues => Reading.fail (.invalid issues)

def requireKeys (keys : List Value) : Reading Unit :=
  match keys.findSome? Value.keyObstacle? with
  | some owner => Reading.fail (.notHashable owner)
  | none => pure ()

def readTagged? (tag text : String) : Option Value :=
  if tag == "float" then (Decimal.read? text).map .float
  else if tag == "bytes" then (readHex? text.toList).map .bytes
  else if tag == "bytearray" then (readHex? text.toList).map .bytearray
  else none

def collection (tag : String) (items : List Value) : Reading Value :=
  if tag == "tuple" then pure (.tuple items)
  else if tag == "deque" then pure (.deque items)
  else if tag == "set" then do
    requireKeys items
    pure (.set items)
  else if tag == "iter" then do
    let id ← newIterator
    pure (.iter id items)
  else Reading.refuse

def mapping (tag : String) (entries : List (Value × Value)) : Reading Value := do
  requireKeys (entries.map Prod.fst)
  if tag == "map" then pure (.map (Value.assigned entries))
  else if tag == "proxy" then pure (.proxy (Value.assigned entries))
  else Reading.refuse

def formOfTag? (tag : String) : Option CallableForm :=
  if tag == "fn" then some .object
  else if tag == "function" then some .function
  else none

def isMappingTag (tag : String) : Bool := tag == "map" || tag == "proxy"

/-- An action that is written without values or actions inside. -/
def readSimpleAction? (tag : String) (content : Json) : Option Action :=
  if tag == "arg" then content.index?.map .argument
  else if tag == "truthy" then content.index?.map .truth
  else if tag == "name" then content.index?.map .naming
  else if tag == "is" then some (.matching content)
  else if tag == "assert" then some (.expect content)
  else match tag, content with
    | "raise", .arr [.str kind, .str message] => some (.fail kind message)
    | "get", .arr (index :: keys) => do
      let index ← index.index?
      let keys ← keys.mapM Json.scalar?
      some (.pick index keys)
    | _, _ => none

def nameMember (members : List (String × Json)) : String := (textMember? "name" members).getD ""

def scriptOf (members : List (String × Json)) (action : Action) : Script :=
  { name := nameMember members
    action
    defers := ((members.lookup "async").bind Json.bool?).getD false }

/-- The name of the class that a document is read as, for one that is no text. -/
def classNameOf : Json → String
  | .null => "NoneType"
  | .bool _ => "bool"
  | .int _ => "int"
  | .float _ => "float"
  | .str _ => "str"
  | .arr _ => "list"
  | .obj _ => "dict"

/-- How an object is shown that answers with the given document; only a text can be shown. -/
def renderingOf : Json → Rendering
  | .str text => text
  | answer => {
      display := .error ⟨.typeError, "__str__ returned non-string (type " ++ classNameOf answer ++ ")"⟩
      literal := .error ⟨.typeError, "__repr__ returned non-string (type " ++ classNameOf answer ++ ")"⟩ }

/-- The object with the given members and attributes, of which those with a string key count. -/
def objectOf (members : List (String × Json)) (attributes : List (Value × Value)) : Value :=
  let name := nameMember members
  .object name
    (attributes.filterMap fun (key, value) =>
      match key with
      | .str key => some (key, value)
      | _ => none)
    (((members.lookup "truthy").bind Json.bool?).getD true)
    (renderingOf ((members.lookup "str").getD (.str ("<obj " ++ name ++ ">"))))

mutual

def readValue : Json → Reading Value
  | .null => pure .null
  | .bool value => pure (.bool value)
  | .int value => pure (.int value)
  | .float value => pure (.float value)
  | .str value => pure (.str value)
  | .arr items => do
    let items ← readValues items
    pure (.list items)
  | .obj [(tag, .str text)] =>
    match formOfTag? tag with
    | some _ => castNamed text
    | none => Reading.ofOption (readTagged? tag text)
  | .obj [(tag, .int stop)] => if tag == "range" then pure (.range stop) else Reading.refuse
  | .obj [(tag, .arr items)] => do
    if isMappingTag tag then
      let entries ← readEntries items
      mapping tag entries
    else
      let items ← readValues items
      collection tag items
  | .obj [(tag, .obj members)] => do
    match formOfTag? tag with
    | some form =>
      let action ← readActionMember members
      castCallable form (scriptOf members action)
    | none =>
      if tag == "deferred" then
        let action ← readActionMember members
        castDeferral { name := nameMember members, action }
      else if tag == "obj" then
        let attributes ← readPairsMember "attrs" members
        pure (objectOf members attributes)
      else if tag == "model" then
        let fields ← readPairsMember "fields" members
        buildModel (textMember? "kind" members) fields
      else Reading.refuse
  | .obj _ => Reading.refuse
termination_by structural document => document

def readValues : List Json → Reading (List Value)
  | [] => pure []
  | item :: rest => do
    let value ← readValue item
    let values ← readValues rest
    pure (value :: values)
termination_by structural items => items

def readEntries : List Json → Reading (List (Value × Value))
  | [] => pure []
  | .arr [key, value] :: rest => do
    let key ← readValue key
    let value ← readValue value
    let entries ← readEntries rest
    pure ((key, value) :: entries)
  | _ :: _ => Reading.refuse
termination_by structural items => items

def readPairsMember (name : String) : List (String × Json) → Reading (List (Value × Value))
  | [] => pure []
  | (other, .arr items) :: rest =>
    if other == name then readEntries items else readPairsMember name rest
  | _ :: rest => readPairsMember name rest
termination_by structural members => members

def readActionMember : List (String × Json) → Reading Action
  | [] => pure (.give .null)
  | (name, content) :: rest =>
    if name == "do" then readAction content else readActionMember rest
termination_by structural members => members

def readAction : Json → Reading Action
  | .obj [(tag, content)] => do
    if tag == "return" then
      let value ← readValue content
      pure (.give value)
    else if tag == "list" then
      let actions ← readActions content
      pure (.collect actions)
    else if tag == "seq" then
      let actions ← readActions content
      let id ← newSequence
      pure (.sequence id actions)
    else if tag == "defer" then
      let action ← readAction content
      pure (.defer action)
    else Reading.ofOption (readSimpleAction? tag content)
  | _ => Reading.refuse
termination_by structural document => document

def readActions : Json → Reading (List Action)
  | .arr items => readActionItems items
  | _ => Reading.refuse
termination_by structural document => document

def readActionItems : List Json → Reading (List Action)
  | [] => pure []
  | item :: rest => do
    let action ← readAction item
    let actions ← readActionItems rest
    pure (action :: actions)
termination_by structural items => items

end

def readAttributes : List Json → Reading (List (String × Value))
  | [] => pure []
  | .arr [.str name, value] :: rest => do
    let value ← readValue value
    let others ← readAttributes rest
    pure ((name, value) :: others)
  | _ :: _ => Reading.refuse

/-- Reads what is found under the name of a module: nothing, a directory, a module whose execution
fails, or one that defines attributes. -/
def readModule : Json → Reading ModuleFile
  | .null => pure .missing
  | .str "dir" => pure .directory
  | .obj [("raise", .arr [.str kind, .str message])] => pure (.failing (.raised (.named kind message)))
  | .obj [("attrs", .arr attributes)] => do
    let attributes ← readAttributes attributes
    pure (.defining (attributes.map fun (name, value) => (name, some value)))
  | _ => Reading.refuse

end ScenarioTree
