import ScenarioTree.Schema.Report
import ScenarioTree.Text.Pattern

/-! # Failures

Everything that can end a computation early. Callables raise errors of their own, which are passed on
unchanged; the other failures arise from building, declaring, loading and running. An ordinary failure can be
handled; an interrupt, such as an abort, passes every handler.
-/

namespace ScenarioTree

inductive Failure where
  /-- A callable raised an error. -/
  | raised (error : RaisedError)
  /-- A hook of the group failed earlier, for the given cause. -/
  | hookFailed (group : String) (cause : Failure)
  /-- No importer knows the file name. -/
  | noImporter (filename : String)
  | importFailed (filename : String) (cause : Failure)
  | noFeatures (filename name : String)
  /-- The module shows what it states as its file, unless that raises an error. -/
  | factoryFailed (stated : Except RaisedError String) (name : String) (cause : Failure)
  | invalidTree (report : Report)
  | invalid (issues : List Issue)
  | comparisonFailed (scenario : String)
  /-- The stand-in for a missing callable was called. -/
  | standInCalled (key : String)
  | notIterable (owner : String)
  | notInvocable (owner : String)
  /-- A value of the given class was used as a key. -/
  | notHashable (owner : String)
  | noAttribute (owner name : String)
  /-- An attribute of a class was assigned to one of its instances. -/
  | classAttribute (owner name : String)
  | unknownHook (kind : Value)
  /-- The pattern of feature modules is none. -/
  | unsoundPattern (pattern : String) (fault : Text.PatternFault)
  | outOfRange
  | fileMissing
  | fileIsDirectory
deriving Repr, Inhabited

namespace Failure

/-- The failure of a test whose comparison refutes a scenario of the given name. -/
def ofRefuted (name : Value) : Failure :=
  match name.toText with
  | .ok text => comparisonFailed text
  | .error error => raised error

def isOrdinary : Failure → Bool
  | raised error => error.errorClass.lineage != .interrupt
  | _ => true

def isTreeError : Failure → Bool
  | raised error => error.errorClass.lineage == .tree
  | hookFailed .. | noImporter _ | importFailed .. | noFeatures .. | factoryFailed .. | invalidTree _ => true
  | _ => false

def tellsAbsence : Failure → Bool
  | raised error => error.errorClass.tellsAbsence
  | noAttribute .. | classAttribute .. => true
  | _ => false

def className : Failure → String
  | raised error => error.errorClass.name
  | hookFailed .. => "HookError"
  | noImporter _ | importFailed .. | noFeatures .. | factoryFailed .. => "FeatureModuleError"
  | invalidTree _ => "NodeSchemaError"
  | invalid _ => "ValidationError"
  | comparisonFailed _ => "AssertionError"
  | standInCalled _ | notIterable _ | notInvocable _ | notHashable _ => "TypeError"
  | noAttribute .. | classAttribute .. => "AttributeError"
  | unknownHook _ => "ValueError"
  | unsoundPattern .. => "error"
  | outOfRange => "IndexError"
  | fileMissing => "FileNotFoundError"
  | fileIsDirectory => "IsADirectoryError"

def cause? : Failure → Option Failure
  | hookFailed _ cause | importFailed _ cause | factoryFailed _ _ cause => some cause
  | _ => none

/-- The name of the class of what is behind a failure. Behind an invalid tree are its issues. -/
def causeName? : Failure → Option String
  | invalidTree _ => some "ValidationError"
  | failure => failure.cause?.map className

/-- What a failure is about, if that is known. -/
def context? : Failure → Option Context
  | noImporter filename | importFailed filename _ | noFeatures filename _ =>
    some { filename := some filename }
  | factoryFailed stated _ _ => some { filename := stated.toOption }
  | invalidTree report => some report.context
  | _ => none

def systemError? : Failure → Option (Nat × String)
  | fileMissing => some (2, "No such file or directory")
  | fileIsDirectory => some (21, "Is a directory")
  | _ => none

/-- The literal form of a failure with the given text: its class and what it was made with. -/
def literalWith (failure : Failure) (text : String) : String :=
  let arguments := match failure.systemError? with
    | some (number, reason) => toString number ++ ", " ++ Text.quote reason
    | none => Text.quote text
  failure.className ++ "(" ++ arguments ++ ")"

/-- The text of a failure, without what it is about. -/
def text : Failure → String
  | raised error => error.message
  | hookFailed group _ => "\"before\" hook of group " ++ Text.quote group ++ " failed"
  | noImporter _ => "Can not import feature module"
  | importFailed _ cause => "Can not import feature module: " ++ cause.literalWith cause.text
  | noFeatures _ name => "Feature module does not define " ++ Text.quote name
  | factoryFailed _ name cause =>
    "Can not build " ++ Text.quote name ++ ": " ++ cause.literalWith cause.text
  | invalidTree report => report.message
  | invalid issues => toString issues.length ++ " validation error(s)"
  | comparisonFailed scenario => "Comparison fail: " ++ scenario
  | standInCalled key => Text.quote key ++ " is not callable"
  | notIterable owner => "'" ++ owner ++ "' object is not iterable"
  | notInvocable owner => "'" ++ owner ++ "' object is not callable"
  | notHashable owner => "unhashable type: '" ++ owner ++ "'"
  | noAttribute owner name => "'" ++ owner ++ "' object has no attribute '" ++ name ++ "'"
  | classAttribute owner name =>
    Text.quote name ++ " is a ClassVar of `" ++ owner ++ "` and cannot be set on an instance. " ++
      "If you want to set a value on the class, use `" ++ owner ++ "." ++ name ++ " = value`."
  | unknownHook kind => "Unknown hook kind " ++ kind.literal
  | unsoundPattern pattern fault => fault.message pattern
  | outOfRange => "list index out of range"
  | fileMissing => "[Errno 2] No such file or directory"
  | fileIsDirectory => "[Errno 21] Is a directory"

def literal (failure : Failure) : String := failure.literalWith failure.text

/-- The message of a failure: its text with what it is about. The text of an unknown key is
quoted. -/
def message : Failure → String
  | raised error =>
    if error.errorClass.lineage = .unknownKey then Text.quote error.message else error.message
  | failure => formatMessage failure.text failure.context?

def tellingError? : Failure → Option RaisedError
  | factoryFailed (.error error) .. => some error
  | invalidTree report => report.context.showingError?
  | _ => none

/-- The message of a failure, or the error of telling it. -/
def told (failure : Failure) : Except RaisedError String :=
  match failure.tellingError? with
  | some error => .error error
  | none => .ok failure.message

end Failure

end ScenarioTree
