import ScenarioTree.Collection
import ScenarioTree.CommandLine.Answer
import ScenarioTree.CommandLine.Basic
import ScenarioTree.CommandLine.Paths
import ScenarioTree.CommandLine.Request
import ScenarioTree.Decimal.Notation
import ScenarioTree.Decimal.Shortest
import ScenarioTree.Declaration.Basic
import ScenarioTree.Declaration.Observed
import ScenarioTree.Declaration.Recorder
import ScenarioTree.Declaration.Trial
import ScenarioTree.Expansion
import ScenarioTree.Failure
import ScenarioTree.Json.Basic
import ScenarioTree.Json.Reader
import ScenarioTree.Json.Writer
import ScenarioTree.Main
import ScenarioTree.ModuleFile
import ScenarioTree.Node
import ScenarioTree.Plain
import ScenarioTree.Proofs.Expansion.Answers
import ScenarioTree.Proofs.Expansion.Meaning
import ScenarioTree.Proofs.Expansion.Refinement
import ScenarioTree.Proofs.Fallible
import ScenarioTree.Proofs.Schema.BuiltNodes
import ScenarioTree.Schema.Assignment
import ScenarioTree.Schema.Build
import ScenarioTree.Schema.Field
import ScenarioTree.Schema.Issue
import ScenarioTree.Schema.Kind
import ScenarioTree.Schema.Location
import ScenarioTree.Schema.Relaxed
import ScenarioTree.Schema.Report
import ScenarioTree.Schema.Strict
import ScenarioTree.Schema.Validated
import ScenarioTree.Script.Basic
import ScenarioTree.Script.Reader
import ScenarioTree.Session
import ScenarioTree.Settings
import ScenarioTree.Text.Base64
import ScenarioTree.Text.Lines
import ScenarioTree.Text.Pattern
import ScenarioTree.Text.Printable
import ScenarioTree.Text.Quoted
import ScenarioTree.Text.Similar
import ScenarioTree.Value.Basic
import ScenarioTree.Value.Mapping
import ScenarioTree.Value.Mask
import ScenarioTree.Value.Text
import ScenarioTree.Value.Written
import ScenarioTree.World
import ScenarioTree.Yaml.Block
import ScenarioTree.Yaml.Cursor
import ScenarioTree.Yaml.Implicit
import ScenarioTree.Yaml.Scalar
import ScenarioTree.Proofs.Trial.Activation
import ScenarioTree.Proofs.Trial.FailedHooks
import ScenarioTree.Proofs.Schema.Fields
import ScenarioTree.Proofs.Schema.Grammar
import ScenarioTree.Proofs.Schema.Acceptance
import ScenarioTree.Proofs.Schema.Adaptation
import ScenarioTree.Proofs.Schema.Agreement
import ScenarioTree.Proofs.Schema.Concatenation
import ScenarioTree.Proofs.Schema.Origin
import ScenarioTree.Proofs.Schema.Respelling
import ScenarioTree.Proofs.Schema.Spelling
import ScenarioTree.Proofs.Expansion.Composition
import ScenarioTree.Proofs.Expansion.Course
import ScenarioTree.Proofs.Expansion.Interruption
import ScenarioTree.Proofs.Expansion.Rebuilding
import ScenarioTree.Proofs.Expansion.Respelling
import ScenarioTree.Proofs.Expansion.Safety
import ScenarioTree.Proofs.Trial.Agenda
import ScenarioTree.Proofs.Trial.Execution
import ScenarioTree.Proofs.Trial.HookCalls
import ScenarioTree.Proofs.Trial.Verdicts
import ScenarioTree.Proofs.Declaration.Views
import ScenarioTree.Proofs.Expansion.Naming
import ScenarioTree.Proofs.Schema.Scenarios
import ScenarioTree.Proofs.Schema.KeptScenarios
import ScenarioTree.Proofs.Schema.Discrimination
import ScenarioTree.Proofs.Schema.UsedEntries
import ScenarioTree.Proofs.Schema.Issues
import ScenarioTree.Proofs.Schema.Blame
import ScenarioTree.Proofs.Schema.ReportedPlace
import ScenarioTree.Proofs.Schema.LocatedPath
import ScenarioTree.Proofs.Schema.LocationText
import ScenarioTree.Proofs.Schema.KeptParents
import ScenarioTree.Proofs.Schema.WrittenOut
import ScenarioTree.Proofs.Schema.Accounting
import ScenarioTree.Proofs.Schema.OffendingKeys
import ScenarioTree.Proofs.Schema.Relisting
import ScenarioTree.Proofs.Schema.SequenceTypes
import ScenarioTree.Proofs.Expansion.KeptScenarios
import ScenarioTree.Proofs.CommandLine.Inspection
import ScenarioTree.Proofs.Trial.IncompleteScenarios
import ScenarioTree.Proofs.Value.Masking
import ScenarioTree.Proofs.Trial.ScenarioOutcome
import ScenarioTree.Proofs.Declaration.Programs
import ScenarioTree.Proofs.Declaration.Links
import ScenarioTree.Proofs.Declaration.LinkedTree
import ScenarioTree.Proofs.CommandLine.Views
import ScenarioTree.Proofs.Schema.Obstacles
