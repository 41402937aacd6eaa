import StepFlow.Document
import StepFlow.Document.Json
import StepFlow.Document.Yaml
import StepFlow.Document.Yaml.Parser
import StepFlow.Document.Yaml.Word
import StepFlow.Engine
import StepFlow.Engine.Requests
import StepFlow.Engine.Script
import StepFlow.Execution
import StepFlow.Execution.Attempts
import StepFlow.Execution.Context
import StepFlow.Execution.Format
import StepFlow.Execution.Host
import StepFlow.Execution.Route
import StepFlow.Execution.Run
import StepFlow.Expression.Error
import StepFlow.Expression.Eval
import StepFlow.Expression.Lexer
import StepFlow.Expression.Parser
import StepFlow.Expression.Token
import StepFlow.Expression.Tree
import StepFlow.Fault
import StepFlow.Human
import StepFlow.Instant
import StepFlow.Number.Double
import StepFlow.Number.Layout
import StepFlow.Number.Power
import StepFlow.Number.Shortest
import StepFlow.Pattern
import StepFlow.Pattern.Parser
import StepFlow.Pipeline
import StepFlow.Pipeline.Builder
import StepFlow.Pipeline.Format
import StepFlow.Pipeline.Load
import StepFlow.Pipeline.Patch
import StepFlow.Pipeline.Validation
import StepFlow.Proofs.Execution.Life
import StepFlow.Proofs.Execution.Transitions
import StepFlow.Proofs.Expression.Grammar
import StepFlow.Proofs.Expression.Recognition
import StepFlow.Settings
import StepFlow.Step
import StepFlow.Step.Format
import StepFlow.Store
import StepFlow.Store.Memory
import StepFlow.Store.Rows
import StepFlow.Table
import StepFlow.Text.Occurrence
import StepFlow.Text.Quoted
import StepFlow.Tool
import StepFlow.Tool.Format
import StepFlow.Tool.Registry
import StepFlow.Unicode.Blank
import StepFlow.Unicode.CaseFolding
import StepFlow.Unicode.Category
import StepFlow.Unicode.CodeSet
import StepFlow.Unicode.Letter
import StepFlow.Unicode.LowerCase
import StepFlow.Unicode.Printable
import StepFlow.Unicode.Property
import StepFlow.Unicode.Script
import StepFlow.Value
import StepFlow.Value.Path
import StepFlow.Value.Record
import StepFlow.Value.Text
import StepFlow.Proofs.Execution.Coherence
import StepFlow.Proofs.Execution.Safety
import StepFlow.Proofs.Store.Equivalence
import StepFlow.Proofs.Engine.Lives
import StepFlow.Proofs.Document.Records
import StepFlow.Proofs.Pipeline.Formats
import StepFlow.Proofs.Execution.Turns
import StepFlow.Proofs.Execution.Termination
import StepFlow.Proofs.Execution.Visits
import StepFlow.Proofs.Expression.Paths
import StepFlow.Proofs.Execution.Gates
import StepFlow.Proofs.Execution.Strictness
import StepFlow.Proofs.Execution.Chronicle
import StepFlow.Proofs.Engine.Custody
import StepFlow.Proofs.Engine.Hooks
import StepFlow.Proofs.Engine.Registry
import StepFlow.Proofs.Execution.Traces
import StepFlow.Proofs.Engine.Protocol
import StepFlow.Proofs.Execution.Walks
import StepFlow.Proofs.Store.Imports
import StepFlow.Proofs.Execution.Calls
import StepFlow.Proofs.Execution.Cancellation
import StepFlow.Proofs.Engine.Moments
import StepFlow.Proofs.Engine.Cancellation
import StepFlow.Proofs.Document.Texts
import StepFlow.Proofs.Pipeline.Readings
import StepFlow.Proofs.Store.Keys
import StepFlow.Proofs.Execution.Journal
import StepFlow.Proofs.Execution.History
import StepFlow.Proofs.Execution.Rejections
import StepFlow.Proofs.Store.Search
import StepFlow.Proofs.Execution.Successors
import StepFlow.Proofs.Number.Integers
import StepFlow.Proofs.Expression.Comparisons
import StepFlow.Proofs.Execution.Agreement
import StepFlow.Proofs.Execution.Simulation
import StepFlow.Proofs.Engine.Files
import StepFlow.Proofs.Engine.Independence
import StepFlow.Proofs.Pipeline.Acceptance
import StepFlow.Proofs.Execution.Retries
import StepFlow.Proofs.Execution.Interruptions
import StepFlow.Proofs.Pipeline.Patches
import StepFlow.Proofs.Store.Slots
import StepFlow.Proofs.Store.Races
import StepFlow.Proofs.Store.Interleavings
import StepFlow.Proofs.Expression.Failures
import StepFlow.Proofs.Expression.Connectives
import StepFlow.Proofs.Execution.Routes
import StepFlow.Proofs.Pipeline.Building
import StepFlow.Proofs.Store.Histories
import StepFlow.Proofs.Execution.Parameters
import StepFlow.Proofs.Execution.Chains
import StepFlow.Proofs.Expression.Characters
import StepFlow.Proofs.Expression.Lexemes
import StepFlow.Proofs.Value.Paths
import StepFlow.Proofs.Expression.Lookups
import StepFlow.Proofs.Expression.Literals
import StepFlow.Proofs.Expression.Outcomes
import StepFlow.Proofs.Expression.Spacing
import StepFlow.Proofs.Execution.Formats
import StepFlow.Proofs.Expression.Indices
