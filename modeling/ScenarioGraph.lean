import ScenarioGraph.Name
import ScenarioGraph.Condition
import ScenarioGraph.Graph.Basic
import ScenarioGraph.Graph.Error
import ScenarioGraph.Graph.Declaration
import ScenarioGraph.Walk.Trail
import ScenarioGraph.Walk.Cycle
import ScenarioGraph.Walk.Loop
import ScenarioGraph.Scenario
import ScenarioGraph.Plan.Step
import ScenarioGraph.Plan.Suite
import ScenarioGraph.Run.Outcome
import ScenarioGraph.Run.Execution
import ScenarioGraph.Run.Script
import ScenarioGraph.Text.Digit
import ScenarioGraph.Text.Scan
import ScenarioGraph.Text.Hidden
import ScenarioGraph.Text.Quoted
import ScenarioGraph.Inspect
import ScenarioGraph.Json.Value
import ScenarioGraph.Json.Equality
import ScenarioGraph.Json.Printer
import ScenarioGraph.Json.Cursor
import ScenarioGraph.Json.Reader
import ScenarioGraph.Decimal.Shortest
import ScenarioGraph.Decimal.Padded
import ScenarioGraph.Decimal.Overflow
import ScenarioGraph.Document.Basic
import ScenarioGraph.Document.Writer
import ScenarioGraph.Document.Shape
import ScenarioGraph.Document.Reader
import ScenarioGraph.Document.Parser
import ScenarioGraph.Document.Graph
import ScenarioGraph.Toml.Value
import ScenarioGraph.Toml.Scalar
import ScenarioGraph.Toml.Text
import ScenarioGraph.Toml.Reader
import ScenarioGraph.Settings
import ScenarioGraph.Schema
import ScenarioGraph.Document.Schema
import ScenarioGraph.Report.Plan
import ScenarioGraph.Report.Run
import ScenarioGraph.CommandLine.Files
import ScenarioGraph.CommandLine.Arguments
import ScenarioGraph.CommandLine.Answer
import ScenarioGraph.CommandLine.Run
import ScenarioGraph.Main
import ScenarioGraph.Proofs.Graph.Soundness
import ScenarioGraph.Proofs.Graph.WellFormed
import ScenarioGraph.Proofs.Graph.Rearrangement
import ScenarioGraph.Proofs.Graph.Validity
import ScenarioGraph.Proofs.Graph.Representation
import ScenarioGraph.Proofs.Walk.Consecutive
import ScenarioGraph.Proofs.Walk.Fork
import ScenarioGraph.Proofs.Walk.Trail
import ScenarioGraph.Proofs.Walk.Cycle
import ScenarioGraph.Proofs.Walk.Loop
import ScenarioGraph.Proofs.Walk.Period
import ScenarioGraph.Proofs.Walk.Selection
import ScenarioGraph.Proofs.Scenario.Sequence
import ScenarioGraph.Proofs.Scenario.Coverage
import ScenarioGraph.Proofs.Scenario.Expansion
import ScenarioGraph.Proofs.Plan.Step
import ScenarioGraph.Proofs.Plan.Ambiguity
import ScenarioGraph.Proofs.Run.Abort
import ScenarioGraph.Proofs.Plan.FirstAmbiguity
import ScenarioGraph.Proofs.Plan.Label
import ScenarioGraph.Proofs.Document.Reading
import ScenarioGraph.Proofs.Document.Parsing
import ScenarioGraph.Proofs.Document.RoundTrip
import ScenarioGraph.Proofs.Document.Structure
import ScenarioGraph.Proofs.Document.Labels
import ScenarioGraph.Proofs.Document.Agreement
import ScenarioGraph.Proofs.Json.Order
import ScenarioGraph.Proofs.Document.Rules
import ScenarioGraph.Proofs.Document.Validity
import ScenarioGraph.Proofs.CommandLine.Loading
import ScenarioGraph.Proofs.Scenario.Reachability
import ScenarioGraph.Proofs.Scenario.Acyclic
import ScenarioGraph.Proofs.Scenario.CycleCount
import ScenarioGraph.Proofs.Scenario.Naming
import ScenarioGraph.Proofs.Scenario.PlainName
import ScenarioGraph.Proofs.Run.Bracket
import ScenarioGraph.Proofs.Plan.Lookup
import ScenarioGraph.Proofs.Plan.Numbering
import ScenarioGraph.Proofs.Run.Failure
import ScenarioGraph.Proofs.Run.Origin
import ScenarioGraph.Proofs.Run.Independence
import ScenarioGraph.Proofs.CommandLine.Invocation
import ScenarioGraph.Proofs.CommandLine.Quiet
import ScenarioGraph.Proofs.CommandLine.Consistency
import ScenarioGraph.Proofs.Condition.Meaning
import ScenarioGraph.Proofs.Condition.Relevance
import ScenarioGraph.Proofs.Plan.Causality
