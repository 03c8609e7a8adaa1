import SynthGraph.Main
import SynthGraph.Proofs.Graph.Edit
import SynthGraph.Proofs.Graph.Exposure
import SynthGraph.Proofs.Graph.Parallel
import SynthGraph.Proofs.Graph.Operation
import SynthGraph.Proofs.Graph.ConstantPool
import SynthGraph.Proofs.Graph.Growth
import SynthGraph.Proofs.Graph.Dag
import SynthGraph.Proofs.Graph.Addressing
import SynthGraph.Proofs.Graph.Interning
import SynthGraph.Proofs.Graph.Acceptance
import SynthGraph.Proofs.Graph.ConstantKey
import SynthGraph.Proofs.Number.Exact
import SynthGraph.Proofs.Number.Monotone
import SynthGraph.Proofs.Number.Nearest
import SynthGraph.Proofs.Number.Overflow
import SynthGraph.Proofs.Number.Order
import SynthGraph.Proofs.Number.Value
import SynthGraph.Proofs.Number.Single
import SynthGraph.Proofs.Number.Places
import SynthGraph.Proofs.Binary.Reader
import SynthGraph.Proofs.File.Legal
import SynthGraph.Proofs.File.Decode
import SynthGraph.Proofs.File.Size
import SynthGraph.Proofs.File.Declared
import SynthGraph.Proofs.File.Bundle
import SynthGraph.Proofs.File.Layout
import SynthGraph.Proofs.File.Literals
import SynthGraph.Proofs.Schema.Ensures
import SynthGraph.Proofs.Schema.Accepts
import SynthGraph.Proofs.Generator.Language
import SynthGraph.Proofs.Graph.Signal
import SynthGraph.Proofs.Generator.Signals
import SynthGraph.Proofs.Generator.Wiring
import SynthGraph.Proofs.Generator.Build
import SynthGraph.Proofs.Generator.Validity
import SynthGraph.Proofs.Generator.Limits
import SynthGraph.Proofs.Generator.Acceptance
import SynthGraph.Proofs.Generator.Reachable
import SynthGraph.Proofs.Generator.Counts
import SynthGraph.Proofs.Generator.Parameters
import SynthGraph.Proofs.Generator.Defaults
import SynthGraph.Proofs.Graph.Declaring
import SynthGraph.Proofs.Graph.Lifetime
import SynthGraph.Proofs.Graph.Evaluation
import SynthGraph.Proofs.Generator.OutputNodes
import SynthGraph.Proofs.Generator.OutputStage
import SynthGraph.Proofs.Files.Entries
import SynthGraph.Proofs.Files.Storing
import SynthGraph.Proofs.Files.Locations
import SynthGraph.Proofs.Output.Building
import SynthGraph.Proofs.Output.Targets
import SynthGraph.Proofs.Output.Writing
import SynthGraph.Proofs.Output.Failing
import SynthGraph.Proofs.Output.Written
import SynthGraph.Proofs.Output.Apart
import SynthGraph.Proofs.Output.Bundle
import SynthGraph.Proofs.Session.Records
import SynthGraph.Proofs.Output.Reporting
import SynthGraph.Proofs.Output.BundleName
import SynthGraph.Proofs.Output.Confined
import SynthGraph.Proofs.Binary.Calls
import SynthGraph.Proofs.Generator.Contribution
import SynthGraph.Proofs.Generator.Exposed
import SynthGraph.Proofs.Generator.Liveness
import SynthGraph.Proofs.Generator.Rates
import SynthGraph.Proofs.Generator.Selection
import SynthGraph.Proofs.Graph.Atomic
import SynthGraph.Proofs.Text.Plain
import SynthGraph.Proofs.Session.LogDirectory
import SynthGraph.Proofs.Session.Panel
import SynthGraph.Proofs.Output.FirstFile
import SynthGraph.Proofs.CommandLine.Generate
