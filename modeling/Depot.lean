import Depot.Build.Server
import Depot.Build.Store
import Depot.Command.Group
import Depot.Config.File
import Depot.Glob
import Depot.Main
import Depot.Proofs.Build.Confinement
import Depot.Proofs.Build.Damage
import Depot.Proofs.Build.Document
import Depot.Proofs.Build.Isolation
import Depot.Proofs.Build.Reading
import Depot.Proofs.Build.Recording
import Depot.Proofs.Build.Removal
import Depot.Proofs.Build.Simulation
import Depot.Proofs.Build.Wildcards
import Depot.Proofs.Build.Withholding
import Depot.Proofs.Command.Completion
import Depot.Proofs.Command.Damage
import Depot.Proofs.Command.Failures
import Depot.Proofs.Command.Interleaving
import Depot.Proofs.Command.Publish
import Depot.Proofs.Command.Query
import Depot.Proofs.Command.Specs
import Depot.Proofs.Command.Steps
import Depot.Proofs.Command.Telling
import Depot.Proofs.Config.Refusals
import Depot.Proofs.Config.RoundTrip
import Depot.Proofs.Console.Ink
import Depot.Proofs.Console.Lines
import Depot.Proofs.Console.Markup
import Depot.Proofs.Files.Changes
import Depot.Proofs.Files.Paths
import Depot.Proofs.Files.Tree
import Depot.Proofs.Glob
import Depot.Proofs.Json.Doubles
import Depot.Proofs.Json.Layouts
import Depot.Proofs.Json.Limits
import Depot.Proofs.Json.Members
import Depot.Proofs.Json.Parts
import Depot.Proofs.Json.Places
import Depot.Proofs.Json.Printing
import Depot.Proofs.Json.Reading
import Depot.Proofs.Json.RoundTrip
import Depot.Proofs.Json.Spelling
import Depot.Proofs.Json.Strings
import Depot.Proofs.Results
import Depot.Proofs.Search.Decomposition
import Depot.Proofs.Search.Depth
import Depot.Proofs.Search.Enumeration
import Depot.Proofs.Search.Files
import Depot.Proofs.Search.Folders
import Depot.Proofs.Search.Paths
import Depot.Proofs.Search.Properties
import Depot.Proofs.Search.Rendering
import Depot.Proofs.Search.Root
import Depot.Proofs.Spec.Compilation
import Depot.Proofs.Spec.Elements
import Depot.Proofs.Spec.Grammar
import Depot.Proofs.Spec.Kinds
import Depot.Proofs.Spec.Parentheses
import Depot.Proofs.Spec.RawBodies
import Depot.Proofs.Spec.Refusals
import Depot.Proofs.Text.Case
import Depot.Proofs.Text.Halves
import Depot.Proofs.Text.Numbers
import Depot.Proofs.Text.Percent
import Depot.Proofs.Text.Quoted
import Depot.Proofs.Text.Utf8
import Depot.Proofs.Toml.Documents
import Depot.Proofs.Toml.Values
import Depot.Spec.Document
