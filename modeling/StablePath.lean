import StablePath.CharSet
import StablePath.Text.Basic
import StablePath.Unicode.CaseFold
import StablePath.Unicode.Category
import StablePath.Unicode.Property
import StablePath.Unicode.Runs
import StablePath.Unicode.Script
import StablePath.Unicode.Lookup
import StablePath.Unicode.Utf8
import StablePath.Pattern.Term
import StablePath.Pattern.Match
import StablePath.Pattern.Class
import StablePath.Pattern.Reader
import StablePath.Pattern
import StablePath.Fault
import StablePath.Rule
import StablePath.Rule.Builtin
import StablePath.Toml.Quoted
import StablePath.Toml.Reader
import StablePath.Config.Basic
import StablePath.Config.Reader
import StablePath.CommandLine.Arguments
import StablePath.CommandLine.Report
import StablePath.CommandLine.Run
import StablePath.Main
import StablePath.Proofs.Pattern.Preference
import StablePath.Proofs.Pattern.Brackets
import StablePath.Proofs.Pattern.Order
import StablePath.Proofs.Rule.Overwriting
import StablePath.Proofs.Pattern.Hit
import StablePath.Proofs.Pattern.Denotation
import StablePath.Proofs.Pattern.Listing
import StablePath.Proofs.Rule.Sweep
import StablePath.Proofs.Rule.HexRun
import StablePath.Proofs.Builtin.ContainerId
import StablePath.Proofs.Builtin.Passes
import StablePath.Proofs.Builtin.Survivors
import StablePath.Proofs.Builtin.Segments
import StablePath.Proofs.Builtin.IdRuns
import StablePath.Proofs.Builtin.Untouched
import StablePath.Proofs.Builtin.Numbers
import StablePath.Proofs.Builtin.Repetition
import StablePath.Proofs.Rule.Composition
import StablePath.Proofs.Rule.Slices
import StablePath.Proofs.Builtin.FastPaths
import StablePath.Proofs.Builtin.Shape
import StablePath.Proofs.Builtin.Observer
import StablePath.Proofs.Toml.Strings
import StablePath.Proofs.Toml.Values
import StablePath.Proofs.Toml.Documents
import StablePath.Proofs.Config.Layers
import StablePath.Proofs.Config.Description
import StablePath.Proofs.Config.Reading
import StablePath.Proofs.Config.Writing
import StablePath.Proofs.Files.Ancestors
import StablePath.Proofs.Files.Location
import StablePath.Proofs.Config.Discovery
import StablePath.Proofs.Config.SameFile
import StablePath.Proofs.Rule.Pieces
import StablePath.Proofs.Builtin.Inside
import StablePath.Proofs.Builtin.Swap
import StablePath.Proofs.Builtin.SwapInside
import StablePath.Proofs.Builtin.OneComponent
import StablePath.Proofs.Builtin.Interchange
import StablePath.Proofs.Builtin.IdScan
import StablePath.Proofs.Builtin.Cgroups
import StablePath.Proofs.Rule.Commuting
import StablePath.Proofs.Builtin.Reordering
import StablePath.Proofs.CommandLine.Validation
import StablePath.Proofs.Text.Lines
import StablePath.Proofs.CommandLine.Streams
