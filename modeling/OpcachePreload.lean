import OpcachePreload.Main
import OpcachePreload.Proofs.Action
import OpcachePreload.Proofs.Action.Find
import OpcachePreload.Proofs.Action.Frame
import OpcachePreload.Proofs.Action.Write
import OpcachePreload.Proofs.Builder.Failure
import OpcachePreload.Proofs.Builder.History
import OpcachePreload.Proofs.Builder.Matching
import OpcachePreload.Proofs.Builder.Offer
import OpcachePreload.Proofs.Builder.Run
import OpcachePreload.Proofs.ClassMap.Autoload
import OpcachePreload.Proofs.ClassMap.Flat
import OpcachePreload.Proofs.ClassMap.Load
import OpcachePreload.Proofs.ClassName
import OpcachePreload.Proofs.Command.Check
import OpcachePreload.Proofs.Command.Configuration
import OpcachePreload.Proofs.Command.Outcome
import OpcachePreload.Proofs.Command.Target
import OpcachePreload.Proofs.CommandLine.Diagnosis
import OpcachePreload.Proofs.CommandLine.Directory
import OpcachePreload.Proofs.CommandLine.Frame
import OpcachePreload.Proofs.CommandLine.Interleaving
import OpcachePreload.Proofs.CommandLine.Run
import OpcachePreload.Proofs.Environment
import OpcachePreload.Proofs.Environment.Path
import OpcachePreload.Proofs.FileTree.Change
import OpcachePreload.Proofs.FileTree.Copy
import OpcachePreload.Proofs.FileTree.Listing
import OpcachePreload.Proofs.FileTree.Way
import OpcachePreload.Proofs.Glob.Found
import OpcachePreload.Proofs.Glob.Parallel
import OpcachePreload.Proofs.Json.Complete
import OpcachePreload.Proofs.Json.Sound
import OpcachePreload.Proofs.Json.Written
import OpcachePreload.Proofs.Manifest.File
import OpcachePreload.Proofs.Manifest.Shape
import OpcachePreload.Proofs.Manifest.Text
import OpcachePreload.Proofs.Module.Load
import OpcachePreload.Proofs.Module.Loads
import OpcachePreload.Proofs.Module.Memory
import OpcachePreload.Proofs.Module.Name
import OpcachePreload.Proofs.Module.Sources
import OpcachePreload.Proofs.OrderedMap
import OpcachePreload.Proofs.Path.Text
import OpcachePreload.Proofs.Pattern.Covering
import OpcachePreload.Proofs.Pattern.Literal
import OpcachePreload.Proofs.Pattern.Reading
import OpcachePreload.Proofs.Pattern.Search
import OpcachePreload.Proofs.Pattern.Taking
import OpcachePreload.Proofs.Probe
import OpcachePreload.Proofs.Project.Frame
import OpcachePreload.Proofs.Project.Replay
import OpcachePreload.Proofs.Replay.Again
import OpcachePreload.Proofs.Replay.Calls
import OpcachePreload.Proofs.Replay.Script
import OpcachePreload.Proofs.Replay.Steps
import OpcachePreload.Proofs.Script.Text
import OpcachePreload.Proofs.Settings.Abort
import OpcachePreload.Proofs.Settings.Accepted
import OpcachePreload.Proofs.Settings.Build
import OpcachePreload.Proofs.Settings.Environment
import OpcachePreload.Proofs.Settings.Escape
import OpcachePreload.Proofs.Settings.Expand
import OpcachePreload.Proofs.Settings.Expansion
import OpcachePreload.Proofs.Settings.Load
import OpcachePreload.Proofs.Settings.Parallel
import OpcachePreload.Proofs.Settings.Read
import OpcachePreload.Proofs.Text.Blur
import OpcachePreload.Proofs.Text.Latin1
import OpcachePreload.Proofs.Text.Run
import OpcachePreload.Proofs.Text.Utf8
import OpcachePreload.Proofs.Usage.Import
import OpcachePreload.Proofs.Usage.Legacy
import OpcachePreload.Proofs.Usage.Scanner
import OpcachePreload.Proofs.Yaml.Document
import OpcachePreload.Proofs.Yaml.Node
import OpcachePreload.Proofs.Yaml.Scalar
import OpcachePreload.Proofs.Yaml.Token
import OpcachePreload.Proofs.Yaml.TokenList
