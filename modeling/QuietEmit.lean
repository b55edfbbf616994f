import QuietEmit.Diagnostic.Json
import QuietEmit.Main
import QuietEmit.Proofs.Specifier.Decoding
import QuietEmit.Proofs.Path.Components
import QuietEmit.Proofs.Path.Extension
import QuietEmit.Proofs.Watch.Trace
import QuietEmit.Proofs.Path.Join
import QuietEmit.Proofs.Project.Inputs
import QuietEmit.Proofs.Program.Attempts
import QuietEmit.Proofs.Program.Accounts
import QuietEmit.Proofs.Program.Destinations
import QuietEmit.Proofs.Program.Overwriting
import QuietEmit.Proofs.Program.Passes
import QuietEmit.Proofs.CommandLine.Run
import QuietEmit.Proofs.Watch.Cycle
import QuietEmit.Proofs.Watch.Live
import QuietEmit.Proofs.Watch.Filter
import QuietEmit.Proofs.Json.Comments
import QuietEmit.Proofs.Project.Text
import QuietEmit.Proofs.FileTree.Location
import QuietEmit.Proofs.FileTree.WellFormed
import QuietEmit.Proofs.FileTree.Writing
import QuietEmit.Proofs.Program.Reload
import QuietEmit.Proofs.Watch.Delivery
import QuietEmit.Proofs.Program.Printed
import QuietEmit.Proofs.Specifier.Inside
import QuietEmit.Proofs.Specifier.Outside
import QuietEmit.Proofs.CommandLine.Outcome
import QuietEmit.Proofs.Settings.Layers
import QuietEmit.Proofs.Settings.Environment
import QuietEmit.Proofs.Settings.Given
import QuietEmit.Proofs.Settings.Decoding
import QuietEmit.Proofs.Settings.Loading
import QuietEmit.Proofs.Project.Selection
import QuietEmit.Proofs.Project.Directory
import QuietEmit.Proofs.Project.Hidden
import QuietEmit.Proofs.Project.Order
import QuietEmit.Proofs.Json.Reached
import QuietEmit.Proofs.Diagnostic.Position
import QuietEmit.Proofs.Project.Refusal
import QuietEmit.Proofs.Project.Loaded
import QuietEmit.Proofs.Settings.Redirection
import QuietEmit.Proofs.Program.Layout
import QuietEmit.Proofs.Settings.File
import QuietEmit.Proofs.Syntax.StringGrammar
import QuietEmit.Proofs.Settings.Rules
import QuietEmit.Proofs.Specifier.Shortcut
import QuietEmit.Proofs.Specifier.Repetition
import QuietEmit.Proofs.Program.Rejections
import QuietEmit.Proofs.Diagnostic.Color
import QuietEmit.Proofs.Watch.BelowRoot
import QuietEmit.Proofs.Json.Members
import QuietEmit.Proofs.Settings.Context
import QuietEmit.Proofs.Json.Records
import QuietEmit.Proofs.Settings.Written
