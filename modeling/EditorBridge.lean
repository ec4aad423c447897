import EditorBridge.Main
import EditorBridge.Proofs.Compile.CommandLine
import EditorBridge.Proofs.Compile.Detached
import EditorBridge.Proofs.Compile.MissingCompiler
import EditorBridge.Proofs.Compile.Pool
import EditorBridge.Proofs.Detection
import EditorBridge.Proofs.Documents.EditorText
import EditorBridge.Proofs.EntryPoints
import EditorBridge.Proofs.Hover.Word
import EditorBridge.Proofs.Launching
import EditorBridge.Proofs.Server.CommandSettings
import EditorBridge.Proofs.Server.Hover
import EditorBridge.Proofs.Server.Notifications
import EditorBridge.Proofs.Server.Separation
import EditorBridge.Proofs.Settings.Merging
import EditorBridge.Proofs.Settings.Precedence
import EditorBridge.Proofs.Path.Normal
import EditorBridge.Proofs.Compile.Rebuilding
import EditorBridge.Proofs.Documents.History
import EditorBridge.Proofs.Hover.LineEnds
import EditorBridge.Proofs.Server.Counting
import EditorBridge.Proofs.Path.ZExtension
import EditorBridge.Proofs.Compile.Account
import EditorBridge.Proofs.CommandLine.ExitCode
