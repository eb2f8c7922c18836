import Scaffold.Text.Octets
import Scaffold.Rpc.Parser
import Scaffold.Disk.Edit
import Scaffold.Operation.Perform
import Scaffold.Status
import Scaffold.Config.File
import Scaffold.Url.Basic
import Scaffold.Config.Resolve
import Scaffold.CommandLine.Render
import Scaffold.Log.Filter
import Scaffold.CommandLine.Run
import Scaffold.Shell.System
import Scaffold.Main
import Scaffold.Proofs.Operation.Identity
import Scaffold.Proofs.Rpc.Decision
import Scaffold.Proofs.Text.Words
import Scaffold.Proofs.Field.Forms
import Scaffold.Proofs.Field.Grammar
import Scaffold.Proofs.Field.Strict
import Scaffold.Proofs.Field.Concatenation
import Scaffold.Proofs.Operation.Strict
import Scaffold.Proofs.Artifact.FileName
import Scaffold.Proofs.Text.Case
import Scaffold.Proofs.Artifact.Site
import Scaffold.Proofs.Artifact.Mirror
import Scaffold.Proofs.Operation.Toolchain
import Scaffold.Proofs.Operation.Lifecycle
import Scaffold.Proofs.Artifact.Listing
import Scaffold.Proofs.Artifact.Lookup
import Scaffold.Proofs.Config.Layers
import Scaffold.Proofs.Http.Template
import Scaffold.Proofs.Artifact.Count
import Scaffold.Proofs.CommandLine.Outcome
import Scaffold.Proofs.Config.Anchor
import Scaffold.Proofs.Config.Keys
import Scaffold.Proofs.Operation.Vetted
import Scaffold.Proofs.CommandLine.Writing
import Scaffold.Proofs.Log.Verbose
