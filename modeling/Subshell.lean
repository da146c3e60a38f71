import Subshell.Command.Loose
import Subshell.Command.Schema
import Subshell.Main
import Subshell.Proofs.Balance
import Subshell.Proofs.Checked
import Subshell.Proofs.Composition
import Subshell.Proofs.Concatenation
import Subshell.Proofs.Depth
import Subshell.Proofs.Dispatches
import Subshell.Proofs.Framing
import Subshell.Proofs.Insertion
import Subshell.Proofs.Limit
import Subshell.Proofs.Patience
import Subshell.Proofs.Progress
import Subshell.Proofs.Registering
import Subshell.Proofs.Rewriting
import Subshell.Proofs.Scan
import Subshell.Proofs.Sharing
import Subshell.Proofs.ShortestSource
import Subshell.Proofs.Standard
import Subshell.Proofs.Suppression
import Subshell.Proofs.Surfacing
import Subshell.Proofs.Wrapping
import Subshell.Script.Callback
import Subshell.Script.Command
import Subshell.Proofs.Layers
import Subshell.Proofs.Numeral
import Subshell.Proofs.Validation
import Subshell.Proofs.Reporting
import Subshell.Proofs.Session
