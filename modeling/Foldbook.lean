import Foldbook.Main
import Foldbook.Proofs.Order
import Foldbook.Proofs.Rewriting
import Foldbook.Proofs.Stale
import Foldbook.Proofs.Template.Replacement
import Foldbook.Proofs.Template.Settling
import Foldbook.Proofs.Template.Passes
import Foldbook.Proofs.Contents.Basic
import Foldbook.Proofs.Contents.Evaluation
import Foldbook.Proofs.Asks
import Foldbook.Proofs.Course.Basic
import Foldbook.Proofs.Course.Run
import Foldbook.Proofs.Course.Echo
import Foldbook.Proofs.Course.Failures
import Foldbook.Proofs.Keeping
import Foldbook.Proofs.Environment.Opening
import Foldbook.Proofs.Substitution
import Foldbook.Proofs.Template.Dividing
import Foldbook.Proofs.Environment.Changing
import Foldbook.Proofs.Unrolling.Loop
import Foldbook.Proofs.Composition
import Foldbook.Proofs.Remote.Pool
import Foldbook.Proofs.Remote.Usage
import Foldbook.Proofs.Remote.Contacts
import Foldbook.Proofs.Remote.Traffic
import Foldbook.Proofs.Remote.Accounts
import Foldbook.Proofs.Remote.Operations
import Foldbook.Proofs.Remote.Route
import Foldbook.Proofs.Remote.Tracking
import Foldbook.Proofs.Ending
import Foldbook.Proofs.Nesting
import Foldbook.Proofs.FlatLoop.Rewriting
import Foldbook.Proofs.Collecting
import Foldbook.Proofs.Course.Described
import Foldbook.Proofs.Course.Sending
import Foldbook.Proofs.Remote.Command
import Foldbook.Proofs.Classification
import Foldbook.Proofs.Authorization
import Foldbook.Proofs.Remote.Closing
import Foldbook.Proofs.Settings
import Foldbook.Proofs.Course.Outside
import Foldbook.Proofs.Ledger.Layout
