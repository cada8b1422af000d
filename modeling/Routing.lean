import Routing.Session.Command
import Routing.Session.Edit
import Routing.Proofs.Pattern.Grammar
import Routing.Proofs.Pattern.Matching
import Routing.Proofs.Pattern.Faults
import Routing.Proofs.Pattern.Unions
import Routing.Proofs.Pattern.Formats
import Routing.Proofs.Pattern.Arity
import Routing.Proofs.Session.History
import Routing.Proofs.Router.AllowedMethods
import Routing.Proofs.Router.Reordering
import Routing.Proofs.Router.Shadowing
import Routing.Proofs.Chain.Onion
import Routing.Proofs.Dispatch.Composition
import Routing.Proofs.Chain.Bodies
import Routing.Proofs.Chain.Tracing
import Routing.Proofs.Dispatch.Chunking
import Routing.Proofs.Dispatch.Streaming
import Routing.Proofs.Dispatch.MethodNotAllowed
import Routing.Proofs.Router.Slashes
import Routing.Proofs.Session.Failures
import Routing.Proofs.Message.Sending
import Routing.Proofs.Message.Updates
import Routing.Proofs.Pattern.Offsets
import Routing.Proofs.Dispatch.Takes
