import Routing.Http.StartLine

/-! # Events

Routing reports what happened to registrations and requests as events, each with a level, a message
and the data that belong to it.
-/

namespace Routing

inductive Level where
  | debug
  | info
  | warn
  | error
deriving DecidableEq

inductive Event where
  | shadowed (method : Http.Method) (pattern shadowedBy : String)
  | registered (method : Http.Method) (pattern : String) (layers : Nat) (streaming : Bool)
  | unmatched (method : Http.Method) (path : String)
  | notAllowed (method : Http.Method) (path allow : String)
  | unreadable (method : Http.Method) (path error : String)
  | handlerFailed (pattern error : String)
  | headerDropped (name : String)
  | completed (method : Http.Method) (path : String) (status : Nat)
  | failed (method : Http.Method) (path error : String)
deriving DecidableEq

namespace Event

def level : Event → Level
  | shadowed .. => .warn
  | registered .. => .debug
  | unmatched .. => .debug
  | notAllowed .. => .debug
  | unreadable .. => .warn
  | handlerFailed .. => .error
  | headerDropped .. => .warn
  | completed .. => .info
  | failed .. => .warn

def message : Event → String
  | shadowed .. => "route is shadowed by an earlier registration and will never match"
  | registered .. => "route registered"
  | unmatched .. => "no route matched"
  | notAllowed .. => "method not allowed"
  | unreadable .. => "failed to read request body"
  | handlerFailed .. => "handler failed"
  | headerDropped .. => "dropping invalid response header"
  | completed .. => "request completed"
  | failed .. => "request failed"

end Event

end Routing
