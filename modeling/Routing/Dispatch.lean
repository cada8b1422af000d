import Routing.Router

/-! # Dispatch

A dispatcher answers every request that reaches it. It finds the route, reads the body unless the route
streams it, runs the chain of the route, and turns what comes back into the response that is sent.
-/

namespace Routing

structure Incoming where
  method : Http.Method
  path : String
  headers : Http.HeaderMap
  body : List Chunk
deriving DecidableEq

structure Dispatcher where
  router : Router
  services : Slots

inductive Delivery where
  | sent (response : Http.Response)
  | panicked (text : String)
deriving DecidableEq

structure Dispatched where
  delivery : Delivery
  log : List Entry
  events : List Event

def Response.send (response : Response) (log : List Entry) (events : List Event) : Dispatched :=
  ⟨.sent response.toHttp, log, events ++ response.droppedHeaders⟩

def allowValue (methods : List Http.Method) : String :=
  ", ".intercalate (methods.map Http.Method.name)

namespace Dispatcher

def unmatched (dispatcher : Dispatcher) (incoming : Incoming) : Dispatched :=
  let allowed := dispatcher.router.allowedMethods incoming.path
  if allowed = [] then
    (Response.ofStatus .notFound).send [] [.unmatched incoming.method incoming.path]
  else
    let allow := allowValue allowed
    (⟨.methodNotAllowed, [("allow", allow)], []⟩ : Response).send []
      [.notAllowed incoming.method incoming.path allow]

def handedBody (streaming : Bool) (chunks : List Chunk) : Except String Body :=
  if streaming then .ok (.streaming chunks) else (readChunks chunks).map .buffered

def exchange (dispatcher : Dispatcher) (incoming : Incoming) (found : Match) (body : Body) : Exchange :=
  let request := Request.ofParts incoming.method incoming.path incoming.headers body
  ⟨found.attach request, .empty, dispatcher.services⟩

/-- The answer to a request whose chain has run; a fault is reported and answered by its status only. -/
def answer (pattern : String) (run : Run) : Dispatched :=
  match run.outcome with
  | .returned (.ok response) => response.send run.log run.events
  | .returned (.error fault) =>
    (Response.ofStatus .internalServerError).send run.log
      (run.events ++ [.handlerFailed pattern fault.text])
  | .panicked text => ⟨.panicked text, run.log, run.events⟩

def dispatch (dispatcher : Dispatcher) (incoming : Incoming) : Dispatched :=
  match dispatcher.router.lookup? incoming.method incoming.path with
  | none => dispatcher.unmatched incoming
  | some found =>
    match handedBody found.route.streaming incoming.body with
    | .error error =>
      (Response.ofStatus .badRequest).send [] [.unreadable incoming.method incoming.path error]
    | .ok body =>
      answer found.route.pattern.source (found.chain (dispatcher.exchange incoming found body))

end Dispatcher

end Routing
