import Routing.Script.Layer

/-! # Chains

A chain wraps layers around a handler, the first layer outermost. Each layer is called with the exchange
that the one outside it hands on, and sees the outcome of all that is inside it.
-/

namespace Routing

structure Run where
  log : List Entry
  events : List Event
  outcome : Outcome

abbrev Handler := Exchange → Run

structure Endpoint where
  actions : List Action
  reply : Reply
deriving DecidableEq

def Endpoint.handler (endpoint : Endpoint) : Handler := fun exchange =>
  let handled := applyActions endpoint.actions exchange
  ⟨logActions endpoint.actions exchange, [], endpoint.reply.outcome handled.request⟩

/-- The run with the steps of a layer taken on its result; a panic leaves no result to work on. -/
def Run.after (steps : List Step) (run : Run) : Run :=
  match run.outcome with
  | .returned result =>
    ⟨run.log ++ logSteps steps result, run.events, .returned (applySteps steps result)⟩
  | .panicked _ => run

def Run.logFirst (entries : List Entry) (run : Run) : Run :=
  { run with log := entries ++ run.log }

/-- What a traced layer reports about the way a request ended; a panic is not reported. -/
def traceEvents (request : Request) : Outcome → List Event
  | .returned (.ok response) => [.completed request.method request.path response.status.code]
  | .returned (.error fault) => [.failed request.method request.path fault.text]
  | .panicked _ => []

def Layer.wrap (layer : Layer) (next : Handler) : Handler := fun exchange =>
  match layer with
  | .trace =>
    let run := next exchange
    { run with events := run.events ++ traceEvents exchange.request run.outcome }
  | .scripted script =>
    let handled := applyActions script.before exchange
    let inner : Run :=
      match script.stopReply? handled.request with
      | some reply => ⟨[], [], reply.outcome handled.request⟩
      | none => next handled
    (inner.after script.after).logFirst (logActions script.before exchange)

def chain (layers : List Layer) (handler : Handler) : Handler :=
  layers.foldr Layer.wrap handler

@[simp]
theorem chain_nil (handler : Handler) : chain [] handler = handler := rfl

@[simp]
theorem chain_cons (layer : Layer) (layers : List Layer) (handler : Handler) :
    chain (layer :: layers) handler = layer.wrap (chain layers handler) := rfl

theorem chain_append (layers more : List Layer) (handler : Handler) :
    chain (layers ++ more) handler = chain layers (chain more handler) :=
  List.foldr_append

end Routing
