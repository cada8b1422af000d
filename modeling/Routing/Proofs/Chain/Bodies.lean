import Routing.Dispatch

/-! # Exchanges with different bodies

Two exchanges that differ in their bodies only have the same run when no part of the chain tells the one body
from the other. Which bodies are not told apart is a relation `r`: once the single actions and replies respect
it, the layers do, and the whole chain does.
-/

namespace Routing

def Request.replaceBody (request : Request) (body : Body) : Request :=
  { request with body }

def Exchange.replaceBody (exchange : Exchange) (body : Body) : Exchange :=
  { exchange with request := exchange.request.replaceBody body }

/-! ## Relations that are respected -/

/-- With a related body the action writes down the same, and what it leaves has a related body again. -/
def Action.Respects (r : Body → Body → Prop) (action : Action) : Prop :=
  ∀ exchange body, r exchange.request.body body →
    action.note? (exchange.replaceBody body) = action.note? exchange ∧
    ∃ next, r (action.apply exchange).request.body next ∧
      action.apply (exchange.replaceBody body) = (action.apply exchange).replaceBody next

def Reply.Respects (r : Body → Body → Prop) (reply : Reply) : Prop :=
  ∀ request body, r request.body body → reply.outcome (request.replaceBody body) = reply.outcome request

def Handler.Respects (r : Body → Body → Prop) (handler : Handler) : Prop :=
  ∀ exchange body, r exchange.request.body body → handler (exchange.replaceBody body) = handler exchange

def Layer.Respects (r : Body → Body → Prop) : Layer → Prop
  | trace => True
  | scripted script => (∀ action ∈ script.before, action.Respects r) ∧ ∀ reply ∈ script.stop, reply.Respects r

def Endpoint.Respects (r : Body → Body → Prop) (endpoint : Endpoint) : Prop :=
  (∀ action ∈ endpoint.actions, action.Respects r) ∧ endpoint.reply.Respects r

def Route.Respects (r : Body → Body → Prop) (route : Route) : Prop :=
  (∀ layer ∈ route.layers, layer.Respects r) ∧ route.endpoint.Respects r

variable {r : Body → Body → Prop}

theorem actions_respect {actions : List Action} (h : ∀ action ∈ actions, action.Respects r) (exchange : Exchange)
    {body : Body} (hBody : r exchange.request.body body) :
    logActions actions (exchange.replaceBody body) = logActions actions exchange ∧
    ∃ next, r (applyActions actions exchange).request.body next ∧
      applyActions actions (exchange.replaceBody body) = (applyActions actions exchange).replaceBody next := by
  induction actions generalizing exchange body with
  | nil => exact ⟨rfl, body, hBody, rfl⟩
  | cons action actions ih =>
    obtain ⟨hNote, next, hNext, hApply⟩ := h action List.mem_cons_self exchange body hBody
    obtain ⟨hLog, last, hLast, hActions⟩ :=
      ih (fun other hMem => h other (List.mem_cons_of_mem action hMem)) (action.apply exchange) hNext
    refine ⟨?_, last, hLast, ?_⟩
    · rw [logActions, logActions, hNote, hApply, hLog]
    · rw [applyActions, List.foldl_cons, hApply]
      exact hActions

theorem Endpoint.Respects.handler {endpoint : Endpoint} (h : endpoint.Respects r) :
    Handler.Respects r endpoint.handler := by
  intro exchange body hBody
  obtain ⟨hLog, next, hNext, hActions⟩ := actions_respect h.1 exchange hBody
  rw [Endpoint.handler, Endpoint.handler, hLog, hActions]
  exact congrArg (Run.mk _ _) (h.2 _ next hNext)

/-- A layer looks at the headers to decide whether it ends the request, never at the body. -/
theorem LayerScript.stopReply?_replaceBody (script : LayerScript) (request : Request) (body : Body) :
    script.stopReply? (request.replaceBody body) = script.stopReply? request := rfl

theorem LayerScript.mem_stop_of_stopReply? {script : LayerScript} {request : Request} {reply : Reply}
    (h : script.stopReply? request = some reply) : reply ∈ script.stop := by
  rw [stopReply?] at h
  split at h
  · exact h
  · exact (Option.ite_none_right_eq_some.mp h).2

theorem Layer.Respects.wrap {layer : Layer} (h : layer.Respects r) {next : Handler}
    (hNext : Handler.Respects r next) : Handler.Respects r (layer.wrap next) := by
  intro exchange body hBody
  cases layer with
  | trace =>
    simp only [Layer.wrap, hNext exchange body hBody]
    rfl
  | scripted script =>
    obtain ⟨hLog, last, hLast, hActions⟩ := actions_respect h.1 exchange hBody
    simp only [Layer.wrap, hLog, hActions]
    rw [Exchange.replaceBody, LayerScript.stopReply?_replaceBody, ← Exchange.replaceBody]
    cases hStop : script.stopReply? (applyActions script.before exchange).request with
    | some reply =>
      have hReply := h.2 reply (LayerScript.mem_stop_of_stopReply? hStop)
      simp only [Exchange.replaceBody, hReply _ last hLast]
    | none => simp only [hNext _ last hLast]

theorem chain_respects {layers : List Layer} (h : ∀ layer ∈ layers, layer.Respects r) {handler : Handler}
    (hHandler : Handler.Respects r handler) : Handler.Respects r (chain layers handler) := by
  induction layers with
  | nil => exact hHandler
  | cons layer layers ih =>
    have hLayer := h layer List.mem_cons_self
    exact hLayer.wrap (ih fun other hMem => h other (List.mem_cons_of_mem layer hMem))

theorem Route.Respects.chain {found : Match} (h : found.route.Respects r) : Handler.Respects r found.chain :=
  chain_respects h.1 h.2.handler

namespace Dispatcher

/-- Only the bodies of the exchanges differ with which the chain of a match may be called. -/
theorem exchange_replaceBody (dispatcher : Dispatcher) (incoming : Incoming) (found : Match) (body other : Body) :
    (dispatcher.exchange incoming found body).replaceBody other = dispatcher.exchange incoming found other := rfl

theorem chain_exchange_eq {found : Match} (h : found.route.Respects r) (dispatcher : Dispatcher)
    (incoming : Incoming) {body other : Body} (hBody : r body other) :
    found.chain (dispatcher.exchange incoming found other) =
      found.chain (dispatcher.exchange incoming found body) := by
  rw [← exchange_replaceBody dispatcher incoming found body]
  exact h.chain _ other hBody

end Dispatcher

/-! ## Parts that do not inspect the body -/

def Action.InspectsBody : Action → Prop
  | see | takeBody => True
  | _ => False

def Reply.InspectsBody : Reply → Prop
  | echo | upload => True
  | _ => False

/-- Whatever does not inspect the body respects every relation that an installed body has to itself. -/
theorem Action.respects_of_not_inspectsBody (hRefl : ∀ bytes, r (.buffered bytes) (.buffered bytes))
    {action : Action} (h : ¬ action.InspectsBody) : action.Respects r := by
  intro exchange body hBody
  cases action with
  | see => exact absurd trivial h
  | takeBody => exact absurd trivial h
  | setHeader name value =>
    refine ⟨rfl, body, ?_⟩
    simp only [Action.apply]
    split <;> exact ⟨hBody, rfl⟩
  | withBody bytes => exact ⟨rfl, .buffered bytes, hRefl bytes, rfl⟩
  | _ => exact ⟨rfl, body, hBody, rfl⟩

theorem Reply.respects_of_not_inspectsBody {reply : Reply} (h : ¬ reply.InspectsBody) : reply.Respects r := by
  intro request body _
  cases reply with
  | echo => exact absurd trivial h
  | upload => exact absurd trivial h
  | _ => rfl

end Routing
