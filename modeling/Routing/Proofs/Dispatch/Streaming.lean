import Routing.Proofs.Chain.Bodies
import Routing.Proofs.Dispatch.Composition
import Routing.Proofs.Router.AllowedMethods

/-! # Streaming decides only how a body is handed over

Which routes of a table are registered as streaming plays no part in the search for a route. If no layer and
no handler inspects the body, it plays no part in the answer either, unless the body is one that a route
which does not stream fails to read.
-/

namespace Routing

def Route.streamed (streaming : Bool) (route : Route) : Route :=
  { route with streaming }

def Match.streamed (streaming : Bool) (found : Match) : Match :=
  { found with route := found.route.streamed streaming }

/-- Every command of the one list adds a route, and its counterpart in the other list adds the same route but
for streaming. -/
inductive SameButStreaming : List Command → List Command → Prop where
  | nil : SameButStreaming [] []
  | cons {command other : Command} {commands others : List Command} {route : Route} {streaming : Bool}
    (h : command.Adds route) (hOther : other.Adds (route.streamed streaming))
    (hTail : SameButStreaming commands others) : SameButStreaming (command :: commands) (other :: others)

/-! ## The search for a route -/

namespace Router

/-- The table with none of its routes streaming. -/
def unstreamed (router : Router) : Router :=
  ⟨router.routes.map (Route.streamed false)⟩

theorem lookup?_unstreamed (router : Router) (method : Http.Method) (path : String) :
    router.unstreamed.lookup? method path = (router.lookup? method path).map (Match.streamed false) :=
  router.lookup?_map_routes (Route.streamed false) (fun _ => rfl) (fun _ => rfl) method path

theorem allowedMethods_unstreamed (router : Router) (path : String) :
    router.unstreamed.allowedMethods path = router.allowedMethods path :=
  router.allowedMethods_map_routes (Route.streamed false) (fun _ => rfl) (fun _ => rfl) path

end Router

namespace SameButStreaming

variable {commands others : List Command}

theorem map_streamed_eq (h : SameButStreaming commands others) :
    (others.filterMap Command.route?).map (Route.streamed false) =
      (commands.filterMap Command.route?).map (Route.streamed false) := by
  induction h with
  | nil => rfl
  | cons h hOther _ ih =>
    rw [List.filterMap_cons_some (Command.route?_eq_some_iff.mpr h),
      List.filterMap_cons_some (Command.route?_eq_some_iff.mpr hOther), List.map_cons, List.map_cons, ih]
    rfl

theorem unstreamed_eq (h : SameButStreaming commands others) :
    (Router.empty.after others).unstreamed = (Router.empty.after commands).unstreamed := by
  simp only [Router.unstreamed, Router.routes_after, Router.empty, List.nil_append, h.map_streamed_eq]

theorem lookup?_eq (h : SameButStreaming commands others) (method : Http.Method) (path : String) :
    ((Router.empty.after others).lookup? method path).map (Match.streamed false) =
      ((Router.empty.after commands).lookup? method path).map (Match.streamed false) := by
  rw [← Router.lookup?_unstreamed, ← Router.lookup?_unstreamed, h.unstreamed_eq]

theorem allowedMethods_eq (h : SameButStreaming commands others) (path : String) :
    (Router.empty.after others).allowedMethods path = (Router.empty.after commands).allowedMethods path := by
  rw [← Router.allowedMethods_unstreamed, h.unstreamed_eq, Router.allowedMethods_unstreamed]

end SameButStreaming

/-! ## Routes that ignore the body -/

def Layer.IgnoresBody : Layer → Prop
  | trace => True
  | scripted script =>
    (∀ action ∈ script.before, ¬ action.InspectsBody) ∧ ∀ reply ∈ script.stop, ¬ reply.InspectsBody

def Endpoint.IgnoresBody (endpoint : Endpoint) : Prop :=
  (∀ action ∈ endpoint.actions, ¬ action.InspectsBody) ∧ ¬ endpoint.reply.InspectsBody

def Route.IgnoresBody (route : Route) : Prop :=
  (∀ layer ∈ route.layers, layer.IgnoresBody) ∧ route.endpoint.IgnoresBody

theorem Route.IgnoresBody.respects {route : Route} (h : route.IgnoresBody) :
    route.Respects fun _ _ => True := by
  refine ⟨fun layer hMem => ?_, fun action hMem => ?_, Reply.respects_of_not_inspectsBody h.2.2⟩
  · have hLayer := h.1 layer hMem
    cases layer with
    | trace => trivial
    | scripted script =>
      exact ⟨fun action hMem => Action.respects_of_not_inspectsBody (fun _ => trivial) (hLayer.1 action hMem),
        fun reply hMem => Reply.respects_of_not_inspectsBody (hLayer.2 reply hMem)⟩
  · exact Action.respects_of_not_inspectsBody (fun _ => trivial) (h.2.1 action hMem)

theorem exists_handsOver {chunks : List Chunk} (h : ∀ text, .failure text ∉ chunks) (streaming : Bool) :
    ∃ body, HandsOver streaming chunks body := by
  rcases handsOver_or_failsWith streaming chunks with hBody | ⟨_, text, front, back, rfl⟩
  · exact hBody
  · exact absurd (List.mem_append_right _ List.mem_cons_self) (h text)

namespace Dispatcher

variable {dispatcher : Dispatcher} {incoming : Incoming} {found : Match}

/-- Once its body has been handed over, the request is answered as if it had none. -/
theorem dispatch_of_ignoresBody (h : dispatcher.router.lookup? incoming.method incoming.path = some found)
    (hIgnores : found.route.IgnoresBody) {body : Body}
    (hBody : HandsOver found.route.streaming incoming.body body) :
    dispatcher.dispatch incoming =
      answer found.route.pattern.source (found.chain (dispatcher.exchange incoming found .empty)) := by
  have hRun : found.chain (dispatcher.exchange incoming found body) =
      found.chain (dispatcher.exchange incoming found .empty) :=
    chain_exchange_eq hIgnores.respects dispatcher incoming trivial
  rw [dispatch_of_handsOver h hBody, hRun]

theorem dispatch_of_streaming (h : dispatcher.router.lookup? incoming.method incoming.path = some found)
    (hIgnores : found.route.IgnoresBody) (hStreaming : found.route.streaming = true) (body : List Chunk) :
    dispatcher.dispatch { incoming with body } = dispatcher.dispatch incoming := by
  have hHandsOver (chunks : List Chunk) : HandsOver found.route.streaming chunks (.streaming chunks) := by
    rw [hStreaming]
    exact .streaming chunks
  rw [dispatch_of_ignoresBody h hIgnores (hHandsOver incoming.body)]
  exact dispatch_of_ignoresBody h hIgnores (hHandsOver body)

end Dispatcher

namespace SameButStreaming

variable {commands others : List Command}

theorem ignoresBody (h : SameButStreaming commands others)
    (hIgnores : ∀ route ∈ (Router.empty.after commands).routes, route.IgnoresBody) :
    ∀ route ∈ (Router.empty.after others).routes, route.IgnoresBody := by
  intro route hMem
  have hStreamed : route.streamed false ∈ (Router.empty.after commands).unstreamed.routes := by
    rw [← h.unstreamed_eq]
    exact List.mem_map_of_mem hMem
  obtain ⟨former, hFormer, hEq⟩ := List.mem_map.mp hStreamed
  have hIgnoresFormer : (former.streamed false).IgnoresBody := hIgnores former hFormer
  rw [hEq] at hIgnoresFormer
  exact hIgnoresFormer

theorem exists_lookup? (h : SameButStreaming commands others) {method : Http.Method} {path : String}
    {found : Match} (hFound : (Router.empty.after commands).lookup? method path = some found) :
    ∃ streaming, (Router.empty.after others).lookup? method path = some (found.streamed streaming) := by
  have hEq := h.lookup?_eq method path
  rw [hFound, Option.map_some] at hEq
  obtain ⟨⟨other, captures⟩, hOther, hStreamed⟩ := Option.map_eq_some_iff.mp hEq
  refine ⟨other.streaming, ?_⟩
  cases found
  cases other
  cases hStreamed
  exact hOther

theorem lookup?_eq_none (h : SameButStreaming commands others) {method : Http.Method} {path : String}
    (hNone : (Router.empty.after commands).lookup? method path = none) :
    (Router.empty.after others).lookup? method path = none := by
  have hEq := h.lookup?_eq method path
  rwa [hNone, Option.map_none, Option.map_eq_none_iff] at hEq

theorem dispatch_of_lookup?_eq_none (h : SameButStreaming commands others) (services : Slots)
    {incoming : Incoming}
    (hNone : (Router.empty.after commands).lookup? incoming.method incoming.path = none) :
    (⟨Router.empty.after others, services⟩ : Dispatcher).dispatch incoming =
      (⟨Router.empty.after commands, services⟩ : Dispatcher).dispatch incoming := by
  rw [Dispatcher.dispatch_of_lookup?_eq_none (h.lookup?_eq_none hNone),
    Dispatcher.dispatch_of_lookup?_eq_none hNone, Dispatcher.unmatched, Dispatcher.unmatched, h.allowedMethods_eq]

theorem dispatch_eq (h : SameButStreaming commands others)
    (hIgnores : ∀ route ∈ (Router.empty.after commands).routes, route.IgnoresBody) (services : Slots)
    {incoming : Incoming} (hWhole : ∀ text, .failure text ∉ incoming.body) :
    (⟨Router.empty.after others, services⟩ : Dispatcher).dispatch incoming =
      (⟨Router.empty.after commands, services⟩ : Dispatcher).dispatch incoming := by
  cases hFound : (Router.empty.after commands).lookup? incoming.method incoming.path with
  | none => exact h.dispatch_of_lookup?_eq_none services hFound
  | some found =>
    obtain ⟨streaming, hOther⟩ := h.exists_lookup? hFound
    obtain ⟨place, _, hRoute⟩ := Router.exists_place_of_lookup? hFound
    have hIgnoresFound := hIgnores found.route (List.mem_of_getElem? hRoute)
    obtain ⟨_, hBody⟩ := exists_handsOver hWhole found.route.streaming
    obtain ⟨_, hOtherBody⟩ := exists_handsOver hWhole streaming
    have hIgnoresOther : (found.streamed streaming).route.IgnoresBody := hIgnoresFound
    rw [Dispatcher.dispatch_of_ignoresBody hOther hIgnoresOther hOtherBody,
      Dispatcher.dispatch_of_ignoresBody hFound hIgnoresFound hBody]
    rfl

end SameButStreaming

namespace Router

/-- With other routes registered as streaming every request has the same match and every path allows the same
methods. If no layer and no handler inspects the body, a body without failures is answered alike, and where the
route streams, or where there is none, every body is. -/
theorem streaming_only_hands_over {commands others : List Command} (h : SameButStreaming commands others)
    (services : Slots) :
    (∀ method path, ((empty.after others).lookup? method path).map (Match.streamed false) =
      ((empty.after commands).lookup? method path).map (Match.streamed false)) ∧
    (∀ path, (empty.after others).allowedMethods path = (empty.after commands).allowedMethods path) ∧
    ((∀ route ∈ (empty.after commands).routes, route.IgnoresBody) →
      (∀ incoming, (∀ text, .failure text ∉ incoming.body) →
        (⟨empty.after others, services⟩ : Dispatcher).dispatch incoming =
          (⟨empty.after commands, services⟩ : Dispatcher).dispatch incoming) ∧
      ∀ router ∈ [empty.after commands, empty.after others], ∀ incoming found,
        router.lookup? incoming.method incoming.path = some found → found.route.streaming = true →
          ∀ body, (⟨router, services⟩ : Dispatcher).dispatch { incoming with body } =
            (⟨router, services⟩ : Dispatcher).dispatch incoming) ∧
    ∀ incoming, (empty.after commands).lookup? incoming.method incoming.path = none →
      ∀ router ∈ [empty.after commands, empty.after others], ∀ body,
        (⟨router, services⟩ : Dispatcher).dispatch { incoming with body } =
          (⟨empty.after commands, services⟩ : Dispatcher).dispatch incoming := by
  refine ⟨h.lookup?_eq, h.allowedMethods_eq, fun hIgnores => ⟨fun incoming hWhole =>
    h.dispatch_eq hIgnores services hWhole, ?_⟩, ?_⟩
  · intro router hMem incoming found hFound hStreaming body
    simp only [List.mem_cons, List.not_mem_nil, or_false] at hMem
    have hRoutes : ∀ route ∈ router.routes, route.IgnoresBody := by
      rcases hMem with rfl | rfl
      · exact hIgnores
      · exact h.ignoresBody hIgnores
    obtain ⟨place, _, hRoute⟩ := exists_place_of_lookup? hFound
    exact Dispatcher.dispatch_of_streaming hFound (hRoutes _ (List.mem_of_getElem? hRoute)) hStreaming body
  · intro incoming hNone router hMem body
    simp only [List.mem_cons, List.not_mem_nil, or_false] at hMem
    rcases hMem with rfl | rfl
    · exact Dispatcher.dispatch_with_body_of_lookup?_eq_none hNone body
    · rw [← h.dispatch_of_lookup?_eq_none services hNone]
      exact Dispatcher.dispatch_with_body_of_lookup?_eq_none (h.lookup?_eq_none hNone) body

def tokenLayers : List Layer :=
  [.trace, .scripted ⟨[.log "in"], some (.status 401), some "x-token", [.setStatus 203]⟩]

def filesRoute : Route :=
  ⟨.get, Dispatcher.fileRoute.pattern, ⟨[.withBody (utf8 "x"), .param "id"], .param "id"⟩, tokenLayers, false⟩

def healthRoute : Route :=
  ⟨.get, ⟨"/health", [.plain (.literal "health")], rfl⟩, ⟨[], .status 204⟩, [], false⟩

def bufferingSession : List Command :=
  [.register (.strict false) "GET" "/files/:id" filesRoute.endpoint tokenLayers,
    .register .bare "GET" "/health" healthRoute.endpoint [.trace]]

def streamingSession : List Command :=
  [.register (.checked true) "GET" "/files/:id" filesRoute.endpoint tokenLayers,
    .register (.strict true) "GET" "/health" healthRoute.endpoint []]

def filesRequest : Incoming :=
  ⟨.get, "/files/7", ⟨[(⟨"x-token", "x-token", by decide, rfl⟩, ⟨utf8 "1", rfl⟩)]⟩, [.data [1], .data [2]]⟩

def missingRequest : Incoming :=
  ⟨.get, "/files", .empty, []⟩

theorem streaming_only_hands_over_for_files :
    let buffering : Dispatcher := ⟨empty.after bufferingSession, .empty⟩
    let streaming : Dispatcher := ⟨empty.after streamingSession, .empty⟩
    SameButStreaming bufferingSession streamingSession ∧
      (∀ route ∈ (empty.after bufferingSession).routes, route.IgnoresBody) ∧
      ((∀ text, .failure text ∉ filesRequest.body) ∧
        streaming.dispatch filesRequest = buffering.dispatch filesRequest ∧
        (buffering.dispatch filesRequest).log = [.text "in", .lookup (some "7")] ∧
        (buffering.dispatch filesRequest).events = [.completed .get "/files/7" 203]) ∧
      ((∃ found, (empty.after streamingSession).lookup? filesRequest.method filesRequest.path = some found ∧
          found.route.streaming = true) ∧
        ∀ body, streaming.dispatch { filesRequest with body } = streaming.dispatch filesRequest) ∧
      (empty.after bufferingSession).lookup? missingRequest.method missingRequest.path = none ∧
        ∀ body, streaming.dispatch { missingRequest with body } = buffering.dispatch missingRequest := by
  have hFiles : Command.Adds (.register (.strict false) "GET" "/files/:id" filesRoute.endpoint tokenLayers)
      filesRoute := ⟨.strict false, tokenLayers, rfl, rfl, rfl⟩
  have hHealth : Command.Adds (.register .bare "GET" "/health" healthRoute.endpoint [.trace])
      healthRoute := ⟨.bare, [.trace], rfl, rfl, rfl⟩
  have hFilesStreamed : Command.Adds (.register (.checked true) "GET" "/files/:id" filesRoute.endpoint
      tokenLayers) (filesRoute.streamed true) := ⟨.checked true, tokenLayers, rfl, rfl, rfl⟩
  have hHealthStreamed : Command.Adds (.register (.strict true) "GET" "/health" healthRoute.endpoint [])
      (healthRoute.streamed true) := ⟨.strict true, [], rfl, rfl, rfl⟩
  have hSame : SameButStreaming bufferingSession streamingSession :=
    .cons hFiles hFilesStreamed (.cons hHealth hHealthStreamed .nil)
  have hIgnores : ∀ route ∈ (empty.after bufferingSession).routes, route.IgnoresBody := by
    have hRoutes : (empty.after bufferingSession).routes = [filesRoute, healthRoute] := rfl
    simp [hRoutes, Route.IgnoresBody, Endpoint.IgnoresBody, Layer.IgnoresBody, Action.InspectsBody,
      Reply.InspectsBody, filesRoute, healthRoute, tokenLayers]
  have hWhole : ∀ text, .failure text ∉ filesRequest.body := by simp [filesRequest]
  have hBuffered : (empty.after bufferingSession).lookup? filesRequest.method filesRequest.path =
      some ⟨filesRoute, ⟨[⟨"id", "7", none, by decide⟩], none⟩⟩ := rfl
  have hHandsOver : HandsOver filesRoute.streaming filesRequest.body (.buffered [1, 2]) := .buffered [[1], [2]]
  have hRun : (⟨empty.after bufferingSession, .empty⟩ : Dispatcher).dispatch filesRequest = _ :=
    Dispatcher.dispatch_of_handsOver hBuffered hHandsOver
  have hFound : (empty.after streamingSession).lookup? filesRequest.method filesRequest.path =
      some ⟨filesRoute.streamed true, ⟨[⟨"id", "7", none, by decide⟩], none⟩⟩ := rfl
  have hNone : (empty.after bufferingSession).lookup? missingRequest.method missingRequest.path = none := rfl
  obtain ⟨_, _, hBlind, hMissing⟩ := streaming_only_hands_over hSame .empty
  obtain ⟨hAlike, hStreams⟩ := hBlind hIgnores
  exact ⟨hSame, hIgnores, ⟨hWhole, hAlike filesRequest hWhole, by rw [hRun]; rfl, by rw [hRun]; rfl⟩,
    ⟨⟨_, hFound, rfl⟩, hStreams (empty.after streamingSession) (by simp) filesRequest _ hFound rfl⟩, hNone,
    hMissing missingRequest hNone (empty.after streamingSession) (by simp)⟩

end Router

end Routing
