import Routing.Dispatch

/-! # Dispatch as a composition

A dispatcher looks the route up, reads the body unless the route streams it, and calls the chain once. A
request without a route, or with a body that cannot be read, is answered without running any layer or
handler. In every other case the chain decides the answer.
-/

namespace Routing

/-! ## Reading a body -/

/-- The first failure among the chunks tells `text`. -/
def FailsWith (chunks : List Chunk) (text : String) : Prop :=
  ∃ (front : List Bytes) (back : List Chunk), chunks = front.map .data ++ .failure text :: back

/-- A streaming route hands the chunks over unread, any other route their concatenation. -/
inductive HandsOver : Bool → List Chunk → Body → Prop where
  | streaming (chunks : List Chunk) : HandsOver true chunks (.streaming chunks)
  | buffered (pieces : List Bytes) : HandsOver false (pieces.map .data) (.buffered pieces.flatten)

theorem all_data_or_failsWith (chunks : List Chunk) :
    (∃ pieces : List Bytes, chunks = pieces.map .data) ∨ ∃ text, FailsWith chunks text := by
  induction chunks with
  | nil => exact .inl ⟨[], rfl⟩
  | cons chunk chunks ih =>
    cases chunk with
    | failure text => exact .inr ⟨text, [], chunks, rfl⟩
    | data bytes =>
      rcases ih with ⟨pieces, rfl⟩ | ⟨text, front, back, rfl⟩
      · exact .inl ⟨bytes :: pieces, rfl⟩
      · exact .inr ⟨text, bytes :: front, back, rfl⟩

theorem FailsWith.readChunks_eq {chunks : List Chunk} {text : String} (h : FailsWith chunks text) :
    readChunks chunks = .error text := by
  obtain ⟨front, back, rfl⟩ := h
  exact readChunks_map_data_append_failure front text back

theorem HandsOver.handedBody_eq {streaming : Bool} {chunks : List Chunk} {body : Body}
    (h : HandsOver streaming chunks body) : Dispatcher.handedBody streaming chunks = .ok body := by
  cases h with
  | streaming => rfl
  | buffered pieces => simp [Dispatcher.handedBody, Except.map]

theorem FailsWith.handedBody_eq {chunks : List Chunk} {text : String} (h : FailsWith chunks text) :
    Dispatcher.handedBody false chunks = .error text := by
  simp [Dispatcher.handedBody, h.readChunks_eq, Except.map]

theorem handsOver_or_failsWith (streaming : Bool) (chunks : List Chunk) :
    (∃ body, HandsOver streaming chunks body) ∨ streaming = false ∧ ∃ text, FailsWith chunks text := by
  cases streaming with
  | true => exact .inl ⟨_, .streaming chunks⟩
  | false =>
    rcases all_data_or_failsWith chunks with ⟨pieces, rfl⟩ | hFails
    · exact .inl ⟨_, .buffered pieces⟩
    · exact .inr ⟨rfl, hFails⟩

/-! ## Tables with other chains -/

def Route.withChain (endpoint : Route → Endpoint) (layers : Route → List Layer) (route : Route) : Route :=
  { route with endpoint := endpoint route, layers := layers route }

def Router.withChains (router : Router) (endpoint : Route → Endpoint) (layers : Route → List Layer) : Router :=
  ⟨router.routes.map (Route.withChain endpoint layers)⟩

namespace Router

/-- A change of the routes that keeps their methods and their patterns changes no search. -/
theorem lookup?_map_routes (router : Router) (change : Route → Route)
    (hMethod : ∀ route, (change route).method = route.method)
    (hPattern : ∀ route, (change route).pattern = route.pattern) (method : Http.Method) (path : String) :
    (⟨router.routes.map change⟩ : Router).lookup? method path =
      (router.lookup? method path).map fun found => ⟨change found.route, found.captures⟩ := by
  rw [lookup?, lookup?, List.findSome?_map, List.map_findSome?]
  refine congrArg (List.findSome? · router.routes) (funext fun route => ?_)
  simp only [Function.comp_apply, Option.map_map, Route.captures?, hMethod, hPattern]
  rfl

theorem allowedMethods_map_routes (router : Router) (change : Route → Route)
    (hMethod : ∀ route, (change route).method = route.method)
    (hPattern : ∀ route, (change route).pattern = route.pattern) (path : String) :
    (⟨router.routes.map change⟩ : Router).allowedMethods path = router.allowedMethods path := by
  rw [allowedMethods, allowedMethods, List.foldl_map]
  refine congrArg (List.foldl · [] router.routes) (funext fun methods => funext fun route => ?_)
  rw [collectMethod, collectMethod, hMethod, hPattern]

variable (router : Router) (endpoint : Route → Endpoint) (layers : Route → List Layer)

theorem lookup?_withChains (method : Http.Method) (path : String) :
    (router.withChains endpoint layers).lookup? method path =
      (router.lookup? method path).map fun found =>
        ⟨found.route.withChain endpoint layers, found.captures⟩ :=
  router.lookup?_map_routes (Route.withChain endpoint layers) (fun _ => rfl) (fun _ => rfl) method path

theorem allowedMethods_withChains (path : String) :
    (router.withChains endpoint layers).allowedMethods path = router.allowedMethods path :=
  router.allowedMethods_map_routes (Route.withChain endpoint layers) (fun _ => rfl) (fun _ => rfl) path

end Router

/-! ## The answer -/

theorem Response.send_ofStatus (status : Http.Status) (log : List Entry) (events : List Event) :
    (Response.ofStatus status).send log events = ⟨.sent ⟨status, .empty, []⟩, log, events⟩ := by
  simp [Response.send, Response.toHttp, Response.droppedHeaders, Response.sendHeaders, Response.ofStatus]

/-- The run decides the answer: its response is sent, its fault is reported and answered by a bare status,
and its panic goes on. -/
structure Concludes (pattern : String) (run : Run) (dispatched : Dispatched) : Prop where
  log : dispatched.log = run.log
  returned : ∀ response, run.outcome = .returned (.ok response) →
    dispatched.delivery = .sent response.toHttp ∧ dispatched.events = run.events ++ response.droppedHeaders
  failed : ∀ fault, run.outcome = .returned (.error fault) →
    dispatched.delivery = .sent ⟨.internalServerError, .empty, []⟩ ∧
      dispatched.events = run.events ++ [.handlerFailed pattern fault.text]
  panicked : ∀ text, run.outcome = .panicked text →
    dispatched.delivery = .panicked text ∧ dispatched.events = run.events

namespace Dispatcher

theorem concludes_answer (pattern : String) (run : Run) : Concludes pattern run (answer pattern run) where
  log := by
    rw [answer]
    split <;> rfl
  returned response h := by
    simp only [answer, h]
    exact ⟨rfl, rfl⟩
  failed fault h := by
    simp only [answer, h, Response.send_ofStatus, and_self]
  panicked text h := by
    simp only [answer, h, and_self]

/-- Nothing is written down, and the answer is the same whatever layers, handlers and services there are. -/
structure RunsNothing (dispatcher : Dispatcher) (incoming : Incoming) : Prop where
  log : (dispatcher.dispatch incoming).log = []
  blind : ∀ endpoint layers services,
    (⟨dispatcher.router.withChains endpoint layers, services⟩ : Dispatcher).dispatch incoming =
      dispatcher.dispatch incoming

variable {dispatcher : Dispatcher} {incoming : Incoming}

theorem dispatch_of_lookup?_eq_none (h : dispatcher.router.lookup? incoming.method incoming.path = none) :
    dispatcher.dispatch incoming = dispatcher.unmatched incoming := by
  simp only [dispatch, h]

/-- Without a route the body is never looked at. -/
theorem dispatch_with_body_of_lookup?_eq_none
    (h : dispatcher.router.lookup? incoming.method incoming.path = none) (body : List Chunk) :
    dispatcher.dispatch { incoming with body } = dispatcher.dispatch incoming := by
  rw [dispatch_of_lookup?_eq_none h]
  exact dispatch_of_lookup?_eq_none h

theorem dispatch_of_failsWith {found : Match} {text : String}
    (h : dispatcher.router.lookup? incoming.method incoming.path = some found)
    (hStreaming : found.route.streaming = false) (hFails : FailsWith incoming.body text) :
    dispatcher.dispatch incoming =
      ⟨.sent ⟨.badRequest, .empty, []⟩, [], [.unreadable incoming.method incoming.path text]⟩ := by
  simp only [dispatch, h, hStreaming, hFails.handedBody_eq, Response.send_ofStatus]

theorem dispatch_of_handsOver {found : Match} {body : Body}
    (h : dispatcher.router.lookup? incoming.method incoming.path = some found)
    (hBody : HandsOver found.route.streaming incoming.body body) :
    dispatcher.dispatch incoming =
      answer found.route.pattern.source (found.chain (dispatcher.exchange incoming found body)) := by
  simp only [dispatch, h, hBody.handedBody_eq]

theorem unmatched_of_allowedMethods_eq_nil (h : dispatcher.router.allowedMethods incoming.path = []) :
    dispatcher.unmatched incoming =
      ⟨.sent ⟨.notFound, .empty, []⟩, [], [.unmatched incoming.method incoming.path]⟩ := by
  simp only [unmatched, h, if_true, Response.send_ofStatus]

theorem unmatched_of_allowedMethods_ne_nil (h : dispatcher.router.allowedMethods incoming.path ≠ []) :
    ∃ headers events,
      dispatcher.unmatched incoming = ⟨.sent ⟨.methodNotAllowed, headers, []⟩, [], events⟩ := by
  simp only [unmatched, if_neg h]
  exact ⟨_, _, rfl⟩

theorem runsNothing_of_lookup?_eq_none (h : dispatcher.router.lookup? incoming.method incoming.path = none) :
    dispatcher.RunsNothing incoming where
  log := by
    rw [dispatch_of_lookup?_eq_none h]
    by_cases hAllowed : dispatcher.router.allowedMethods incoming.path = []
    · rw [unmatched_of_allowedMethods_eq_nil hAllowed]
    · obtain ⟨headers, events, hUnmatched⟩ := unmatched_of_allowedMethods_ne_nil hAllowed
      rw [hUnmatched]
  blind endpoint layers services := by
    have hOther : (dispatcher.router.withChains endpoint layers).lookup? incoming.method incoming.path =
        none := by
      rw [Router.lookup?_withChains, h, Option.map_none]
    rw [dispatch_of_lookup?_eq_none h, dispatch_of_lookup?_eq_none hOther, unmatched, unmatched,
      Router.allowedMethods_withChains]

theorem runsNothing_of_failsWith {found : Match} {text : String}
    (h : dispatcher.router.lookup? incoming.method incoming.path = some found)
    (hStreaming : found.route.streaming = false) (hFails : FailsWith incoming.body text) :
    dispatcher.RunsNothing incoming where
  log := by rw [dispatch_of_failsWith h hStreaming hFails]
  blind endpoint layers services := by
    have hOther := Router.lookup?_withChains dispatcher.router endpoint layers incoming.method incoming.path
    rw [h, Option.map_some] at hOther
    rw [dispatch_of_failsWith h hStreaming hFails]
    exact dispatch_of_failsWith hOther hStreaming hFails

/-- A request without a route is answered by 404 or 405, an unreadable body on a route that does not stream
by 400, and nothing runs for either. Every other request is answered as the chain of its match concludes,
which is called once. -/
theorem dispatch_composes (dispatcher : Dispatcher) (incoming : Incoming) :
    (dispatcher.router.lookup? incoming.method incoming.path = none →
      dispatcher.RunsNothing incoming ∧
      (dispatcher.router.allowedMethods incoming.path = [] →
        dispatcher.dispatch incoming =
          ⟨.sent ⟨.notFound, .empty, []⟩, [], [.unmatched incoming.method incoming.path]⟩) ∧
      (dispatcher.router.allowedMethods incoming.path ≠ [] → ∃ headers events,
        dispatcher.dispatch incoming = ⟨.sent ⟨.methodNotAllowed, headers, []⟩, [], events⟩)) ∧
    ∀ found, dispatcher.router.lookup? incoming.method incoming.path = some found →
      (∀ text, found.route.streaming = false → FailsWith incoming.body text →
        dispatcher.RunsNothing incoming ∧
        dispatcher.dispatch incoming =
          ⟨.sent ⟨.badRequest, .empty, []⟩, [], [.unreadable incoming.method incoming.path text]⟩) ∧
      (∀ body, HandsOver found.route.streaming incoming.body body →
        Concludes found.route.pattern.source
          (found.chain ⟨⟨incoming.method, incoming.path, incoming.headers, body, found.captures.params,
            found.captures.format⟩, .empty, dispatcher.services⟩)
          (dispatcher.dispatch incoming)) ∧
      ((∃ body, HandsOver found.route.streaming incoming.body body) ∨
        found.route.streaming = false ∧ ∃ text, FailsWith incoming.body text) := by
  constructor
  · intro hNone
    rw [dispatch_of_lookup?_eq_none hNone]
    exact ⟨runsNothing_of_lookup?_eq_none hNone, unmatched_of_allowedMethods_eq_nil,
      unmatched_of_allowedMethods_ne_nil⟩
  · intro found hFound
    refine ⟨?_, ?_, handsOver_or_failsWith _ _⟩
    · intro text hStreaming hFails
      exact ⟨runsNothing_of_failsWith hFound hStreaming hFails, dispatch_of_failsWith hFound hStreaming hFails⟩
    · intro body hBody
      rw [dispatch_of_handsOver hFound hBody]
      exact concludes_answer _ _

def fileRoute : Route :=
  ⟨.get, ⟨"/files/:id", [.plain (.literal "files"), .plain (.param "id")], rfl⟩,
    ⟨[.log "handler"], .fail ⟨"gone", some 7⟩⟩, [.trace], false⟩

def uploadRoute : Route :=
  ⟨.get, ⟨"/uploads", [.plain (.literal "uploads")], rfl⟩, ⟨[.log "upload"], .upload⟩, [.trace], true⟩

theorem dispatch_composes_for_files :
    let dispatcher : Dispatcher := ⟨.add (.add .empty fileRoute) uploadRoute, .empty⟩
    let missing : Incoming := ⟨.get, "/file/7", .empty, []⟩
    let denied : Incoming := ⟨⟨"PUT", by decide⟩, "/uploads", .empty, []⟩
    let broken : Incoming := ⟨.get, "/files/7.txt", .empty, [.data [1], .failure "reset", .data [2]]⟩
    let whole : Incoming := ⟨.get, "/files/7.txt", .empty, [.data [1], .data [2]]⟩
    let streamed : Incoming := ⟨.get, "/uploads", .empty, [.data [1], .data [2, 3]]⟩
    (dispatcher.router.lookup? .get "/file/7" = none ∧ dispatcher.RunsNothing missing ∧
      dispatcher.dispatch missing = ⟨.sent ⟨.notFound, .empty, []⟩, [], [.unmatched .get "/file/7"]⟩) ∧
    (dispatcher.router.lookup? denied.method "/uploads" = none ∧ dispatcher.RunsNothing denied ∧
      ∃ headers events,
        dispatcher.dispatch denied = ⟨.sent ⟨.methodNotAllowed, headers, []⟩, [], events⟩) ∧
    (FailsWith broken.body "reset" ∧ dispatcher.RunsNothing broken ∧
      dispatcher.dispatch broken =
        ⟨.sent ⟨.badRequest, .empty, []⟩, [], [.unreadable .get "/files/7.txt" "reset"]⟩) ∧
    (HandsOver false whole.body (.buffered [1, 2]) ∧
      (dispatcher.dispatch whole).log = [.text "handler"] ∧
      (dispatcher.dispatch whole).delivery = .sent ⟨.internalServerError, .empty, []⟩ ∧
      (dispatcher.dispatch whole).events =
        [.failed .get "/files/7.txt" "gone", .handlerFailed "/files/:id" "gone"]) ∧
    HandsOver true streamed.body (.streaming streamed.body) ∧
      (dispatcher.dispatch streamed).log = [.text "upload"] ∧
      (dispatcher.dispatch streamed).delivery = .sent (Response.ofText "streamed 3 bytes").toHttp ∧
      (dispatcher.dispatch streamed).events = [.completed .get "/uploads" 200] := by
  intro dispatcher missing denied broken whole streamed
  have hMissing : dispatcher.router.lookup? .get "/file/7" = none := rfl
  have hDenied : dispatcher.router.lookup? denied.method "/uploads" = none := rfl
  have hFound : dispatcher.router.lookup? .get "/files/7.txt" =
      some ⟨fileRoute, ⟨[⟨"id", "7.txt", some 1, by decide⟩], some "txt"⟩⟩ := rfl
  have hUpload : dispatcher.router.lookup? .get "/uploads" = some ⟨uploadRoute, .empty⟩ := rfl
  have hFails : FailsWith broken.body "reset" := ⟨[[1]], [.data [2]], rfl⟩
  have hWhole : HandsOver false whole.body (.buffered [1, 2]) := .buffered [[1], [2]]
  have hStreamed : HandsOver true streamed.body (.streaming streamed.body) := .streaming _
  obtain ⟨hNothing, hNotFound, _⟩ := (dispatch_composes dispatcher missing).1 hMissing
  obtain ⟨hNothingDenied, _, hNotAllowed⟩ := (dispatch_composes dispatcher denied).1 hDenied
  obtain ⟨hUnreadable, _⟩ := (dispatch_composes dispatcher broken).2 _ hFound
  obtain ⟨_, hConcludes, _⟩ := (dispatch_composes dispatcher whole).2 _ hFound
  obtain ⟨_, hConcludesUpload, _⟩ := (dispatch_composes dispatcher streamed).2 _ hUpload
  have hFailed := hConcludes _ hWhole
  have hReturned := hConcludesUpload _ hStreamed
  obtain ⟨hDelivery, hEvents⟩ := hReturned.returned (.ofText "streamed 3 bytes") rfl
  exact ⟨⟨hMissing, hNothing, hNotFound (by decide)⟩,
    ⟨hDenied, hNothingDenied, hNotAllowed (by decide)⟩, ⟨hFails, hUnreadable _ rfl hFails⟩,
    ⟨hWhole, hFailed.log, hFailed.failed ⟨"gone", some 7⟩ rfl⟩, hStreamed, hReturned.log, hDelivery, hEvents⟩

end Dispatcher

end Routing
