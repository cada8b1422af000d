import Routing.Proofs.Chain.Tracing
import Routing.Proofs.Dispatch.Composition
import Routing.Proofs.Message.Sending
import Routing.Proofs.Router.AllowedMethods

/-! # Paths that do not allow a method

A request whose path matches a pattern, but none that is registered for its method, is told which methods the
path allows. Whatever these are, they make a header value from which they can be read back: the characters of
a token are printable, and the comma that separates the methods is not among them.
-/

namespace Routing

variable {c : Char} {text : String}

/-! ## The header that lists the methods -/

theorem isHeaderName_allow : Http.IsHeaderName "allow" :=
  ⟨⟨by decide, Http.fieldLaws.allow.1⟩, Http.fieldLaws.allow.2⟩

def allowName : Http.HeaderName :=
  ⟨"allow", "allow", isHeaderName_allow, rfl⟩

def allowedNames (text : String) : List String :=
  (Text.splitPairs ',' ' ' text.toList).map String.ofList

theorem isPrintable_of_mem_allowValue {methods : List Http.Method} (h : c ∈ (allowValue methods).toList) :
    IsPrintable c := by
  rw [allowValue, String.toList_intercalate] at h
  rcases mem_or_mem_of_mem_intercalate h with hMark | ⟨piece, hPiece, hc⟩
  · exact isPrintable_of_mem (by decide) hMark
  · simp only [List.map_map, List.mem_map] at hPiece
    obtain ⟨method, _, rfl⟩ := hPiece
    exact Http.fieldLaws.printable (List.all_eq_true.mp method.isToken.2 c hc)

theorem allowedNames_allowValue {methods : List Http.Method} (h : methods ≠ []) :
    allowedNames (allowValue methods) = methods.map Http.Method.name := by
  have hPieces : Text.splitPairs ',' ' ' (allowValue methods).toList =
      (methods.map Http.Method.name).map String.toList := by
    rw [allowValue, String.toList_intercalate]
    refine Text.splitPairs_intercalate (by simpa using h) fun piece hPiece => ?_
    simp only [List.map_map, List.mem_map] at hPiece
    obtain ⟨method, _, rfl⟩ := hPiece
    intro hMem
    cases (List.all_eq_true.mp method.isToken.2 ',' hMem).symm.trans Http.fieldLaws.comma
  rw [allowedNames, hPieces, List.map_map]
  exact List.map_id'' (fun _ => String.ofList_toList) _

theorem Response.send_of_validPair? {pair : String × String} {entry : Http.HeaderName × Http.HeaderValue}
    (h : validPair? pair = some entry) (status : Http.Status) (body : Bytes) (log : List Entry)
    (events : List Event) :
    (⟨status, [pair], body⟩ : Response).send log events =
      ⟨.sent ⟨status, ⟨[entry]⟩, body⟩, log, events⟩ := by
  simp [send, toHttp, droppedHeaders, sendHeaders, sendPair, h, Http.HeaderMap.append, Http.HeaderMap.empty]

theorem validPair?_allow {text : String} {value : Http.HeaderValue} (h : value.bytes = utf8 text) :
    Response.validPair? ("allow", text) = some (allowName, value) := by
  have hName : Http.HeaderName.ofString? "allow" = some allowName :=
    Http.HeaderName.ofString?_eq_some_iff.mpr ⟨isHeaderName_allow, rfl⟩
  exact Http.field?_eq_some_iff.mpr ⟨hName, h⟩

/-! ## Requests that have a route -/

/-- The event tells that a request had no route. -/
def Event.TellsUnmatched : Event → Prop
  | unmatched .. => True
  | notAllowed .. => True
  | _ => False

theorem not_tellsUnmatched_of_mem_chain {layers : List Layer} {endpoint : Endpoint} {exchange : Exchange}
    {event : Event} (h : event ∈ (chain layers endpoint.handler exchange).events) :
    ¬ event.TellsUnmatched := by
  obtain ⟨seen, hSeen⟩ := exists_watched layers endpoint.handler exchange
  rw [hSeen.events, events_chain_untraced, List.nil_append] at h
  obtain ⟨sighting, _, rfl⟩ := List.mem_map.mp h
  rw [Sighting.report]
  cases sighting.result <;> exact id

theorem not_tellsUnmatched_of_mem_droppedHeaders {response : Response} {event : Event}
    (h : event ∈ response.droppedHeaders) : ¬ event.TellsUnmatched := by
  rw [Response.droppedHeaders_eq] at h
  obtain ⟨_, _, rfl⟩ := List.mem_map.mp h
  exact id

namespace Dispatcher

variable {dispatcher : Dispatcher} {incoming : Incoming}

theorem not_tellsUnmatched_of_mem_answer {pattern : String} {run : Run} {event : Event}
    (hRun : ∀ event ∈ run.events, ¬ event.TellsUnmatched) (h : event ∈ (answer pattern run).events) :
    ¬ event.TellsUnmatched := by
  have hConcludes := concludes_answer pattern run
  cases hOutcome : run.outcome with
  | panicked text =>
    rw [(hConcludes.panicked text hOutcome).2] at h
    exact hRun event h
  | returned result =>
    cases result with
    | ok response =>
      rw [(hConcludes.returned response hOutcome).2, List.mem_append] at h
      exact h.elim (hRun event) not_tellsUnmatched_of_mem_droppedHeaders
    | error fault =>
      rw [(hConcludes.failed fault hOutcome).2, List.mem_append, List.mem_singleton] at h
      rcases h with h | rfl
      · exact hRun event h
      · exact id

theorem not_tellsUnmatched_of_isSome_lookup?
    (h : (dispatcher.router.lookup? incoming.method incoming.path).isSome) {event : Event}
    (hEvent : event ∈ (dispatcher.dispatch incoming).events) : ¬ event.TellsUnmatched := by
  obtain ⟨found, hFound⟩ := Option.isSome_iff_exists.mp h
  rcases handsOver_or_failsWith found.route.streaming incoming.body with ⟨body, hBody⟩ | ⟨hStreaming, text, hFails⟩
  · rw [dispatch_of_handsOver hFound hBody] at hEvent
    exact not_tellsUnmatched_of_mem_answer (fun _ => not_tellsUnmatched_of_mem_chain) hEvent
  · rw [dispatch_of_failsWith hFound hStreaming hFails] at hEvent
    obtain rfl := List.mem_singleton.mp hEvent
    exact id

theorem dispatch_of_allowedMethods_ne_nil
    (h : dispatcher.router.lookup? incoming.method incoming.path = none)
    (hAllowed : dispatcher.router.allowedMethods incoming.path ≠ []) :
    ∃ value : Http.HeaderValue,
      value.bytes = utf8 (allowValue (dispatcher.router.allowedMethods incoming.path)) ∧
      value.text? = some (allowValue (dispatcher.router.allowedMethods incoming.path)) ∧
      dispatcher.dispatch incoming =
        ⟨.sent ⟨.methodNotAllowed, ⟨[(allowName, value)]⟩, []⟩, [],
          [.notAllowed incoming.method incoming.path
            (allowValue (dispatcher.router.allowedMethods incoming.path))]⟩ := by
  obtain ⟨value, hBytes, hText⟩ := Http.exists_headerValue_of_isPrintable
    fun c (hc : c ∈ (allowValue (dispatcher.router.allowedMethods incoming.path)).toList) =>
      isPrintable_of_mem_allowValue hc
  refine ⟨value, hBytes, hText, ?_⟩
  rw [dispatch_of_lookup?_eq_none h, unmatched, if_neg hAllowed]
  exact Response.send_of_validPair? (validPair?_allow hBytes) ..

/-- If some pattern matches the path of a request that has no route, the answer is 405 with no header but the
list of the methods that the path allows, from which they can be read back. There is at least one of them,
none is listed twice, the method of the request is not listed, and with each that is the path has a route. -/
theorem unmatched_lists_allowed_methods
    (h : dispatcher.router.lookup? incoming.method incoming.path = none)
    (hPath : ∃ route ∈ dispatcher.router.routes, route.pattern.Matches incoming.path) :
    let allowed := dispatcher.router.allowedMethods incoming.path
    (∃ value : Http.HeaderValue, value.bytes = utf8 (allowValue allowed) ∧
      value.text? = some (allowValue allowed) ∧
      dispatcher.dispatch incoming =
        ⟨.sent ⟨.methodNotAllowed, ⟨[(allowName, value)]⟩, []⟩, [],
          [.notAllowed incoming.method incoming.path (allowValue allowed)]⟩) ∧
    allowedNames (allowValue allowed) = allowed.map Http.Method.name ∧
    allowed ≠ [] ∧ allowed.Nodup ∧ incoming.method ∉ allowed ∧
    ∀ method ∈ allowed, (dispatcher.router.lookup? method incoming.path).isSome ∧
      ∀ headers body, ∀ event ∈ (dispatcher.dispatch ⟨method, incoming.path, headers, body⟩).events,
        ¬ event.TellsUnmatched := by
  intro allowed
  obtain ⟨route, hMem, hMatches⟩ := hPath
  have hRoute : route.method ∈ allowed :=
    Router.mem_allowedMethods_iff.mpr (Router.isSome_lookup?_iff.mpr ⟨route, hMem, rfl, hMatches⟩)
  have hAllowed : allowed ≠ [] := List.ne_nil_of_mem hRoute
  have hOwn : incoming.method ∉ allowed := by
    rw [Router.mem_allowedMethods_iff, h]
    exact Bool.false_ne_true
  refine ⟨dispatch_of_allowedMethods_ne_nil h hAllowed, allowedNames_allowValue hAllowed, hAllowed,
    Router.nodup_allowedMethods _ _, hOwn, fun method hMethod => ?_⟩
  have hFound := Router.mem_allowedMethods_iff.mp hMethod
  exact ⟨hFound, fun headers body event => not_tellsUnmatched_of_isSome_lookup? hFound⟩

def searchMethod : Http.Method :=
  ⟨"M-SEARCH", by decide⟩

def deleteMethod : Http.Method :=
  ⟨"DELETE", by decide⟩

def userPattern : Pattern :=
  ⟨"/users/:id", [.plain (.literal "users"), .plain (.param "id")], rfl⟩

def usersDispatcher : Dispatcher :=
  ⟨⟨[⟨.get, userPattern, ⟨[], .param "id"⟩, [.trace], false⟩,
    ⟨searchMethod, userPattern, ⟨[], .status 404⟩, [], true⟩,
    ⟨.get, userPattern, ⟨[], .status 204⟩, [], false⟩]⟩, .empty⟩

def userRequest (method : Http.Method) : Incoming :=
  ⟨method, "/users/7", .empty, [.failure "reset"]⟩

theorem unmatched_lists_allowed_methods_for_users :
    (usersDispatcher.router.lookup? deleteMethod "/users/7" = none ∧
      ∃ route ∈ usersDispatcher.router.routes, route.pattern.Matches "/users/7") ∧
    (∃ value : Http.HeaderValue, value.text? = some "GET, M-SEARCH" ∧
      usersDispatcher.dispatch (userRequest deleteMethod) =
        ⟨.sent ⟨.methodNotAllowed, ⟨[(allowName, value)]⟩, []⟩, [],
          [.notAllowed deleteMethod "/users/7" "GET, M-SEARCH"]⟩) ∧
    allowedNames "GET, M-SEARCH" = ["GET", "M-SEARCH"] ∧
    ∀ event ∈ (usersDispatcher.dispatch (userRequest searchMethod)).events, ¬ event.TellsUnmatched := by
  have hNone : usersDispatcher.router.lookup? deleteMethod "/users/7" = none := rfl
  have hPath : ∃ route ∈ usersDispatcher.router.routes, route.pattern.Matches "/users/7" :=
    ⟨_, List.mem_cons_self, by decide⟩
  have hAllowed : usersDispatcher.router.allowedMethods "/users/7" = [.get, searchMethod] := by decide
  have hValue : allowValue [.get, searchMethod] = "GET, M-SEARCH" := by decide
  have hListed := @unmatched_lists_allowed_methods usersDispatcher (userRequest deleteMethod) hNone hPath
  simp only [userRequest, hAllowed, hValue] at hListed
  obtain ⟨⟨value, _, hText, hDispatch⟩, hNames, _, _, _, hFound⟩ := hListed
  exact ⟨⟨hNone, hPath⟩, ⟨value, hText, hDispatch⟩, hNames,
    (hFound searchMethod (by decide)).2 .empty [.failure "reset"]⟩

end Dispatcher

end Routing
