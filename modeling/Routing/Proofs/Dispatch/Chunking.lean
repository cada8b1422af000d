import Routing.Proofs.Chain.Bodies
import Routing.Proofs.Dispatch.Composition

/-! # The cut of a body into chunks

Two bodies that are read alike are answered alike, however they are cut into chunks. A route that does not
stream reads them before its chain is called; on a streaming route the streams stay related on their way
through the layers, until one of these takes and reads them.
-/

namespace Routing

/-- Both bodies are whole and have the same bytes, or their first failures tell the same text. -/
inductive ReadAlike : List Chunk → List Chunk → Prop where
  | whole {pieces others : List Bytes} (h : pieces.flatten = others.flatten) :
    ReadAlike (pieces.map .data) (others.map .data)
  | failing {chunks others : List Chunk} {text : String} (h : FailsWith chunks text)
    (hOthers : FailsWith others text) : ReadAlike chunks others

theorem ReadAlike.readChunks_eq {chunks others : List Chunk} (h : ReadAlike chunks others) :
    readChunks chunks = readChunks others := by
  cases h with
  | whole h => rw [readChunks_map_data, readChunks_map_data, h]
  | failing h hOthers => rw [h.readChunks_eq, hOthers.readChunks_eq]

/-- A body that is read already and itself, or two streams that are read alike. -/
inductive Body.ReadsAs : Body → Body → Prop where
  | buffered (bytes : Bytes) : ReadsAs (.buffered bytes) (.buffered bytes)
  | streaming {chunks others : List Chunk} (h : readChunks chunks = readChunks others) :
    ReadsAs (.streaming chunks) (.streaming others)

namespace Body.ReadsAs

variable {body other : Body}

theorem isStreaming_eq (h : body.ReadsAs other) : other.isStreaming = body.isStreaming := by
  cases h <;> rfl

theorem bytes_eq (h : body.ReadsAs other) : other.bytes = body.bytes := by
  cases h <;> rfl

theorem ofTaken_eq (h : body.ReadsAs other) : Entry.ofTaken other = Entry.ofTaken body := by
  cases h with
  | buffered => rfl
  | streaming h => simp only [Entry.ofTaken, Body.read, Body.describe, h]

theorem uploadResult_eq (h : body.ReadsAs other) : uploadResult other = uploadResult body := by
  cases h with
  | buffered => rfl
  | streaming h => simp only [uploadResult, h]

end Body.ReadsAs

theorem Action.respects_readsAs (action : Action) : action.Respects Body.ReadsAs := by
  by_cases h : action.InspectsBody
  · intro exchange body hBody
    cases action with
    | see =>
      have hView : (exchange.replaceBody body).request.view = exchange.request.view := by
        simp only [Request.view, Exchange.replaceBody, Request.replaceBody, hBody.isStreaming_eq, hBody.bytes_eq]
      exact ⟨congrArg (fun view => some (Entry.request view)) hView, body, hBody, rfl⟩
    | takeBody => exact ⟨congrArg some hBody.ofTaken_eq, .empty, .buffered [], rfl⟩
    | _ => exact h.elim
  · exact Action.respects_of_not_inspectsBody .buffered h

theorem Reply.respects_readsAs (reply : Reply) : reply.Respects Body.ReadsAs := by
  by_cases h : reply.InspectsBody
  · intro request body hBody
    cases reply with
    | echo => simp only [Reply.outcome, Request.replaceBody, hBody.bytes_eq]
    | upload => simp only [Reply.outcome, Request.replaceBody, hBody.uploadResult_eq]
    | _ => exact h.elim
  · exact Reply.respects_of_not_inspectsBody h

theorem Route.respects_readsAs (route : Route) : route.Respects Body.ReadsAs := by
  refine ⟨fun layer _ => ?_, fun action _ => action.respects_readsAs, route.endpoint.reply.respects_readsAs⟩
  cases layer with
  | trace => trivial
  | scripted script => exact ⟨fun action _ => action.respects_readsAs, fun reply _ => reply.respects_readsAs⟩

namespace Dispatcher

/-- Bodies that are read alike are answered alike: the same is sent, or the same panic goes on, with the same log
and the same events. -/
theorem dispatch_of_readAlike (dispatcher : Dispatcher) (incoming : Incoming) {chunks : List Chunk}
    (h : ReadAlike incoming.body chunks) :
    dispatcher.dispatch { incoming with body := chunks } = dispatcher.dispatch incoming := by
  cases hFound : dispatcher.router.lookup? incoming.method incoming.path with
  | none => exact dispatch_with_body_of_lookup?_eq_none hFound chunks
  | some found =>
    simp only [dispatch, hFound]
    -- The two ways of a body: related streams that the chain may read, or one read before it is called.
    cases hStreaming : found.route.streaming with
    | true =>
      have hRun := chain_exchange_eq found.route.respects_readsAs dispatcher incoming
        (.streaming h.readChunks_eq)
      exact congrArg (answer found.route.pattern.source) hRun
    | false =>
      simp only [handedBody, Bool.false_eq_true, if_false, ← h.readChunks_eq]
      rfl

def storeRoute : Route :=
  ⟨.get, ⟨"/store", [.plain (.literal "store")], rfl⟩, ⟨[.takeBody], .upload⟩,
    [.trace, .scripted ⟨[.see], none, none, [.setHeader "x-done" "1"]⟩], true⟩

theorem dispatch_of_readAlike_for_store :
    let dispatcher : Dispatcher := ⟨.add .empty storeRoute, .empty⟩
    let whole : Incoming := ⟨.get, "/store", .empty, [.data [1, 2], .data [3]]⟩
    let pieces : List Chunk := [.data [1], .data [], .data [2, 3]]
    let broken : Incoming := ⟨.get, "/store", .empty, [.data [1], .failure "reset", .failure "late"]⟩
    let reset : List Chunk := [.failure "reset"]
    (ReadAlike whole.body pieces ∧ dispatcher.dispatch { whole with body := pieces } = dispatcher.dispatch whole ∧
      (dispatcher.dispatch whole).log =
        [.request ⟨.get, "/store", [], none, true, [], .empty⟩, .taken "Streaming" [1, 2, 3]]) ∧
    (ReadAlike broken.body reset ∧ dispatcher.dispatch { broken with body := reset } = dispatcher.dispatch broken ∧
      (dispatcher.dispatch broken).log =
        [.request ⟨.get, "/store", [], none, true, [], .empty⟩, .unread "Streaming" "reset"]) := by
  intro dispatcher whole pieces broken reset
  have hWhole : ReadAlike whole.body pieces :=
    @ReadAlike.whole [[1, 2], [3]] [[1], [], [2, 3]] rfl
  have hBroken : ReadAlike broken.body reset :=
    @ReadAlike.failing _ _ "reset" ⟨[[1]], [.failure "late"], rfl⟩ ⟨[], [], rfl⟩
  refine ⟨⟨hWhole, dispatch_of_readAlike dispatcher whole hWhole, ?_⟩,
    hBroken, dispatch_of_readAlike dispatcher broken hBroken, ?_⟩
  · subst dispatcher whole
    rfl
  · subst dispatcher broken
    rfl

end Dispatcher

end Routing
