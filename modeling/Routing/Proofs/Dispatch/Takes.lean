import Routing.Proofs.Chain.Takes
import Routing.Proofs.Dispatch.Composition

/-! # The body of a request is given out once

A route that streams shows nothing of the body until it is taken, any other route shows all of it. The first
take obtains all of the body that was dispatched, or the failure to read it, and leaves nothing to the others.
-/

namespace Routing

/-- What can be seen of a body that is handed over, and what is read from it. -/
structure Body.HandedOver (body : Body) (streaming : Bool) (chunks : List Chunk) : Prop where
  isStreaming : body.isStreaming = streaming
  unread : streaming = true → body.bytes = []
  whole : ∀ pieces : List Bytes, chunks = pieces.map .data →
    body.read = .ok pieces.flatten ∧ (streaming = false → body.bytes = pieces.flatten)
  broken : ∀ text, FailsWith chunks text → body.read = .error text

theorem HandsOver.handedOver {streaming : Bool} {chunks : List Chunk} {body : Body}
    (h : HandsOver streaming chunks body) : body.HandedOver streaming chunks := by
  cases h with
  | streaming chunks =>
    refine ⟨rfl, fun _ => rfl, ?_, fun text hFails => hFails.readChunks_eq⟩
    rintro pieces rfl
    exact ⟨readChunks_map_data pieces, nofun⟩
  | buffered pieces =>
    have hRead := readChunks_map_data pieces
    refine ⟨rfl, nofun, ?_, ?_⟩
    · intro others hOthers
      rw [hOthers, readChunks_map_data] at hRead
      exact ⟨hRead.symm, fun _ => (Except.ok.inj hRead).symm⟩
    · intro text hFails
      rw [hFails.readChunks_eq] at hRead
      cases hRead

def Route.actions (route : Route) : List Action :=
  actionsIn (scripts route.layers) ++ route.endpoint.actions

namespace Dispatcher

/-- A call gives out every body once: the one that it begins with, and each that an action installs until the
next one is installed. So a dispatch to a route whose layers and handler never install a body gives out the
body of the request once, all of it, and a body that cannot be read before the call is given out to nobody. -/
theorem dispatch_gives_body_once :
    (∀ (layers : List Layer) (endpoint : Endpoint) (exchange : Exchange),
      ∃ call steps, GivesOut layers endpoint exchange call steps) ∧
    ∀ (dispatcher : Dispatcher) (incoming : Incoming) (found : Match),
      dispatcher.router.lookup? incoming.method incoming.path = some found →
        (∀ text, found.route.streaming = false → FailsWith incoming.body text →
          (dispatcher.dispatch incoming).log = []) ∧
        ∀ body, HandsOver found.route.streaming incoming.body body →
          body.HandedOver found.route.streaming incoming.body ∧
          ∃ call steps,
            GivesOut found.route.layers found.route.endpoint (dispatcher.exchange incoming found body) call
              steps ∧
            Concludes found.route.pattern.source (found.chain (dispatcher.exchange incoming found body))
              (dispatcher.dispatch incoming) ∧
            ((∀ action ∈ found.route.actions, ¬ action.Installs) →
              GivenOnce body (dispatcher.dispatch incoming).log call.reply
                (call.handler (dispatcher.exchange incoming found body)).outcome) := by
  refine ⟨exists_givesOut, fun dispatcher incoming found hFound => ⟨?_, ?_⟩⟩
  · intro text hStreaming hFails
    exact (runsNothing_of_failsWith hFound hStreaming hFails).log
  · intro body hBody
    have hConcludes := concludes_answer found.route.pattern.source
      (found.chain (dispatcher.exchange incoming found body))
    rw [← dispatch_of_handsOver hFound hBody] at hConcludes
    obtain ⟨call, steps, hGives⟩ := exists_givesOut found.route.layers found.route.endpoint
      (dispatcher.exchange incoming found body)
    refine ⟨hBody.handedOver, call, steps, hGives, hConcludes, fun hNone => ?_⟩
    rw [hConcludes.log]
    exact hGives.whole hNone

def relayRoute (streaming : Bool) : Route :=
  ⟨.get, ⟨"/relay", [.plain (.literal "relay")], rfl⟩, ⟨[.see, .takeBody], .echo⟩,
    [.trace, .scripted ⟨[.see, .takeBody], none, none, [.see]⟩], streaming⟩

theorem dispatch_gives_body_once_on_relay :
    let streaming : Dispatcher := ⟨.add .empty (relayRoute true), .empty⟩
    let buffering : Dispatcher := ⟨.add .empty (relayRoute false), .empty⟩
    let whole : Incoming := ⟨.get, "/relay", .empty, [.data [1, 2], .data [3]]⟩
    let broken : Incoming := ⟨.get, "/relay", .empty, [.data [1], .failure "reset"]⟩
    (FailsWith broken.body "reset" ∧ (buffering.dispatch broken).log = []) ∧
    HandsOver true whole.body (.streaming whole.body) ∧
    (∀ action ∈ (relayRoute true).actions, ¬ action.Installs) ∧
    (streaming.dispatch whole).log =
      [.request ⟨.get, "/relay", [], none, true, [], .empty⟩, .taken "Streaming" [1, 2, 3],
        .request ⟨.get, "/relay", [], none, false, [], .empty⟩, .taken "Buffered(0)" [],
        .response (.typed .ok .octetStream [] [])] ∧
    ∃ reply outcome, GivenOnce (.streaming whole.body) (streaming.dispatch whole).log reply outcome := by
  intro streaming buffering whole broken
  have hBuffering : buffering.router.lookup? .get "/relay" = some ⟨relayRoute false, ⟨[], none⟩⟩ := rfl
  have hStreaming : streaming.router.lookup? .get "/relay" = some ⟨relayRoute true, ⟨[], none⟩⟩ := rfl
  have hFails : FailsWith broken.body "reset" := ⟨[[1]], [], rfl⟩
  have hNone : ∀ action ∈ (relayRoute true).actions, ¬ action.Installs := by
    have hActions : (relayRoute true).actions = [.see, .takeBody, .see, .takeBody] := rfl
    simp [hActions, Action.Installs]
  obtain ⟨hUnreadable, _⟩ := dispatch_gives_body_once.2 buffering broken _ hBuffering
  obtain ⟨_, hGives⟩ := dispatch_gives_body_once.2 streaming whole _ hStreaming
  obtain ⟨_, _, _, _, _, hOnce⟩ := hGives _ (.streaming whole.body)
  have hLog : (streaming.dispatch whole).log =
      [.request ⟨.get, "/relay", [], none, true, [], .empty⟩, .taken "Streaming" [1, 2, 3],
        .request ⟨.get, "/relay", [], none, false, [], .empty⟩, .taken "Buffered(0)" [],
        .response (.typed .ok .octetStream [] [])] := by
    subst streaming whole
    rfl
  exact ⟨⟨hFails, hUnreadable _ rfl hFails⟩, .streaming _, hNone, hLog, _, _, hOnce hNone⟩

/-- A body that is installed after a take is there for the next one. -/
example :
    (chain [] (Endpoint.handler ⟨[.withBody [7], .takeBody, .withBody [8], .takeBody, .takeBody], .upload⟩)
      ⟨Request.root, .empty, .empty⟩).log =
      [.taken "Buffered(1)" [7], .taken "Buffered(1)" [8], .taken "Buffered(0)" []] := rfl

end Dispatcher

end Routing
