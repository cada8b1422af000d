import Routing.Proofs.Chain.Onion

/-! # Traced layers only watch

A chain writes down the same and ends in the same way without its traced layers. What these report is one
event for each of them that the request reaches and to which a result comes back, innermost first.
-/

namespace Routing

def untraced (layers : List Layer) : List Layer :=
  layers.filter (· ≠ .trace)

def Layer.script? : Layer → Option LayerScript
  | trace => none
  | scripted script => some script

def scripts (layers : List Layer) : List LayerScript :=
  layers.filterMap Layer.script?

@[simp]
theorem scripts_trace_cons (layers : List Layer) : scripts (.trace :: layers) = scripts layers := rfl

@[simp]
theorem scripts_scripted_cons (script : LayerScript) (layers : List Layer) :
    scripts (.scripted script :: layers) = script :: scripts layers := rfl

@[simp]
theorem untraced_trace_cons (layers : List Layer) : untraced (.trace :: layers) = untraced layers := rfl

@[simp]
theorem untraced_scripted_cons (script : LayerScript) (layers : List Layer) :
    untraced (.scripted script :: layers) = .scripted script :: untraced layers := rfl

/-! ## Runs without their events -/

def Run.silent (run : Run) : Run :=
  { run with events := [] }

theorem Run.silent_eq_silent_iff {run other : Run} :
    run.silent = other.silent ↔ run.log = other.log ∧ run.outcome = other.outcome := by
  simp [Run.silent]

theorem Run.silent_after (steps : List Step) (run : Run) :
    (run.after steps).silent = run.silent.after steps := by
  obtain ⟨log, events, outcome⟩ := run
  cases outcome <;> rfl

theorem Run.silent_logFirst (entries : List Entry) (run : Run) :
    (run.logFirst entries).silent = run.silent.logFirst entries := rfl

theorem Run.events_after (steps : List Step) (run : Run) : (run.after steps).events = run.events := by
  obtain ⟨log, events, outcome⟩ := run
  cases outcome <;> rfl

theorem Run.events_logFirst (entries : List Entry) (run : Run) :
    (run.logFirst entries).events = run.events := rfl

theorem silent_wrap_scripted {next other : Handler} (h : ∀ exchange, (next exchange).silent = (other exchange).silent)
    (script : LayerScript) (exchange : Exchange) :
    ((Layer.scripted script).wrap next exchange).silent =
      ((Layer.scripted script).wrap other exchange).silent := by
  cases hStop : script.stopReply? (applyActions script.before exchange).request with
  | some reply => rw [wrap_of_stops next hStop, wrap_of_stops other hStop]
  | none =>
    rw [wrap_of_passes next hStop, wrap_of_passes other hStop, Run.silent_logFirst, Run.silent_logFirst,
      Run.silent_after, Run.silent_after, h]

theorem silent_chain_untraced (layers : List Layer) (handler : Handler) (exchange : Exchange) :
    (chain layers handler exchange).silent = (chain (untraced layers) handler exchange).silent := by
  induction layers generalizing exchange with
  | nil => rfl
  | cons layer layers ih =>
    cases layer with
    | trace => exact ih exchange
    | scripted script => exact silent_wrap_scripted ih script exchange

theorem events_chain_untraced (layers : List Layer) (endpoint : Endpoint) (exchange : Exchange) :
    (chain (untraced layers) endpoint.handler exchange).events = [] := by
  induction layers generalizing exchange with
  | nil => rfl
  | cons layer layers ih =>
    cases layer with
    | trace => exact ih exchange
    | scripted script =>
      rw [untraced_scripted_cons, chain_cons]
      cases hStop : script.stopReply? (applyActions script.before exchange).request with
      | some reply => rw [wrap_of_stops _ hStop, Run.events_logFirst, Run.events_after]
      | none => rw [wrap_of_passes _ hStop, Run.events_logFirst, Run.events_after, ih]

/-! ## What the traced layers see -/

/-- The place of a traced layer, the request that it receives and the result that comes back to it. -/
structure Sighting where
  place : Nat
  request : Request
  result : Result

namespace Sighting

/-- The scripted layers in front of the place let the request through, and the chain behind it returns. -/
def Occurs (layers : List Layer) (handler : Handler) (exchange : Exchange) (sighting : Sighting) : Prop :=
  ∃ outer inner, layers = outer ++ .trace :: inner ∧ outer.length = sighting.place ∧
    AllPass (scripts outer) exchange ∧
    sighting.request = (applyActions (actionsIn (scripts outer)) exchange).request ∧
    (chain inner handler (applyActions (actionsIn (scripts outer)) exchange)).outcome =
      .returned sighting.result

def report (sighting : Sighting) : Event :=
  match sighting.result with
  | .ok response => .completed sighting.request.method sighting.request.path response.status.code
  | .error fault => .failed sighting.request.method sighting.request.path fault.text

def deeper (sighting : Sighting) : Sighting :=
  { sighting with place := sighting.place + 1 }

variable {layers : List Layer} {handler : Handler} {exchange : Exchange} {script : LayerScript}
  {sighting : Sighting}

theorem not_occurs_nil : ¬ sighting.Occurs [] handler exchange := by
  rintro ⟨outer, inner, hLayers, _⟩
  simp at hLayers

theorem occurs_trace_cons_iff :
    sighting.Occurs (.trace :: layers) handler exchange ↔
      (∃ result, (chain layers handler exchange).outcome = .returned result ∧
        sighting = ⟨0, exchange.request, result⟩) ∨
      ∃ inner : Sighting, inner.Occurs layers handler exchange ∧ inner.deeper = sighting := by
  constructor
  · rintro ⟨outer, inner, hLayers, hPlace, hPass, hRequest, hReturned⟩
    cases outer with
    | nil =>
      obtain ⟨_, rfl⟩ := List.cons.inj hLayers
      obtain ⟨place, request, result⟩ := sighting
      obtain rfl : 0 = place := hPlace
      obtain rfl : request = exchange.request := hRequest
      exact .inl ⟨result, hReturned, rfl⟩
    | cons head outer =>
      obtain ⟨rfl, rfl⟩ := List.cons.inj hLayers
      obtain ⟨place, request, result⟩ := sighting
      obtain rfl : outer.length + 1 = place := hPlace
      exact .inr ⟨⟨outer.length, request, result⟩, ⟨outer, inner, rfl, rfl, hPass, hRequest, hReturned⟩, rfl⟩
  · rintro (⟨result, hReturned, rfl⟩ | ⟨sighting, ⟨outer, inner, rfl, hPlace, hSighting⟩, rfl⟩)
    · exact ⟨[], layers, rfl, rfl, allPass_nil exchange, rfl, hReturned⟩
    · exact ⟨.trace :: outer, inner, rfl, congrArg (· + 1) hPlace, hSighting⟩

theorem occurs_scripted_cons_iff :
    sighting.Occurs (.scripted script :: layers) handler exchange ↔
      script.stopReply? (applyActions script.before exchange).request = none ∧
      ∃ inner : Sighting, inner.Occurs layers handler (applyActions script.before exchange) ∧
        inner.deeper = sighting := by
  constructor
  · rintro ⟨outer, inner, hLayers, hPlace, hPass, hSighting⟩
    cases outer with
    | nil => cases hLayers
    | cons head outer =>
      obtain ⟨rfl, rfl⟩ := List.cons.inj hLayers
      obtain ⟨place, request, result⟩ := sighting
      obtain rfl : outer.length + 1 = place := hPlace
      rw [scripts_scripted_cons, allPass_cons_iff] at hPass
      rw [scripts_scripted_cons, applyActions_actionsIn_cons] at hSighting
      exact ⟨hPass.1, ⟨outer.length, request, result⟩, ⟨outer, inner, rfl, rfl, hPass.2, hSighting⟩, rfl⟩
  · rintro ⟨hStop, sighting, ⟨outer, inner, rfl, hPlace, hPass, hSighting⟩, rfl⟩
    refine ⟨.scripted script :: outer, inner, rfl, congrArg (· + 1) hPlace, ?_⟩
    rw [scripts_scripted_cons, allPass_cons_iff, applyActions_actionsIn_cons]
    exact ⟨⟨hStop, hPass⟩, hSighting⟩

end Sighting

/-- All sightings of a call, innermost first, and their events behind those of the chain without its traced
layers. -/
structure Watched (layers : List Layer) (handler : Handler) (exchange : Exchange)
    (seen : List Sighting) : Prop where
  mem_iff : ∀ sighting, sighting ∈ seen ↔ sighting.Occurs layers handler exchange
  ordered : seen.Pairwise fun inner outer => outer.place < inner.place
  events : (chain layers handler exchange).events =
    (chain (untraced layers) handler exchange).events ++ seen.map Sighting.report

namespace Watched

variable {layers : List Layer} {handler : Handler} {exchange : Exchange} {seen : List Sighting}

theorem nil (handler : Handler) (exchange : Exchange) : Watched [] handler exchange [] where
  mem_iff sighting := by simp [Sighting.not_occurs_nil]
  ordered := .nil
  events := by simp [untraced]

theorem pairwise_deeper (h : seen.Pairwise fun inner outer => outer.place < inner.place) :
    (seen.map Sighting.deeper).Pairwise fun inner outer => outer.place < inner.place :=
  List.pairwise_map.mpr (h.imp fun hLt => Nat.succ_lt_succ hLt)

theorem map_report_deeper (seen : List Sighting) :
    (seen.map Sighting.deeper).map Sighting.report = seen.map Sighting.report := by
  rw [List.map_map]
  rfl

theorem trace_returned (h : Watched layers handler exchange seen) {result : Result}
    (hReturned : (chain layers handler exchange).outcome = .returned result) :
    Watched (.trace :: layers) handler exchange
      (seen.map Sighting.deeper ++ [⟨0, exchange.request, result⟩]) where
  mem_iff sighting := by
    simp only [Sighting.occurs_trace_cons_iff, hReturned, Outcome.returned.injEq, exists_eq_left',
      List.mem_append, List.mem_map, List.mem_singleton, h.mem_iff]
    exact or_comm
  ordered := by
    refine List.pairwise_append.mpr ⟨pairwise_deeper h.ordered, List.pairwise_singleton _ _, ?_⟩
    intro inner hInner outer hOuter
    obtain ⟨sighting, _, rfl⟩ := List.mem_map.mp hInner
    obtain rfl := List.mem_singleton.mp hOuter
    exact Nat.succ_pos _
  events := by
    have hReport : traceEvents exchange.request (chain layers handler exchange).outcome =
        [Sighting.report ⟨0, exchange.request, result⟩] := by
      rw [hReturned]
      cases result <;> rfl
    rw [List.map_append, map_report_deeper, ← List.append_assoc, untraced_trace_cons, ← h.events]
    exact congrArg ((chain layers handler exchange).events ++ ·) hReport

theorem trace_panicked (h : Watched layers handler exchange seen) {text : String}
    (hPanicked : (chain layers handler exchange).outcome = .panicked text) :
    Watched (.trace :: layers) handler exchange (seen.map Sighting.deeper) where
  mem_iff sighting := by
    simp only [Sighting.occurs_trace_cons_iff, hPanicked, reduceCtorEq, false_and, exists_false, false_or,
      List.mem_map, h.mem_iff]
  ordered := pairwise_deeper h.ordered
  events := by
    have hReport : traceEvents exchange.request (chain layers handler exchange).outcome = [] := by
      rw [hPanicked]
      rfl
    rw [map_report_deeper, untraced_trace_cons, ← h.events]
    exact (congrArg ((chain layers handler exchange).events ++ ·) hReport).trans (List.append_nil _)

theorem scripted_passes {script : LayerScript}
    (h : Watched layers handler (applyActions script.before exchange) seen)
    (hStop : script.stopReply? (applyActions script.before exchange).request = none) :
    Watched (.scripted script :: layers) handler exchange (seen.map Sighting.deeper) where
  mem_iff sighting := by
    simp only [Sighting.occurs_scripted_cons_iff, hStop, true_and, List.mem_map, h.mem_iff]
  ordered := pairwise_deeper h.ordered
  events := by
    rw [map_report_deeper, untraced_scripted_cons, chain_cons, chain_cons, wrap_of_passes _ hStop,
      wrap_of_passes _ hStop]
    simp only [Run.events_logFirst, Run.events_after, h.events]

theorem scripted_stops {script : LayerScript} {reply : Reply} (layers : List Layer) (handler : Handler)
    (hStop : script.stopReply? (applyActions script.before exchange).request = some reply) :
    Watched (.scripted script :: layers) handler exchange [] where
  mem_iff sighting := by simp [Sighting.occurs_scripted_cons_iff, hStop]
  ordered := .nil
  events := by
    rw [untraced_scripted_cons, chain_cons, chain_cons, wrap_of_stops _ hStop, wrap_of_stops _ hStop,
      List.map_nil, List.append_nil]

end Watched

theorem exists_watched (layers : List Layer) (handler : Handler) (exchange : Exchange) :
    ∃ seen, Watched layers handler exchange seen := by
  induction layers generalizing exchange with
  | nil => exact ⟨[], .nil handler exchange⟩
  | cons layer layers ih =>
    -- A traced layer adds a sighting behind those inside it, unless these panic; a scripted layer adds none,
    -- and lets nothing be seen inside it when it ends the request.
    cases layer with
    | trace =>
      obtain ⟨seen, hSeen⟩ := ih exchange
      cases hOutcome : (chain layers handler exchange).outcome with
      | returned result => exact ⟨_, hSeen.trace_returned hOutcome⟩
      | panicked text => exact ⟨_, hSeen.trace_panicked hOutcome⟩
    | scripted script =>
      cases hStop : script.stopReply? (applyActions script.before exchange).request with
      | some reply => exact ⟨[], .scripted_stops layers handler hStop⟩
      | none =>
        obtain ⟨seen, hSeen⟩ := ih (applyActions script.before exchange)
        exact ⟨_, hSeen.scripted_passes hStop⟩

/-- Traced layers change neither what a chain writes down nor how it ends. Of a chain around a scripted
handler they make all the events: one for each traced layer to which a request comes and a result comes
back, innermost first. -/
theorem chain_watched_by_traces (layers : List Layer) (handler : Handler) (exchange : Exchange) :
    (chain layers handler exchange).outcome = (chain (untraced layers) handler exchange).outcome ∧
    (chain layers handler exchange).log = (chain (untraced layers) handler exchange).log ∧
    (∃ seen, Watched layers handler exchange seen) ∧
    ∀ endpoint : Endpoint, (chain (untraced layers) endpoint.handler exchange).events = [] := by
  obtain ⟨hLog, hOutcome⟩ := Run.silent_eq_silent_iff.mp (silent_chain_untraced layers handler exchange)
  exact ⟨hOutcome, hLog, exists_watched layers handler exchange,
    fun endpoint => events_chain_untraced layers endpoint exchange⟩

/-- A status set between two traced layers is reported by the outer one only, and the third is not reached. -/
example :
    (chain [.trace, .scripted ⟨[], none, none, [.setStatus 503]⟩, .trace,
      .scripted ⟨[], some (.param "id"), none, []⟩, .trace] (Endpoint.handler ⟨[], .echo⟩)
      ⟨Request.root, .empty, .empty⟩).events = [.completed .get "/" 200, .completed .get "/" 503] := rfl

end Routing
