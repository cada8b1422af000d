import Routing.Chain

/-! # A chain of scripted layers is an onion

The layers act on a request from the outermost to the first one that ends it, or to the handler. What comes
out there passes the steps of the same layers in the opposite order.
-/

namespace Routing

/-- The actions of layers on the way in, outermost first. -/
def actionsIn (scripts : List LayerScript) : List Action :=
  scripts.flatMap LayerScript.before

/-- The steps of layers on the way out, innermost first. -/
def stepsOut (scripts : List LayerScript) : List Step :=
  scripts.reverse.flatMap LayerScript.after

theorem actionsIn_append (scripts more : List LayerScript) :
    actionsIn (scripts ++ more) = actionsIn scripts ++ actionsIn more :=
  List.flatMap_append

theorem stepsOut_append (scripts more : List LayerScript) :
    stepsOut (scripts ++ more) = stepsOut more ++ stepsOut scripts := by
  rw [stepsOut, List.reverse_append, List.flatMap_append, ← stepsOut, ← stepsOut]

/-- Every layer passes the request on, each asked after the actions of all layers down to it. -/
def AllPass (scripts : List LayerScript) (exchange : Exchange) : Prop :=
  ∀ outer script inner, scripts = outer ++ script :: inner →
    script.stopReply? (applyActions (actionsIn (outer ++ [script])) exchange).request = none

/-- The layer `script` below `outer` is the first that ends the request, by `reply`. -/
structure StopsAt (scripts : List LayerScript) (exchange : Exchange) (outer : List LayerScript)
    (script : LayerScript) (reply : Reply) : Prop where
  reached : outer ++ [script] <+: scripts
  passed : AllPass outer exchange
  stopped : script.stopReply? (applyActions (actionsIn (outer ++ [script])) exchange).request = some reply

theorem allPass_nil (exchange : Exchange) : AllPass [] exchange := by
  intro outer script inner h
  simp at h

theorem applyActions_actionsIn_cons (script : LayerScript) (scripts : List LayerScript) (exchange : Exchange) :
    applyActions (actionsIn (script :: scripts)) exchange =
      applyActions (actionsIn scripts) (applyActions script.before exchange) := by
  rw [actionsIn, List.flatMap_cons, applyActions_append, ← actionsIn]

theorem actionsIn_singleton (script : LayerScript) : actionsIn [script] = script.before := by
  simp [actionsIn]

theorem allPass_cons_iff {script : LayerScript} {scripts : List LayerScript} {exchange : Exchange} :
    AllPass (script :: scripts) exchange ↔
      script.stopReply? (applyActions script.before exchange).request = none ∧
        AllPass scripts (applyActions script.before exchange) := by
  constructor
  · intro h
    constructor
    · simpa [applyActions_actionsIn_cons, actionsIn, applyActions] using h [] script scripts rfl
    · rintro outer next inner rfl
      rw [← applyActions_actionsIn_cons]
      exact h (script :: outer) next inner rfl
  · rintro ⟨hScript, hScripts⟩ outer next inner hEq
    cases outer with
    | nil =>
      obtain ⟨rfl, rfl⟩ := List.cons.inj hEq
      simpa [applyActions_actionsIn_cons, actionsIn, applyActions] using hScript
    | cons head outer =>
      obtain ⟨rfl, rfl⟩ := List.cons.inj hEq
      rw [List.cons_append, applyActions_actionsIn_cons]
      exact hScripts outer next inner rfl

theorem allPass_or_stopsAt (scripts : List LayerScript) (exchange : Exchange) :
    AllPass scripts exchange ∨ ∃ outer script reply, StopsAt scripts exchange outer script reply := by
  induction scripts generalizing exchange with
  | nil => exact .inl (allPass_nil exchange)
  | cons script scripts ih =>
    cases hStop : script.stopReply? (applyActions script.before exchange).request with
    | some reply =>
      refine .inr ⟨[], script, reply, ⟨scripts, rfl⟩, allPass_nil exchange, ?_⟩
      rwa [List.nil_append, applyActions_actionsIn_cons]
    | none =>
      rcases ih (applyActions script.before exchange) with hPass | ⟨outer, next, reply, hStops⟩
      · exact .inl (allPass_cons_iff.mpr ⟨hStop, hPass⟩)
      · refine .inr ⟨script :: outer, next, reply, ?_, allPass_cons_iff.mpr ⟨hStop, hStops.passed⟩, ?_⟩
        · exact (List.prefix_cons_inj script).mpr hStops.reached
        · rw [List.cons_append, applyActions_actionsIn_cons]
          exact hStops.stopped

/-- The layers have acted on the way to `core`, and on its result on the way out; a panic takes no step. -/
structure Around (scripts : List LayerScript) (exchange : Exchange) (core run : Run) : Prop where
  events : run.events = core.events
  returned : ∀ result, core.outcome = .returned result →
    run.log = logActions (actionsIn scripts) exchange ++ core.log ++ logSteps (stepsOut scripts) result ∧
      run.outcome = .returned (applySteps (stepsOut scripts) result)
  panicked : ∀ text, core.outcome = .panicked text →
    run.log = logActions (actionsIn scripts) exchange ++ core.log ∧ run.outcome = .panicked text

theorem Around.nil (exchange : Exchange) (core : Run) : Around [] exchange core core where
  events := rfl
  returned result h := ⟨by simp [actionsIn, stepsOut, logActions, logSteps], h⟩
  panicked text h := ⟨by simp [actionsIn, logActions], h⟩

theorem Around.singleton (script : LayerScript) (exchange : Exchange) (core : Run) :
    Around [script] exchange core ((core.after script.after).logFirst (logActions script.before exchange)) where
  events := by
    unfold Run.after
    split <;> rfl
  returned result h := by
    simp [Run.after, Run.logFirst, h, actionsIn, stepsOut]
  panicked text h := by
    simp [Run.after, Run.logFirst, h, actionsIn]

/-- Layers around layers act as one list of layers. -/
theorem Around.append {outer inner : List LayerScript} {exchange : Exchange} {core middle run : Run}
    (hInner : Around inner (applyActions (actionsIn outer) exchange) core middle)
    (hOuter : Around outer exchange middle run) : Around (outer ++ inner) exchange core run where
  events := hOuter.events.trans hInner.events
  returned result h := by
    obtain ⟨hMiddleLog, hMiddle⟩ := hInner.returned result h
    obtain ⟨hLog, hRun⟩ := hOuter.returned _ hMiddle
    rw [actionsIn_append, stepsOut_append, logActions_append, logSteps_append, applySteps_append]
    exact ⟨by rw [hLog, hMiddleLog]; simp only [List.append_assoc], hRun⟩
  panicked text h := by
    obtain ⟨hMiddleLog, hMiddle⟩ := hInner.panicked text h
    obtain ⟨hLog, hRun⟩ := hOuter.panicked text hMiddle
    rw [actionsIn_append, logActions_append]
    exact ⟨by rw [hLog, hMiddleLog, List.append_assoc], hRun⟩

theorem Around.eq {scripts : List LayerScript} {exchange : Exchange} {core run other : Run}
    (h : Around scripts exchange core run) (hOther : Around scripts exchange core other) : run = other := by
  cases run
  cases other
  obtain rfl := h.events.trans hOther.events.symm
  cases hCore : core.outcome with
  | returned result =>
    obtain ⟨rfl, rfl⟩ := h.returned result hCore
    obtain ⟨rfl, rfl⟩ := hOther.returned result hCore
    rfl
  | panicked text =>
    obtain ⟨rfl, rfl⟩ := h.panicked text hCore
    obtain ⟨rfl, rfl⟩ := hOther.panicked text hCore
    rfl

theorem wrap_of_stops {script : LayerScript} {exchange : Exchange} {reply : Reply} (next : Handler)
    (h : script.stopReply? (applyActions script.before exchange).request = some reply) :
    (Layer.scripted script).wrap next exchange =
      (Run.after script.after ⟨[], [], reply.outcome (applyActions script.before exchange).request⟩).logFirst
        (logActions script.before exchange) := by
  simp only [Layer.wrap, h]

theorem wrap_of_passes {script : LayerScript} {exchange : Exchange} (next : Handler)
    (h : script.stopReply? (applyActions script.before exchange).request = none) :
    (Layer.scripted script).wrap next exchange =
      ((next (applyActions script.before exchange)).after script.after).logFirst
        (logActions script.before exchange) := by
  simp only [Layer.wrap, h]

theorem around_chain_of_allPass {scripts : List LayerScript} {exchange : Exchange} (handler : Handler)
    (h : AllPass scripts exchange) :
    Around scripts exchange (handler (applyActions (actionsIn scripts) exchange))
      (chain (scripts.map .scripted) handler exchange) := by
  induction scripts generalizing exchange with
  | nil => exact .nil exchange _
  | cons script scripts ih =>
    obtain ⟨hScript, hScripts⟩ := allPass_cons_iff.mp h
    have hInner : Around scripts (applyActions (actionsIn [script]) exchange)
        (handler (applyActions (actionsIn (script :: scripts)) exchange))
        (chain (scripts.map .scripted) handler (applyActions script.before exchange)) := by
      rw [actionsIn_singleton, applyActions_actionsIn_cons]
      exact ih hScripts
    rw [List.map_cons, chain_cons, wrap_of_passes _ hScript]
    exact hInner.append (.singleton script exchange _)

/-- What the handler and the layers below the stopping one would do plays no part. -/
theorem around_chain_of_stopsAt {scripts outer : List LayerScript} {script : LayerScript} {reply : Reply}
    {exchange : Exchange} (handler : Handler) (h : StopsAt scripts exchange outer script reply) :
    Around (outer ++ [script]) exchange
      ⟨[], [], reply.outcome (applyActions (actionsIn (outer ++ [script])) exchange).request⟩
      (chain (scripts.map .scripted) handler exchange) := by
  obtain ⟨⟨inner, rfl⟩, hPass, hStop⟩ := h
  have hOuter := around_chain_of_allPass (chain ((script :: inner).map .scripted) handler) hPass
  rw [actionsIn_append, applyActions_append, actionsIn_singleton] at hStop ⊢
  rw [List.append_assoc, List.map_append, chain_append]
  rw [List.map_cons, chain_cons, wrap_of_stops _ hStop] at hOuter
  exact (Around.singleton script _ _).append hOuter

/-! ## Faults on the way out -/

/-- Only these steps put another result in the place of a fault. -/
def Step.ReplacesFault : Step → Prop
  | .recover _ | .wrap _ => True
  | _ => False

theorem applySteps_fault {steps : List Step} (h : ∀ step ∈ steps, ¬ step.ReplacesFault) (fault : Fault) :
    applySteps steps (.error fault) = .error fault := by
  induction steps with
  | nil => rfl
  | cons step steps ih =>
    have hStep : Step.apply (.error fault) step = .error fault := by
      have hKeeps := h step List.mem_cons_self
      cases step with
      | recover code => exact absurd trivial hKeeps
      | wrap text => exact absurd trivial hKeeps
      | _ => rfl
    rw [applySteps, List.foldl_cons, hStep]
    exact ih fun step hMem => h step (List.mem_cons_of_mem _ hMem)

theorem stepsOut_keeps_fault {script : LayerScript} {inner : List LayerScript} {result : Result} {fault : Fault}
    (hFault : applySteps (stepsOut inner) result = .error fault)
    (hKeeps : ∀ step ∈ script.after, ¬ step.ReplacesFault) :
    applySteps (stepsOut (script :: inner)) result = .error fault := by
  rw [← List.singleton_append, stepsOut_append, applySteps_append, hFault]
  exact applySteps_fault (by simpa [stepsOut] using hKeeps) fault

/-- A chain of scripted layers logs what the layers do on the way in and then, unless it panics, what they
do on the way out, down to the first layer that ends the request or down to the handler. -/
theorem chain_scripted_onion (scripts : List LayerScript) (handler : Handler) (exchange : Exchange) :
    (AllPass scripts exchange ∨ ∃ outer script reply, StopsAt scripts exchange outer script reply) ∧
    (AllPass scripts exchange →
      Around scripts exchange (handler (applyActions (actionsIn scripts) exchange))
        (chain (scripts.map .scripted) handler exchange)) ∧
    (∀ outer script reply, StopsAt scripts exchange outer script reply →
      Around (outer ++ [script]) exchange
        ⟨[], [], reply.outcome (applyActions (actionsIn (outer ++ [script])) exchange).request⟩
        (chain (scripts.map .scripted) handler exchange) ∧
      ∀ other, chain (scripts.map .scripted) handler exchange =
        chain ((outer ++ [script]).map .scripted) other exchange) ∧
    ∀ (script : LayerScript) (inner : List LayerScript) (result : Result) (fault : Fault),
      applySteps (stepsOut inner) result = .error fault →
        (∀ step ∈ script.after, ¬ step.ReplacesFault) →
          applySteps (stepsOut (script :: inner)) result = .error fault := by
  refine ⟨allPass_or_stopsAt scripts exchange, around_chain_of_allPass handler, ?_,
    fun _ _ _ _ => stepsOut_keeps_fault⟩
  intro outer script reply h
  have hAround := around_chain_of_stopsAt handler h
  have hAlone : StopsAt (outer ++ [script]) exchange outer script reply :=
    ⟨List.prefix_rfl, h.passed, h.stopped⟩
  exact ⟨hAround, fun other => hAround.eq (around_chain_of_stopsAt other hAlone)⟩

def tokenLayer : LayerScript :=
  ⟨[.setHeader "x-token" (utf8 "1"), .log "in a"], some (.status 401), some "X-Token",
    [.log "out a", .wrap "a: "]⟩

def refusingLayer : LayerScript :=
  ⟨[.log "in b"], some (.fail ⟨"refused", some 7⟩), none, [.see, .setStatus 204]⟩

def plainLayer : LayerScript :=
  ⟨[.log "in c"], none, none, [.log "out c"]⟩

def panicking : Endpoint :=
  ⟨[.log "handler"], .panic "out of order"⟩

theorem chain_scripted_onion_of_three_layers :
    let exchange : Exchange := ⟨Request.root, .empty, .empty⟩
    let stopped := chain ([tokenLayer, refusingLayer, plainLayer].map .scripted) panicking.handler exchange
    let passed := chain ([tokenLayer, plainLayer].map .scripted) panicking.handler exchange
    StopsAt [tokenLayer, refusingLayer, plainLayer] exchange [tokenLayer] refusingLayer
      (.fail ⟨"refused", some 7⟩) ∧
    (stopped.log = [.text "in a", .text "in b", .fault ⟨"refused", some 7⟩, .text "out a"] ∧
      stopped.outcome = .returned (.error ⟨"a: refused", none⟩)) ∧
    AllPass [tokenLayer, plainLayer] exchange ∧
    (passed.log = [.text "in a", .text "in c", .text "handler"] ∧
      passed.outcome = .panicked "out of order") ∧
    (applySteps (stepsOut []) (.error ⟨"refused", some 7⟩) = .error ⟨"refused", some 7⟩ ∧
      (∀ step ∈ refusingLayer.after, ¬ step.ReplacesFault) ∧
      applySteps (stepsOut [refusingLayer]) (.error ⟨"refused", some 7⟩) = .error ⟨"refused", some 7⟩) := by
  intro exchange stopped passed
  have hToken : tokenLayer.stopReply? (applyActions tokenLayer.before exchange).request = none := rfl
  have hPlain : plainLayer.stopReply?
      (applyActions plainLayer.before (applyActions tokenLayer.before exchange)).request = none := rfl
  have hStops : StopsAt [tokenLayer, refusingLayer, plainLayer] exchange [tokenLayer] refusingLayer
      (.fail ⟨"refused", some 7⟩) :=
    ⟨⟨[plainLayer], rfl⟩, allPass_cons_iff.mpr ⟨hToken, allPass_nil _⟩, rfl⟩
  have hPass : AllPass [tokenLayer, plainLayer] exchange :=
    allPass_cons_iff.mpr ⟨hToken, allPass_cons_iff.mpr ⟨hPlain, allPass_nil _⟩⟩
  have hKeeps : ∀ step ∈ refusingLayer.after, ¬ step.ReplacesFault := by
    simp [refusingLayer, Step.ReplacesFault]
  have hStopped := chain_scripted_onion [tokenLayer, refusingLayer, plainLayer] panicking.handler exchange
  have hPassed := chain_scripted_onion [tokenLayer, plainLayer] panicking.handler exchange
  exact ⟨hStops, (hStopped.2.2.1 _ _ _ hStops).1.returned _ rfl, hPass, (hPassed.2.1 hPass).panicked _ rfl,
    rfl, hKeeps, hStopped.2.2.2 refusingLayer [] _ _ rfl hKeeps⟩

end Routing
