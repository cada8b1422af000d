import Routing.Proofs.Chain.Tracing

/-! # A body is given out once

On its way in a call does the actions of the layers that it reaches, and those of the handler unless a layer
ends it, as if there were no layers at all. The first action that takes the body of the request obtains it as
it is, whichever part of the chain the action belongs to, and all that follow meet an empty body, until an
action installs another one.
-/

namespace Routing

/-! ## The way in -/

/-- The actions of a call on its way in and the reply that ends it, as one handler, and the steps on its way
out. The layers all let it pass to the handler, or one of them ends it. -/
inductive Descends (layers : List Layer) (endpoint : Endpoint) (exchange : Exchange) :
    Endpoint → List Step → Prop where
  | passes (h : AllPass (scripts layers) exchange) :
    Descends layers endpoint exchange ⟨actionsIn (scripts layers) ++ endpoint.actions, endpoint.reply⟩
      (stepsOut (scripts layers))
  | stops {outer : List LayerScript} {script : LayerScript} {reply : Reply}
    (h : StopsAt (scripts layers) exchange outer script reply) :
    Descends layers endpoint exchange ⟨actionsIn (outer ++ [script]), reply⟩ (stepsOut (outer ++ [script]))

theorem exists_descends (layers : List Layer) (endpoint : Endpoint) (exchange : Exchange) :
    ∃ call steps, Descends layers endpoint exchange call steps := by
  rcases allPass_or_stopsAt (scripts layers) exchange with hPass | ⟨outer, script, reply, hStops⟩
  · exact ⟨_, _, .passes hPass⟩
  · exact ⟨_, _, .stops hStops⟩

theorem untraced_eq_map_scripts (layers : List Layer) : untraced layers = (scripts layers).map .scripted := by
  induction layers with
  | nil => rfl
  | cons layer layers ih =>
    cases layer with
    | trace => exact ih
    | scripted script => rw [untraced_scripted_cons, scripts_scripted_cons, List.map_cons, ih]

theorem Around.silent_eq {scripts : List LayerScript} {exchange : Exchange} {core run : Run}
    (h : Around scripts exchange core run) :
    run.silent = (core.silent.logFirst (logActions (actionsIn scripts) exchange)).after (stepsOut scripts) := by
  rw [← Run.silent_logFirst, ← Run.silent_after, Run.silent_eq_silent_iff]
  obtain ⟨log, events, outcome⟩ := core
  cases outcome with
  | returned result => exact h.returned result rfl
  | panicked text => exact h.panicked text rfl

/-- But for its events, a call runs like a handler without layers on whose result some steps are taken. -/
theorem Descends.silent_chain_eq {layers : List Layer} {endpoint call : Endpoint} {exchange : Exchange}
    {steps : List Step} (h : Descends layers endpoint exchange call steps) :
    (chain layers endpoint.handler exchange).silent = (call.handler exchange).after steps := by
  rw [silent_chain_untraced, untraced_eq_map_scripts]
  cases h with
  | passes hPass =>
    rw [(around_chain_of_allPass endpoint.handler hPass).silent_eq]
    simp only [Endpoint.handler, logActions_append, applyActions_append]
    rfl
  | stops hStops =>
    rw [(around_chain_of_stopsAt endpoint.handler hStops).silent_eq]
    simp only [Run.logFirst, Run.silent, Endpoint.handler, List.append_nil]

theorem Descends.mem_actions {layers : List Layer} {endpoint call : Endpoint} {exchange : Exchange}
    {steps : List Step} (h : Descends layers endpoint exchange call steps) {action : Action}
    (hMem : action ∈ call.actions) : action ∈ actionsIn (scripts layers) ++ endpoint.actions := by
  cases h with
  | passes hPass => exact hMem
  | stops hStops =>
    obtain ⟨inner, hInner⟩ := hStops.reached
    rw [← hInner, actionsIn_append]
    exact List.mem_append_left _ (List.mem_append_left _ hMem)

/-! ## What is told of a body -/

def Entry.IsTake : Entry → Prop
  | taken _ _ | unread _ _ => True
  | _ => False

/-- What the entry tells of a body is true of `body`. -/
def Entry.TrueOf (body : Body) : Entry → Prop
  | request view => view.streaming = body.isStreaming ∧ view.body = body.bytes
  | taken form bytes => form = body.describe ∧ body.read = .ok bytes
  | unread form error => form = body.describe ∧ body.read = .error error
  | _ => True

def Entry.TellsOfNone (entry : Entry) : Prop :=
  ¬ entry.IsTake ∧ ∀ body, entry.TrueOf body

theorem Entry.isTake_ofTaken (body : Body) : (ofTaken body).IsTake := by
  rw [ofTaken]
  split <;> trivial

theorem Entry.trueOf_ofTaken (body : Body) : (ofTaken body).TrueOf body := by
  rw [ofTaken]
  split
  · rename_i bytes hRead
    exact ⟨rfl, hRead⟩
  · rename_i error hRead
    exact ⟨rfl, hRead⟩

/-- The outcome is what the reply makes of `body`. An upload takes the body, and refuses one that is read
already. -/
def Reply.TrueOf (body : Body) (outcome : Outcome) : Reply → Prop
  | echo => outcome = .returned (.ok (.typed .ok .octetStream [] body.bytes))
  | upload =>
    (body.isStreaming = false → outcome = .returned (.ok (.ofStatus .badRequest))) ∧
    (body.isStreaming = true →
      (∀ bytes, body.read = .ok bytes →
        outcome = .returned (.ok (.ofText ("streamed " ++ toString bytes.length ++ " bytes")))) ∧
      ∀ error, body.read = .error error → outcome = .returned (.error (.plain error)))
  | _ => True

/-- What is left of a body behind a log: all of it until it is taken, and nothing afterwards. -/
inductive Left (body : Body) (log : List Entry) : Body → Prop where
  | whole (h : ∀ entry ∈ log, ¬ entry.IsTake) : Left body log body
  | nothing {entry : Entry} (hMem : entry ∈ log) (h : entry.IsTake) : Left body log .empty

/-- Every entry is true of what the entries in front of it have left of the body. -/
def Tracks (body : Body) (log : List Entry) : Prop :=
  ∀ front entry back left, log = front ++ entry :: back → Left body front left → entry.TrueOf left

/-- The log and then the reply meet what is left of the body. -/
structure GivenOnce (body : Body) (log : List Entry) (reply : Reply) (outcome : Outcome) : Prop where
  tracks : Tracks body log
  reply : ∀ left, Left body log left → reply.TrueOf left outcome

theorem Left.unique {body left other : Body} {log : List Entry} (h : Left body log left)
    (hOther : Left body log other) : left = other := by
  cases h with
  | whole hNone =>
    cases hOther with
    | whole => rfl
    | nothing hMem hTake => exact absurd hTake (hNone _ hMem)
  | nothing hMem hTake =>
    cases hOther with
    | whole hNone => exact absurd hTake (hNone _ hMem)
    | nothing => rfl

theorem Left.append {body middle left : Body} {log more : List Entry} (h : Left body log middle)
    (hMore : Left middle more left) : Left body (log ++ more) left := by
  cases h with
  | whole hNone =>
    cases hMore with
    | whole hNoneMore =>
      apply Left.whole
      intro entry hMem
      exact (List.mem_append.mp hMem).elim (hNone entry) (hNoneMore entry)
    | nothing hMem hTake => exact .nothing (List.mem_append_right _ hMem) hTake
  | nothing hMem hTake =>
    have hNothing : Left body (log ++ more) .empty := .nothing (List.mem_append_left _ hMem) hTake
    cases hMore <;> exact hNothing

/-! ## Actions -/

def Action.Installs : Action → Prop
  | withBody _ => True
  | _ => False

theorem Action.trueOf_note {action : Action} {exchange : Exchange} {entry : Entry}
    (h : action.note? exchange = some entry) : entry.TrueOf exchange.request.body := by
  cases action with
  | see =>
    cases h
    exact ⟨rfl, rfl⟩
  | takeBody =>
    cases h
    exact Entry.trueOf_ofTaken _
  | setHeader name value =>
    obtain ⟨_, hEntry⟩ := Option.ite_none_right_eq_some.mp h
    cases hEntry
    trivial
  | withBody bytes => cases h
  | clearRoute format => cases h
  | _ =>
    cases h
    trivial

theorem Action.left_apply {action : Action} (h : ¬ action.Installs) (exchange : Exchange) :
    Left exchange.request.body (action.note? exchange).toList (action.apply exchange).request.body := by
  cases action with
  | takeBody => exact .nothing List.mem_cons_self (Entry.isTake_ofTaken _)
  | withBody bytes => exact absurd trivial h
  | setHeader name value =>
    have hBody : ((Action.setHeader name value).apply exchange).request.body = exchange.request.body := by
      simp only [Action.apply]
      split <;> rfl
    rw [hBody]
    refine .whole fun entry hMem => ?_
    obtain ⟨_, hEntry⟩ := Option.ite_none_right_eq_some.mp (Option.mem_toList.mp hMem)
    cases hEntry
    exact not_false
  | clearRoute format => exact .whole fun _ hMem => by cases hMem
  | _ =>
    refine .whole fun entry hMem => ?_
    cases Option.mem_toList.mp hMem
    exact not_false

theorem left_applyActions {actions : List Action} (h : ∀ action ∈ actions, ¬ action.Installs)
    (exchange : Exchange) :
    Left exchange.request.body (logActions actions exchange) (applyActions actions exchange).request.body := by
  induction actions generalizing exchange with
  | nil => exact .whole fun _ hMem => by cases hMem
  | cons action actions ih =>
    obtain ⟨hAction, hActions⟩ := List.forall_mem_cons.mp h
    exact (Action.left_apply hAction exchange).append (ih hActions (action.apply exchange))

theorem exists_action_of_logActions {actions : List Action} {exchange : Exchange} {front back : List Entry}
    {entry : Entry} (h : logActions actions exchange = front ++ entry :: back) :
    ∃ before action behind, actions = before ++ action :: behind ∧ logActions before exchange = front ∧
      action.note? (applyActions before exchange) = some entry := by
  induction actions generalizing exchange front with
  | nil => simp [logActions] at h
  | cons action actions ih =>
    rw [logActions] at h
    -- an action writes at most one entry, which is then the one asked for or the first in front of it
    cases hNote : action.note? exchange with
    | none =>
      rw [hNote, Option.toList_none, List.nil_append] at h
      obtain ⟨before, later, behind, rfl, rfl, hLater⟩ := ih h
      exact ⟨action :: before, later, behind, rfl, by rw [logActions, hNote]; rfl, hLater⟩
    | some note =>
      rw [hNote, Option.toList_some, List.singleton_append] at h
      cases front with
      | nil =>
        obtain ⟨rfl, _⟩ := List.cons.inj h
        exact ⟨[], action, actions, rfl, rfl, hNote⟩
      | cons head front =>
        obtain ⟨rfl, hTail⟩ := List.cons.inj h
        obtain ⟨before, later, behind, rfl, rfl, hLater⟩ := ih hTail
        exact ⟨action :: before, later, behind, rfl, by rw [logActions, hNote]; rfl, hLater⟩

theorem tracks_logActions {actions : List Action} (h : ∀ action ∈ actions, ¬ action.Installs)
    (exchange : Exchange) : Tracks exchange.request.body (logActions actions exchange) := by
  intro front entry back left hLog hLeft
  -- what the log in front of the entry leaves is what the request holds when the entry is written
  obtain ⟨before, action, behind, rfl, rfl, hNote⟩ := exists_action_of_logActions hLog
  have hBefore := left_applyActions (fun other hMem => h other (List.mem_append_left _ hMem)) exchange
  rw [hLeft.unique hBefore]
  exact Action.trueOf_note hNote

theorem Reply.trueOf_outcome (reply : Reply) (request : Request) :
    reply.TrueOf request.body (reply.outcome request) := by
  cases reply with
  | echo => rfl
  | upload =>
    simp only [Reply.TrueOf, Reply.outcome]
    cases request.body with
    | buffered bytes => exact ⟨fun _ => rfl, fun h => by cases h⟩
    | streaming chunks =>
      refine ⟨fun h => (by cases h), fun _ => ⟨?_, ?_⟩⟩
      · intro bytes hRead
        simp only [uploadResult, show readChunks chunks = .ok bytes from hRead]
      · intro error hRead
        simp only [uploadResult, show readChunks chunks = .error error from hRead]
  | _ => trivial

/-! ## Calls -/

/-- The body with which the actions behind `front` begin, if these are the first ones or if one is installed
right in front of them. -/
inductive Begins (body : Body) : List Action → Body → Prop where
  | handed : Begins body [] body
  | installed (front : List Action) (bytes : Bytes) : Begins body (front ++ [.withBody bytes]) (.buffered bytes)

theorem Begins.eq {exchange : Exchange} {front : List Action} {body : Body}
    (h : Begins exchange.request.body front body) : (applyActions front exchange).request.body = body := by
  cases h with
  | handed => rfl
  | installed front bytes =>
    rw [applyActions_append]
    rfl

/-- From each begin of a body to the next, or to the reply if none follows, the call gives out that body once. -/
structure GivesEachOnce (call : Endpoint) (exchange : Exchange) : Prop where
  stretch : ∀ front stretch back body, call.actions = front ++ stretch ++ back →
    Begins exchange.request.body front body → (∀ action ∈ stretch, ¬ action.Installs) →
      Tracks body (logActions stretch (applyActions front exchange))
  last : ∀ front stretch body, call.actions = front ++ stretch →
    Begins exchange.request.body front body → (∀ action ∈ stretch, ¬ action.Installs) →
      GivenOnce body (logActions stretch (applyActions front exchange)) call.reply (call.handler exchange).outcome

theorem Endpoint.givesEachOnce (call : Endpoint) (exchange : Exchange) : GivesEachOnce call exchange where
  stretch front stretch back body hActions hBegins hNone := by
    rw [← hBegins.eq]
    exact tracks_logActions hNone _
  last front stretch body hActions hBegins hNone := by
    have hLeft := left_applyActions hNone (applyActions front exchange)
    rw [← applyActions_append, ← hActions, hBegins.eq] at hLeft
    constructor
    · rw [← hBegins.eq]
      exact tracks_logActions hNone _
    · intro left hOther
      rw [hOther.unique hLeft]
      exact call.reply.trueOf_outcome _

theorem tellsOfNone_of_mem_logSteps {steps : List Step} {result : Result} {entry : Entry}
    (h : entry ∈ logSteps steps result) : entry.TellsOfNone := by
  induction steps generalizing result with
  | nil => cases h
  | cons step steps ih =>
    rcases List.mem_append.mp h with hNote | hMem
    · have hStep := Option.mem_toList.mp hNote
      cases result <;> cases step <;> cases hStep <;> exact ⟨not_false, fun _ => trivial⟩
    · exact ih hMem

theorem Left.of_append {body left : Body} {log more : List Entry} (h : Left body (log ++ more) left)
    (hMore : ∀ entry ∈ more, entry.TellsOfNone) : Left body log left := by
  cases h with
  | whole hNone => exact .whole fun entry hMem => hNone entry (List.mem_append_left _ hMem)
  | nothing hMem hTake =>
    rcases List.mem_append.mp hMem with hMem | hMem
    · exact .nothing hMem hTake
    · exact absurd hTake (hMore _ hMem).1

theorem GivenOnce.append {body : Body} {log more : List Entry} {reply : Reply} {outcome : Outcome}
    (h : GivenOnce body log reply outcome)
    (hMore : ∀ entry ∈ more, entry.TellsOfNone) : GivenOnce body (log ++ more) reply outcome where
  tracks front entry back left hLog hLeft := by
    -- an entry of `more` is true of any body, so what is left in front of it plays no part
    have hBehind : entry ∈ more → entry.TrueOf left := fun hMem => (hMore entry hMem).2 left
    rcases List.append_eq_append_iff.mp hLog with ⟨middle, _, rfl⟩ | ⟨middle, rfl, hMiddle⟩
    · exact hBehind (List.mem_append_right _ List.mem_cons_self)
    · cases middle with
      | nil =>
        apply hBehind
        rw [← List.nil_append more, ← hMiddle]
        exact List.mem_cons_self
      | cons head middle =>
        obtain ⟨rfl, _⟩ := List.cons.inj hMiddle
        exact h.tracks front entry middle left rfl hLeft
  reply left hLeft := h.reply left (hLeft.of_append hMore)

theorem exists_log_after (steps : List Step) (run : Run) :
    ∃ more, (run.after steps).log = run.log ++ more ∧ ∀ entry ∈ more, entry.TellsOfNone := by
  obtain ⟨log, events, outcome⟩ := run
  cases outcome with
  | returned result => exact ⟨logSteps steps result, rfl, fun _ => tellsOfNone_of_mem_logSteps⟩
  | panicked text => exact ⟨[], (List.append_nil log).symm, fun _ hMem => by cases hMem⟩

/-- The way of a call, on which it gives out every body once. If no part of the chain ever installs one, the
log of the whole run gives out the body that the call began with. -/
structure GivesOut (layers : List Layer) (endpoint : Endpoint) (exchange : Exchange) (call : Endpoint)
    (steps : List Step) : Prop where
  descends : Descends layers endpoint exchange call steps
  silent_eq : (chain layers endpoint.handler exchange).silent = (call.handler exchange).after steps
  each : GivesEachOnce call exchange
  whole : (∀ action ∈ actionsIn (scripts layers) ++ endpoint.actions, ¬ action.Installs) →
    GivenOnce exchange.request.body (chain layers endpoint.handler exchange).log call.reply
      (call.handler exchange).outcome

theorem exists_givesOut (layers : List Layer) (endpoint : Endpoint) (exchange : Exchange) :
    ∃ call steps, GivesOut layers endpoint exchange call steps := by
  obtain ⟨call, steps, hDescends⟩ := exists_descends layers endpoint exchange
  refine ⟨call, steps, hDescends, hDescends.silent_chain_eq, call.givesEachOnce exchange, fun hNone => ?_⟩
  -- without installations the whole way in is one stretch
  have hCall := (call.givesEachOnce exchange).last [] call.actions _ rfl .handed
    fun action hMem => hNone action (hDescends.mem_actions hMem)
  obtain ⟨more, hLog, hMore⟩ := exists_log_after steps (call.handler exchange)
  have hRun : (chain layers endpoint.handler exchange).log = logActions call.actions exchange ++ more :=
    (congrArg Run.log hDescends.silent_chain_eq).trans hLog
  rw [hRun]
  exact hCall.append hMore

end Routing
