import Routing.Proofs.Session.History

/-! # Failed registrations

A registration fails when its method is no token or its pattern does not compile, and it makes no difference
in which of the five modes it is asked for. A failed registration is as good as never asked for: it reports
nothing, and the session goes on as it would without it.
-/

namespace Routing

theorem isToken_of_readMethod {text : String} {method : Http.Method} (h : readMethod text = .ok method) :
    Http.IsToken text :=
  readMethod_eq_ok_iff.mp h ▸ method.isToken

theorem not_isToken_of_readMethod {text : String} {part : Http.Invalid} (h : readMethod text = .error part) :
    ¬ Http.IsToken text := by
  intro hToken
  have hRead := readMethod_eq_ok_iff.mpr (rfl : (⟨text, hToken⟩ : Http.Method).name = text)
  cases h.symm.trans hRead

namespace Command

def Fails : Command → Prop
  | .register _ method pattern _ _ =>
    ¬ Http.IsToken method ∨ ∃ malformed, Pattern.compile pattern = .error malformed
  | _ => False

theorem fails_register_iff {mode : RegistrationMode} {method pattern : String} {endpoint : Endpoint}
    {layers : List Layer} :
    (register mode method pattern endpoint layers).Fails ↔
      (register mode method pattern endpoint layers).route? = none := by
  cases hMethod : readMethod method with
  | error part => simp [Fails, route?, hMethod, not_isToken_of_readMethod hMethod]
  | ok spelled =>
    have hToken := isToken_of_readMethod hMethod
    cases hPattern : Pattern.compile pattern <;> simp [Fails, route?, hMethod, hPattern, hToken]

instance (command : Command) : Decidable command.Fails :=
  match command with
  | .register .. => decidable_of_iff _ fails_register_iff.symm
  | .lookup .. | .params .. | .allowed _ | .routes | .print | .printMatch .. | .call _ | .callBare _
  | .dispatch _ => inferInstanceAs (Decidable False)

end Command

/-- The events that come with the answer to a command. -/
def Answer.events : Answer → List Event
  | .invalidRegistration _ events | .added _ events | .refused _ events | .panicked _ events => events
  | .call (some run) => run.events
  | .dispatch dispatched _ => dispatched.events
  | _ => []

namespace Router

theorem execute_of_fails {command : Command} (h : command.Fails) (router : Router) :
    (router.execute command).1 = router ∧ (router.execute command).2.events = [] := by
  cases command with
  | register mode method pattern endpoint layers =>
    cases hMethod : readMethod method with
    | error part =>
      rw [execute, hMethod]
      exact ⟨rfl, rfl⟩
    | ok spelled =>
      obtain ⟨malformed, hPattern⟩ := h.resolve_left (not_not_intro (isToken_of_readMethod hMethod))
      have hRefused :
          router.registerIn mode ⟨spelled, pattern, endpoint, layers⟩ = mode.refuse malformed [] := by
        simp only [registerIn, register, hPattern]
      simp only [execute, hMethod, hRefused]
      cases mode <;> exact ⟨rfl, rfl⟩
  | _ => exact absurd h id

/-- Without the commands that fail a session ends with the same router. -/
theorem after_filter_not_fails (router : Router) (commands : List Command) :
    router.after (commands.filter fun command => ¬ command.Fails) = router.after commands := by
  induction commands generalizing router with
  | nil => rfl
  | cons command commands ih =>
    by_cases hFails : command.Fails
    · rw [List.filter_cons_of_neg (by simpa using hFails), ih, after_cons, (execute_of_fails hFails router).1]
    · rw [List.filter_cons_of_pos (by simpa using hFails), after_cons, ih, after_cons]

theorem answers_filter_not_fails (router : Router) (commands : List Command) :
    router.answers (commands.filter fun command => ¬ command.Fails) =
      ((commands.zip (router.answers commands)).filter fun step => ¬ step.1.Fails).map Prod.snd := by
  induction commands generalizing router with
  | nil => rfl
  | cons command commands ih =>
    rw [answers_cons, List.zip_cons_cons]
    by_cases hFails : command.Fails
    · rw [List.filter_cons_of_neg (by simpa using hFails), List.filter_cons_of_neg (by simpa using hFails), ih,
        (execute_of_fails hFails router).1]
    · rw [List.filter_cons_of_pos (by simpa using hFails), List.filter_cons_of_pos (by simpa using hFails),
        answers_cons, ih, List.map_cons]

theorem not_fails_register_iff {router : Router} {mode : RegistrationMode} {method pattern : String}
    {endpoint : Endpoint} {layers : List Layer} :
    ¬ (Command.register mode method pattern endpoint layers).Fails ↔
      ∃ size events, (router.execute (.register mode method pattern endpoint layers)).2 = .added size events := by
  rw [execute_added_iff, Command.fails_register_iff]
  simp only [← Command.route?_eq_some_iff]
  exact Option.ne_none_iff_exists'

end Router

/-! ## The modes of a registration -/

/-- What comes of two registrations that differ in how they fail only. Either the pattern does not compile, and one
is refused where the other panics with the message of the refusal, before anything is reported; or both put the
same route behind those of the router and report the same. -/
inductive FailsOrAddsAlike (router : Router) (streaming : Bool) (asked : RouteRequest) :
    Registration → Registration → Prop where
  | fails {malformed : Malformed} (h : Pattern.compile asked.pattern = .error malformed) :
    FailsOrAddsAlike router streaming asked (.refused malformed []) (.panicked malformed.message [])
  | adds {pattern : Pattern} {next : Router} {events : List Event}
    (h : Pattern.compile asked.pattern = .ok pattern)
    (hRoutes : next.routes =
      router.routes ++ [⟨asked.method, pattern, asked.endpoint, asked.layers, streaming⟩]) :
    FailsOrAddsAlike router streaming asked (.added next events) (.added next events)

namespace Router

theorem registerIn_strict (router : Router) (streaming : Bool) (asked : RouteRequest) :
    FailsOrAddsAlike router streaming asked (router.registerIn (.checked streaming) asked)
      (router.registerIn (.strict streaming) asked) := by
  cases hCompile : Pattern.compile asked.pattern with
  | error malformed =>
    simp only [registerIn, register, hCompile]
    exact .fails hCompile
  | ok pattern =>
    simp only [registerIn, register, hCompile]
    exact .adds hCompile rfl

/-- A bare registration is a strict one without layers. -/
theorem registerIn_bare (router : Router) (asked : RouteRequest) :
    router.registerIn .bare asked = router.registerIn (.strict false) { asked with layers := [] } := rfl

/-- A registration fails just when its method or its pattern is malformed. Then it changes nothing and reports
nothing, and all other answers of a session are as they are without it. The strict and the bare registrations panic
where the checked one is refused, and add what it adds. -/
theorem failed_registrations_leave_no_trace :
    (∀ (router : Router) (mode : RegistrationMode) (method pattern : String) (endpoint : Endpoint)
      (layers : List Layer), ¬ (Command.register mode method pattern endpoint layers).Fails ↔
        ∃ size events,
          (router.execute (.register mode method pattern endpoint layers)).2 = .added size events) ∧
    (∀ (router : Router) (command : Command), command.Fails →
      (router.execute command).1 = router ∧ (router.execute command).2.events = []) ∧
    (∀ (router : Router) (commands : List Command),
      router.after (commands.filter fun command => ¬ command.Fails) = router.after commands ∧
      router.answers (commands.filter fun command => ¬ command.Fails) =
        ((commands.zip (router.answers commands)).filter fun step => ¬ step.1.Fails).map Prod.snd) ∧
    ∀ (router : Router) (streaming : Bool) (asked : RouteRequest),
      FailsOrAddsAlike router streaming asked (router.registerIn (.checked streaming) asked)
        (router.registerIn (.strict streaming) asked) ∧
      FailsOrAddsAlike router false { asked with layers := [] }
        (router.registerIn (.checked false) { asked with layers := [] }) (router.registerIn .bare asked) := by
  refine ⟨fun _ _ _ _ _ _ => not_fails_register_iff, fun router command hFails => execute_of_fails hFails router,
    fun router commands => ⟨after_filter_not_fails router commands, answers_filter_not_fails router commands⟩,
    fun router streaming asked => ⟨registerIn_strict router streaming asked, ?_⟩⟩
  rw [registerIn_bare]
  exact registerIn_strict router false { asked with layers := [] }

theorem failed_registrations_leave_no_trace_in_usersSession :
    let malformed : Command := .register (.strict false) "GET" "/users/\x7b" ⟨[], .echo⟩ [.trace]
    let asking : List Command := [.lookup "GET" "/users/new", .allowed "/users/7"]
    malformed.Fails ∧ (empty.execute malformed).2.events = [] ∧
      (usersSession ++ asking).filter (fun command => ¬ command.Fails) = usersSession.tail ++ asking ∧
      empty.answers (usersSession.tail ++ asking) = (empty.answers (usersSession ++ asking)).tail := by
  intro malformed asking
  obtain ⟨_, hFailed, hSession, _⟩ := failed_registrations_leave_no_trace
  have hFails : malformed.Fails := .inr ⟨⟨_, "\x7b", .unbalancedBraces⟩, rfl⟩
  have hKept : (usersSession ++ asking).filter (fun command => ¬ command.Fails) = usersSession.tail ++ asking := by
    decide
  have hAnswers := (hSession empty (usersSession ++ asking)).2
  rw [hKept] at hAnswers
  exact ⟨hFails, (hFailed empty malformed hFails).2, hKept, hAnswers⟩

end Router

end Routing
