import Routing.Session.Command

/-! # The routes of a session

The routes of a router are those of the registrations that have succeeded, in their order. So a request
belongs to the earliest of them that answers it, and no later registration takes it away.
-/

namespace Routing

/-- The route that a command adds to a router. -/
def Command.route? : Command → Option Route
  | .register mode method pattern endpoint layers =>
    match readMethod method, Pattern.compile pattern with
    | .ok method, .ok pattern => some ⟨method, pattern, endpoint, mode.layers layers, mode.streaming⟩
    | _, _ => none
  | _ => none

/-- A registration adds a route when it spells the route's method and pattern and its mode makes the rest. -/
def Command.Adds (command : Command) (route : Route) : Prop :=
  ∃ mode layers, command = .register mode route.method.name route.pattern.source route.endpoint layers ∧
    route.layers = mode.layers layers ∧ route.streaming = mode.streaming

theorem readMethod_eq_ok_iff {text : String} {method : Http.Method} :
    readMethod text = .ok method ↔ method.name = text := by
  rw [← Http.Method.ofString?_eq_some_iff, readMethod]
  cases Http.Method.ofString? text <;> simp

theorem Command.route?_eq_some_iff {command : Command} {route : Route} :
    command.route? = some route ↔ command.Adds route := by
  constructor
  · intro h
    rw [Command.route?.eq_def] at h
    split at h
    · rename_i mode method pattern endpoint layers
      split at h
      · rename_i hMethod hPattern
        cases h
        obtain rfl := readMethod_eq_ok_iff.mp hMethod
        obtain rfl := Pattern.compile_eq_ok_iff.mp hPattern
        exact ⟨mode, layers, rfl, rfl, rfl⟩
      · cases h
    · cases h
  · rintro ⟨mode, layers, rfl, hLayers, hStreaming⟩
    have hMethod := readMethod_eq_ok_iff.mpr (Eq.refl route.method.name)
    have hPattern := Pattern.compile_eq_ok_iff.mpr (Eq.refl route.pattern.source)
    simp only [Command.route?, hMethod, hPattern, ← hLayers, ← hStreaming]

namespace Router

/-- A command adds its route and reports it, or it has no route and leaves the router as it is. -/
theorem execute_cases (router : Router) (command : Command) :
    (∃ route, command.route? = some route ∧ router.execute command =
      (router.add route, .added (router.add route).routes.length (router.registrationEvents route))) ∨
    (command.route? = none ∧ (router.execute command).1 = router ∧
      ∀ size events, (router.execute command).2 ≠ .added size events) := by
  cases command with
  | register mode method pattern endpoint layers =>
    simp only [execute, Command.route?]
    cases readMethod method with
    | error part => exact .inr ⟨rfl, rfl, fun _ _ => by simp⟩
    | ok method =>
      simp only [registerIn, register]
      cases Pattern.compile pattern with
      | ok pattern => exact .inl ⟨_, rfl, rfl⟩
      | error malformed => cases mode <;> exact .inr ⟨rfl, rfl, fun _ _ => by simp [RegistrationMode.refuse]⟩
  | lookup method path | params method path names | printMatch method path =>
    refine .inr ⟨rfl, rfl, fun _ _ => ?_⟩
    simp only [execute, matchAnswer]
    split <;> simp
  | call draft | callBare draft =>
    refine .inr ⟨rfl, rfl, fun _ _ => ?_⟩
    simp only [execute, callAnswer]
    split <;> simp
  | dispatch arrival =>
    simp only [execute]
    split <;> exact .inr ⟨rfl, rfl, fun _ _ => by simp⟩
  | allowed path => exact .inr ⟨rfl, rfl, fun _ _ => by simp [execute]⟩
  | routes => exact .inr ⟨rfl, rfl, fun _ _ => by simp [execute]⟩
  | print => exact .inr ⟨rfl, rfl, fun _ _ => by simp [execute]⟩

/-- A registration has succeeded just when the command has a route. -/
theorem execute_added_iff {router : Router} {command : Command} :
    (∃ size events, (router.execute command).2 = .added size events) ↔
      ∃ route, command.Adds route := by
  simp only [← Command.route?_eq_some_iff]
  rcases router.execute_cases command with ⟨route, hRoute, hExecute⟩ | ⟨hRoute, _, hAnswer⟩
  · simp [hRoute, hExecute]
  · simp [hRoute, hAnswer]

theorem routes_execute (router : Router) (command : Command) :
    (router.execute command).1.routes = router.routes ++ command.route?.toList := by
  rcases router.execute_cases command with ⟨route, hRoute, hExecute⟩ | ⟨hRoute, hSame, _⟩
  · rw [hExecute, hRoute]
    rfl
  · rw [hSame, hRoute, Option.toList_none, List.append_nil]

theorem routes_after (router : Router) (commands : List Command) :
    (router.after commands).routes = router.routes ++ commands.filterMap Command.route? := by
  induction commands generalizing router with
  | nil => simp [after]
  | cons command commands ih =>
    have hTail := ih (router.execute command).1
    rw [after] at hTail
    rw [after, List.foldl_cons, hTail, routes_execute, List.append_assoc]
    cases hRoute : command.route? <;> simp [hRoute]

end Router

def Command.match? (method : Http.Method) (path : String) (command : Command) : Option Match :=
  command.route?.bind fun route => (route.captures? method (Path.pieces path)).map (⟨route, ·⟩)

theorem Route.captures?_eq_some_iff {method : Http.Method} {pieces : List String} {route : Route}
    {captures : Captures} :
    route.captures? method pieces = some captures ↔
      route.method = method ∧ route.pattern.captures? pieces = some captures := by
  rw [Route.captures?, Option.ite_none_right_eq_some]

theorem Route.captures?_eq_none_iff {method : Http.Method} {pieces : List String} {route : Route} :
    route.captures? method pieces = none ↔
      (route.method = method → route.pattern.captures? pieces = none) := by
  rw [Route.captures?, ite_eq_right_iff]

theorem Command.match?_eq_some_iff {method : Http.Method} {path : String} {command : Command}
    {found : Match} :
    command.match? method path = some found ↔ command.Adds found.route ∧
      found.route.method = method ∧ found.route.pattern.captures? (Path.pieces path) = some found.captures := by
  rw [Command.match?, Option.bind_eq_some_iff]
  constructor
  · rintro ⟨route, hRoute, hFound⟩
    obtain ⟨captures, hCaptures, rfl⟩ := Option.map_eq_some_iff.mp hFound
    exact ⟨Command.route?_eq_some_iff.mp hRoute, Route.captures?_eq_some_iff.mp hCaptures⟩
  · rintro ⟨hAdds, hCaptures⟩
    exact ⟨found.route, Command.route?_eq_some_iff.mpr hAdds,
      Option.map_eq_some_iff.mpr ⟨found.captures, Route.captures?_eq_some_iff.mpr hCaptures, rfl⟩⟩

theorem Command.match?_eq_none_iff {method : Http.Method} {path : String} {command : Command} :
    command.match? method path = none ↔ ∀ route, command.Adds route → route.method = method →
      route.pattern.captures? (Path.pieces path) = none := by
  simp only [Command.match?, Option.bind_eq_none_iff, Option.map_eq_none_iff, Route.captures?_eq_none_iff,
    Command.route?_eq_some_iff]

/-- The match with the earliest registration of a session that has the method and matches the path. -/
def EarliestMatch (commands : List Command) (method : Http.Method) (path : String) (found : Match) : Prop :=
  ∃ earlier command later, commands = earlier ++ command :: later ∧ command.Adds found.route ∧
    found.route.method = method ∧ found.route.pattern.captures? (Path.pieces path) = some found.captures ∧
    ∀ other ∈ earlier, ∀ route, other.Adds route → route.method = method →
      route.pattern.captures? (Path.pieces path) = none

namespace Router

theorem lookup?_after (commands : List Command) (method : Http.Method) (path : String) :
    (empty.after commands).lookup? method path = commands.findSome? (·.match? method path) := by
  rw [lookup?, routes_after, empty, List.nil_append, ← List.head?_filterMap, List.filterMap_filterMap,
    List.head?_filterMap]
  rfl

theorem lookup?_after_eq_some_iff {commands : List Command} {method : Http.Method} {path : String}
    {found : Match} :
    (empty.after commands).lookup? method path = some found ↔
      EarliestMatch commands method path found := by
  simp only [lookup?_after, List.findSome?_eq_some_iff, Command.match?_eq_some_iff,
    Command.match?_eq_none_iff, and_assoc, EarliestMatch]

theorem isSome_lookup?_after_iff {commands : List Command} {method : Http.Method} {path : String} :
    ((empty.after commands).lookup? method path).isSome ↔
      ∃ command ∈ commands, ∃ route, command.Adds route ∧ route.method = method ∧
        (route.pattern.captures? (Path.pieces path)).isSome := by
  rw [lookup?_after, List.findSome?_isSome_iff]
  simp only [Option.isSome_iff_exists, Command.match?_eq_some_iff]
  constructor
  · rintro ⟨command, hMem, found, hAdds, hMethod, hCaptures⟩
    exact ⟨command, hMem, found.route, hAdds, hMethod, found.captures, hCaptures⟩
  · rintro ⟨command, hMem, route, hAdds, hMethod, captures, hCaptures⟩
    exact ⟨command, hMem, ⟨route, captures⟩, hAdds, hMethod, hCaptures⟩

theorem lookup?_after_append {commands : List Command} {method : Http.Method} {path : String}
    {found : Match} (h : (empty.after commands).lookup? method path = some found) (more : List Command) :
    (empty.after (commands ++ more)).lookup? method path = some found := by
  rw [lookup?_after] at h ⊢
  exact (List.prefix_append commands more).findSome?_eq_some h

theorem lookup?_after_concat {commands : List Command} {method : Http.Method} {path : String}
    (h : (empty.after commands).lookup? method path = none) (command : Command) :
    (empty.after (commands ++ [command])).lookup? method path = command.match? method path := by
  rw [lookup?_after] at h ⊢
  rw [List.findSome?_append, h, Option.none_or, List.findSome?_singleton]

/-- The earliest registration that answers a request keeps it, and a further one answers only what none has
answered before. -/
theorem lookup?_after_first_wins (commands : List Command) (method : Http.Method) (path : String) :
    (((empty.after commands).lookup? method path).isSome ↔
      ∃ command ∈ commands, ∃ route, command.Adds route ∧ route.method = method ∧
        (route.pattern.captures? (Path.pieces path)).isSome) ∧
    (∀ found, (empty.after commands).lookup? method path = some found ↔
      EarliestMatch commands method path found) ∧
    (∀ (router : Router) (command : Command),
      (∃ size events, (router.execute command).2 = .added size events) ↔ ∃ route, command.Adds route) ∧
    (∀ more, (empty.after commands).routes <+: (empty.after (commands ++ more)).routes) ∧
    (∀ found more, (empty.after commands).lookup? method path = some found →
      (empty.after (commands ++ more)).lookup? method path = some found) ∧
    ∀ command route, command.Adds route → (empty.after commands).lookup? method path = none →
      ∀ found, (empty.after (commands ++ [command])).lookup? method path = some found ↔
        found.route = route ∧ route.method = method ∧
          route.pattern.captures? (Path.pieces path) = some found.captures := by
  refine ⟨isSome_lookup?_after_iff, fun found => lookup?_after_eq_some_iff, fun _ _ => execute_added_iff,
    ?_, fun found more h => lookup?_after_append h more, ?_⟩
  · intro more
    rw [routes_after, routes_after, List.filterMap_append, ← List.append_assoc]
    exact List.prefix_append _ _
  · intro command route hAdds hNone found
    have hRoute := Command.route?_eq_some_iff.mpr hAdds
    rw [lookup?_after_concat hNone, Command.match?_eq_some_iff, ← Command.route?_eq_some_iff, hRoute,
      Option.some.injEq]
    constructor
    · rintro ⟨rfl, hMethod, hCaptures⟩
      exact ⟨rfl, hMethod, hCaptures⟩
    · rintro ⟨rfl, hMethod, hCaptures⟩
      exact ⟨rfl, hMethod, hCaptures⟩

def usersSession : List Command :=
  [.register (.strict false) "GET" "/users/\x7b" ⟨[], .echo⟩ [.trace],
    .register (.checked true) "GET" "/users/:id" ⟨[], .echo⟩ [.trace],
    .register .bare "GET" "/users/new" ⟨[], .echo⟩ [.trace]]

def tabRegistration : Command :=
  .register .bare "GET" "/users/:id/*tab" ⟨[], .echo⟩ [.trace]

theorem lookup?_after_first_wins_over_literal :
    ∃ found route, (empty.after usersSession).lookup? .get "/users/new" = some found ∧
      found.route.pattern.source = "/users/:id" ∧
      (empty.after (usersSession ++ [tabRegistration])).lookup? .get "/users/new" = some found ∧
      tabRegistration.Adds route ∧ (empty.after usersSession).lookup? .get "/users/7/x" = none ∧
      ∀ found, (empty.after (usersSession ++ [tabRegistration])).lookup? .get "/users/7/x" = some found ↔
        found.route = route ∧ route.method = .get ∧
          route.pattern.captures? (Path.pieces "/users/7/x") = some found.captures := by
  have hFound : (empty.after usersSession).lookup? .get "/users/new" =
      some ⟨⟨.get, ⟨"/users/:id", [.plain (.literal "users"), .plain (.param "id")], rfl⟩, ⟨[], .echo⟩, [.trace],
        true⟩, ⟨[⟨"id", "new", none, by decide⟩], none⟩⟩ := rfl
  have hAdds : tabRegistration.Adds ⟨.get, ⟨"/users/:id/*tab", [.plain (.literal "users"),
      .plain (.param "id"), .plain (.wildcard "tab")], rfl⟩, ⟨[], .echo⟩, [], false⟩ :=
    ⟨.bare, [.trace], rfl, rfl, rfl⟩
  have hNone : (empty.after usersSession).lookup? .get "/users/7/x" = none := rfl
  obtain ⟨_, _, _, _, hKept, _⟩ := lookup?_after_first_wins usersSession .get "/users/new"
  obtain ⟨_, _, _, _, _, hFurther⟩ := lookup?_after_first_wins usersSession .get "/users/7/x"
  exact ⟨_, _, hFound, rfl, hKept _ _ hFound, hAdds, hNone, hFurther _ _ hAdds hNone⟩

end Router

end Routing
