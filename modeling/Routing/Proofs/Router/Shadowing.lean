import Routing.Proofs.Pattern.Matching
import Routing.Proofs.Router.AllowedMethods

/-! # Shadowed routes

A route repeats an earlier one when both have the same method and their patterns the same pieces. The
warning about a shadowed route is given for just those routes that repeat one of the table, and it keeps
its promise: such a route is idle, now and after all further registrations.
-/

namespace Routing

def Route.Repeats (route earlier : Route) : Prop :=
  earlier.method = route.method ∧ Path.pieces earlier.pattern.source = Path.pieces route.pattern.source

/-- What a pattern matches depends on its segments only. -/
theorem Pattern.Equivalent.matches_iff {pattern other : Pattern} (h : pattern.Equivalent other)
    (path : String) : pattern.Matches path ↔ other.Matches path := by
  have hSegments : pattern.segments = other.segments := h
  rw [Pattern.Matches, Pattern.Matches, Pattern.captures?_eq_scan?, Pattern.captures?_eq_scan?, hSegments]

/-- Whatever the route answers, one of the routes in front of it answers as well. -/
def Route.CoveredBy (route : Route) (front : List Route) : Prop :=
  ∀ method path, route.Answers method path → ∃ earlier ∈ front, earlier.Answers method path

theorem Route.Repeats.coveredBy {route earlier : Route} (h : route.Repeats earlier) {front : List Route}
    (hMem : earlier ∈ front) : route.CoveredBy front := by
  intro method path hAnswers
  have hEquivalent := (earlier.pattern.equivalent_iff route.pattern).mpr h.2
  exact ⟨earlier, hMem, h.1.trans hAnswers.1, (hEquivalent.matches_iff path).mpr hAnswers.2⟩

namespace Router

theorem shadowing?_eq_some_iff {router : Router} {route first : Route} :
    router.shadowing? route.method route.pattern = some first ↔
      route.Repeats first ∧ ∃ front back, router.routes = front ++ first :: back ∧
        ∀ earlier ∈ front, ¬ route.Repeats earlier := by
  simp only [shadowing?, List.find?_eq_some_iff_append, Pattern.equivalent_iff, Bool.not_eq_true',
    decide_eq_true_eq, decide_eq_false_iff_not, Route.Repeats]

theorem shadowing?_eq_none_iff {router : Router} {route : Route} :
    router.shadowing? route.method route.pattern = none ↔
      ∀ earlier ∈ router.routes, ¬ route.Repeats earlier := by
  simp only [shadowing?, List.find?_eq_none, Pattern.equivalent_iff, decide_eq_true_eq, Route.Repeats]

/-- The report of a new route ends with its registration, and one warning stands before if it is shadowed. -/
theorem registrationEvents_cases (router : Router) (route : Route) :
    (∃ front first back, router.routes = front ++ first :: back ∧ route.Repeats first ∧
      (∀ earlier ∈ front, ¬ route.Repeats earlier) ∧
      router.registrationEvents route =
        [.shadowed route.method route.pattern.source first.pattern.source,
          .registered route.method route.pattern.source route.layers.length route.streaming]) ∨
    ((∀ earlier ∈ router.routes, ¬ route.Repeats earlier) ∧
      router.registrationEvents route =
        [.registered route.method route.pattern.source route.layers.length route.streaming]) := by
  rw [registrationEvents]
  cases hShadowing : router.shadowing? route.method route.pattern with
  | none => exact .inr ⟨shadowing?_eq_none_iff.mp hShadowing, rfl⟩
  | some first =>
    obtain ⟨hRepeats, front, back, hRoutes, hFront⟩ := shadowing?_eq_some_iff.mp hShadowing
    exact .inl ⟨front, first, back, hRoutes, hRepeats, hFront, rfl⟩

theorem exists_shadowed_mem_iff {router : Router} {route : Route} :
    (∃ source, .shadowed route.method route.pattern.source source ∈ router.registrationEvents route) ↔
      ∃ earlier ∈ router.routes, route.Repeats earlier := by
  rcases router.registrationEvents_cases route with
    ⟨front, first, back, hRoutes, hRepeats, _, hEvents⟩ | ⟨hNone, hEvents⟩
  · have hMem : first ∈ router.routes := hRoutes ▸ List.mem_append_right front List.mem_cons_self
    rw [hEvents]
    exact ⟨fun _ => ⟨first, hMem, hRepeats⟩, fun _ => ⟨first.pattern.source, List.mem_cons_self⟩⟩
  · rw [hEvents]
    constructor
    · rintro ⟨source, hMem⟩
      simp at hMem
    · rintro ⟨earlier, hMem, hRepeats⟩
      exact absurd hRepeats (hNone earlier hMem)

/-! ## Idle routes -/

def remove (router : Router) (place : Nat) : Router :=
  ⟨router.routes.eraseIdx place⟩

/-- The route at a place is never the one that a lookup finds, and nothing is answered otherwise without it. -/
structure Idle (router : Router) (place : Nat) : Prop where
  found_elsewhere : ∀ method path found, router.lookup? method path = some found →
    ∃ other, other ≠ place ∧ router.place? method path = some other ∧ router.routes[other]? = some found.route
  lookup?_remove : ∀ method path, (router.remove place).lookup? method path = router.lookup? method path
  allowedMethods_remove : ∀ path, (router.remove place).allowedMethods path = router.allowedMethods path

variable {front back : List Route} {route : Route}

theorem place?_ne_of_coveredBy (h : route.CoveredBy front) (method : Http.Method) (path : String) :
    (⟨front ++ route :: back⟩ : Router).place? method path ≠ some front.length := by
  intro hPlace
  obtain ⟨_, hRoute, hFront⟩ := List.findIdx?_eq_some_iff_getElem.mp hPlace
  simp only [List.getElem_append_right (Nat.le_refl _), Nat.sub_self, List.getElem_cons_zero,
    decide_eq_true_eq] at hRoute
  obtain ⟨earlier, hMem, hEarlier⟩ := h method path hRoute
  obtain ⟨place, hLt, rfl⟩ := List.getElem_of_mem hMem
  have hNot := hFront place hLt
  rw [List.getElem_append_left hLt, decide_eq_true_eq] at hNot
  exact hNot hEarlier

theorem lookup?_of_coveredBy (h : route.CoveredBy front) (method : Http.Method) (path : String) :
    (⟨front ++ route :: back⟩ : Router).lookup? method path =
      (⟨front ++ back⟩ : Router).lookup? method path := by
  simp only [lookup?, List.findSome?_append, List.findSome?_cons]
  by_cases hAnswers : route.Answers method path
  · have hSome : ((⟨front⟩ : Router).lookup? method path).isSome :=
      isSome_lookup?_iff.mpr (h method path hAnswers)
    obtain ⟨found, hFound⟩ := Option.isSome_iff_exists.mp hSome
    rw [lookup?] at hFound
    rw [hFound, Option.some_or, Option.some_or]
  · rw [Route.captures?_eq_none_iff_not_answers.mpr hAnswers, Option.map_none]

theorem allowedMethods_of_coveredBy (h : route.CoveredBy front) (path : String) :
    (⟨front ++ route :: back⟩ : Router).allowedMethods path =
      (⟨front ++ back⟩ : Router).allowedMethods path := by
  have hCollected : collectMethod (Path.pieces path) ((⟨front⟩ : Router).allowedMethods path) route =
      (⟨front⟩ : Router).allowedMethods path := by
    rw [collectMethod, if_neg]
    rintro ⟨hNew, hMatches⟩
    exact hNew (mem_allowedMethods_iff.mpr (isSome_lookup?_iff.mpr (h route.method path ⟨rfl, hMatches⟩)))
  rw [allowedMethods] at hCollected
  rw [allowedMethods, allowedMethods, List.foldl_append, List.foldl_append, List.foldl_cons, hCollected]

theorem idle_of_coveredBy (h : route.CoveredBy front) :
    (⟨front ++ route :: back⟩ : Router).Idle front.length := by
  have hRemove : (⟨front ++ route :: back⟩ : Router).remove front.length = ⟨front ++ back⟩ := by
    rw [remove, List.eraseIdx_append_of_length_le (Nat.le_refl _), Nat.sub_self, List.eraseIdx_zero,
      List.tail_cons]
  constructor
  · intro method path found hFound
    obtain ⟨place, hPlace, hRoute⟩ := exists_place_of_lookup? hFound
    refine ⟨place, ?_, hPlace, hRoute⟩
    rintro rfl
    exact place?_ne_of_coveredBy h method path hPlace
  · intro method path
    rw [hRemove, lookup?_of_coveredBy h]
  · intro path
    rw [hRemove, allowedMethods_of_coveredBy h]

/-- Registrations only add routes behind, so a covered route stays covered. -/
theorem idle_after_of_coveredBy {router : Router} (h : route.CoveredBy router.routes) (more : List Command) :
    ((router.add route).after more).Idle router.routes.length := by
  have hRoutes : ((router.add route).after more).routes =
      router.routes ++ route :: more.filterMap Command.route? := by
    rw [routes_after, add, List.append_assoc, List.singleton_append]
  have hIdle : (⟨router.routes ++ route :: more.filterMap Command.route?⟩ : Router).Idle router.routes.length :=
    idle_of_coveredBy h
  rwa [← hRoutes] at hIdle

/-- A registration warns just when its route repeats one of the table, of which it names the first, and
then the route stays idle whatever is registered later. -/
theorem registration_warns_of_idle_route (router : Router) (command : Command) (size : Nat)
    (events : List Event) (h : (router.execute command).2 = .added size events) :
    ∃ route, command.Adds route ∧ (router.execute command).1.routes = router.routes ++ [route] ∧
      ((∃ front first back, router.routes = front ++ first :: back ∧ route.Repeats first ∧
          (∀ earlier ∈ front, ¬ route.Repeats earlier) ∧
          events = [.shadowed route.method route.pattern.source first.pattern.source,
            .registered route.method route.pattern.source route.layers.length route.streaming]) ∨
        ((∀ earlier ∈ router.routes, ¬ route.Repeats earlier) ∧
          events = [.registered route.method route.pattern.source route.layers.length route.streaming])) ∧
      ((∃ source, .shadowed route.method route.pattern.source source ∈ events) ↔
        ∃ earlier ∈ router.routes, route.Repeats earlier) ∧
      ((∃ source, .shadowed route.method route.pattern.source source ∈ events) →
        ∀ more, ((router.execute command).1.after more).Idle router.routes.length) := by
  rcases router.execute_cases command with ⟨route, hRoute, hExecute⟩ | ⟨_, _, hNot⟩
  · rw [hExecute] at h ⊢
    cases h
    refine ⟨route, Command.route?_eq_some_iff.mp hRoute, rfl, router.registrationEvents_cases route,
      exists_shadowed_mem_iff, ?_⟩
    intro hWarned more
    obtain ⟨earlier, hMem, hRepeats⟩ := exists_shadowed_mem_iff.mp hWarned
    exact idle_after_of_coveredBy (hRepeats.coveredBy hMem) more
  · exact absurd h (hNot size events)

theorem registration_warns_of_idle_route_with_extra_slashes :
    let router := Router.empty.after [.register (.strict false) "GET" "/users/:id" ⟨[], .echo⟩ [.trace],
      .register (.checked true) "GET" "/users/:name" ⟨[], .echo⟩ []]
    let command : Command := .register .bare "GET" "users//:id/" ⟨[], .upload⟩ []
    let events : List Event :=
      [.shadowed .get "users//:id/" "/users/:id", .registered .get "users//:id/" 0 false]
    (router.execute command).2 = .added 3 events ∧
      ∀ more, ((router.execute command).1.after more).Idle 2 := by
  intro router command events
  have hAdded : (router.execute command).2 = .added 3 events := rfl
  have hRoute : command.route? = some ⟨.get, ⟨"users//:id/", [.plain (.literal "users"),
    .plain (.param "id")], rfl⟩, ⟨[], .upload⟩, [], false⟩ := rfl
  obtain ⟨route, hAdds, _, _, _, hIdle⟩ := registration_warns_of_idle_route router command 3 events hAdded
  obtain rfl := Option.some.inj (hRoute.symm.trans (Command.route?_eq_some_iff.mpr hAdds))
  exact ⟨hAdded, hIdle ⟨"/users/:id", List.mem_cons_self⟩⟩

end Router

end Routing
