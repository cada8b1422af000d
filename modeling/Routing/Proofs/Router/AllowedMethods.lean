import Routing.Proofs.Session.History

/-! # The methods that a path allows

A route answers the requests with its method whose path its pattern matches. The place of a request in a
router is that of the first route which answers it, and the methods that a path allows are those that
have a place, in the order of their places.
-/

namespace Routing

def Pattern.Matches (pattern : Pattern) (path : String) : Prop :=
  (pattern.captures? (Path.pieces path)).isSome

instance (pattern : Pattern) (path : String) : Decidable (pattern.Matches path) :=
  inferInstanceAs (Decidable (_ = true))

def Route.Answers (route : Route) (method : Http.Method) (path : String) : Prop :=
  route.method = method ∧ route.pattern.Matches path

instance (route : Route) (method : Http.Method) (path : String) : Decidable (route.Answers method path) :=
  inferInstanceAs (Decidable (_ ∧ _))

theorem Route.answers_iff_isSome_captures? {route : Route} {method : Http.Method} {path : String} :
    route.Answers method path ↔ (route.captures? method (Path.pieces path)).isSome := by
  simp only [Route.Answers, Pattern.Matches, Option.isSome_iff_exists, Route.captures?_eq_some_iff,
    exists_and_left]

theorem Route.captures?_eq_none_iff_not_answers {route : Route} {method : Http.Method} {path : String} :
    route.captures? method (Path.pieces path) = none ↔ ¬ route.Answers method path := by
  rw [Route.answers_iff_isSome_captures?, Option.not_isSome_iff_eq_none]

namespace Router

/-- Every router comes from the empty one by adding its routes. -/
theorem induction {motive : Router → Prop} (empty : motive .empty)
    (add : ∀ router route, motive router → motive (router.add route)) (router : Router) : motive router := by
  suffices ∀ (routes : List Route) (router : Router), motive router → motive ⟨router.routes ++ routes⟩ from
    this router.routes .empty empty
  intro routes
  induction routes with
  | nil => exact fun router h => by rwa [List.append_nil]
  | cons route routes ih =>
    intro router h
    have hNext := ih (router.add route) (add router route h)
    rwa [Router.add, List.append_assoc] at hNext

variable {router : Router} {method other : Http.Method} {path : String} {methods : List Http.Method}
  {place : Nat}

/-! ## Places -/

/-- Where the first route stands that answers a method and a path. -/
def place? (router : Router) (method : Http.Method) (path : String) : Option Nat :=
  router.routes.findIdx? fun route => route.Answers method path

def PlacedBefore (router : Router) (path : String) (method other : Http.Method) : Prop :=
  ∃ place later, router.place? method path = some place ∧ router.place? other path = some later ∧ place < later

theorem place?_add (router : Router) (route : Route) (method : Http.Method) (path : String) :
    (router.add route).place? method path =
      (router.place? method path).or
        (if route.Answers method path then some router.routes.length else none) := by
  rw [place?, add, List.findIdx?_append, List.findIdx?_singleton]
  by_cases h : route.Answers method path <;> simp [place?, h]

theorem place?_add_of_eq_some (h : router.place? method path = some place) (route : Route) :
    (router.add route).place? method path = some place := by
  rw [place?_add, h, Option.some_or]

theorem place?_lt (h : router.place? method path = some place) : place < router.routes.length := by
  obtain ⟨hLt, _⟩ := List.findIdx?_eq_some_iff_getElem.mp h
  exact hLt

theorem isSome_place?_iff :
    (router.place? method path).isSome ↔ ∃ route ∈ router.routes, route.Answers method path := by
  simp [place?]

theorem isSome_lookup?_iff :
    (router.lookup? method path).isSome ↔ ∃ route ∈ router.routes, route.Answers method path := by
  simp [lookup?, Route.answers_iff_isSome_captures?]

/-- A lookup finds the route at the place of the request. -/
theorem exists_place_of_lookup? {found : Match} (h : router.lookup? method path = some found) :
    ∃ place, router.place? method path = some place ∧ router.routes[place]? = some found.route := by
  obtain ⟨front, route, back, hRoutes, hRoute, hFront⟩ := List.findSome?_eq_some_iff.mp h
  obtain ⟨captures, hCaptures, rfl⟩ := Option.map_eq_some_iff.mp hRoute
  have hAnswers : route.Answers method path :=
    Route.answers_iff_isSome_captures?.mpr (by rw [hCaptures]; rfl)
  have hNone : front.findIdx? (fun earlier => earlier.Answers method path) = none := by
    rw [List.findIdx?_eq_none_iff]
    intro earlier hMem
    have hCaptures := Option.map_eq_none_iff.mp (hFront earlier hMem)
    exact decide_eq_false (Route.captures?_eq_none_iff_not_answers.mp hCaptures)
  refine ⟨front.length, ?_, by rw [hRoutes]; simp⟩
  rw [place?, hRoutes, List.findIdx?_append, hNone, Option.none_or, List.findIdx?_cons]
  simp [hAnswers]

theorem PlacedBefore.asymm (h : router.PlacedBefore path method other) :
    ¬ router.PlacedBefore path other method := by
  obtain ⟨place, later, hPlace, hLater, hLt⟩ := h
  rintro ⟨place', later', hPlace', hLater', hLt'⟩
  obtain rfl := Option.some.inj (hPlace.symm.trans hLater')
  obtain rfl := Option.some.inj (hLater.symm.trans hPlace')
  omega

theorem PlacedBefore.add (h : router.PlacedBefore path method other) (route : Route) :
    (router.add route).PlacedBefore path method other := by
  obtain ⟨place, later, hPlace, hLater, hLt⟩ := h
  exact ⟨place, later, place?_add_of_eq_some hPlace route, place?_add_of_eq_some hLater route, hLt⟩

/-! ## The scan that collects the methods -/

/-- The methods are those that have a place for the path, in the order of their places. -/
structure Collected (router : Router) (path : String) (methods : List Http.Method) : Prop where
  mem_iff : ∀ method, method ∈ methods ↔ (router.place? method path).isSome
  ordered : methods.Pairwise (router.PlacedBefore path)

theorem Collected.empty (path : String) : Collected .empty path [] where
  mem_iff method := by simp [place?, Router.empty]
  ordered := .nil

theorem Collected.add_new (h : router.Collected path methods) {route : Route}
    (hNew : route.method ∉ methods) (hMatches : route.pattern.Matches path) :
    (router.add route).Collected path (methods ++ [route.method]) := by
  have hNone : router.place? route.method path = none := by
    rwa [h.mem_iff, Option.not_isSome_iff_eq_none] at hNew
  have hLast : (router.add route).place? route.method path = some router.routes.length := by
    rw [place?_add, hNone, Option.none_or, if_pos ⟨rfl, hMatches⟩]
  constructor
  · intro method
    by_cases hMethod : route.method = method
    · subst hMethod
      simp [hLast]
    · have hNot : ¬ route.Answers method path := fun hAnswers => hMethod hAnswers.1
      simp [place?_add, hNot, h.mem_iff, Ne.symm hMethod]
  · refine List.pairwise_append.mpr
      ⟨h.ordered.imp fun hBefore => hBefore.add route, List.pairwise_singleton _ _, ?_⟩
    intro method hMem other hOther
    obtain rfl := List.mem_singleton.mp hOther
    obtain ⟨place, hPlace⟩ := Option.isSome_iff_exists.mp ((h.mem_iff method).mp hMem)
    exact ⟨place, _, place?_add_of_eq_some hPlace route, hLast, place?_lt hPlace⟩

theorem Collected.add_old (h : router.Collected path methods) {route : Route}
    (hOld : route.pattern.Matches path → route.method ∈ methods) :
    (router.add route).Collected path methods := by
  refine ⟨fun method => ?_, h.ordered.imp fun hBefore => hBefore.add route⟩
  rw [place?_add, h.mem_iff]
  by_cases hAnswers : route.Answers method path
  · obtain ⟨rfl, hMatches⟩ := hAnswers
    have hPlaced := (h.mem_iff route.method).mp (hOld hMatches)
    simp [hPlaced]
  · rw [if_neg hAnswers, Option.or_none]

theorem Collected.add (h : router.Collected path methods) (route : Route) :
    (router.add route).Collected path (collectMethod (Path.pieces path) methods route) := by
  rw [collectMethod]
  split
  · rename_i hNew
    exact h.add_new hNew.1 hNew.2
  · rename_i hOld
    exact h.add_old fun hMatches => Classical.byContradiction fun hNew => hOld ⟨hNew, hMatches⟩

theorem collected_allowedMethods (router : Router) (path : String) :
    router.Collected path (router.allowedMethods path) := by
  induction router using Router.induction with
  | empty => exact .empty path
  | add router route ih =>
    rw [allowedMethods_add]
    exact ih.add route

theorem mem_allowedMethods_iff :
    method ∈ router.allowedMethods path ↔ (router.lookup? method path).isSome := by
  rw [(router.collected_allowedMethods path).mem_iff, isSome_place?_iff, isSome_lookup?_iff]

theorem nodup_allowedMethods (router : Router) (path : String) : (router.allowedMethods path).Nodup := by
  refine (router.collected_allowedMethods path).ordered.imp ?_
  rintro method _ hBefore rfl
  exact hBefore.asymm hBefore

theorem pair_sublist_allowedMethods_iff :
    [method, other].Sublist (router.allowedMethods path) ↔ router.PlacedBefore path method other := by
  have hCollected := router.collected_allowedMethods path
  constructor
  · exact fun h => List.pairwise_iff_forall_sublist.mp hCollected.ordered h
  · intro h
    obtain ⟨place, later, hPlace, hLater, _⟩ := id h
    have hMem := (hCollected.mem_iff method).mpr (by rw [hPlace]; rfl)
    have hOther := (hCollected.mem_iff other).mpr (by rw [hLater]; rfl)
    exact pair_sublist_of_pairwise (fun _ _ hBefore => hBefore.asymm) hCollected.ordered hMem hOther h

/-- A path allows exactly the methods that have a match, each of them once, and one comes before another
just when its first matching route was registered before that of the other. -/
theorem allowedMethods_agree_with_lookup? (router : Router) (path : String) :
    (∀ method, method ∈ router.allowedMethods path ↔ (router.lookup? method path).isSome) ∧
    (router.allowedMethods path).Nodup ∧
    ∀ method other, [method, other].Sublist (router.allowedMethods path) ↔
      router.PlacedBefore path method other :=
  ⟨fun _ => mem_allowedMethods_iff, router.nodup_allowedMethods path,
    fun _ _ => pair_sublist_allowedMethods_iff⟩

end Router

end Routing
