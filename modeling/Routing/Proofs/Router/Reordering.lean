import Routing.Proofs.Router.AllowedMethods

/-! # The order of registrations

Two registrations conflict when they add routes of one method whose patterns match a common path. If the
commands of a session are given in another order in which those that conflict stand as before, the routes
that answer a request stay in their order, so every lookup ends alike.
-/

namespace Routing

def Pattern.Overlaps (pattern other : Pattern) : Prop :=
  ∃ path, pattern.Matches path ∧ other.Matches path

theorem Pattern.Matches.acceptsLength {pattern : Pattern} {path : String} (h : pattern.Matches path) :
    pattern.AcceptsLength (Path.pieces path).length := by
  rw [Pattern.Matches, Pattern.captures?] at h
  split at h
  · assumption
  · cases h

theorem Pattern.not_overlaps_of_length {pattern other : Pattern}
    (h : ∀ length, pattern.AcceptsLength length → ¬ other.AcceptsLength length) : ¬ pattern.Overlaps other := by
  rintro ⟨path, hMatches, hOther⟩
  exact h _ hMatches.acceptsLength hOther.acceptsLength

namespace Command

/-- Both commands register a route for one method, with patterns that match a common path. -/
def Conflicts (command other : Command) : Prop :=
  ∃ route next, command.Adds route ∧ other.Adds next ∧ route.method = next.method ∧
    route.pattern.Overlaps next.pattern

theorem conflicts_iff {command other : Command} {route next : Route} (hRoute : command.route? = some route)
    (hNext : other.route? = some next) :
    command.Conflicts other ↔ route.method = next.method ∧ route.pattern.Overlaps next.pattern := by
  simp [Conflicts, ← route?_eq_some_iff, hRoute, hNext]

theorem conflicts_of_isSome_match? {command other : Command} {method : Http.Method} {path : String}
    (h : (command.match? method path).isSome) (hOther : (other.match? method path).isSome) :
    command.Conflicts other := by
  obtain ⟨found, hFound⟩ := Option.isSome_iff_exists.mp h
  obtain ⟨next, hNext⟩ := Option.isSome_iff_exists.mp hOther
  obtain ⟨hAdds, hMethod, hCaptures⟩ := match?_eq_some_iff.mp hFound
  obtain ⟨hAddsNext, hMethodNext, hCapturesNext⟩ := match?_eq_some_iff.mp hNext
  refine ⟨found.route, next.route, hAdds, hAddsNext, hMethod.trans hMethodNext.symm, path, ?_, ?_⟩
  · rw [Pattern.Matches, hCaptures]
    rfl
  · rw [Pattern.Matches, hCapturesNext]
    rfl

end Command

/-- The same commands in another order, in which no two that conflict have been exchanged: `moved` holds
each of them with the place that it had. -/
def Reordered (commands reordered : List Command) : Prop :=
  ∃ moved : List (Command × Nat), moved.Perm commands.zipIdx ∧ moved.map Prod.fst = reordered ∧
    moved.Pairwise fun former latter => former.1.Conflicts latter.1 → former.2 < latter.2

theorem Reordered.filter_match? {commands reordered : List Command} (h : Reordered commands reordered)
    (method : Http.Method) (path : String) :
    (reordered.filter fun command => (command.match? method path).isSome) =
      commands.filter fun command => (command.match? method path).isSome := by
  obtain ⟨moved, hPerm, rfl, hOrder⟩ := h
  apply filter_map_fst_of_perm_zipIdx hPerm
  refine hOrder.imp ?_
  intro former latter hPlaces hFormer hLatter
  exact hPlaces (Command.conflicts_of_isSome_match? hFormer hLatter)

namespace Router

theorem lookup?_after_reordered {commands reordered : List Command} (h : Reordered commands reordered)
    (method : Http.Method) (path : String) :
    (empty.after reordered).lookup? method path = (empty.after commands).lookup? method path := by
  rw [lookup?_after, lookup?_after, ← findSome?_filter_isSome, h.filter_match?, findSome?_filter_isSome]

theorem perm_allowedMethods {router other : Router} {path : String}
    (h : ∀ method, router.lookup? method path = other.lookup? method path) :
    (router.allowedMethods path).Perm (other.allowedMethods path) := by
  apply (List.perm_ext_iff_of_nodup (router.nodup_allowedMethods path) (other.nodup_allowedMethods path)).mpr
  intro method
  rw [mem_allowedMethods_iff, mem_allowedMethods_iff, h]

/-- The order of registrations counts only where they conflict: with any other order every request has the
same match, and a path allows the same methods. -/
theorem after_reordered_answers_alike {commands reordered : List Command}
    (h : Reordered commands reordered) :
    (∀ method path, (empty.after reordered).lookup? method path = (empty.after commands).lookup? method path) ∧
    ∀ path, ((empty.after reordered).allowedMethods path).Perm ((empty.after commands).allowedMethods path) :=
  ⟨lookup?_after_reordered h,
    fun path => perm_allowedMethods fun method => lookup?_after_reordered h method path⟩

def echoAt (method pattern : String) : Command :=
  .register .bare method pattern ⟨[], .echo⟩ []

/-- The two routes for users overlap and stay in their order, the others change places. So the literal is still
found before the parameter, and a path allows its methods in another order. -/
theorem after_reordered_answers_alike_for_users :
    let commands := [echoAt "GET" "/users/new", echoAt "GET" "/users/:id", echoAt "POST" "/users/:id",
      echoAt "GET" "/health"]
    let reordered := [echoAt "GET" "/health", echoAt "POST" "/users/:id", echoAt "GET" "/users/new",
      echoAt "GET" "/users/:id"]
    Reordered commands reordered ∧
      (∀ method path,
        (empty.after reordered).lookup? method path = (empty.after commands).lookup? method path) ∧
      (∀ path,
        ((empty.after reordered).allowedMethods path).Perm ((empty.after commands).allowedMethods path)) ∧
      (∃ found, (empty.after commands).lookup? .get "/users/new" = some found ∧
        (empty.after reordered).lookup? .get "/users/new" = some found ∧
        found.route.pattern.source = "/users/new") ∧
      (empty.after commands).allowedMethods "/users/7" = [.get, ⟨"POST", by decide⟩] ∧
      (empty.after reordered).allowedMethods "/users/7" = [⟨"POST", by decide⟩, .get] := by
  intro commands reordered
  have hNew : (echoAt "GET" "/users/new").route? = some ⟨.get, ⟨"/users/new",
    [.plain (.literal "users"), .plain (.literal "new")], rfl⟩, ⟨[], .echo⟩, [], false⟩ := rfl
  have hGet : (echoAt "GET" "/users/:id").route? = some ⟨.get, ⟨"/users/:id",
    [.plain (.literal "users"), .plain (.param "id")], rfl⟩, ⟨[], .echo⟩, [], false⟩ := rfl
  have hPost : (echoAt "POST" "/users/:id").route? = some ⟨⟨"POST", by decide⟩, ⟨"/users/:id",
    [.plain (.literal "users"), .plain (.param "id")], rfl⟩, ⟨[], .echo⟩, [], false⟩ := rfl
  have hHealth : (echoAt "GET" "/health").route? = some ⟨.get, ⟨"/health",
    [.plain (.literal "health")], rfl⟩, ⟨[], .echo⟩, [], false⟩ := rfl
  have hMethods : (⟨"POST", by decide⟩ : Http.Method) ≠ .get := by decide
  have hLengths : ∀ length : Nat, length = 1 → ¬ length = 2 := by omega
  have hNotNew : ¬ (echoAt "GET" "/health").Conflicts (echoAt "GET" "/users/new") := by
    rw [Command.conflicts_iff hHealth hNew]
    exact fun h => absurd h.2 (Pattern.not_overlaps_of_length hLengths)
  have hNotGet : ¬ (echoAt "GET" "/health").Conflicts (echoAt "GET" "/users/:id") := by
    rw [Command.conflicts_iff hHealth hGet]
    exact fun h => absurd h.2 (Pattern.not_overlaps_of_length hLengths)
  have hReordered : Reordered commands reordered := by
    refine ⟨[(echoAt "GET" "/health", 3), (echoAt "POST" "/users/:id", 2), (echoAt "GET" "/users/new", 0),
      (echoAt "GET" "/users/:id", 1)], by decide, rfl, ?_⟩
    simp [hNotNew, hNotGet, Command.conflicts_iff hHealth hPost, Command.conflicts_iff hPost hNew,
      Command.conflicts_iff hPost hGet, hMethods, hMethods.symm]
  obtain ⟨hLookup, hAllowed⟩ := after_reordered_answers_alike hReordered
  have hFound : (empty.after commands).lookup? .get "/users/new" = some ⟨⟨.get, ⟨"/users/new",
    [.plain (.literal "users"), .plain (.literal "new")], rfl⟩, ⟨[], .echo⟩, [], false⟩, .empty⟩ := rfl
  exact ⟨hReordered, hLookup, hAllowed, ⟨_, hFound, (hLookup _ _).trans hFound, rfl⟩, by decide, by decide⟩

end Router

end Routing
