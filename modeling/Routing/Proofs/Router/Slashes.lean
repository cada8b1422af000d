import Mathlib.Logic.Relation
import Routing.Proofs.Pattern.Matching
import Routing.Proofs.Router.AllowedMethods

/-! # Superfluous slashes

A slash is superfluous at the front and at the back of a path and beside another slash. Every path, with a
slash in front, comes from its canonical spelling by adding some. A superfluous slash changes no pieces, and
so neither what a router finds nor what a pattern compiles to.
-/

namespace Routing

namespace Path

variable {path other : String}

inductive AddsSlash : String → String → Prop where
  | front (path : String) : AddsSlash path ("/" ++ path)
  | back (path : String) : AddsSlash path (path ++ "/")
  | beside (before after : String) : AddsSlash (before ++ "/" ++ after) (before ++ "/" ++ "/" ++ after)

def AddsSlashes : String → String → Prop :=
  Relation.ReflTransGen AddsSlash

theorem AddsSlash.pieces_eq (h : AddsSlash path other) : pieces other = pieces path := by
  cases h with
  | front => exact pieces_slash_append path
  | back =>
    have hBack := pieces_append_slash path ""
    rwa [String.append_empty, pieces_empty, List.append_nil] at hBack
  | beside before after =>
    rw [String.append_assoc, pieces_append_slash, pieces_slash_append, pieces_append_slash]

theorem AddsSlashes.pieces_eq (h : AddsSlashes path other) : pieces other = pieces path := by
  induction h with
  | refl => rfl
  | tail _ hLast ih => rw [hLast.pieces_eq, ih]

/-- A path is the joined text of its stretches between slashes, and the non-empty ones are its pieces. -/
theorem exists_stretches (path : String) :
    ∃ texts, texts ≠ [] ∧ join texts = path ∧ texts.filter (· ≠ "") = pieces path := by
  refine ⟨(path.toList.splitOn '/').map String.ofList, by simp, ?_, ?_⟩
  · have hOfList : String.toList ∘ String.ofList = id := funext fun cs => String.toList_ofList
    apply String.toList_inj.mp
    rw [join, String.toList_intercalate, List.map_map, hOfList, List.map_id]
    exact List.intercalate_splitOn '/'
  · rw [pieces, List.filter_map]
    refine congrArg (List.map String.ofList) (List.filter_congr fun cs _ => ?_)
    cases cs <;> simp

/-- Whatever stands in front of a list of stretches, the empty ones among them come by adding slashes. -/
theorem addsSlashes_join {texts : List String} (h : texts ≠ []) (before : String) :
    AddsSlashes (before ++ "/" ++ join (texts.filter (· ≠ ""))) (before ++ "/" ++ join texts) := by
  induction texts generalizing before with
  | nil => exact absurd rfl h
  | cons text texts ih =>
    cases texts with
    | nil => by_cases hText : text = "" <;> simp [hText, join, AddsSlashes, Relation.ReflTransGen.refl]
    | cons next texts =>
      rw [join_cons (by simp)]
      by_cases hText : text = ""
      · have hTail := ih (by simp) before
        have hSlash := AddsSlash.beside before (join (next :: texts))
        rw [List.filter_cons_of_neg (by simp [hText]), hText, String.empty_append, ← String.append_assoc]
        exact hTail.tail hSlash
      · have hTail := ih (by simp) (before ++ "/" ++ text)
        rw [List.filter_cons_of_pos (by simp [hText]), ← String.append_assoc, ← String.append_assoc]
        by_cases hRest : (next :: texts).filter (· ≠ "") = []
        -- nothing but slashes follows the stretch, and the first of them is one at the back
        · rw [hRest] at hTail ⊢
          have hSlash := AddsSlash.back (before ++ "/" ++ text)
          rw [join, String.intercalate_singleton]
          rw [join, String.intercalate_nil, String.append_empty] at hTail
          exact hTail.head hSlash
        · rw [join_cons hRest, ← String.append_assoc, ← String.append_assoc]
          exact hTail

/-- Every path, with one slash more at its front, is its canonical spelling with slashes added. -/
theorem addsSlashes_canonical (path : String) : AddsSlashes (canonical path) ("/" ++ path) := by
  obtain ⟨texts, hSome, rfl, hPieces⟩ := exists_stretches path
  have hJoin := addsSlashes_join hSome ""
  rwa [hPieces, String.empty_append, ← canonical] at hJoin

def RoutedAlike (path other : String) : Prop :=
  ∀ router : Router, (∀ method, router.lookup? method other = router.lookup? method path) ∧
    router.allowedMethods other = router.allowedMethods path

theorem routedAlike_of_pieces_eq (h : pieces other = pieces path) : RoutedAlike path other := by
  intro router
  refine ⟨fun method => ?_, ?_⟩
  · rw [Router.lookup?, Router.lookup?, h]
  · rw [Router.allowedMethods, Router.allowedMethods, h]

end Path

/-! ## The text of the remaining pieces -/

theorem WellFormed.not_isRest_of_concat {front : List Segment} {last : Segment}
    (h : WellFormed (front ++ [last])) : ∀ segment ∈ front, ¬ segment.IsRest := by
  induction front with
  | nil => simp
  | cons head tail ih =>
    obtain ⟨_, hLast, hTail⟩ := h
    exact List.forall_mem_cons.mpr ⟨fun hRest => by simpa using hLast hRest, ih hTail⟩

/-- What the last segment captures is the text of the pieces that the segments in front of it leave. -/
theorem Reads.exists_of_concat_rest {front : List Segment} {name : String} {choices : List (List String)}
    {captures : Captures} (h : Reads (front ++ [.rest name]) choices captures) :
    ∃ earlier later captured, choices = earlier ++ [later] ∧ Reads front earlier captured ∧
      captures = captured ++ .ofParam (.ofRest name later) := by
  induction front generalizing choices captures with
  | nil =>
    cases h with
    | cons hHead hTail =>
      rename_i pieces _ _ _
      cases hTail
      cases pieces with
      | nil => cases hHead
      | cons piece pieces =>
        cases hHead
        exact ⟨[], piece :: pieces, .empty, rfl, .nil, by simp⟩
  | cons segment front ih =>
    cases h with
    | cons hHead hTail =>
      obtain ⟨earlier, later, captured, rfl, hReads, rfl⟩ := ih hTail
      exact ⟨_, later, _, rfl, .cons hHead hReads, (Captures.append_assoc ..).symm⟩

namespace Pattern

/-- Both texts compile, to the same segments, or both are refused, for the same reason and the same piece. -/
def CompileAlike (source other : String) : Prop :=
  (∃ pattern otherPattern, compile source = .ok pattern ∧ compile other = .ok otherPattern ∧
    otherPattern.segments = pattern.segments) ∨
  ∃ malformed otherMalformed, compile source = .error malformed ∧ compile other = .error otherMalformed ∧
    otherMalformed.defect = malformed.defect

theorem compileAlike_of_pieces_eq {source other : String} (h : Path.pieces other = Path.pieces source) :
    CompileAlike source other := by
  cases hRead : readPieces (Path.pieces source) with
  | ok segments =>
    have hOther : readPieces (Path.pieces other) = .ok segments := h ▸ hRead
    exact .inl ⟨⟨source, segments, hRead⟩, ⟨other, segments, hOther⟩, compile_eq_ok_iff.mpr rfl,
      compile_eq_ok_iff.mpr rfl, rfl⟩
  | error defect =>
    have hOther : readPieces (Path.pieces other) = .error defect := h ▸ hRead
    exact .inr ⟨⟨source, defect⟩, ⟨other, defect⟩, compile_eq_error_iff.mpr ⟨rfl, hRead⟩,
      compile_eq_error_iff.mpr ⟨rfl, hOther⟩, rfl⟩

/-- The text that the last segment captures is spelled canonically, and behind the pieces that the segments in
front of it take it is captured again. -/
theorem captures?_of_rest {pattern : Pattern} {front : List Segment} {name path : String} {captures : Captures}
    (hRest : pattern.segments = front ++ [.rest name])
    (h : pattern.captures? (Path.pieces path) = some captures) :
    ∃ earlier param, captures.params.getLast? = some param ∧ param.name = name ∧
      earlier.length = front.length ∧ Path.pieces path = earlier ++ Path.pieces param.raw ∧
      Path.canonical ("/" ++ param.raw) = "/" ++ param.raw ∧
      pattern.captures? (Path.pieces (Path.canonical (Path.join (earlier ++ [param.raw])))) = some captures := by
  obtain ⟨choices, hFlatten, hReads⟩ := captures?_eq_some_iff_reads.mp h
  rw [hRest] at hReads
  obtain ⟨choices, later, captured, rfl, hFront, rfl⟩ := hReads.exists_of_concat_rest
  have hOne := WellFormed.not_isRest_of_concat (hRest ▸ pattern.print_segments.1)
  rw [List.flatten_concat] at hFlatten
  have hPieces : ∀ piece ∈ choices.flatten ++ later, Path.IsPiece piece :=
    hFlatten ▸ fun _ => Path.isPiece_of_mem_pieces
  obtain ⟨hEarlier, hLater⟩ := List.forall_mem_append.mp hPieces
  have hText : Path.pieces (Path.join later) = later := Path.pieces_join hLater
  have hAgain : Path.pieces (Path.join (choices.flatten ++ [Path.join later])) = Path.pieces path := by
    rw [Path.pieces_join_eq_flatMap, List.flatMap_append, ← Path.pieces_join_eq_flatMap,
      Path.pieces_join hEarlier, List.flatMap_singleton, hText, hFlatten]
  refine ⟨choices.flatten, .ofRest name later, by simp [Captures.ofParam], rfl, hFront.length_flatten.2 hOne,
    ?_, ?_, ?_⟩
  · rw [← hFlatten, Param.ofRest, hText]
  · rw [Path.canonical, Path.pieces_slash_append, Param.ofRest, hText]
  · rw [Path.pieces_canonical]
    exact hAgain ▸ h

end Pattern

namespace Router

/-- Superfluous slashes make no difference. The canonical spelling comes from a path by leaving them out; a path
to which some are added, and the canonical spelling as well, is routed as the path is, and as a pattern it
compiles alike; and the text of the remaining pieces never has any. -/
theorem superfluous_slashes_change_nothing :
    (∀ path, Path.AddsSlashes (Path.canonical path) ("/" ++ path)) ∧
    (∀ path other, Path.AddsSlashes path other → Path.canonical other = Path.canonical path ∧
      Path.RoutedAlike path other ∧ Pattern.CompileAlike path other) ∧
    (∀ path, Path.canonical (Path.canonical path) = Path.canonical path ∧
      Path.RoutedAlike path (Path.canonical path) ∧ Pattern.CompileAlike path (Path.canonical path)) ∧
    ∀ (pattern : Pattern) (front : List Segment) (name path : String) (captures : Captures),
      pattern.segments = front ++ [.rest name] → pattern.captures? (Path.pieces path) = some captures →
        ∃ earlier param, captures.params.getLast? = some param ∧ param.name = name ∧
          earlier.length = front.length ∧ Path.pieces path = earlier ++ Path.pieces param.raw ∧
          Path.canonical ("/" ++ param.raw) = "/" ++ param.raw ∧
          pattern.captures? (Path.pieces (Path.canonical (Path.join (earlier ++ [param.raw])))) =
            some captures := by
  refine ⟨Path.addsSlashes_canonical, fun path other hAdds => ?_, fun path => ?_, ?_⟩
  · have hPieces := hAdds.pieces_eq
    exact ⟨Path.canonical_eq_iff.mpr hPieces, Path.routedAlike_of_pieces_eq hPieces,
      Pattern.compileAlike_of_pieces_eq hPieces⟩
  · have hPieces := Path.pieces_canonical path
    exact ⟨Path.canonical_canonical path, Path.routedAlike_of_pieces_eq hPieces,
      Pattern.compileAlike_of_pieces_eq hPieces⟩
  · intro pattern front name path captures hRest hCaptures
    exact Pattern.captures?_of_rest hRest hCaptures

theorem superfluous_slashes_change_nothing_in_files :
    (Path.AddsSlashes "files/a" "/files//a" ∧ Path.RoutedAlike "files/a" "/files//a") ∧
    ∃ pattern captures, Pattern.compile "/files/:owner/**path" = .ok pattern ∧
      pattern.segments = [.plain (.literal "files"), .plain (.param "owner")] ++ [.rest "path"] ∧
      pattern.captures? (Path.pieces "files//7/a///b.é/") = some captures ∧
      ∃ earlier param, captures.params.getLast? = some param ∧ param.name = "path" ∧
        earlier.length = 2 ∧ Path.pieces "files//7/a///b.é/" = earlier ++ Path.pieces param.raw ∧
        Path.canonical ("/" ++ param.raw) = "/" ++ param.raw ∧
        pattern.captures? (Path.pieces (Path.canonical (Path.join (earlier ++ [param.raw])))) =
          some captures := by
  obtain ⟨_, hAdded, _, hRest⟩ := superfluous_slashes_change_nothing
  have hAdds : Path.AddsSlashes "files/a" "/files//a" :=
    .tail (.single (.beside "files" "a")) (.front "files//a")
  have hRead : readPieces (Path.pieces "/files/:owner/**path") =
      .ok [.plain (.literal "files"), .plain (.param "owner"), .rest "path"] := rfl
  have hSegments : (Pattern.mk _ _ hRead).segments =
      [.plain (.literal "files"), .plain (.param "owner")] ++ [.rest "path"] := rfl
  have hCaptures : (Pattern.mk _ _ hRead).captures? (Path.pieces "files//7/a///b.é/") =
      some ⟨[.ofPiece "owner" "7", .ofRest "path" ["a", "b.é"]], none⟩ := rfl
  exact ⟨⟨hAdds, (hAdded _ _ hAdds).2.1⟩, _, _, Pattern.compile_eq_ok_iff.mpr rfl, hSegments, hCaptures,
    hRest _ _ _ _ _ hSegments hCaptures⟩

end Router

end Routing
