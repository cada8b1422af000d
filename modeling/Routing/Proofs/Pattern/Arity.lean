import Routing.Proofs.Pattern.Matching

/-! # The arity check of a pattern

The check looks at the number of pieces and at the last segment only. It refuses nothing that the scan
accepts, and each number that it lets pass is that of some path which matches: every well-formed segment
has pieces that may stand for it, and a segment that takes the rest has them in any number but zero.
-/

namespace Routing

theorem Segment.WellFormed.exists_covers {segment : Segment} (h : segment.WellFormed) :
    ∃ piece, segment.Covers [piece] := by
  cases segment with
  | plain stem =>
    cases stem with
    | literal text => exact ⟨text, .literal text⟩
    | param name => exact ⟨"x", .param (by decide)⟩
    | wildcard name => exact ⟨"x", .wildcard (by decide)⟩
  | union stem extensions =>
    obtain ⟨extension, hMem⟩ := List.exists_mem_of_ne_nil extensions h.2.1
    cases stem with
    | literal text => exact ⟨_, .unionLiteral hMem⟩
    | param name => exact ⟨"x" ++ "." ++ extension, .unionParam (by decide) hMem⟩
    | wildcard name => exact ⟨"x" ++ "." ++ extension, .unionWildcard (by decide) hMem⟩
  | rest name => exact ⟨"x", .rest (by simp) (by decide)⟩

theorem Segment.covers_replicate (name : String) {n : Nat} (h : n ≠ 0) :
    (Segment.rest name).Covers (List.replicate n "x") := by
  refine .rest (by simpa using h) ?_
  intro piece hPiece
  rw [List.eq_of_mem_replicate hPiece]
  decide

/-- What stands for a well-formed segment may be spelled in a path. -/
theorem Segment.Covers.isPiece {segment : Segment} {pieces : List String} (h : segment.Covers pieces)
    (hSegment : segment.WellFormed) : ∀ piece ∈ pieces, Path.IsPiece piece := by
  cases h with
  | literal text => simpa using hSegment.1
  | param h => simpa using h
  | wildcard h => simpa using h
  | unionLiteral hMem => simpa using hSegment.1.1.append_dot (hSegment.2.2 _ hMem).1
  | unionParam hValue hMem => simpa using hValue.append_dot (hSegment.2.2 _ hMem).1
  | unionWildcard hValue hMem => simpa using hValue.append_dot (hSegment.2.2 _ hMem).1
  | rest _ h => exact h

theorem IsInstance.isPiece {segments : List Segment} {choices : List (List String)}
    (h : IsInstance segments choices) (hSegments : WellFormed segments) :
    ∀ piece ∈ choices.flatten, Path.IsPiece piece := by
  induction h with
  | nil => simp
  | cons hCovers _ ih =>
    obtain ⟨hSegment, _, hTail⟩ := hSegments
    rw [List.flatten_cons]
    exact List.forall_mem_append.mpr ⟨hCovers.isPiece hSegment, ih hTail⟩

theorem IsInstance.concat {segments : List Segment} {choices : List (List String)}
    (h : IsInstance segments choices) {segment : Segment} {pieces : List String}
    (hCovers : segment.Covers pieces) : IsInstance (segments ++ [segment]) (choices ++ [pieces]) := by
  induction h with
  | nil => exact .cons hCovers .nil
  | cons hHead _ ih => exact .cons hHead ih

theorem exists_instance {segments : List Segment} (h : ∀ segment ∈ segments, segment.WellFormed) :
    ∃ choices, IsInstance segments choices ∧ choices.flatten.length = segments.length := by
  induction segments with
  | nil => exact ⟨[], .nil, rfl⟩
  | cons segment segments ih =>
    obtain ⟨hSegment, hSegments⟩ := List.forall_mem_cons.mp h
    obtain ⟨piece, hCovers⟩ := hSegment.exists_covers
    obtain ⟨choices, hInstance, hLength⟩ := ih hSegments
    exact ⟨[piece] :: choices, .cons hCovers hInstance, by simp [hLength]⟩

/-- The segments before the last one take a piece each, and the last one takes all that are left. -/
theorem exists_instance_concat_rest {segments : List Segment} (h : ∀ segment ∈ segments, segment.WellFormed)
    (name : String) {length : Nat} (hLength : segments.length < length) :
    ∃ choices, IsInstance (segments ++ [.rest name]) choices ∧ choices.flatten.length = length := by
  obtain ⟨choices, hInstance, hChoices⟩ := exists_instance h
  have hLeft : length - segments.length ≠ 0 := by omega
  refine ⟨_, hInstance.concat (Segment.covers_replicate name hLeft), ?_⟩
  simp only [List.flatten_append, List.flatten_singleton, List.length_append, hChoices, List.length_replicate]
  omega

namespace Pattern

theorem exists_instance_of_acceptsLength {pattern : Pattern} {length : Nat} (h : pattern.AcceptsLength length) :
    ∃ choices, IsInstance pattern.segments choices ∧ choices.flatten.length = length := by
  have hSegments : ∀ segment ∈ pattern.segments, segment.WellFormed :=
    fun segment hMem => pattern.print_segments.1.of_mem hMem
  rw [AcceptsLength] at h
  split at h
  · rename_i name hLast
    obtain ⟨front, hFront⟩ := List.getLast?_eq_some_iff.mp hLast
    rw [hFront] at h hSegments ⊢
    refine exists_instance_concat_rest (fun segment hMem => hSegments segment (List.mem_append_left _ hMem)) name ?_
    simpa [Nat.succ_le_iff] using h
  · rw [h]
    exact exists_instance hSegments

theorem exists_path_of_acceptsLength {pattern : Pattern} {length : Nat} (h : pattern.AcceptsLength length) :
    ∃ path, (Path.pieces path).length = length ∧ (pattern.captures? (Path.pieces path)).isSome := by
  obtain ⟨choices, hInstance, rfl⟩ := exists_instance_of_acceptsLength h
  have hPieces := Path.pieces_join (hInstance.isPiece pattern.print_segments.1)
  refine ⟨Path.join choices.flatten, by rw [hPieces], ?_⟩
  exact isSome_captures?_iff_exists_instance.mpr ⟨choices, hInstance, hPieces.symm⟩

/-- Leaving the arity check out changes no result, and the check lets a number of pieces pass just when
some path with that many pieces matches. -/
theorem arity_check_is_exact (pattern : Pattern) :
    (∀ pieces, pattern.captures? pieces = scan? pattern.segments pieces) ∧
    ∀ length, pattern.AcceptsLength length ↔
      ∃ path, (Path.pieces path).length = length ∧ (pattern.captures? (Path.pieces path)).isSome := by
  refine ⟨pattern.captures?_eq_scan?, fun length => ⟨exists_path_of_acceptsLength, ?_⟩⟩
  rintro ⟨path, rfl, hSome⟩
  obtain ⟨captures, hCaptures⟩ := Option.isSome_iff_exists.mp hSome
  obtain ⟨choices, hFlatten, hReads⟩ := captures?_eq_some_iff_reads.mp hCaptures
  exact hFlatten ▸ acceptsLength_of_reads hReads

end Pattern

end Routing
