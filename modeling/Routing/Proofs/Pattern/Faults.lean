import Routing.Proofs.Pattern.Reasons

/-! # The fault that keeps a pattern from compiling

A piece is at fault when it spells no segment, or when it takes the remaining pieces and others follow. A
pattern that does not compile is refused because of its leftmost piece at fault.
-/

namespace Routing

def IsSound (piece : String) : Prop :=
  ∃ segment : Segment, segment.WellFormed ∧ ¬ segment.IsRest ∧ segment.print = piece

/-- The piece spells no segment, or it takes the remaining pieces although others follow. -/
def IsFaulty (piece : String) (later : List String) : Prop :=
  (¬ ∃ segment : Segment, segment.WellFormed ∧ segment.print = piece) ∨
    (∃ name, IsName name ∧ piece = "**" ++ name) ∧ later ≠ []

variable {piece : String} {pieces later : List String} {segment : Segment} {reason : Reason}

theorem Segment.decides_of_parse (hPiece : Path.IsPiece piece) (h : Segment.parse piece = .error reason) :
    reason.Decides piece.toList later := by
  rw [Segment.parse] at h
  split at h
  · rename_i hNone
    exact Reason.decides_of_readBase (forall_not_mem_braces_iff.mpr hNone) (map_eq_error_iff.mp h)
  · rename_i hSome
    split at h
    · rename_i hOne
      exact Reason.decides_of_readUnion hPiece.2 hOne h
    · rename_i hNotOne
      cases h
      exact ⟨[], _, rfl, .unbalancedBraces hSome hNotOne, by simp⟩

/-- Of a piece that spells a segment only its position may be wrong. -/
theorem Segment.applies_of_parse (hPiece : Path.IsPiece piece) (h : Segment.parse piece = .ok segment)
    (hApplies : reason.Applies piece.toList later) :
    reason = .restNotLast ∧ segment.IsRest ∧ later ≠ [] := by
  rw [Segment.parse] at h
  split at h
  · rename_i hNone
    obtain ⟨base, hBase, rfl⟩ := map_eq_ok_iff.mp h
    exact Reason.applies_of_readBase hPiece.2 (forall_not_mem_braces_iff.mpr hNone) hBase hApplies
  · split at h
    · rename_i hOne
      exact absurd hApplies (Reason.not_applies_of_readUnion hPiece.2 hOne h reason)
    · cases h

theorem isFaulty_of_parse_eq_error (hPiece : Path.IsPiece piece) (h : Segment.parse piece = .error reason) :
    IsFaulty piece later := by
  refine .inl ?_
  rintro ⟨segment, hSegment⟩
  cases h.symm.trans ((Segment.parse_eq_ok_iff hPiece).mpr hSegment)

/-- What is read from a list of pieces is told by its first piece, or by the pieces behind a sound one. -/
theorem readPieces_cons_cases (hPiece : Path.IsPiece piece) (later : List String) :
    (∃ reason, readPieces (piece :: later) = .error ⟨piece, reason⟩ ∧ IsFaulty piece later ∧
      reason.Decides piece.toList later) ∨
    ∃ segment, readPieces (piece :: later) = (readPieces later).map (segment :: ·) ∧
      (IsSound piece ∨ later = []) ∧ ∀ reason : Reason, ¬ reason.Applies piece.toList later := by
  cases hParse : Segment.parse piece with
  | error reason =>
    exact .inl ⟨reason, by simp [readPieces, hParse], isFaulty_of_parse_eq_error hPiece hParse,
      Segment.decides_of_parse hPiece hParse⟩
  | ok segment =>
    have hOnly : ∀ reason : Reason, reason.Applies piece.toList later →
        reason = .restNotLast ∧ segment.IsRest ∧ later ≠ [] :=
      fun _ => Segment.applies_of_parse hPiece hParse
    obtain ⟨hWellFormed, hPrint⟩ := (Segment.parse_eq_ok_iff hPiece).mp hParse
    by_cases hRest : segment.IsRest ∧ later ≠ []
    · obtain ⟨⟨name, rfl⟩, hLater⟩ := hRest
      have hRead : readPieces (piece :: later) = .error ⟨piece, .restNotLast⟩ := by
        simp [readPieces, hParse, hLater]
      have hText : piece.toList = '*' :: '*' :: name.toList := by simp [← hPrint, Segment.print]
      refine .inl ⟨.restNotLast, hRead, .inr ⟨⟨name, hWellFormed, hPrint.symm⟩, hLater⟩, ?_⟩
      -- the position is considered last, and nothing else can be wrong with a piece that was read
      refine ⟨Reason.inOrder.dropLast, [], rfl, .restNotLast hWellFormed hText hLater, ?_⟩
      intro earlier hMem hApplies
      cases (hOnly earlier hApplies).1
      simp [Reason.inOrder] at hMem
    · refine .inr ⟨segment, by rw [readPieces]; simp only [hParse, if_neg hRest], ?_, ?_⟩
      · by_cases hLater : later = []
        · exact .inr hLater
        · exact .inl ⟨segment, hWellFormed, fun h => hRest ⟨h, hLater⟩, hPrint⟩
      · exact fun reason hApplies => hRest (hOnly reason hApplies).2

/-- No two well-formed segments are spelled alike. -/
theorem Segment.eq_of_print_eq {other : Segment} (h : segment.WellFormed) (hOther : other.WellFormed)
    (hPrint : segment.print = other.print) : segment = other := by
  have hParse := Segment.parse_print h
  rw [hPrint, Segment.parse_print hOther] at hParse
  exact (Except.ok.inj hParse).symm

theorem IsSound.not_isFaulty (h : IsSound piece) : ¬ IsFaulty piece later := by
  obtain ⟨segment, hWellFormed, hNotRest, rfl⟩ := h
  rintro (hNone | ⟨⟨name, hName, hPrint⟩, _⟩)
  · exact hNone ⟨segment, hWellFormed, rfl⟩
  · exact hNotRest ⟨name, Segment.eq_of_print_eq hWellFormed hName hPrint⟩

theorem readPieces_eq_error_iff {defect : Defect} (h : ∀ piece ∈ pieces, Path.IsPiece piece) :
    readPieces pieces = .error defect ↔ ∃ front later, pieces = front ++ defect.piece :: later ∧
      (∀ earlier ∈ front, IsSound earlier) ∧ IsFaulty defect.piece later ∧
        defect.reason.Decides defect.piece.toList later := by
  induction pieces with
  | nil => simp [readPieces]
  | cons piece pieces ih =>
    have ih := ih fun other hOther => h other (List.mem_cons_of_mem piece hOther)
    rcases readPieces_cons_cases (h piece List.mem_cons_self) pieces with
      ⟨reason, hRead, hFaulty, hDecides⟩ | ⟨segment, hRead, hSound, hNone⟩
    -- the first piece is at fault, so it is the leftmost one, and its reason is the only one that decides
    · rw [hRead]
      constructor
      · intro hEq
        cases hEq
        exact ⟨[], pieces, rfl, by simp, hFaulty, hDecides⟩
      · rintro ⟨front, later, hPieces, hFront, _, hOther⟩
        cases front with
        | nil =>
          obtain ⟨hPiece, rfl⟩ := List.cons.inj hPieces
          rw [← hPiece] at hOther
          rw [hPiece, hDecides.unique hOther]
        | cons first front =>
          obtain ⟨rfl, _⟩ := List.cons.inj hPieces
          exact absurd hFaulty (hFront piece List.mem_cons_self).not_isFaulty
    -- nothing applies to the first piece, so the fault is one of the pieces behind it
    · rw [hRead, map_eq_error_iff, ih]
      constructor
      · rintro ⟨front, later, rfl, hFront, hFault⟩
        have hPiece : IsSound piece := hSound.resolve_right (by simp)
        exact ⟨piece :: front, later, rfl, List.forall_mem_cons.mpr ⟨hPiece, hFront⟩, hFault⟩
      · rintro ⟨front, later, hPieces, hFront, hFault⟩
        cases front with
        | nil =>
          obtain ⟨rfl, rfl⟩ := List.cons.inj hPieces
          obtain ⟨_, _, _, hApplies, _⟩ := hFault.2
          exact absurd hApplies (hNone _)
        | cons first front =>
          obtain ⟨_, rfl⟩ := List.cons.inj hPieces
          exact ⟨front, later, rfl, fun earlier hMem => hFront earlier (List.mem_cons_of_mem first hMem), hFault⟩

namespace Pattern

/-- A pattern is refused just when one of its pieces is at fault. The refusal keeps the pattern and names
the leftmost such piece, with the first reason that applies to it. -/
theorem compile_refuses_leftmost_fault (source : String) (malformed : Malformed) :
    compile source = .error malformed ↔ malformed.pattern = source ∧
      ∃ front later, Path.pieces source = front ++ malformed.defect.piece :: later ∧
        (∀ earlier ∈ front, IsSound earlier) ∧ IsFaulty malformed.defect.piece later ∧
          malformed.defect.reason.Decides malformed.defect.piece.toList later := by
  rw [compile_eq_error_iff, readPieces_eq_error_iff fun _ => Path.isPiece_of_mem_pieces]

-- two pieces are at fault, and three reasons apply to the former
example : readPieces (Path.pieces "/x/**.\x7b\x7d/:a\x7d\x7b") =
    .error ⟨"**.\x7b\x7d", .invalidExtension⟩ := rfl

end Pattern

end Routing
