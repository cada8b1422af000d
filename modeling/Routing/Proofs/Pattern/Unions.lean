import Mathlib.Data.List.Forall2
import Routing.Proofs.Pattern.Matching

/-! # Extension unions

A union takes a piece apart where the format rule does: its extension is the format of the piece. So each
extension of a union is reached, and a union over a literal stands for the literals with one of its
extensions behind it.
-/

namespace Routing

/-- A union over a literal is replaced by the literal with one of its extensions behind it, and any other
segment is kept. -/
inductive Segment.ExpandsTo : Segment → Segment → Prop where
  | literal {text extension : String} {extensions : List String} (h : extension ∈ extensions) :
    ExpandsTo (.union (.literal text) extensions) (.plain (.literal (text ++ "." ++ extension)))
  | same {segment : Segment} (h : ∀ text extensions, segment ≠ .union (.literal text) extensions) :
    ExpandsTo segment segment

/-- The union accepts the pieces whose format is one of the extensions, behind a value that the stem
allows, and reports the format. -/
structure SplitsLikeFormat (stem : Stem) (extensions : List String) : Prop where
  literal {text : String} (h : stem = .literal text) (piece extension : String) :
    unionExtension? stem extensions piece = some extension ↔
      extension ∈ extensions ∧ Format.split piece = (text, some extension)
  named (h : ∀ text, stem ≠ .literal text) (piece extension : String) :
    unionExtension? stem extensions piece = some extension ↔
      extension ∈ extensions ∧ ∃ value, Format.split piece = (value, some extension)
  reaches_literal {text : String} (h : stem = .literal text) {extension : String}
    (hMem : extension ∈ extensions) :
    unionExtension? stem extensions (text ++ "." ++ extension) = some extension
  reaches_named (h : ∀ text, stem ≠ .literal text) {extension : String} (hMem : extension ∈ extensions)
    {value : String} (hValue : value ≠ "") :
    unionExtension? stem extensions (value ++ "." ++ extension) = some extension

theorem Stem.allows_iff_of_ne_literal {stem : Stem} (h : ∀ text, stem ≠ .literal text) {front : List Char} :
    stem.Allows front ↔ front ≠ [] := by
  cases stem with
  | literal text => exact absurd rfl (h text)
  | param name => rfl
  | wildcard name => rfl

theorem Stem.ne_nil_of_allows {stem : Stem} (hStem : stem.WellFormed) {front : List Char}
    (h : stem.Allows front) : front ≠ [] := by
  cases stem with
  | literal text =>
    have hFront : front = text.toList := h
    rw [hFront]
    simpa using hStem.1.1
  | param name => exact h
  | wildcard name => exact h

theorem unionExtension?_eq_some_iff_split {stem : Stem} {extensions : List String}
    (h : (Segment.union stem extensions).WellFormed) {piece extension : String} :
    unionExtension? stem extensions piece = some extension ↔ extension ∈ extensions ∧
      ∃ value, Format.split piece = (value, some extension) ∧ stem.Allows value.toList := by
  simp only [unionExtension?_eq_some_iff, Format.split_eq_some_iff]
  constructor
  · rintro ⟨hMem, front, hPiece, hFree, hAllows⟩
    have hFront : front ≠ [] := Stem.ne_nil_of_allows h.1 hAllows
    refine ⟨hMem, String.ofList front, ⟨String.toList_injective (by simp [hPiece]), ?_, ?_, hFree⟩, ?_⟩
    · simpa using hFront
    · exact (h.2.2 extension hMem).1.1
    · simpa using hAllows
  · rintro ⟨hMem, value, ⟨rfl, _, _, hFree⟩, hAllows⟩
    exact ⟨hMem, value.toList, by simp, hFree, hAllows⟩

theorem Segment.WellFormed.splitsLikeFormat {stem : Stem} {extensions : List String}
    (h : (Segment.union stem extensions).WellFormed) : SplitsLikeFormat stem extensions where
  literal hStem piece extension := by
    subst hStem
    rw [unionExtension?_eq_some_iff_split h]
    apply and_congr_right
    intro _
    constructor
    · rintro ⟨value, hSplit, hAllows⟩
      rw [hSplit, String.toList_inj.mp hAllows]
    · exact fun hSplit => ⟨_, hSplit, rfl⟩
  named hStem piece extension := by
    rw [unionExtension?_eq_some_iff_split h]
    apply and_congr_right
    intro _
    constructor
    · exact fun ⟨value, hSplit, _⟩ => ⟨value, hSplit⟩
    · rintro ⟨value, hSplit⟩
      have hValue := (Format.split_eq_some_iff.mp hSplit).value_ne
      exact ⟨value, hSplit, (Stem.allows_iff_of_ne_literal hStem).mpr (by simpa using hValue)⟩
  reaches_literal hStem extension hMem :=
    unionExtension?_append hMem (h.2.2 extension hMem) (hStem ▸ rfl)
  reaches_named hStem extension hMem value hValue :=
    unionExtension?_append hMem (h.2.2 extension hMem)
      ((Stem.allows_iff_of_ne_literal hStem).mpr (by simpa using hValue))

/-! ## Expansions -/

theorem Segment.covers_iff_exists_expansion {segment : Segment} {pieces : List String} :
    segment.Covers pieces ↔ ∃ other, segment.ExpandsTo other ∧ other.Covers pieces := by
  constructor
  · intro h
    cases h with
    | unionLiteral hMem => exact ⟨_, .literal hMem, .literal _⟩
    | literal text => exact ⟨_, .same (by simp), .literal text⟩
    | param h => exact ⟨_, .same (by simp), .param h⟩
    | wildcard h => exact ⟨_, .same (by simp), .wildcard h⟩
    | unionParam hValue h => exact ⟨_, .same (by simp), .unionParam hValue h⟩
    | unionWildcard hValue h => exact ⟨_, .same (by simp), .unionWildcard hValue h⟩
    | rest hSome h => exact ⟨_, .same (by simp), .rest hSome h⟩
  · rintro ⟨other, hOther, hCovers⟩
    cases hOther with
    | literal hMem =>
      cases hCovers
      exact .unionLiteral hMem
    | same _ => exact hCovers

theorem isInstance_iff_exists_expansion {segments : List Segment} {choices : List (List String)} :
    IsInstance segments choices ↔
      ∃ others, List.Forall₂ Segment.ExpandsTo segments others ∧ IsInstance others choices := by
  constructor
  · intro h
    induction h with
    | nil => exact ⟨[], .nil, .nil⟩
    | cons hCovers _ ih =>
      obtain ⟨other, hOther, hOtherCovers⟩ := Segment.covers_iff_exists_expansion.mp hCovers
      obtain ⟨others, hOthers, hInstance⟩ := ih
      exact ⟨other :: others, .cons hOther hOthers, .cons hOtherCovers hInstance⟩
  · rintro ⟨others, hOthers, hInstance⟩
    induction hOthers generalizing choices with
    | nil => exact hInstance
    | cons hOther _ ih =>
      cases hInstance with
      | cons hCovers hInstance =>
        exact .cons (Segment.covers_iff_exists_expansion.mpr ⟨_, hOther, hCovers⟩) (ih hInstance)

theorem IsLiteral.append_extension {text extension : String} (h : IsLiteral text)
    (hExtension : IsExtension extension) : IsLiteral (text ++ "." ++ extension) := by
  obtain ⟨hPiece, hBraces, hHead⟩ := h
  have hFull : text.toList ≠ [] := by simpa using hPiece.1
  obtain ⟨first, tail, hText⟩ := List.exists_cons_of_ne_nil hFull
  refine ⟨hPiece.append_dot hExtension.1, ?_, ?_⟩
  · intro c hc
    have hNot : c ∉ extension.toList := hExtension.2 c (List.mem_cons_of_mem _ (List.mem_cons_of_mem _ hc))
    have hDot : c ≠ '.' := by
      rintro rfl
      simp at hc
    simp [hBraces c hc, hNot, hDot]
  · -- the text is not empty, so its head is still the head
    simpa [hText] using hHead

theorem Segment.ExpandsTo.wellFormed {segment other : Segment} (h : segment.ExpandsTo other)
    (hSegment : segment.WellFormed) : other.WellFormed := by
  cases h with
  | literal hMem => exact IsLiteral.append_extension hSegment.1 (hSegment.2.2 _ hMem)
  | same _ => exact hSegment

theorem Segment.ExpandsTo.isRest {segment other : Segment} (h : segment.ExpandsTo other) (hRest : other.IsRest) :
    segment.IsRest := by
  cases h with
  | literal _ => exact absurd hRest (Segment.not_isRest_plain _)
  | same _ => exact hRest

theorem WellFormed.of_expansion {segments others : List Segment}
    (h : List.Forall₂ Segment.ExpandsTo segments others) (hSegments : WellFormed segments) :
    WellFormed others := by
  induction h with
  | nil => trivial
  | cons hOther hOthers ih =>
    obtain ⟨hSegment, hLast, hSegments⟩ := hSegments
    refine ⟨hOther.wellFormed hSegment, ?_, ih hSegments⟩
    intro hRest
    rw [hLast (hOther.isRest hRest)] at hOthers
    exact List.forall₂_nil_left_iff.mp hOthers

namespace Pattern

theorem exists_expansion (pattern : Pattern) {others : List Segment}
    (h : List.Forall₂ Segment.ExpandsTo pattern.segments others) {text : String}
    (hText : Path.pieces text = others.map Segment.print) :
    ∃ other, compile text = .ok other ∧ other.segments = others :=
  exists_of_wellFormed (.of_expansion h pattern.print_segments.1) hText

theorem isSome_captures?_iff_exists_expansion (pattern : Pattern) (path : String) :
    (pattern.captures? (Path.pieces path)).isSome ↔
      ∃ others other, List.Forall₂ Segment.ExpandsTo pattern.segments others ∧
        compile (Path.join (others.map Segment.print)) = .ok other ∧
          (other.captures? (Path.pieces path)).isSome := by
  have hCompiles : ∀ others, List.Forall₂ Segment.ExpandsTo pattern.segments others →
      ∃ other, compile (Path.join (others.map Segment.print)) = .ok other ∧ other.segments = others :=
    fun others h => pattern.exists_expansion h (pieces_join_print (.of_expansion h pattern.print_segments.1))
  rw [isSome_captures?_iff_exists_instance]
  constructor
  · rintro ⟨choices, hInstance, hFlatten⟩
    obtain ⟨others, hOthers, hOtherInstance⟩ := isInstance_iff_exists_expansion.mp hInstance
    obtain ⟨other, hCompile, rfl⟩ := hCompiles others hOthers
    exact ⟨_, other, hOthers, hCompile,
      isSome_captures?_iff_exists_instance.mpr ⟨choices, hOtherInstance, hFlatten⟩⟩
  · rintro ⟨others, other, hOthers, hCompile, hSome⟩
    obtain ⟨compiled, hCompiled, rfl⟩ := hCompiles others hOthers
    cases hCompile.symm.trans hCompiled
    obtain ⟨choices, hInstance, hFlatten⟩ := isSome_captures?_iff_exists_instance.mp hSome
    exact ⟨choices, isInstance_iff_exists_expansion.mpr ⟨_, hOthers, hInstance⟩, hFlatten⟩

/-- Every union of a pattern splits pieces like the format rule. The unions over literals can be replaced
by their literals: each choice of them compiles, and together they match the paths that the pattern matches. -/
theorem unions_split_like_formats (pattern : Pattern) :
    (∀ stem extensions, .union stem extensions ∈ pattern.segments → SplitsLikeFormat stem extensions) ∧
    (∀ others, List.Forall₂ Segment.ExpandsTo pattern.segments others →
      ∀ text, Path.pieces text = others.map Segment.print →
        ∃ other, compile text = .ok other ∧ other.segments = others) ∧
    ∀ path, (pattern.captures? (Path.pieces path)).isSome ↔
      ∃ others other, List.Forall₂ Segment.ExpandsTo pattern.segments others ∧
        compile (Path.join (others.map Segment.print)) = .ok other ∧
          (other.captures? (Path.pieces path)).isSome := by
  refine ⟨?_, ?_, pattern.isSome_captures?_iff_exists_expansion⟩
  · intro stem extensions hMem
    exact Segment.WellFormed.splitsLikeFormat (pattern.print_segments.1.of_mem hMem)
  · intro others hOthers text hText
    exact pattern.exists_expansion hOthers hText

theorem unions_split_like_formats_of_dotted_stem :
    ∃ pattern, compile "/v1.2.\x7bjson,xml\x7d/:id.\x7bpng\x7d" = .ok pattern ∧
      SplitsLikeFormat (.literal "v1.2") ["json", "xml"] ∧ SplitsLikeFormat (.param "id") ["png"] ∧
      ∃ other, compile "/v1.2.xml/:id.\x7bpng\x7d" = .ok other ∧
        other.segments = [.plain (.literal ("v1.2" ++ "." ++ "xml")), .union (.param "id") ["png"]] := by
  have hRead : readPieces (Path.pieces "/v1.2.\x7bjson,xml\x7d/:id.\x7bpng\x7d") =
      .ok [.union (.literal "v1.2") ["json", "xml"], .union (.param "id") ["png"]] := rfl
  obtain ⟨hSplits, hCompiles, _⟩ := unions_split_like_formats ⟨_, _, hRead⟩
  refine ⟨⟨_, _, hRead⟩, compile_eq_ok_iff.mpr rfl, hSplits _ _ (by simp), hSplits _ _ (by simp), ?_⟩
  exact hCompiles _ (.cons (.literal (by decide)) (.cons (.same (by simp)) .nil)) "/v1.2.xml/:id.\x7bpng\x7d" rfl

end Pattern

end Routing
