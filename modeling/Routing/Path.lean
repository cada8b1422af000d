import Routing.General

/-! # Paths as lists of pieces

A path and a pattern are both read as their non-empty stretches between slashes. Every such list of
pieces has one canonical spelling, a slash followed by the pieces joined by single slashes.
-/

namespace Routing.Path

def IsPiece (text : String) : Prop :=
  text ≠ "" ∧ '/' ∉ text.toList

instance (text : String) : Decidable (IsPiece text) :=
  inferInstanceAs (Decidable (text ≠ "" ∧ '/' ∉ text.toList))

/-- The non-empty stretches of `path` between slashes. -/
def pieces (path : String) : List String :=
  ((path.toList.splitOn '/').filter (!·.isEmpty)).map String.ofList

def join (texts : List String) : String :=
  "/".intercalate texts

def canonical (path : String) : String :=
  "/" ++ join (pieces path)

theorem isPiece_ofList_iff {cs : List Char} : IsPiece (String.ofList cs) ↔ cs ≠ [] ∧ '/' ∉ cs := by
  simp [IsPiece]

theorem IsPiece.append_dot {front back : String} (h : IsPiece front) (hBack : IsPiece back) :
    IsPiece (front ++ "." ++ back) :=
  ⟨by simp, by simp [h.2, hBack.2]⟩

theorem isPiece_of_mem_pieces {path text : String} (h : text ∈ pieces path) : IsPiece text := by
  obtain ⟨piece, hPiece, rfl⟩ := List.mem_map.mp h
  obtain ⟨hSplit, hFull⟩ := List.mem_filter.mp hPiece
  exact isPiece_ofList_iff.mpr ⟨by simpa using hFull, not_mem_of_mem_splitOn hSplit⟩

@[simp]
theorem pieces_empty : pieces "" = [] := rfl

theorem pieces_append_slash (front back : String) :
    pieces (front ++ "/" ++ back) = pieces front ++ pieces back := by
  simp [pieces, List.splitOn_append_cons_self]

theorem pieces_of_isPiece {text : String} (h : IsPiece text) : pieces text = [text] := by
  have hFull : text.toList ≠ [] := by simpa using h.1
  simp [pieces, List.splitOn_eq_singleton h.2, hFull]

theorem join_cons {texts : List String} (h : texts ≠ []) (text : String) :
    join (text :: texts) = text ++ "/" ++ join texts := by
  rw [join, String.intercalate_cons_of_ne_nil h, ← join]

theorem pieces_join_eq_flatMap (texts : List String) : pieces (join texts) = texts.flatMap pieces := by
  induction texts with
  | nil => rfl
  | cons text texts ih =>
    cases texts with
    | nil => simp [join]
    | cons next texts =>
      rw [join_cons (by simp), pieces_append_slash, ih]
      rfl

/-- A list of pieces is recovered from its joined text. -/
theorem pieces_join {texts : List String} (h : ∀ text ∈ texts, IsPiece text) :
    pieces (join texts) = texts := by
  rw [pieces_join_eq_flatMap]
  induction texts with
  | nil => rfl
  | cons text texts ih =>
    obtain ⟨hText, hTexts⟩ := List.forall_mem_cons.mp h
    rw [List.flatMap_cons, pieces_of_isPiece hText, ih hTexts]
    rfl

theorem pieces_slash_append (path : String) : pieces ("/" ++ path) = pieces path := by
  have h := pieces_append_slash "" path
  rwa [String.empty_append, pieces_empty, List.nil_append] at h

@[simp]
theorem pieces_canonical (path : String) : pieces (canonical path) = pieces path := by
  rw [canonical, pieces_slash_append]
  exact pieces_join fun _ => isPiece_of_mem_pieces

@[simp]
theorem canonical_canonical (path : String) : canonical (canonical path) = canonical path := by
  rw [canonical, pieces_canonical, ← canonical]

/-- Two paths have the same canonical spelling just when they have the same pieces. -/
theorem canonical_eq_iff {path other : String} :
    canonical path = canonical other ↔ pieces path = pieces other := by
  constructor
  · intro h
    rw [← pieces_canonical path, h, pieces_canonical]
  · intro h
    rw [canonical, h, ← canonical]

end Routing.Path
