/-! # Splitting a text at a mark

A text is split at the last occurrence of a character, or at the first or at every occurrence of two adjacent
characters. Each split is characterised by the concatenation that it undoes.
-/

namespace Routing.Text

def splitLast? (mark : Char) : List Char → Option (List Char × List Char)
  | [] => none
  | c :: cs =>
    match splitLast? mark cs with
    | some (before, after) => some (c :: before, after)
    | none => if c = mark then some ([], cs) else none

theorem splitLast?_eq_none_iff {mark : Char} {cs : List Char} :
    splitLast? mark cs = none ↔ mark ∉ cs := by
  induction cs with
  | nil => simp [splitLast?]
  | cons c cs ih =>
    rw [splitLast?]
    cases h : splitLast? mark cs with
    | some split =>
      have hMem : mark ∈ cs := by
        simpa [h] using (not_congr ih).mp
      simp [hMem]
    | none =>
      have hNot : mark ∉ cs := ih.mp h
      by_cases hc : c = mark
      · simp [hc]
      · simp [hc, hNot, Ne.symm hc]

theorem splitLast?_append_cons {mark : Char} (before after : List Char) (h : mark ∉ after) :
    splitLast? mark (before ++ mark :: after) = some (before, after) := by
  induction before with
  | nil => simp [splitLast?, splitLast?_eq_none_iff.mpr h]
  | cons c before ih => simp [splitLast?, ih]

theorem splitLast?_eq_some_iff {mark : Char} {cs before after : List Char} :
    splitLast? mark cs = some (before, after) ↔ cs = before ++ mark :: after ∧ mark ∉ after := by
  constructor
  · intro h
    induction cs generalizing before with
    | nil => cases h
    | cons c cs ih =>
      rw [splitLast?] at h
      cases hTail : splitLast? mark cs with
      | some split =>
        obtain ⟨front, back⟩ := split
        simp only [hTail, Option.some.injEq, Prod.mk.injEq] at h
        obtain ⟨rfl, rfl⟩ := h
        obtain ⟨hEq, hNot⟩ := ih hTail
        exact ⟨by rw [hEq, List.cons_append], hNot⟩
      | none =>
        by_cases hc : c = mark
        · simp only [hTail, hc, if_true, Option.some.injEq, Prod.mk.injEq] at h
          obtain ⟨rfl, rfl⟩ := h
          exact ⟨by rw [hc, List.nil_append], splitLast?_eq_none_iff.mp hTail⟩
        · simp [hTail, hc] at h
  · rintro ⟨rfl, hNot⟩
    exact splitLast?_append_cons before after hNot

/-- The text before and the text after the first place where `first` is followed by `second`. -/
def splitPair? (first second : Char) : List Char → Option (List Char × List Char)
  | [] => none
  | [_] => none
  | c :: d :: cs =>
    if c = first ∧ d = second then some ([], cs)
    else (splitPair? first second (d :: cs)).map fun (before, after) => (c :: before, after)

theorem eq_append_of_splitPair? {first second : Char} {cs before after : List Char}
    (h : splitPair? first second cs = some (before, after)) :
    cs = before ++ first :: second :: after := by
  fun_induction splitPair? first second cs generalizing before with
  | case1 => cases h
  | case2 => cases h
  | case3 c d cs hMark =>
    obtain ⟨rfl, rfl⟩ := hMark
    cases h
    rfl
  | case4 c d cs _ ih =>
    obtain ⟨⟨front, back⟩, hTail, hEq⟩ := Option.map_eq_some_iff.mp h
    cases hEq
    rw [ih hTail, List.cons_append]

theorem splitPair?_append {first second : Char} {before : List Char} (after : List Char)
    (h : second ∉ before) (hNe : first ≠ second) :
    splitPair? first second (before ++ first :: second :: after) = some (before, after) := by
  induction before with
  | nil => simp [splitPair?]
  | cons c before ih =>
    have hTail := ih fun hMem => h (List.mem_cons_of_mem c hMem)
    cases before with
    | nil =>
      have : ¬ (c = first ∧ first = second) := fun hEq => hNe hEq.2
      simp [splitPair?, this]
    | cons d before =>
      have : ¬ (c = first ∧ d = second) := fun hEq => h (by simp [hEq.2])
      simp only [List.cons_append] at hTail ⊢
      rw [splitPair?, if_neg this, hTail]
      rfl

/-- The stretches of a text between the places where `first` is followed by `second`. -/
def splitPairs (first second : Char) : List Char → List (List Char)
  | [] => [[]]
  | [c] => [[c]]
  | c :: d :: cs =>
    if c = first ∧ d = second then [] :: splitPairs first second cs
    else (splitPairs first second (d :: cs)).modifyHead (c :: ·)

theorem splitPairs_of_not_mem {first second : Char} {cs : List Char} (h : first ∉ cs) :
    splitPairs first second cs = [cs] := by
  fun_induction splitPairs first second cs with
  | case1 => rfl
  | case2 => rfl
  | case3 c d cs hMark => exact absurd (hMark.1 ▸ List.mem_cons_self) h
  | case4 c d cs _ ih => rw [ih fun hMem => h (List.mem_cons_of_mem c hMem), List.modifyHead_cons]

theorem splitPairs_append {first second : Char} {piece : List Char} (h : first ∉ piece) (rest : List Char) :
    splitPairs first second (piece ++ first :: second :: rest) = piece :: splitPairs first second rest := by
  induction piece with
  | nil => rw [List.nil_append, splitPairs, if_pos ⟨rfl, rfl⟩]
  | cons c piece ih =>
    have hTail := ih fun hMem => h (List.mem_cons_of_mem c hMem)
    obtain ⟨d, cs, hCons⟩ : ∃ d cs, piece ++ first :: second :: rest = d :: cs :=
      List.exists_cons_of_ne_nil (by simp)
    have hMark : ¬ (c = first ∧ d = second) := fun hEq => h (hEq.1 ▸ List.mem_cons_self)
    rw [List.cons_append, hCons, splitPairs, if_neg hMark, ← hCons, hTail, List.modifyHead_cons]

/-- Splitting undoes the joining of pieces that do not hold the first of the two characters. -/
theorem splitPairs_intercalate {first second : Char} {pieces : List (List Char)} (hSome : pieces ≠ [])
    (h : ∀ piece ∈ pieces, first ∉ piece) :
    splitPairs first second ([first, second].intercalate pieces) = pieces := by
  induction pieces with
  | nil => exact absurd rfl hSome
  | cons piece pieces ih =>
    have hPiece := h piece List.mem_cons_self
    cases pieces with
    | nil => rw [List.intercalate_singleton, splitPairs_of_not_mem hPiece]
    | cons next pieces =>
      have hTail := ih (by simp) fun other hMem => h other (List.mem_cons_of_mem piece hMem)
      rw [List.intercalate_cons_cons, List.append_assoc, List.cons_append, List.cons_append, List.nil_append,
        splitPairs_append hPiece, hTail]

end Routing.Text
