/-! # Lists and results

Facts about lists and about results that may be errors, in which nothing is said about routing.
-/

namespace Routing

section Results

variable {ε α β : Type} {f : α → β} {result : Except ε α}

theorem map_eq_ok_iff {b : β} : result.map f = .ok b ↔ ∃ a, result = .ok a ∧ f a = b := by
  cases result <;> simp [Except.map]

theorem map_eq_error_iff {e : ε} : result.map f = .error e ↔ result = .error e := by
  cases result <;> simp [Except.map]

end Results

/-! ## Joined and split lists -/

section Splitting

variable {α : Type} {c mark : α} {cs piece separator : List α} {pieces : List (List α)}

theorem not_mem_of_mem_splitOn [BEq α] [LawfulBEq α] (h : piece ∈ cs.splitOn mark) : mark ∉ piece := by
  induction cs generalizing piece with
  | nil =>
    rw [List.splitOn_nil, List.mem_singleton] at h
    simp [h]
  | cons c cs ih =>
    rw [List.splitOn_cons_eq_if_modifyHead] at h
    split at h
    · rcases List.mem_cons.mp h with rfl | h
      · simp
      · exact ih h
    · rename_i hc
      obtain ⟨head, tail, hSplit⟩ := List.exists_cons_of_ne_nil (List.splitOn_ne_nil mark cs)
      rw [hSplit, List.modifyHead_cons] at h
      rcases List.mem_cons.mp h with rfl | h
      · have hHead : mark ∉ head := ih (by simp [hSplit])
        have hNe : mark ≠ c := fun hEq => hc (by simp [hEq])
        simp [hHead, hNe]
      · exact ih (by simp [hSplit, h])

theorem mem_intercalate_of_mem (h : piece ∈ pieces) (hc : c ∈ piece) : c ∈ separator.intercalate pieces := by
  induction pieces with
  | nil => cases h
  | cons head tail ih =>
    cases tail with
    | nil =>
      rw [List.mem_singleton] at h
      rwa [List.intercalate_singleton, ← h]
    | cons next tail =>
      rw [List.intercalate_cons_cons]
      rcases List.mem_cons.mp h with rfl | h
      · simp [hc]
      · simp [ih h]

theorem mem_or_mem_of_mem_intercalate (h : c ∈ separator.intercalate pieces) :
    c ∈ separator ∨ ∃ piece ∈ pieces, c ∈ piece := by
  induction pieces with
  | nil => cases h
  | cons head tail ih =>
    cases tail with
    | nil =>
      rw [List.intercalate_singleton] at h
      exact .inr ⟨head, List.mem_cons_self, h⟩
    | cons next tail =>
      rw [List.intercalate_cons_cons, List.mem_append, List.mem_append] at h
      rcases h with (h | h) | h
      · exact .inr ⟨head, List.mem_cons_self, h⟩
      · exact .inl h
      · exact (ih h).imp_right fun ⟨piece, hPiece, hc⟩ => ⟨piece, List.mem_cons_of_mem head hPiece, hc⟩

theorem eq_or_mem_of_mem_intercalate (h : c ∈ [mark].intercalate pieces) :
    c = mark ∨ ∃ piece ∈ pieces, c ∈ piece :=
  (mem_or_mem_of_mem_intercalate h).imp_left List.mem_singleton.mp

theorem mem_of_mem_splitOn [BEq α] [LawfulBEq α] (h : piece ∈ cs.splitOn mark) (hc : c ∈ piece) : c ∈ cs := by
  have hJoin : [mark].intercalate (cs.splitOn mark) = cs := List.intercalate_splitOn mark
  rw [← hJoin]
  exact mem_intercalate_of_mem h hc

end Splitting

/-! ## Lists in order -/

variable {α : Type} {l : List α}

/-- Of two members of a list that is ordered by an asymmetric relation, the lesser comes first. -/
theorem pair_sublist_of_pairwise {r : α → α → Prop} (hAsymm : ∀ a b, r a b → ¬ r b a) (h : l.Pairwise r)
    {a b : α} (ha : a ∈ l) (hb : b ∈ l) (hab : r a b) : [a, b].Sublist l := by
  obtain ⟨front, back, rfl⟩ := List.append_of_mem ha
  obtain ⟨_, _, hFront⟩ := List.pairwise_append.mp h
  rcases List.mem_append.mp hb with hb | hb
  · exact absurd (hFront b hb a List.mem_cons_self) (hAsymm a b hab)
  · have hb : b ∈ back := by
      rcases List.mem_cons.mp hb with rfl | hb
      · exact absurd hab (hAsymm b b hab)
      · exact hb
    exact ((List.singleton_sublist.mpr hb).cons_cons a).trans (List.sublist_append_right front _)

/-- A reordering of a list is given by its members together with the places that they had. Those which
satisfy `p` stay in their order if no two of them have been exchanged. -/
theorem filter_map_fst_of_perm_zipIdx {moved : List (α × Nat)} {p : α → Bool} (hPerm : moved.Perm l.zipIdx)
    (hOrder : moved.Pairwise fun former latter => p former.1 → p latter.1 → former.2 < latter.2) :
    (moved.map Prod.fst).filter p = l.filter p := by
  have hPlaces : l.zipIdx.Pairwise fun former latter => former.2 < latter.2 := by
    apply List.pairwise_map.mp
    rw [List.zipIdx_map_snd]
    exact List.pairwise_lt_range'
  -- both lists of satisfying members ascend in their former places
  have hMoved : moved.filter (p ∘ Prod.fst) = l.zipIdx.filter (p ∘ Prod.fst) := by
    refine List.Perm.eq_of_pairwise ?_ (List.pairwise_filter.mpr hOrder) (hPlaces.filter _) (hPerm.filter _)
    intro former latter _ _ hLt hGt
    omega
  calc (moved.map Prod.fst).filter p = (moved.filter (p ∘ Prod.fst)).map Prod.fst := List.filter_map
    _ = (l.zipIdx.filter (p ∘ Prod.fst)).map Prod.fst := by rw [hMoved]
    _ = (l.zipIdx.map Prod.fst).filter p := List.filter_map.symm
    _ = l.filter p := by rw [List.zipIdx_map_fst]

theorem findSome?_filter_isSome {β : Type} (f : α → Option β) :
    (l.filter fun a => (f a).isSome).findSome? f = l.findSome? f := by
  have hSame : (fun a => if (f a).isSome then f a else none) = f := by
    funext a
    cases h : f a <;> simp
  rw [← List.head?_filterMap, List.filterMap_filter, hSame, List.head?_filterMap]

end Routing
