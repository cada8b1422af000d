/-! # Text as bytes

An offset counts the UTF-8 bytes in front of a place in a text. A text is cut only where a character begins
or where it ends, so there is no cut at any other offset.
-/

namespace Routing

abbrev Bytes := List UInt8

def utf8 (text : String) : Bytes :=
  text.toList.flatMap String.utf8EncodeChar

theorem utf8_append (front back : String) : utf8 (front ++ back) = utf8 front ++ utf8 back := by
  simp [utf8]

theorem length_utf8 (text : String) : (utf8 text).length = text.utf8ByteSize := by
  rw [← String.size_toByteArray, ← String.utf8Encode_toList, List.utf8Encode, List.size_toByteArray, utf8]

theorem length_utf8_pos_iff {text : String} : 0 < (utf8 text).length ↔ text ≠ "" := by
  rw [length_utf8, Nat.pos_iff_ne_zero, Ne, String.utf8ByteSize_eq_zero_iff]

/-- A byte below 128 is a character of its own. -/
theorem toNat_eq_of_mem_utf8EncodeChar {c : Char} {byte : UInt8} (h : byte ∈ String.utf8EncodeChar c)
    (hByte : byte.toNat < 128) : c.toNat = byte.toNat := by
  have hc : c.val.toNat = c.toNat := rfl
  rw [String.utf8EncodeChar.eq_def] at h
  simp only at h
  split at h
  · obtain rfl := List.mem_singleton.mp h
    rw [UInt8.toNat_ofNat', Nat.mod_eq_of_lt (by omega), hc]
  · -- at least 128 is added to every byte of a longer encoding
    exfalso
    split at h
    · simp only [List.mem_cons, List.not_mem_nil, or_false] at h
      rcases h with rfl | rfl <;> simp only [UInt8.toNat_ofNat'] at hByte <;> omega
    · split at h
      · simp only [List.mem_cons, List.not_mem_nil, or_false] at h
        rcases h with rfl | rfl | rfl <;> simp only [UInt8.toNat_ofNat'] at hByte <;> omega
      · simp only [List.mem_cons, List.not_mem_nil, or_false] at h
        rcases h with rfl | rfl | rfl | rfl <;> simp only [UInt8.toNat_ofNat'] at hByte <;> omega

namespace Text

/-! ## Cuts -/

def cutChars? : Nat → List Char → Option (List Char × List Char)
  | 0, cs => some ([], cs)
  | _ + 1, [] => none
  | offset + 1, c :: cs =>
    if c.utf8Size ≤ offset + 1 then
      (cutChars? (offset + 1 - c.utf8Size) cs).map fun (front, back) => (c :: front, back)
    else none

def cut? (text : String) (offset : Nat) : Option (String × String) :=
  (cutChars? offset text.toList).map fun (front, back) => (String.ofList front, String.ofList back)

theorem cutChars?_append (front back : List Char) :
    cutChars? (utf8 (String.ofList front)).length (front ++ back) = some (front, back) := by
  induction front with
  | nil => simp [utf8, cutChars?]
  | cons c front ih =>
    obtain ⟨offset, hOffset⟩ := Nat.exists_eq_succ_of_ne_zero (Nat.ne_of_gt c.utf8Size_pos)
    have hLength : (utf8 (String.ofList (c :: front))).length =
        (offset + (utf8 (String.ofList front)).length) + 1 := by
      rw [String.ofList_cons, utf8_append, List.length_append]
      simp [utf8, hOffset]
      omega
    have hLe : c.utf8Size ≤ offset + (utf8 (String.ofList front)).length + 1 := by omega
    have hRest : offset + (utf8 (String.ofList front)).length + 1 - c.utf8Size =
        (utf8 (String.ofList front)).length := by omega
    rw [hLength, List.cons_append, cutChars?, if_pos hLe, hRest, ih]
    rfl

theorem eq_append_of_cutChars? {offset : Nat} {cs front back : List Char}
    (h : cutChars? offset cs = some (front, back)) :
    cs = front ++ back ∧ (utf8 (String.ofList front)).length = offset := by
  fun_induction cutChars? offset cs generalizing front with
  | case1 cs =>
    cases h
    exact ⟨rfl, rfl⟩
  | case2 => cases h
  | case3 offset c cs hLe ih =>
    obtain ⟨⟨front, back⟩, hTail, hEq⟩ := Option.map_eq_some_iff.mp h
    cases hEq
    obtain ⟨rfl, hLength⟩ := ih hTail
    refine ⟨rfl, ?_⟩
    rw [String.ofList_cons, utf8_append, List.length_append, hLength]
    simp [utf8]
    omega
  | case4 => cases h

theorem cut?_eq_some_iff {text front back : String} {offset : Nat} :
    cut? text offset = some (front, back) ↔ text = front ++ back ∧ (utf8 front).length = offset := by
  constructor
  · intro h
    obtain ⟨⟨frontChars, backChars⟩, hCut, hEq⟩ := Option.map_eq_some_iff.mp h
    cases hEq
    obtain ⟨hText, hLength⟩ := eq_append_of_cutChars? hCut
    exact ⟨String.toList_injective (by simp [hText]), hLength⟩
  · rintro ⟨rfl, rfl⟩
    have hCut := cutChars?_append front.toList back.toList
    rw [String.ofList_toList] at hCut
    rw [cut?, String.toList_append, hCut]
    simp

def CanCut (text : String) (offset : Nat) : Prop :=
  (cut? text offset).isSome

instance (text : String) (offset : Nat) : Decidable (CanCut text offset) :=
  inferInstanceAs (Decidable ((cut? text offset).isSome = true))

variable {text front back : String} {offset : Nat}

theorem canCut_of_cut? (h : cut? text offset = some (front, back)) : CanCut text offset := by
  rw [CanCut, h]
  rfl

/-- A text can be cut just when a character begins at the offset or the text ends there. -/
theorem canCut_iff_isValid : CanCut text offset ↔ String.Pos.Raw.IsValid text ⟨offset⟩ := by
  rw [String.Pos.Raw.isValid_iff_exists_append, CanCut, Option.isSome_iff_exists]
  constructor
  · rintro ⟨⟨front, back⟩, hCut⟩
    obtain ⟨hText, hOffset⟩ := cut?_eq_some_iff.mp hCut
    exact ⟨front, back, hText, congrArg String.Pos.Raw.mk (hOffset.symm.trans (length_utf8 front))⟩
  · rintro ⟨front, back, hText, hOffset⟩
    have hLength : offset = front.utf8ByteSize := congrArg String.Pos.Raw.byteIdx hOffset
    exact ⟨(front, back), cut?_eq_some_iff.mpr ⟨hText, (length_utf8 front).trans hLength.symm⟩⟩

def before (text : String) (offset : Nat) (h : CanCut text offset) : String :=
  ((cut? text offset).get h).1

def behind (text : String) (offset : Nat) (h : CanCut text offset) : String :=
  ((cut? text offset).get h).2

theorem before_eq (h : cut? text offset = some (front, back)) (hCut : CanCut text offset) :
    before text offset hCut = front := by
  simp only [before, h, Option.get_some]

theorem behind_eq (h : cut? text offset = some (front, back)) (hCut : CanCut text offset) :
    behind text offset hCut = back := by
  simp only [behind, h, Option.get_some]

end Text

end Routing
