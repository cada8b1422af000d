import Routing.Http.Header

/-! # What is relied on of the HTTP library

Which characters make a name, which bytes make a value and how a map keeps its entries is settled by the HTTP
library. What follows about the headers that are sent relies only on the facts that are named in `FieldLaws`
and `MapLaws`, and the definitions by which messages are read here satisfy them.
-/

namespace Routing

/-- A space or a character of ASCII that has a shape. -/
def IsPrintable (c : Char) : Prop :=
  32 ≤ c.toNat ∧ c.toNat < 127

instance (c : Char) : Decidable (IsPrintable c) :=
  inferInstanceAs (Decidable (_ ∧ _))

theorem isPrintable_of_mem {text : String} {c : Char} (hAll : text.toList.all (IsPrintable ·))
    (h : c ∈ text.toList) : IsPrintable c :=
  of_decide_eq_true (List.all_eq_true.mp hAll c h)

theorem utf8EncodeChar_of_isPrintable {c : Char} (h : IsPrintable c) :
    String.utf8EncodeChar c = [UInt8.ofNat c.toNat] := by
  have hOne : c.utf8Size = 1 := by
    rw [Char.utf8Size_eq_one_iff, UInt32.le_iff_toNat_le]
    exact Nat.le_of_lt_succ (Nat.lt_succ_of_lt h.2)
  rw [String.utf8EncodeChar_eq_singleton hOne]
  rfl

theorem utf8_ofList_of_isPrintable {cs : List Char} (h : ∀ c ∈ cs, IsPrintable c) :
    utf8 (String.ofList cs) = cs.map fun c => UInt8.ofNat c.toNat := by
  rw [utf8, String.toList_ofList]
  induction cs with
  | nil => rfl
  | cons c cs ih =>
    rw [List.flatMap_cons, utf8EncodeChar_of_isPrintable (h c List.mem_cons_self),
      ih fun other hMem => h other (List.mem_cons_of_mem c hMem), List.map_cons, List.singleton_append]

namespace Http

/-! ## Names and values -/

/-- The case of a letter does not matter in a name. Names are printable and hold no comma, and `allow` is one of
them. Printable characters may stand in a value, which is then read as a text. -/
structure FieldLaws (isTokenChar : Char → Bool) (maxNameLength : Nat) (isFieldByte isTextByte : UInt8 → Bool) :
    Prop where
  toLower (c : Char) : isTokenChar c.toLower = isTokenChar c
  printable {c : Char} (h : isTokenChar c) : IsPrintable c
  comma : isTokenChar ',' = false
  allow : "allow".toList.all isTokenChar ∧ "allow".length ≤ maxNameLength
  text {c : Char} (h : IsPrintable c) : isTextByte (UInt8.ofNat c.toNat)
  field {byte : UInt8} (h : isTextByte byte) : isFieldByte byte

theorem isUpper_iff {c : Char} : c.isUpper ↔ 65 ≤ c.toNat ∧ c.toNat ≤ 90 :=
  decide_eq_true_iff.trans (and_congr UInt32.le_iff_toNat_le UInt32.le_iff_toNat_le)

theorem isLower_iff {c : Char} : c.isLower ↔ 97 ≤ c.toNat ∧ c.toNat ≤ 122 := by
  change (97 ≤ c.val && c.val ≤ 122) ↔ _
  simp [UInt32.le_iff_toNat_le]

theorem isDigit_iff {c : Char} : c.isDigit ↔ 48 ≤ c.toNat ∧ c.toNat ≤ 57 := by
  change (48 ≤ c.val && c.val ≤ 57) ↔ _
  simp [UInt32.le_iff_toNat_le]

theorem isAlphanum_iff {c : Char} :
    c.isAlphanum ↔ (65 ≤ c.toNat ∧ c.toNat ≤ 90 ∨ 97 ≤ c.toNat ∧ c.toNat ≤ 122) ∨
      48 ≤ c.toNat ∧ c.toNat ≤ 57 := by
  change (c.isUpper || c.isLower || c.isDigit) = true ↔ _
  rw [Bool.or_eq_true, Bool.or_eq_true, isUpper_iff, isLower_iff, isDigit_iff]

theorem isTokenChar_of_isAlphanum {c : Char} (h : c.isAlphanum) : isTokenChar c = true := by
  rw [isTokenChar, h, Bool.true_or]

theorem toNat_toLower_of_isUpper {c : Char} (h : c.isUpper) : c.toLower.toNat = c.toNat + 32 := by
  have hRange := of_decide_eq_true h
  have hLower : c.toLower = ⟨c.val + 32, _⟩ := dif_pos hRange
  have hLe := (isUpper_iff.mp h).2
  rw [hLower]
  change (c.val + 32).toNat = c.toNat + 32
  rw [UInt32.toNat_add, Char.toNat_val]
  exact Nat.mod_eq_of_lt (by simp; omega)

theorem isTokenChar_toLower (c : Char) : isTokenChar c.toLower = isTokenChar c := by
  by_cases hUpper : c.isUpper
  · -- a capital letter and the small letter that belongs to it are both alphanumeric
    have hRange := isUpper_iff.mp hUpper
    have hLower := toNat_toLower_of_isUpper hUpper
    rw [isTokenChar_of_isAlphanum (isAlphanum_iff.mpr (by omega)),
      isTokenChar_of_isAlphanum (isAlphanum_iff.mpr (by omega))]
  · have hSame : c.toLower = c := dif_neg fun hRange => hUpper (decide_eq_true hRange)
    rw [hSame]

theorem toNat_ofNat_of_isPrintable {c : Char} (h : IsPrintable c) : (UInt8.ofNat c.toNat).toNat = c.toNat :=
  UInt8.toNat_ofNat_of_lt' (Nat.lt_trans h.2 (by decide))

theorem fieldLaws : FieldLaws isTokenChar maxNameLength isFieldByte isTextByte where
  toLower := isTokenChar_toLower
  printable h := by
    rw [isTokenChar, Bool.or_eq_true, List.contains_iff_mem, isAlphanum_iff] at h
    rcases h with h | h
    · unfold IsPrintable
      omega
    · exact isPrintable_of_mem (by decide) h
  comma := by decide
  allow := by decide
  text {c} h := by
    have hBounds : 32 ≤ UInt8.ofNat c.toNat ∧ UInt8.ofNat c.toNat < 127 := by
      rw [UInt8.le_iff_toNat_le, UInt8.lt_iff_toNat_lt, toNat_ofNat_of_isPrintable h]
      exact h
    simp [isTextByte, hBounds]
  field h := by
    simp only [isTextByte, isFieldByte, Bool.or_eq_true, Bool.and_eq_true, decide_eq_true_eq] at h ⊢
    exact h.imp_right (And.imp_right UInt8.ne_of_lt)

/-- A printable text is a header value, which reads as that text. -/
theorem exists_headerValue_of_isPrintable {text : String} (h : ∀ c ∈ text.toList, IsPrintable c) :
    ∃ value : HeaderValue, value.bytes = utf8 text ∧ value.text? = some text := by
  have hBytes : utf8 text = text.toList.map fun c => UInt8.ofNat c.toNat := by
    rw [← utf8_ofList_of_isPrintable h, String.ofList_toList]
  have hText : (utf8 text).all isTextByte := by
    rw [hBytes, List.all_map, List.all_eq_true]
    exact fun c hc => fieldLaws.text (h c hc)
  have hField : (utf8 text).all isFieldByte :=
    List.all_eq_true.mpr fun byte hByte => fieldLaws.field (List.all_eq_true.mp hText byte hByte)
  have hChars : (utf8 text).map (fun byte => Char.ofNat byte.toNat) = text.toList := by
    rw [hBytes, List.map_map]
    conv => rhs; rw [← List.map_id text.toList]
    refine List.map_congr_left fun c hc => ?_
    rw [Function.comp_apply, toNat_ofNat_of_isPrintable (h c hc), Char.ofNat_toNat, id]
  exact ⟨⟨utf8 text, hField⟩, rfl, by rw [HeaderValue.text?, if_pos hText, hChars, String.ofList_toList]⟩

/-! ## Maps -/

/-- A map keeps the values of each name in the order in which they were added, whatever is done with other
names in between. -/
structure MapLaws {Map : Type} (empty : Map) (append insert : Map → HeaderName → HeaderValue → Map)
    (erase : Map → HeaderName → Map) (values : Map → HeaderName → List HeaderValue)
    (names : Map → List HeaderName) : Prop where
  values_empty (name : HeaderName) : values empty name = []
  values_append (map : Map) (name other : HeaderName) (value : HeaderValue) :
    values (append map name value) other = values map other ++ if name = other then [value] else []
  values_erase (map : Map) (name other : HeaderName) :
    values (erase map name) other = if name = other then [] else values map other
  erase_empty (name : HeaderName) : erase empty name = empty
  erase_append (map : Map) (name other : HeaderName) (value : HeaderValue) :
    erase (append map name value) other =
      if name = other then erase map other else append (erase map other) name value
  insert_eq (map : Map) (name : HeaderName) (value : HeaderValue) :
    insert map name value = append (erase map name) name value
  mem_names_iff (map : Map) (name : HeaderName) : name ∈ names map ↔ ∃ value, value ∈ values map name

namespace HeaderMap

theorem laws :
    MapLaws empty append insert erase values fun headers => headers.entries.map Prod.fst where
  values_empty _ := rfl
  values_append map name other value := by
    unfold append values
    rw [List.filterMap_append]
    split <;> simp [*]
  values_erase map name other := by
    unfold erase values
    rw [List.filterMap_filter]
    split
    · rename_i hName
      exact List.filterMap_eq_nil_iff.mpr fun entry _ => by simp +contextual [hName]
    · rename_i hName
      refine congrArg (List.filterMap · map.entries) (funext fun entry => ?_)
      by_cases hEntry : entry.1 = name <;> simp [hEntry, hName]
  erase_empty _ := rfl
  erase_append map name other value := by
    unfold erase append
    rw [List.filter_append]
    split <;> simp [*]
  insert_eq _ _ _ := rfl
  mem_names_iff map name := by
    simp [values]

end HeaderMap

end Http

end Routing
