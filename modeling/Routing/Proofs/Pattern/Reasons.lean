import Routing.Proofs.Pattern.Grammar

/-! # The reason why a piece is refused

Several reasons may apply to one piece of a pattern. They are considered in a fixed order, and the first
one that applies is the one for which the piece is refused.
-/

namespace Routing

open Text

/-! ## Reasons -/

/-- The text puts a union of `list` behind `stem`. -/
def IsUnion (stem list text : List Char) : Prop :=
  text = stem ++ '.' :: '{' :: (list ++ ['}'])

/-- A text without braces is its own stem. -/
def HasStem (stem text : List Char) : Prop :=
  ((∀ c ∈ ['{', '}'], c ∉ text) ∧ stem = text) ∨ ∃ list, IsUnion stem list text

def nameText? : List Char → Option (List Char)
  | '*' :: '*' :: name => some name
  | '*' :: name => some name
  | ':' :: name => some name
  | _ => none

def IsBareMark (stem : List Char) : Prop :=
  stem = [':'] ∨ stem = ['*'] ∨ stem = ['*', '*']

def HoldsInvalid (list : List Char) : Prop :=
  ∃ member ∈ list.splitOn ',', member = [] ∨ '.' ∈ member

def HoldsReserved (stem : List Char) : Prop :=
  ∃ name, nameText? stem = some name ∧ ∃ c ∈ reserved, c ∈ name

namespace Reason

/-- What each reason says about a piece in front of the pieces `later`. -/
inductive Applies (text : List Char) (later : List String) : Reason → Prop where
  | unbalancedBraces (hNone : ¬ (text.count '{' = 0 ∧ text.count '}' = 0))
    (hOne : ¬ (text.count '{' = 1 ∧ text.count '}' = 1)) : Applies text later unbalancedBraces
  | misplacedUnion (hOne : text.count '{' = 1 ∧ text.count '}' = 1)
    (h : ¬ ∃ stem list, IsUnion stem list text) : Applies text later misplacedUnion
  | emptyStem {list : List Char} (h : IsUnion [] list text) : Applies text later emptyStem
  | invalidExtension {stem list : List Char} (h : IsUnion stem list text) (hInvalid : HoldsInvalid list) :
    Applies text later invalidExtension
  | missingName {stem : List Char} (h : HasStem stem text) (hBare : IsBareMark stem) :
    Applies text later missingName
  | reservedName {stem : List Char} (h : HasStem stem text) (hReserved : HoldsReserved stem) :
    Applies text later reservedName
  | restWithUnion {name : String} {list : List Char} (hName : IsName name)
    (h : IsUnion ('*' :: '*' :: name.toList) list text) : Applies text later restWithUnion
  | restNotLast {name : String} (hName : IsName name) (h : text = '*' :: '*' :: name.toList)
    (hLater : later ≠ []) : Applies text later restNotLast

def inOrder : List Reason :=
  [unbalancedBraces, misplacedUnion, emptyStem, invalidExtension, missingName, reservedName, restWithUnion,
    restNotLast]

/-- The reason is the first one in order that applies. -/
def Decides (text : List Char) (later : List String) (reason : Reason) : Prop :=
  ∃ before after, inOrder = before ++ reason :: after ∧ reason.Applies text later ∧
    ∀ earlier ∈ before, ¬ earlier.Applies text later

theorem Decides.unique {text : List Char} {later : List String} {reason other : Reason}
    (h : reason.Decides text later) (hOther : other.Decides text later) : reason = other := by
  classical
  have hFind : ∀ {decisive : Reason}, decisive.Decides text later →
      inOrder.find? (fun reason => reason.Applies text later) = some decisive := by
    rintro decisive ⟨before, after, hOrder, hApplies, hBefore⟩
    exact List.find?_eq_some_iff_append.mpr
      ⟨by simpa using hApplies, before, after, hOrder, by simpa using hBefore⟩
  exact Option.some.inj ((hFind h).symm.trans (hFind hOther))

end Reason

/-! ## Stems -/

theorem forall_not_mem_braces_iff {text : List Char} :
    (∀ c ∈ ['{', '}'], c ∉ text) ↔ text.count '{' = 0 ∧ text.count '}' = 0 := by
  simp [List.count_eq_zero]

theorem IsUnion.unique {stem list other otherList text : List Char} (hOne : text.count '{' = 1)
    (h : IsUnion stem list text) (hOther : IsUnion other otherList text) :
    other = stem ∧ otherList = list := by
  have hParts := (unionParts?_eq_some_iff hOne).mpr h
  have hOtherParts := (unionParts?_eq_some_iff hOne).mpr hOther
  exact Prod.mk.inj (Option.some.inj (hOtherParts.symm.trans hParts))

theorem IsUnion.brace_mem {stem list text : List Char} (h : IsUnion stem list text) : '{' ∈ text := by
  rw [h]
  simp

theorem hasStem_iff_of_no_brace {stem text : List Char} (hNone : ∀ c ∈ ['{', '}'], c ∉ text) :
    HasStem stem text ↔ stem = text := by
  constructor
  · rintro (⟨_, hEq⟩ | ⟨list, hUnion⟩)
    · exact hEq
    · exact absurd hUnion.brace_mem (hNone '{' (by simp))
  · exact fun hEq => .inl ⟨hNone, hEq⟩

theorem hasStem_iff_of_isUnion {stem list other text : List Char} (hOne : text.count '{' = 1)
    (h : IsUnion stem list text) : HasStem other text ↔ other = stem := by
  constructor
  · rintro (⟨hNone, _⟩ | ⟨otherList, hOther⟩)
    · exact absurd h.brace_mem (hNone '{' (by simp))
    · exact (h.unique hOne hOther).1
  · rintro rfl
    exact .inr ⟨list, h⟩

theorem any_invalid_iff {list : List Char} :
    (list.splitOn ',').any (fun member => member.isEmpty || member.contains '.') = true ↔
      HoldsInvalid list := by
  simp [HoldsInvalid]

theorem nameText?_eq_some_nil_iff {stem : List Char} : nameText? stem = some [] ↔ IsBareMark stem := by
  unfold nameText? IsBareMark
  split <;> simp_all

theorem HoldsReserved.not_isBareMark {stem : List Char} (h : HoldsReserved stem) : ¬ IsBareMark stem := by
  obtain ⟨name, hName, c, _, hMem⟩ := h
  intro hBare
  rw [nameText?_eq_some_nil_iff.mpr hBare] at hName
  cases hName
  cases hMem

theorem readName_eq_error_iff {text : List Char} {reason : Reason} :
    readName text = .error reason ↔ (reason = .missingName ∧ text = []) ∨
      (reason = .reservedName ∧ ∃ c ∈ reserved, c ∈ text) := by
  have hAny : text.any (reserved.contains ·) = true ↔ ∃ c ∈ reserved, c ∈ text := by
    simp only [List.any_eq_true, List.contains_iff_mem, and_comm]
  unfold readName
  split
  · rename_i hEmpty
    simp [hEmpty, eq_comm]
  · rename_i hFull
    split
    · rename_i hReserved
      simp [hFull, hAny.mp hReserved, eq_comm]
    · rename_i hFree
      simp [hFull, mt hAny.mpr hFree]

theorem readBase_cases (text : List Char) :
    (nameText? text = none ∧ ∃ base, readBase text = .ok base) ∨
      ∃ name read, nameText? text = some name ∧ readBase text = (readName name).map read := by
  fun_cases nameText? text with
  | case1 name => exact .inr ⟨name, .rest, rfl, rfl⟩
  | case2 name hStar => exact .inr ⟨name, fun name => .plain (.wildcard name), rfl, readBase.eq_2 name hStar⟩
  | case3 name => exact .inr ⟨name, fun name => .plain (.param name), rfl, rfl⟩
  | case4 text hRest hStar hColon => exact .inl ⟨rfl, _, readBase.eq_4 text hRest hStar hColon⟩

theorem readBase_eq_error_iff {text : List Char} {reason : Reason} :
    readBase text = .error reason ↔ (reason = .missingName ∧ IsBareMark text) ∨
      (reason = .reservedName ∧ HoldsReserved text) := by
  rw [← nameText?_eq_some_nil_iff, HoldsReserved]
  rcases readBase_cases text with ⟨hName, base, hRead⟩ | ⟨name, read, hName, hRead⟩
  · simp [hName, hRead]
  · simp [hName, hRead, map_eq_error_iff, readName_eq_error_iff]

theorem not_isBareMark_of_readBase {text : List Char} {base : Base} (h : readBase text = .ok base) :
    ¬ IsBareMark text ∧ ¬ HoldsReserved text := by
  have hPlain : ∀ reason, readBase text ≠ .error reason := fun reason hError => by cases h.symm.trans hError
  exact ⟨fun hBare => hPlain _ (readBase_eq_error_iff.mpr (.inl ⟨rfl, hBare⟩)),
    fun hReserved => hPlain _ (readBase_eq_error_iff.mpr (.inr ⟨rfl, hReserved⟩))⟩

theorem readBase_eq_ok_rest_iff {text : List Char} {name : String} (hSlash : '/' ∉ text) :
    readBase text = .ok (.rest name) ↔ IsName name ∧ text = '*' :: '*' :: name.toList := by
  constructor
  · intro h
    rw [readBase.eq_def] at h
    split at h
    · obtain ⟨_, hName, rfl, hEq⟩ := isName_of_map_readName (by simp_all) h
      cases hEq
      exact ⟨hName, rfl⟩
    all_goals simp [map_eq_ok_iff] at h
  · rintro ⟨hName, rfl⟩
    rw [readBase, hName.readName_eq_ok]
    rfl

/-! ## The reason that decides -/

namespace Reason

variable {text stem list : List Char} {later : List String}

/-- What the reasons say about a text without braces. -/
def InPlain (text : List Char) (later : List String) : Reason → Prop
  | missingName => IsBareMark text
  | reservedName => HoldsReserved text
  | restNotLast => (∃ name, IsName name ∧ text = '*' :: '*' :: name.toList) ∧ later ≠ []
  | _ => False

/-- What the reasons say about the union of `list` over `stem`. -/
def InUnion (stem list : List Char) : Reason → Prop
  | emptyStem => stem = []
  | invalidExtension => HoldsInvalid list
  | missingName => IsBareMark stem
  | reservedName => HoldsReserved stem
  | restWithUnion => ∃ name, IsName name ∧ stem = '*' :: '*' :: name.toList
  | _ => False

theorem applies_iff_inPlain (hNone : ∀ c ∈ ['{', '}'], c ∉ text) (reason : Reason) :
    reason.Applies text later ↔ reason.InPlain text later := by
  -- a union has braces, so no reason that speaks of one is left
  have hUnion : ∀ {stem list : List Char}, ¬ IsUnion stem list text :=
    fun h => hNone '{' (by simp) h.brace_mem
  have hStem : ∀ {stem : List Char}, HasStem stem text ↔ stem = text := hasStem_iff_of_no_brace hNone
  rw [forall_not_mem_braces_iff] at hNone
  constructor
  · intro h
    cases h with
    | unbalancedBraces hSome _ => exact hSome hNone
    | misplacedUnion hOne _ => omega
    | emptyStem h => exact hUnion h
    | invalidExtension h _ => exact hUnion h
    | missingName h hBare => exact hStem.mp h ▸ hBare
    | reservedName h hReserved => exact hStem.mp h ▸ hReserved
    | restWithUnion _ h => exact hUnion h
    | restNotLast hName h hLater => exact ⟨⟨_, hName, h⟩, hLater⟩
  · cases reason with
    | missingName => exact .missingName (hStem.mpr rfl)
    | reservedName => exact .reservedName (hStem.mpr rfl)
    | restNotLast => exact fun ⟨⟨_, hName, h⟩, hLater⟩ => .restNotLast hName h hLater
    | _ => exact False.elim

theorem applies_iff_inUnion (hOne : text.count '{' = 1 ∧ text.count '}' = 1) (h : IsUnion stem list text)
    (reason : Reason) : reason.Applies text later ↔ reason.InUnion stem list := by
  have hStem : ∀ {other : List Char}, HasStem other text ↔ other = stem := hasStem_iff_of_isUnion hOne.1 h
  constructor
  · intro hApplies
    cases hApplies with
    | unbalancedBraces _ hNot => exact hNot hOne
    | misplacedUnion _ hNot => exact hNot ⟨stem, list, h⟩
    | emptyStem hOther => exact (h.unique hOne.1 hOther).1.symm
    | invalidExtension hOther hInvalid => exact (h.unique hOne.1 hOther).2 ▸ hInvalid
    | missingName hOther hBare => exact hStem.mp hOther ▸ hBare
    | reservedName hOther hReserved => exact hStem.mp hOther ▸ hReserved
    | restWithUnion hName hOther => exact ⟨_, hName, (h.unique hOne.1 hOther).1.symm⟩
    | restNotLast hName hRest _ =>
      have hBrace := h.brace_mem
      rw [hRest] at hBrace
      exact absurd hBrace (by simpa using IsName.not_mem_of_brace hName (by simp))
  · cases reason with
    | emptyStem => exact fun hEmpty => .emptyStem (hEmpty ▸ h)
    | invalidExtension => exact .invalidExtension h
    | missingName => exact .missingName (hStem.mpr rfl)
    | reservedName => exact .reservedName (hStem.mpr rfl)
    | restWithUnion => exact fun ⟨_, hName, hRest⟩ => .restWithUnion hName (hRest ▸ h)
    | _ => exact False.elim

/-- Only after the braces and the extensions the name of a stem is considered. -/
theorem decides_of_stem (hBare : missingName.Applies text later ↔ IsBareMark stem)
    (hReserved : reservedName.Applies text later ↔ HoldsReserved stem)
    (hBefore : ∀ earlier ∈ [unbalancedBraces, misplacedUnion, emptyStem, invalidExtension],
      ¬ earlier.Applies text later)
    {reason : Reason} (h : readBase stem = .error reason) : reason.Decides text later := by
  rcases readBase_eq_error_iff.mp h with ⟨rfl, hStem⟩ | ⟨rfl, hStem⟩
  · exact ⟨_, _, rfl, hBare.mpr hStem, hBefore⟩
  · refine ⟨[unbalancedBraces, misplacedUnion, emptyStem, invalidExtension] ++ [missingName], _, rfl,
      hReserved.mpr hStem, List.forall_mem_append.mpr ⟨hBefore, ?_⟩⟩
    exact List.forall_mem_singleton.mpr (mt hBare.mp hStem.not_isBareMark)

theorem decides_of_readBase (hNone : ∀ c ∈ ['{', '}'], c ∉ text) {reason : Reason}
    (h : readBase text = .error reason) : reason.Decides text later := by
  have hIff : ∀ reason : Reason, reason.Applies text later ↔ reason.InPlain text later :=
    applies_iff_inPlain hNone
  exact decides_of_stem (hIff missingName) (hIff reservedName) (by simp [hIff, InPlain]) h

theorem decides_misplacedUnion (hOne : text.count '{' = 1 ∧ text.count '}' = 1)
    (h : ¬ ∃ stem list, IsUnion stem list text) : misplacedUnion.Decides text later := by
  refine ⟨[unbalancedBraces], _, rfl, .misplacedUnion hOne h, List.forall_mem_singleton.mpr ?_⟩
  intro hUnbalanced
  cases hUnbalanced with
  | unbalancedBraces _ hNotOne => exact hNotOne hOne

theorem decides_of_isUnion (hSlash : '/' ∉ text) (hOne : text.count '{' = 1 ∧ text.count '}' = 1)
    (hUnion : IsUnion stem list text) {reason : Reason} (h : readUnion text = .error reason) :
    reason.Decides text later := by
  have hIff : ∀ reason : Reason, reason.Applies text later ↔ reason.InUnion stem list :=
    applies_iff_inUnion hOne hUnion
  have hStemSlash : '/' ∉ stem := fun hMem => hSlash (hUnion ▸ List.mem_append_left _ hMem)
  rw [readUnion, (unionParts?_eq_some_iff hOne.1).mpr hUnion] at h
  simp only at h
  split at h
  · rename_i hEmpty
    cases h
    exact ⟨[unbalancedBraces, misplacedUnion], _, rfl, (hIff _).mpr hEmpty, by simp [hIff, InUnion]⟩
  rename_i hFull
  split at h
  · rename_i hInvalid
    cases h
    exact ⟨[unbalancedBraces, misplacedUnion, emptyStem], _, rfl, (hIff _).mpr (any_invalid_iff.mp hInvalid),
      by simp [hIff, InUnion, hFull]⟩
  rename_i hNotAny
  have hValid : ¬ HoldsInvalid list := mt any_invalid_iff.mpr hNotAny
  split at h
  · rename_i hStem
    cases h
    exact decides_of_stem (hIff missingName) (hIff reservedName) (by simp [hIff, InUnion, hFull, hValid]) hStem
  · cases h
  · rename_i name hStem
    cases h
    obtain ⟨hNotBare, hFree⟩ := not_isBareMark_of_readBase hStem
    have hNamed := (readBase_eq_ok_rest_iff hStemSlash).mp hStem
    refine ⟨[unbalancedBraces, misplacedUnion, emptyStem, invalidExtension, missingName, reservedName], _, rfl,
      (hIff _).mpr ⟨name, hNamed⟩, ?_⟩
    simp [hIff, InUnion, hFull, hValid, hNotBare, hFree]

theorem decides_of_readUnion (hSlash : '/' ∉ text) (hOne : text.count '{' = 1 ∧ text.count '}' = 1)
    {reason : Reason} (h : readUnion text = .error reason) : reason.Decides text later := by
  by_cases hUnion : ∃ stem list, IsUnion stem list text
  · obtain ⟨stem, list, hUnion⟩ := hUnion
    exact decides_of_isUnion hSlash hOne hUnion h
  · have hParts : unionParts? text = none := by
      refine Option.eq_none_iff_forall_not_mem.mpr ?_
      intro parts hParts
      exact hUnion ⟨parts.1, parts.2, (unionParts?_eq_some_iff hOne.1).mp hParts⟩
    rw [readUnion, hParts] at h
    cases h
    exact decides_misplacedUnion hOne hUnion

theorem applies_of_readBase (hSlash : '/' ∉ text) (hNone : ∀ c ∈ ['{', '}'], c ∉ text) {base : Base}
    (h : readBase text = .ok base) {reason : Reason} (hApplies : reason.Applies text later) :
    reason = .restNotLast ∧ base.segment.IsRest ∧ later ≠ [] := by
  obtain ⟨hNotBare, hFree⟩ := not_isBareMark_of_readBase h
  rw [applies_iff_inPlain hNone] at hApplies
  cases reason with
  | missingName => exact absurd hApplies hNotBare
  | reservedName => exact absurd hApplies hFree
  | restNotLast =>
    obtain ⟨⟨name, hName⟩, hLater⟩ := hApplies
    have hRest := (readBase_eq_ok_rest_iff hSlash).mpr hName
    cases h.symm.trans hRest
    exact ⟨rfl, Segment.isRest_rest name, hLater⟩
  | _ => exact hApplies.elim

theorem not_applies_of_readUnion (hSlash : '/' ∉ text) (hOne : text.count '{' = 1 ∧ text.count '}' = 1)
    {segment : Segment} (h : readUnion text = .ok segment) (reason : Reason) : ¬ reason.Applies text later := by
  obtain ⟨stemText, list, stem, hParts, hFull, hMembers, hStem, _⟩ := readUnion_eq_ok h
  have hUnion : IsUnion stemText list text := (unionParts?_eq_some_iff hOne.1).mp hParts
  have hStemSlash : '/' ∉ stemText := fun hMem => hSlash (hUnion ▸ List.mem_append_left _ hMem)
  obtain ⟨hNotBare, hFree⟩ := not_isBareMark_of_readBase hStem
  rw [applies_iff_inUnion hOne hUnion]
  intro hApplies
  cases reason with
  | emptyStem => exact hFull hApplies
  | invalidExtension =>
    obtain ⟨member, hMember, hEmpty | hDot⟩ := hApplies
    · exact (hMembers member hMember).1 hEmpty
    · exact (hMembers member hMember).2 hDot
  | missingName => exact hNotBare hApplies
  | reservedName => exact hFree hApplies
  | restWithUnion =>
    obtain ⟨name, hName⟩ := hApplies
    cases hStem.symm.trans ((readBase_eq_ok_rest_iff hStemSlash).mpr hName)
  | _ => exact hApplies

end Reason

end Routing
