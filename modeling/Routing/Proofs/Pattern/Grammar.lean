import Routing.Pattern.Compile

/-! # The grammar of route patterns

A piece spells a segment just when the segment is well formed and prints as that piece. So a pattern has
the segments of a well-formed list just when its pieces are their printed forms, and no two lists are
spelled alike.
-/

namespace Routing

open Text

theorem mem_braces_iff {c : Char} : c ∈ ['{', '}'] ↔ c = '{' ∨ c = '}' := by
  simp

theorem ne_marks_of_brace {c : Char} (hc : c ∈ ['{', '}']) : c ≠ ':' ∧ c ≠ '*' := by
  rcases mem_braces_iff.mp hc with rfl | rfl <;> decide

theorem IsName.readName_eq_ok {name : String} (h : IsName name) : readName name.toList = .ok name :=
  readName_eq_ok_iff.mpr ⟨rfl, by simpa using h.1.1, h.2⟩

theorem isName_of_map_readName {text : List Char} {read : String → Base} {base : Base}
    (hSlash : '/' ∉ text) (h : (readName text).map read = .ok base) :
    ∃ name, IsName name ∧ name.toList = text ∧ base = read name := by
  obtain ⟨name, hName, rfl⟩ := map_eq_ok_iff.mp h
  obtain ⟨rfl, hFull, hFree⟩ := readName_eq_ok_iff.mp hName
  exact ⟨name, ⟨⟨by simpa using hFull, hSlash⟩, hFree⟩, rfl, rfl⟩

/-! ## Pieces without braces -/

theorem readBase_of_head?_ne {text : List Char} (h : ∀ c ∈ [':', '*'], text.head? ≠ some c) :
    readBase text = .ok (.plain (.literal (String.ofList text))) := by
  unfold readBase
  split
  · exact absurd rfl (h '*' (by simp))
  · exact absurd rfl (h '*' (by simp))
  · exact absurd rfl (h ':' (by simp))
  · rfl

theorem readBase_star {name : List Char} (h : '*' ∉ name) :
    readBase ('*' :: name) = (readName name).map fun name => .plain (.wildcard name) := by
  cases name with
  | nil => rfl
  | cons c name =>
    have hc : c ≠ '*' := fun hEq => h (by simp [hEq])
    unfold readBase
    split <;> simp_all

theorem readBase_print {stem : Stem} (h : stem.WellFormed) :
    readBase stem.print.toList = .ok (.plain stem) := by
  cases stem with
  | literal text =>
    rw [Stem.print, readBase_of_head?_ne h.2.2, String.ofList_toList]
  | param name =>
    have hName : readName name.toList = .ok name := h.readName_eq_ok
    simp [Stem.print, readBase, hName, Except.map]
  | wildcard name =>
    have hName : readName name.toList = .ok name := h.readName_eq_ok
    have hStar : '*' ∉ name.toList := h.2 '*' (by simp [reserved])
    simp [Stem.print, readBase_star hStar, hName, Except.map]

theorem readBase_print_rest {name : String} (h : IsName name) :
    readBase (Segment.rest name).print.toList = .ok (.rest name) := by
  simp [Segment.print, readBase, h.readName_eq_ok, Except.map]

/-- What is read from a piece without braces is well formed and prints as the piece. -/
theorem wellFormed_of_readBase {text : List Char} {base : Base} (hFull : text ≠ [])
    (hSlash : '/' ∉ text) (hBraces : ∀ c ∈ ['{', '}'], c ∉ text) (h : readBase text = .ok base) :
    base.segment.WellFormed ∧ base.segment.print.toList = text := by
  rw [readBase.eq_def] at h
  split at h
  · obtain ⟨name, hName, rfl, rfl⟩ := isName_of_map_readName (by simp_all) h
    exact ⟨hName, by simp [Base.segment, Segment.print]⟩
  · obtain ⟨name, hName, rfl, rfl⟩ := isName_of_map_readName (by simp_all) h
    exact ⟨hName, by simp [Base.segment, Segment.print, Stem.print]⟩
  · obtain ⟨name, hName, rfl, rfl⟩ := isName_of_map_readName (by simp_all) h
    exact ⟨hName, by simp [Base.segment, Segment.print, Stem.print]⟩
  · rename_i hRest hStar hColon
    cases h
    refine ⟨⟨Path.isPiece_ofList_iff.mpr ⟨hFull, hSlash⟩, by simpa using hBraces, ?_⟩, String.toList_ofList⟩
    intro c hc hHead
    rw [String.toList_ofList] at hHead
    obtain ⟨tail, rfl⟩ := List.head?_eq_some_iff.mp hHead
    simp only [List.mem_cons, List.not_mem_nil, or_false] at hc
    rcases hc with rfl | rfl
    · exact hColon tail rfl
    · exact hStar tail rfl

/-! ## Extension unions -/

theorem toList_print_union (stem : Stem) (extensions : List String) :
    (Segment.union stem extensions).print.toList =
      stem.print.toList ++ '.' :: '{' :: ([','].intercalate (extensions.map String.toList) ++ ['}']) := by
  simp [Segment.print, String.toList_intercalate]

theorem Stem.WellFormed.isPiece_print {stem : Stem} (h : stem.WellFormed) : Path.IsPiece stem.print := by
  cases stem with
  | literal text => exact h.1
  | param name => exact ⟨by simp [Stem.print], by simpa [Stem.print] using h.1.2⟩
  | wildcard name => exact ⟨by simp [Stem.print], by simpa [Stem.print] using h.1.2⟩

theorem IsName.not_mem_of_brace {name : String} (h : IsName name) {c : Char} (hc : c ∈ ['{', '}']) :
    c ∉ name.toList := by
  rcases mem_braces_iff.mp hc with rfl | rfl
  · exact h.2 '{' (by simp [reserved])
  · exact h.2 '}' (by simp [reserved])

theorem Stem.WellFormed.not_mem_print {stem : Stem} (h : stem.WellFormed) {c : Char}
    (hc : c ∈ ['{', '}']) : c ∉ stem.print.toList := by
  cases stem with
  | literal text => exact h.2.1 c hc
  | param name => simpa [Stem.print, (ne_marks_of_brace hc).1] using IsName.not_mem_of_brace h hc
  | wildcard name => simpa [Stem.print, (ne_marks_of_brace hc).2] using IsName.not_mem_of_brace h hc

theorem not_mem_intercalate_extensions {extensions : List String} (h : ∀ text ∈ extensions, IsExtension text)
    {c : Char} (hc : c ∈ ['{', '}']) : c ∉ [','].intercalate (extensions.map String.toList) := by
  intro hMem
  rcases eq_or_mem_of_mem_intercalate hMem with rfl | ⟨piece, hPiece, hMem⟩
  · simp at hc
  · obtain ⟨text, hText, rfl⟩ := List.mem_map.mp hPiece
    have hExcluded : c ∈ ['.', ',', '{', '}'] := List.mem_cons_of_mem _ (List.mem_cons_of_mem _ hc)
    exact (h text hText).2 c hExcluded hMem

/-- Besides its own two braces a union has those of its stem and of its list. -/
theorem count_brace_union (stem list : List Char) {c : Char} (hc : c ∈ ['{', '}']) :
    (stem ++ '.' :: '{' :: (list ++ ['}'])).count c = stem.count c + list.count c + 1 := by
  rw [List.count_append, List.count_cons, List.count_cons, List.count_append]
  rcases mem_braces_iff.mp hc with rfl | rfl
  · simp [Nat.add_assoc]
  · simp [Nat.add_assoc]

theorem count_brace_print_union {stem : Stem} {extensions : List String}
    (h : (Segment.union stem extensions).WellFormed) {c : Char} (hc : c ∈ ['{', '}']) :
    (Segment.union stem extensions).print.toList.count c = 1 := by
  have hStem := List.count_eq_zero.mpr (h.1.not_mem_print hc)
  have hList := List.count_eq_zero.mpr (not_mem_intercalate_extensions h.2.2 hc)
  rw [toList_print_union, count_brace_union _ _ hc, hStem, hList]

theorem readUnion_print {stem : Stem} {extensions : List String}
    (h : (Segment.union stem extensions).WellFormed) :
    readUnion (Segment.union stem extensions).print.toList = .ok (.union stem extensions) := by
  obtain ⟨hStem, hSome, hExtensions⟩ := h
  have hParts := (unionParts?_eq_some_iff (count_brace_print_union ⟨hStem, hSome, hExtensions⟩ (by simp))).mpr
    (toList_print_union stem extensions)
  have hFull : stem.print.toList ≠ [] := by simpa using hStem.isPiece_print.1
  have hSplit : ([','].intercalate (extensions.map String.toList)).splitOn ',' =
      extensions.map String.toList := by
    apply List.splitOn_intercalate
    · intro piece hPiece
      obtain ⟨text, hText, rfl⟩ := List.mem_map.mp hPiece
      exact (hExtensions text hText).2 ',' (by simp)
    · simpa using hSome
  have hValid : (extensions.map String.toList).any (fun extension =>
      extension.isEmpty || extension.contains '.') = false := by
    rw [List.any_eq_false]
    intro piece hPiece
    obtain ⟨text, hText, rfl⟩ := List.mem_map.mp hPiece
    have hText := hExtensions text hText
    simpa using ⟨hText.1.1, hText.2 '.' (by simp)⟩
  rw [readUnion, hParts]
  simp only [if_neg hFull, hSplit, hValid, Bool.false_eq_true, if_false, readBase_print hStem, List.map_map]
  simp

theorem readUnion_eq_ok {text : List Char} {segment : Segment} (h : readUnion text = .ok segment) :
    ∃ stemText list stem, unionParts? text = some (stemText, list) ∧ stemText ≠ [] ∧
      (∀ piece ∈ list.splitOn ',', piece ≠ [] ∧ '.' ∉ piece) ∧ readBase stemText = .ok (.plain stem) ∧
      segment = .union stem ((list.splitOn ',').map String.ofList) := by
  rw [readUnion] at h
  split at h
  · cases h
  · rename_i stemText list hParts
    simp only at h
    split at h
    · cases h
    · rename_i hFull
      split at h
      · cases h
      · rename_i hValid
        have hPieces : ∀ piece ∈ list.splitOn ',', piece ≠ [] ∧ '.' ∉ piece := by
          intro piece hPiece
          have := List.any_eq_false.mp (Bool.eq_false_iff.mpr hValid) piece hPiece
          simpa using this
        split at h
        · cases h
        · rename_i stem hStem
          cases h
          exact ⟨stemText, list, stem, hParts, hFull, hPieces, hStem, rfl⟩
        · cases h

theorem isExtension_of_mem_splitOn {list piece : List Char} (hSlash : '/' ∉ list)
    (hBraces : ∀ c ∈ ['{', '}'], c ∉ list) (hPiece : piece ∈ list.splitOn ',') (hFull : piece ≠ [])
    (hDot : '.' ∉ piece) : IsExtension (String.ofList piece) := by
  have hSub : ∀ c, c ∉ list → c ∉ piece := fun c hc hMem => hc (mem_of_mem_splitOn hPiece hMem)
  refine ⟨Path.isPiece_ofList_iff.mpr ⟨hFull, hSub '/' hSlash⟩, ?_⟩
  intro c hc
  rw [String.toList_ofList]
  rcases List.mem_cons.mp hc with rfl | hc
  · exact hDot
  rcases List.mem_cons.mp hc with rfl | hc
  · exact not_mem_of_mem_splitOn hPiece
  exact hSub c (hBraces c hc)

/-- What is read from a piece with one brace of either kind is well formed and prints as the piece. -/
theorem wellFormed_of_readUnion {text : List Char} {segment : Segment} (hSlash : '/' ∉ text)
    (hCount : ∀ c ∈ ['{', '}'], text.count c = 1) (h : readUnion text = .ok segment) :
    segment.WellFormed ∧ segment.print.toList = text := by
  obtain ⟨stemText, list, stem, hParts, hFull, hPieces, hStem, rfl⟩ := readUnion_eq_ok h
  obtain rfl := (unionParts?_eq_some_iff (hCount '{' (by simp))).mp hParts
  have hBraces : ∀ c ∈ ['{', '}'], c ∉ stemText ∧ c ∉ list := by
    intro c hc
    have hOne := hCount c hc
    rw [count_brace_union stemText list hc] at hOne
    exact ⟨List.count_eq_zero.mp (by omega), List.count_eq_zero.mp (by omega)⟩
  simp only [List.mem_append, List.mem_cons, not_or] at hSlash
  obtain ⟨hWellFormed, rfl⟩ := wellFormed_of_readBase hFull hSlash.1 (fun c hc => (hBraces c hc).1) hStem
  refine ⟨⟨hWellFormed, by simp, ?_⟩, ?_⟩
  · intro text hText
    obtain ⟨piece, hPiece, rfl⟩ := List.mem_map.mp hText
    exact isExtension_of_mem_splitOn hSlash.2.2.2.1 (fun c hc => (hBraces c hc).2) hPiece
      (hPieces piece hPiece).1 (hPieces piece hPiece).2
  · have hOfList : String.toList ∘ String.ofList = id := funext fun cs => String.toList_ofList
    rw [toList_print_union, List.map_map, hOfList, List.map_id, List.intercalate_splitOn]
    rfl

/-! ## Pieces and lists of pieces -/

theorem Segment.parse_of_no_brace {piece : String} (h : ∀ c ∈ ['{', '}'], c ∉ piece.toList) :
    Segment.parse piece = (readBase piece.toList).map Base.segment := by
  have hOpen := List.count_eq_zero.mpr (h '{' (by simp))
  have hClose := List.count_eq_zero.mpr (h '}' (by simp))
  rw [Segment.parse, if_pos ⟨hOpen, hClose⟩]

theorem Segment.parse_of_one_brace_each {piece : String} (h : ∀ c ∈ ['{', '}'], piece.toList.count c = 1) :
    Segment.parse piece = readUnion piece.toList := by
  have hOpen := h '{' (by simp)
  have hClose := h '}' (by simp)
  rw [Segment.parse, if_neg (by omega), if_pos ⟨hOpen, hClose⟩]

theorem Segment.parse_print {segment : Segment} (h : segment.WellFormed) :
    Segment.parse segment.print = .ok segment := by
  cases segment with
  | plain stem =>
    have hBraces : ∀ c ∈ ['{', '}'], c ∉ (Segment.plain stem).print.toList :=
      fun c hc => Stem.WellFormed.not_mem_print h hc
    rw [Segment.parse_of_no_brace hBraces, Segment.print, readBase_print h]
    rfl
  | union stem extensions =>
    rw [Segment.parse_of_one_brace_each fun c hc => count_brace_print_union h hc]
    exact readUnion_print h
  | rest name =>
    have hBraces : ∀ c ∈ ['{', '}'], c ∉ (Segment.rest name).print.toList := by
      intro c hc
      simpa [Segment.print, (ne_marks_of_brace hc).2] using IsName.not_mem_of_brace h hc
    rw [Segment.parse_of_no_brace hBraces, readBase_print_rest h]
    rfl

theorem Segment.wellFormed_of_parse {piece : String} {segment : Segment} (hPiece : Path.IsPiece piece)
    (h : Segment.parse piece = .ok segment) : segment.WellFormed ∧ segment.print = piece := by
  suffices segment.WellFormed ∧ segment.print.toList = piece.toList from
    this.imp_right String.toList_inj.mp
  rw [Segment.parse] at h
  split at h
  · rename_i hCount
    obtain ⟨base, hBase, rfl⟩ := map_eq_ok_iff.mp h
    refine wellFormed_of_readBase (by simpa using hPiece.1) hPiece.2 ?_ hBase
    intro c hc
    rcases mem_braces_iff.mp hc with rfl | rfl
    · exact List.count_eq_zero.mp hCount.1
    · exact List.count_eq_zero.mp hCount.2
  · split at h
    · rename_i hCount
      refine wellFormed_of_readUnion hPiece.2 ?_ h
      intro c hc
      rcases mem_braces_iff.mp hc with rfl | rfl
      · exact hCount.1
      · exact hCount.2
    · cases h

theorem Segment.parse_eq_ok_iff {piece : String} {segment : Segment} (hPiece : Path.IsPiece piece) :
    Segment.parse piece = .ok segment ↔ segment.WellFormed ∧ segment.print = piece := by
  constructor
  · exact Segment.wellFormed_of_parse hPiece
  · rintro ⟨hSegment, rfl⟩
    exact Segment.parse_print hSegment

theorem readPieces_cons_eq_ok_iff {piece : String} {pieces : List String} {segments : List Segment} :
    readPieces (piece :: pieces) = .ok segments ↔ ∃ segment tail, segments = segment :: tail ∧
      Segment.parse piece = .ok segment ∧ (segment.IsRest → pieces = []) ∧ readPieces pieces = .ok tail := by
  rw [readPieces]
  constructor
  · intro h
    split at h
    · cases h
    · rename_i segment hSegment
      split at h
      · cases h
      · rename_i hLast
        obtain ⟨tail, hTail, rfl⟩ := map_eq_ok_iff.mp h
        exact ⟨segment, tail, rfl, hSegment, fun hRest => by simpa [hRest] using hLast, hTail⟩
  · rintro ⟨segment, tail, rfl, hSegment, hLast, hTail⟩
    have hNot : ¬ (segment.IsRest ∧ pieces ≠ []) := fun h => h.2 (hLast h.1)
    simp only [hSegment, if_neg hNot, hTail, Except.map]

theorem readPieces_eq_ok_iff {pieces : List String} {segments : List Segment}
    (h : ∀ piece ∈ pieces, Path.IsPiece piece) :
    readPieces pieces = .ok segments ↔ WellFormed segments ∧ segments.map Segment.print = pieces := by
  induction pieces generalizing segments with
  | nil =>
    rw [List.map_eq_nil_iff]
    constructor
    · intro hRead
      cases hRead
      exact ⟨trivial, rfl⟩
    · rintro ⟨_, rfl⟩
      rfl
  | cons piece pieces ih =>
    have hPieces : ∀ other ∈ pieces, Path.IsPiece other :=
      fun other hOther => h other (List.mem_cons_of_mem piece hOther)
    rw [readPieces_cons_eq_ok_iff]
    constructor
    · rintro ⟨segment, tail, rfl, hParse, hLast, hRead⟩
      obtain ⟨hTail, rfl⟩ := (ih hPieces).mp hRead
      obtain ⟨hSegment, rfl⟩ := (Segment.parse_eq_ok_iff (h piece List.mem_cons_self)).mp hParse
      exact ⟨⟨hSegment, fun hRest => List.map_eq_nil_iff.mp (hLast hRest), hTail⟩, rfl⟩
    · rintro ⟨hSegments, hPrint⟩
      cases segments with
      | nil => cases hPrint
      | cons segment tail =>
        obtain ⟨hSegment, hLast, hTail⟩ := hSegments
        obtain ⟨rfl, rfl⟩ := List.cons.inj hPrint
        exact ⟨segment, tail, rfl, Segment.parse_print hSegment,
          fun hRest => List.map_eq_nil_iff.mpr (hLast hRest), (ih hPieces).mpr ⟨hTail, rfl⟩⟩

theorem Segment.WellFormed.isPiece_print {segment : Segment} (h : segment.WellFormed) :
    Path.IsPiece segment.print := by
  cases segment with
  | plain stem => exact Stem.WellFormed.isPiece_print h
  | union stem extensions =>
    refine ⟨by simp [Segment.print], ?_⟩
    have hList : '/' ∉ [','].intercalate (extensions.map String.toList) := by
      intro hMem
      rcases eq_or_mem_of_mem_intercalate hMem with hEq | ⟨piece, hPiece, hMem⟩
      · cases hEq
      · obtain ⟨text, hText, rfl⟩ := List.mem_map.mp hPiece
        exact (h.2.2 text hText).1.2 hMem
    rw [toList_print_union]
    simpa using ⟨(Stem.WellFormed.isPiece_print h.1).2, hList⟩
  | rest name => exact ⟨by simp [Segment.print], by simpa [Segment.print] using h.1.2⟩

theorem WellFormed.of_mem {segments : List Segment} (h : WellFormed segments) {segment : Segment}
    (hMem : segment ∈ segments) : segment.WellFormed := by
  induction segments with
  | nil => cases hMem
  | cons head tail ih =>
    obtain ⟨hHead, _, hTail⟩ := h
    rcases List.mem_cons.mp hMem with rfl | hMem
    · exact hHead
    · exact ih hTail hMem

theorem pieces_join_print {segments : List Segment} (h : WellFormed segments) :
    Path.pieces (Path.join (segments.map Segment.print)) = segments.map Segment.print := by
  refine Path.pieces_join ?_
  intro text hText
  obtain ⟨segment, hSegment, rfl⟩ := List.mem_map.mp hText
  exact (h.of_mem hSegment).isPiece_print

namespace Pattern

theorem print_segments (pattern : Pattern) :
    WellFormed pattern.segments ∧ pattern.segments.map Segment.print = Path.pieces pattern.source :=
  (readPieces_eq_ok_iff fun _ => Path.isPiece_of_mem_pieces).mp pattern.readPieces_source

/-- Every text with the printed forms of a well-formed segment list as its pieces compiles to that list. -/
theorem exists_of_wellFormed {segments : List Segment} (h : WellFormed segments) {text : String}
    (hText : Path.pieces text = segments.map Segment.print) :
    ∃ pattern, compile text = .ok pattern ∧ pattern.segments = segments := by
  have hRead := (readPieces_eq_ok_iff fun _ => Path.isPiece_of_mem_pieces).mpr ⟨h, hText.symm⟩
  exact ⟨⟨text, segments, hRead⟩, compile_eq_ok_iff.mpr rfl, rfl⟩

theorem equivalent_iff (pattern other : Pattern) :
    pattern.Equivalent other ↔ Path.pieces pattern.source = Path.pieces other.source := by
  constructor
  · intro h
    rw [← pattern.print_segments.2, ← other.print_segments.2, h]
  · intro h
    have hRead := pattern.readPieces_source
    rw [h, other.readPieces_source] at hRead
    exact (Except.ok.inj hRead).symm

/-- Compiling accepts exactly the printed forms of well-formed segment lists, and two patterns are
equivalent just when they have the same pieces. -/
theorem compile_accepts_grammar :
    (∀ (source : String) (segments : List Segment),
      (∃ pattern, compile source = .ok pattern ∧ pattern.segments = segments) ↔
        WellFormed segments ∧ segments.map Segment.print = Path.pieces source) ∧
    ∀ (source other : String) (pattern otherPattern : Pattern),
      compile source = .ok pattern → compile other = .ok otherPattern →
        (pattern.Equivalent otherPattern ↔ Path.pieces source = Path.pieces other) := by
  constructor
  · intro source segments
    constructor
    · rintro ⟨pattern, hCompile, rfl⟩
      obtain rfl := compile_eq_ok_iff.mp hCompile
      exact pattern.print_segments
    · intro h
      have hRead := (readPieces_eq_ok_iff fun _ => Path.isPiece_of_mem_pieces).mpr h
      exact ⟨⟨source, segments, hRead⟩, compile_eq_ok_iff.mpr rfl, rfl⟩
  · intro source other pattern otherPattern hPattern hOther
    obtain rfl := compile_eq_ok_iff.mp hPattern
    obtain rfl := compile_eq_ok_iff.mp hOther
    exact pattern.equivalent_iff otherPattern

/-- The list of the three segments is spelled with any slashes; with the last of them in front it is not
spelled at all. -/
theorem compile_accepts_grammar_of_extra_slashes :
    let segments : List Segment :=
      [.plain (.literal "img"), .union (.wildcard "file") ["png", "jpg"], .rest "rest"]
    (WellFormed segments ∧
      ∃ pattern, compile "img//*file.\x7bpng,jpg\x7d/**rest/" = .ok pattern ∧ pattern.segments = segments) ∧
    (∀ source pattern, compile source = .ok pattern →
      pattern.segments ≠ [.rest "rest", .plain (.literal "img")]) ∧
    ∃ pattern same other, compile "/img/*file.\x7bpng,jpg\x7d/**rest" = .ok pattern ∧
      compile "img//*file.\x7bpng,jpg\x7d/**rest/" = .ok same ∧
      compile "/img/*file.\x7bjpg,png\x7d/**rest" = .ok other ∧
      pattern.Equivalent same ∧ ¬ pattern.Equivalent other := by
  intro segments
  have hRead : readPieces (Path.pieces "/img/*file.\x7bpng,jpg\x7d/**rest") = .ok segments := rfl
  have hReadSame : readPieces (Path.pieces "img//*file.\x7bpng,jpg\x7d/**rest/") = .ok segments := rfl
  have hReadOther : readPieces (Path.pieces "/img/*file.\x7bjpg,png\x7d/**rest") =
      .ok [.plain (.literal "img"), .union (.wildcard "file") ["jpg", "png"], .rest "rest"] := rfl
  have hCompile : compile "/img/*file.\x7bpng,jpg\x7d/**rest" = .ok ⟨_, _, hRead⟩ := compile_eq_ok_iff.mpr rfl
  have hSame : compile "img//*file.\x7bpng,jpg\x7d/**rest/" = .ok ⟨_, _, hReadSame⟩ :=
    compile_eq_ok_iff.mpr rfl
  have hOther : compile "/img/*file.\x7bjpg,png\x7d/**rest" = .ok ⟨_, _, hReadOther⟩ :=
    compile_eq_ok_iff.mpr rfl
  obtain ⟨hGrammar, hEquivalent⟩ := compile_accepts_grammar
  obtain ⟨hWellFormed, hPrint⟩ := (hGrammar _ segments).mp ⟨_, hCompile, rfl⟩
  refine ⟨⟨hWellFormed, (hGrammar _ segments).mpr ⟨hWellFormed, hPrint.trans (by decide)⟩⟩, ?_, ?_⟩
  · intro source pattern hPattern hSegments
    obtain ⟨⟨_, hLast, _⟩, _⟩ := (hGrammar source _).mp ⟨pattern, hPattern, hSegments⟩
    cases hLast (Segment.isRest_rest "rest")
  · exact ⟨_, _, _, hCompile, hSame, hOther, (hEquivalent _ _ _ _ hCompile hSame).mpr (by decide),
      mt (hEquivalent _ _ _ _ hCompile hOther).mp (by decide)⟩

end Pattern

end Routing
