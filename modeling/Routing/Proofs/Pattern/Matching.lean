import Routing.Pattern.Captures
import Routing.Proofs.Pattern.Grammar

/-! # Matching finds the instance of a pattern

A scan cuts the pieces of a path into one stretch for each segment, and the captures are those of the
stretches. For a pattern that compiles the stretches are the pieces of its only instance on that path.
-/

namespace Routing

open Text

def Segment.captures? : Segment → List String → Option Captures
  | .plain stem, [piece] => stem.capture? piece
  | .union stem extensions, [piece] => (unionExtension? stem extensions piece).map .ofFormat
  | .rest name, piece :: pieces => some (.ofParam (.ofRest name (piece :: pieces)))
  | _, _ => none

inductive Reads : List Segment → List (List String) → Captures → Prop where
  | nil : Reads [] [] .empty
  | cons {segment : Segment} {segments : List Segment} {pieces : List String}
    {choices : List (List String)} {front back : Captures} (h : segment.captures? pieces = some front)
    (hTail : Reads segments choices back) : Reads (segment :: segments) (pieces :: choices) (front ++ back)

theorem scan?_nil_right {segments : List Segment} {captures : Captures}
    (h : scan? segments [] = some captures) : segments = [] ∧ captures = .empty := by
  cases segments with
  | nil => exact ⟨rfl, (Option.some.inj h).symm⟩
  | cons segment segments => cases segment <;> cases h

theorem exists_reads_of_scan? {segments : List Segment} {pieces : List String} {captures : Captures}
    (h : scan? segments pieces = some captures) :
    ∃ choices, choices.flatten = pieces ∧ Reads segments choices captures := by
  fun_induction scan? segments pieces generalizing captures with
  | case1 =>
    cases h
    exact ⟨[], rfl, .nil⟩
  | case2 => cases h
  | case3 => cases h
  | case4 => cases h
  | case5 stem segments piece pieces front hFront ih =>
    obtain ⟨back, hBack, rfl⟩ := Option.map_eq_some_iff.mp h
    obtain ⟨choices, rfl, hReads⟩ := ih hBack
    exact ⟨[piece] :: choices, rfl, .cons hFront hReads⟩
  | case6 => cases h
  | case7 stem extensions segments piece pieces extension hExtension ih =>
    obtain ⟨back, hBack, rfl⟩ := Option.map_eq_some_iff.mp h
    obtain ⟨choices, rfl, hReads⟩ := ih hBack
    exact ⟨[piece] :: choices, rfl, .cons (by simp [Segment.captures?, hExtension]) hReads⟩
  | case8 name segments piece pieces ih =>
    obtain ⟨back, hBack, rfl⟩ := Option.map_eq_some_iff.mp h
    obtain ⟨rfl, rfl⟩ := scan?_nil_right hBack
    exact ⟨[piece :: pieces], by simp, .cons rfl .nil⟩

theorem Reads.scan?_flatten {segments : List Segment} {choices : List (List String)} {captures : Captures}
    (h : Reads segments choices captures) (hWellFormed : WellFormed segments) :
    scan? segments choices.flatten = some captures := by
  induction h with
  | nil => rfl
  | cons hHead hTail ih =>
    obtain ⟨_, hLast, hSegments⟩ := hWellFormed
    have hScan := ih hSegments
    rw [Segment.captures?.eq_def] at hHead
    split at hHead
    · simp [scan?, hHead, hScan]
    · obtain ⟨extension, hExtension, rfl⟩ := Option.map_eq_some_iff.mp hHead
      simp [scan?, hExtension, hScan]
    · obtain rfl := hLast (Segment.isRest_rest _)
      cases hTail
      cases hHead
      simp [scan?]
    · cases hHead

/-! ## The arity of a pattern -/

theorem Segment.length_of_captures? {segment : Segment} {pieces : List String} {captures : Captures}
    (h : segment.captures? pieces = some captures) :
    1 ≤ pieces.length ∧ (¬ segment.IsRest → pieces.length = 1) := by
  rw [Segment.captures?.eq_def] at h
  split at h
  · simp
  · simp
  · simp
  · cases h

theorem Reads.length_flatten {segments : List Segment} {choices : List (List String)} {captures : Captures}
    (h : Reads segments choices captures) :
    segments.length ≤ choices.flatten.length ∧
      ((∀ segment ∈ segments, ¬ segment.IsRest) → choices.flatten.length = segments.length) := by
  induction h with
  | nil => simp
  | cons hHead hTail ih =>
    obtain ⟨hPos, hOne⟩ := Segment.length_of_captures? hHead
    simp only [List.flatten_cons, List.length_append, List.length_cons, List.forall_mem_cons]
    refine ⟨by omega, ?_⟩
    rintro ⟨hSegment, hSegments⟩
    have hHeadLength := hOne hSegment
    have hTailLength := ih.2 hSegments
    omega

theorem WellFormed.getLast?_of_isRest {segments : List Segment} (h : WellFormed segments)
    {segment : Segment} (hMem : segment ∈ segments) (hRest : segment.IsRest) :
    segments.getLast? = some segment := by
  induction segments with
  | nil => cases hMem
  | cons head tail ih =>
    obtain ⟨_, hLast, hTail⟩ := h
    rcases List.mem_cons.mp hMem with rfl | hMem
    · rw [hLast hRest]
      rfl
    · rw [List.getLast?_cons, ih hTail hMem]
      rfl

namespace Pattern

theorem acceptsLength_of_reads {pattern : Pattern} {choices : List (List String)} {captures : Captures}
    (h : Reads pattern.segments choices captures) : pattern.AcceptsLength choices.flatten.length := by
  obtain ⟨hLe, hEq⟩ := h.length_flatten
  rw [AcceptsLength]
  split
  · exact hLe
  · rename_i hLast
    apply hEq
    rintro segment hMem ⟨name, rfl⟩
    exact hLast name (pattern.print_segments.1.getLast?_of_isRest hMem (Segment.isRest_rest name))

/-- The arity check refuses no path that the scan accepts. -/
theorem captures?_eq_scan? (pattern : Pattern) (pieces : List String) :
    pattern.captures? pieces = scan? pattern.segments pieces := by
  rw [captures?]
  split
  · rfl
  · rename_i hLength
    cases hScan : scan? pattern.segments pieces with
    | none => rfl
    | some captures =>
      obtain ⟨choices, rfl, hReads⟩ := exists_reads_of_scan? hScan
      exact absurd (acceptsLength_of_reads hReads) hLength

theorem captures?_eq_some_iff_reads {pattern : Pattern} {pieces : List String} {captures : Captures} :
    pattern.captures? pieces = some captures ↔
      ∃ choices, choices.flatten = pieces ∧ Reads pattern.segments choices captures := by
  rw [captures?_eq_scan?]
  constructor
  · exact exists_reads_of_scan?
  · rintro ⟨choices, rfl, hReads⟩
    exact hReads.scan?_flatten pattern.print_segments.1

end Pattern

/-! ## Instances -/

theorem unionExtension?_eq_some_iff {stem : Stem} {extensions : List String} {piece extension : String} :
    unionExtension? stem extensions piece = some extension ↔ extension ∈ extensions ∧
      ∃ front, piece.toList = front ++ '.' :: extension.toList ∧ '.' ∉ extension.toList ∧
        stem.Allows front := by
  rw [unionExtension?]
  constructor
  · intro h
    split at h
    · cases h
    · rename_i front back hSplit
      obtain ⟨hEq, hFree⟩ := splitLast?_eq_some_iff.mp hSplit
      simp only [Option.ite_none_right_eq_some, Option.some.injEq] at h
      obtain ⟨⟨hMem, hAllows⟩, rfl⟩ := h
      exact ⟨hMem, front, by simpa using hEq, by simpa using hFree, hAllows⟩
  · rintro ⟨hMem, front, hEq, hFree, hAllows⟩
    rw [splitLast?_eq_some_iff.mpr ⟨hEq, hFree⟩]
    simp [hMem, hAllows]

/-- An extension holds no dot, so the last dot of the text is the one in front of it. -/
theorem unionExtension?_append {stem : Stem} {extensions : List String} {front extension : String}
    (hMem : extension ∈ extensions) (hExtension : IsExtension extension)
    (hAllows : stem.Allows front.toList) :
    unionExtension? stem extensions (front ++ "." ++ extension) = some extension := by
  have hText : (front ++ "." ++ extension).toList = front.toList ++ '.' :: extension.toList := by simp
  exact unionExtension?_eq_some_iff.mpr
    ⟨hMem, front.toList, hText, hExtension.2 '.' (by simp), hAllows⟩

theorem Segment.covers_of_unionExtension? {stem : Stem} {extensions : List String}
    {piece extension : String} (hPiece : Path.IsPiece piece)
    (h : unionExtension? stem extensions piece = some extension) :
    (Segment.union stem extensions).Covers [piece] := by
  obtain ⟨hMem, front, hEq, _, hAllows⟩ := unionExtension?_eq_some_iff.mp h
  have hPrint : piece = String.ofList front ++ "." ++ extension :=
    String.toList_injective (by simp [hEq])
  have hFront : front ≠ [] → Path.IsPiece (String.ofList front) := by
    intro hFull
    have hSlash := hPiece.2
    rw [hEq, List.mem_append, not_or] at hSlash
    exact Path.isPiece_ofList_iff.mpr ⟨hFull, hSlash.1⟩
  rw [hPrint]
  cases stem with
  | literal text =>
    have hText : front = text.toList := hAllows
    rw [hText, String.ofList_toList]
    exact .unionLiteral hMem
  | param name => exact .unionParam (hFront hAllows) hMem
  | wildcard name => exact .unionWildcard (hFront hAllows) hMem

/-- What a segment captures from pieces is its parameter, and the pieces may stand for it. -/
theorem Segment.covers_of_captures? {segment : Segment} {pieces : List String} {captures : Captures}
    (hPieces : ∀ piece ∈ pieces, Path.IsPiece piece) (h : segment.captures? pieces = some captures) :
    segment.Covers pieces ∧ captures.params = (segment.param? pieces).toList := by
  rw [Segment.captures?.eq_def] at h
  split at h
  · rename_i stem piece
    have hPiece := hPieces piece List.mem_cons_self
    cases stem with
    | literal text =>
      simp only [Stem.capture?, Option.ite_none_right_eq_some, Option.some.injEq] at h
      obtain ⟨rfl, rfl⟩ := h
      exact ⟨.literal piece, rfl⟩
    | param name =>
      cases h
      exact ⟨.param hPiece, by simp [Captures.ofParam, Segment.param?, Path.join]⟩
    | wildcard name =>
      cases h
      exact ⟨.wildcard hPiece, by simp [Captures.ofParam, Segment.param?, Path.join]⟩
  · rename_i stem extensions piece
    obtain ⟨extension, hExtension, rfl⟩ := Option.map_eq_some_iff.mp h
    exact ⟨Segment.covers_of_unionExtension? (hPieces piece List.mem_cons_self) hExtension, rfl⟩
  · cases h
    exact ⟨.rest (by simp) hPieces, rfl⟩
  · cases h

theorem Segment.Covers.exists_captures? {segment : Segment} {pieces : List String}
    (h : segment.Covers pieces) (hWellFormed : segment.WellFormed) :
    ∃ captures, segment.captures? pieces = some captures := by
  have hUnion : ∀ {stem : Stem} {extensions : List String} {front extension : String},
      (Segment.union stem extensions).WellFormed → extension ∈ extensions → stem.Allows front.toList →
        ∃ captures, (Segment.union stem extensions).captures? [front ++ "." ++ extension] = some captures := by
    intro stem extensions front extension hUnion hMem hAllows
    have hExtension := unionExtension?_append hMem (hUnion.2.2 extension hMem) hAllows
    exact ⟨_, by rw [Segment.captures?, hExtension, Option.map_some]⟩
  cases h with
  | literal text => exact ⟨.empty, by simp [Segment.captures?, Stem.capture?]⟩
  | param h => exact ⟨_, rfl⟩
  | wildcard h => exact ⟨_, rfl⟩
  | unionLiteral h => exact hUnion hWellFormed h rfl
  | unionParam hValue h => exact hUnion hWellFormed h (by simpa [Stem.Allows] using hValue.1)
  | unionWildcard hValue h => exact hUnion hWellFormed h (by simpa [Stem.Allows] using hValue.1)
  | rest hSome h =>
    obtain ⟨piece, pieces, rfl⟩ := List.exists_cons_of_ne_nil hSome
    exact ⟨_, rfl⟩

theorem Segment.Covers.length_eq_one {segment : Segment} {pieces : List String} (h : segment.Covers pieces)
    (hRest : ¬ segment.IsRest) : pieces.length = 1 := by
  cases h with
  | rest => exact absurd (Segment.isRest_rest _) hRest
  | _ => rfl

/-- The parameters that segments capture from the pieces chosen for them. -/
def instanceParams (segments : List Segment) (choices : List (List String)) : List Param :=
  (segments.zip choices).filterMap fun pair => pair.1.param? pair.2

theorem Reads.isInstance {segments : List Segment} {choices : List (List String)} {captures : Captures}
    (h : Reads segments choices captures) (hPieces : ∀ piece ∈ choices.flatten, Path.IsPiece piece) :
    IsInstance segments choices ∧ captures.params = instanceParams segments choices := by
  induction h with
  | nil => exact ⟨.nil, rfl⟩
  | cons hHead hTail ih =>
    simp only [List.flatten_cons, List.mem_append] at hPieces
    obtain ⟨hCovers, hParam⟩ := Segment.covers_of_captures? (fun piece hMem => hPieces piece (.inl hMem)) hHead
    obtain ⟨hInstance, hParams⟩ := ih fun piece hMem => hPieces piece (.inr hMem)
    refine ⟨.cons hCovers hInstance, ?_⟩
    rw [Captures.params_append, hParam, hParams, instanceParams, instanceParams, List.zip_cons_cons,
      List.filterMap_cons]
    split <;> simp_all

theorem IsInstance.exists_reads {segments : List Segment} {choices : List (List String)}
    (h : IsInstance segments choices) (hWellFormed : WellFormed segments) :
    ∃ captures, Reads segments choices captures := by
  induction h with
  | nil => exact ⟨.empty, .nil⟩
  | cons hCovers hInstance ih =>
    obtain ⟨hSegment, _, hSegments⟩ := hWellFormed
    obtain ⟨front, hFront⟩ := hCovers.exists_captures? hSegment
    obtain ⟨back, hBack⟩ := ih hSegments
    exact ⟨front ++ back, .cons hFront hBack⟩

/-- Only a segment that takes the rest has a choice of how many pieces to take, and it is the last. -/
theorem IsInstance.eq_of_flatten_eq {segments : List Segment} {choices other : List (List String)}
    (h : IsInstance segments choices) (hOther : IsInstance segments other)
    (hWellFormed : WellFormed segments) (hEq : choices.flatten = other.flatten) : choices = other := by
  induction h generalizing other with
  | nil =>
    cases hOther
    rfl
  | cons hCovers hInstance ih =>
    rename_i segment segments pieces choices
    obtain ⟨_, hLast, hSegments⟩ := hWellFormed
    cases hOther with
    | cons hCoversOther hInstanceOther =>
      simp only [List.flatten_cons] at hEq
      by_cases hRest : segment.IsRest
      · obtain rfl := hLast hRest
        cases hInstance
        cases hInstanceOther
        simpa using hEq
      · have hLength := (hCovers.length_eq_one hRest).trans (hCoversOther.length_eq_one hRest).symm
        obtain ⟨hPieces, hFlatten⟩ := List.append_inj hEq hLength
        rw [hPieces, ih hInstanceOther hSegments hFlatten]

/-! ## Captured parameters -/

/-- The value and the format that a segment's parameter has for the pieces chosen for it. -/
def Segment.reading (pieces : List String) : Segment → String × Option String
  | .rest _ => (Path.join pieces, none)
  | .plain _ | .union _ _ => Format.split (Path.join pieces)

def Param.view (param : Param) : String × String × String × Option String :=
  (param.name, param.raw, param.value, param.format)

theorem Segment.map_view_param? (segment : Segment) (pieces : List String) :
    (segment.param? pieces).map Param.view =
      segment.paramName?.map fun name => (name, Path.join pieces, segment.reading pieces) := by
  cases segment with
  | plain stem =>
    cases stem with
    | literal text => rfl
    | param name =>
      simp only [Segment.param?, Segment.paramName?, Option.map_some, Param.view, Param.value_format_ofPiece]
      rfl
    | wildcard name =>
      simp only [Segment.param?, Segment.paramName?, Option.map_some, Param.view, Param.value_format_ofPiece]
      rfl
  | union stem extensions => rfl
  | rest name => rfl

/-- The parameters show, in the order of the segments, what was chosen for each segment that names one. -/
structure Shows (segments : List Segment) (choices : List (List String)) (params : List Param) : Prop where
  views : params.map Param.view = (segments.zip choices).filterMap fun pair =>
    pair.1.paramName?.map fun name => (name, Path.join pair.2, pair.1.reading pair.2)
  names : params.map Param.name = segments.filterMap Segment.paramName?
  value : ∀ name, (findParam? params name).map Param.value =
    ((segments.zip choices).find? fun pair => pair.1.paramName? = some name).map fun pair =>
      (pair.1.reading pair.2).1
  found : ∀ name, (findParam? params name).isSome ↔ name ∈ segments.filterMap Segment.paramName?

theorem instanceParams_cons (segment : Segment) (segments : List Segment) (pieces : List String)
    (choices : List (List String)) :
    instanceParams (segment :: segments) (pieces :: choices) =
      (segment.param? pieces).toList ++ instanceParams segments choices := by
  rw [instanceParams, List.zip_cons_cons, List.filterMap_cons]
  cases segment.param? pieces <;> rfl

theorem IsInstance.shows {segments : List Segment} {choices : List (List String)}
    (h : IsInstance segments choices) : Shows segments choices (instanceParams segments choices) := by
  induction h with
  | nil => exact ⟨rfl, rfl, fun _ => rfl, fun _ => by simp [instanceParams, findParam?]⟩
  | cons hCovers hInstance ih =>
    rename_i segment segments pieces choices
    have hView := segment.map_view_param? pieces
    rw [instanceParams_cons]
    cases hParam : segment.param? pieces with
    | none =>
      rw [hParam, Option.map_none, eq_comm, Option.map_eq_none_iff] at hView
      exact ⟨by simpa [hView] using ih.views, by simpa [hView] using ih.names,
        fun name => by simpa [hView] using ih.value name, fun name => by simpa [hView] using ih.found name⟩
    | some param =>
      rw [hParam, Option.map_some, eq_comm, Option.map_eq_some_iff] at hView
      obtain ⟨name, hName, hEq⟩ := hView
      have hParamName : param.name = name := (congrArg Prod.fst hEq).symm
      have hValue : param.value = (segment.reading pieces).1 := (congrArg (·.2.2.1) hEq).symm
      refine ⟨by simpa [hName, ← hEq] using ih.views, by simpa [hName, hParamName] using ih.names, ?_, ?_⟩
      · intro asked
        by_cases hAsked : name = asked
        · simp [findParam?, hName, hParamName, hAsked, hValue]
        · simpa [findParam?, hName, hParamName, hAsked] using ih.value asked
      · intro asked
        by_cases hAsked : name = asked
        · simp [findParam?, hName, hParamName, hAsked]
        · simpa [findParam?, hName, hParamName, hAsked, Ne.symm hAsked] using ih.found asked

namespace Pattern

theorem isSome_captures?_iff_exists_instance {pattern : Pattern} {path : String} :
    (pattern.captures? (Path.pieces path)).isSome ↔
      ∃ choices, IsInstance pattern.segments choices ∧ choices.flatten = Path.pieces path := by
  rw [Option.isSome_iff_exists]
  constructor
  · rintro ⟨captures, hCaptures⟩
    obtain ⟨choices, hFlatten, hReads⟩ := captures?_eq_some_iff_reads.mp hCaptures
    exact ⟨choices, (hReads.isInstance (hFlatten ▸ fun _ => Path.isPiece_of_mem_pieces)).1, hFlatten⟩
  · rintro ⟨choices, hInstance, hFlatten⟩
    obtain ⟨captures, hReads⟩ := hInstance.exists_reads pattern.print_segments.1
    exact ⟨captures, captures?_eq_some_iff_reads.mpr ⟨choices, hFlatten, hReads⟩⟩

/-- A path matches just when its pieces are those of an instance. The instance is the only one, and the
parameters show what it has chosen. -/
theorem captures?_iff_instance (source path : String) (pattern : Pattern)
    (h : compile source = .ok pattern) :
    ((pattern.captures? (Path.pieces path)).isSome ↔
      ∃ choices, IsInstance pattern.segments choices ∧ choices.flatten = Path.pieces path) ∧
    ∀ choices, IsInstance pattern.segments choices → choices.flatten = Path.pieces path →
      (∀ other, IsInstance pattern.segments other → other.flatten = Path.pieces path → other = choices) ∧
      ∃ captures, pattern.captures? (Path.pieces path) = some captures ∧
        Shows pattern.segments choices captures.params := by
  obtain rfl := compile_eq_ok_iff.mp h
  have hWellFormed := pattern.print_segments.1
  have hInstance : ∀ choices captures, choices.flatten = Path.pieces path →
      Reads pattern.segments choices captures →
        IsInstance pattern.segments choices ∧ captures.params = instanceParams pattern.segments choices := by
    intro choices captures hFlatten hReads
    exact hReads.isInstance (hFlatten ▸ fun _ => Path.isPiece_of_mem_pieces)
  have hMatch : ∀ choices, IsInstance pattern.segments choices → choices.flatten = Path.pieces path →
      ∃ captures, pattern.captures? (Path.pieces path) = some captures ∧
        captures.params = instanceParams pattern.segments choices := by
    intro choices hChoices hFlatten
    obtain ⟨captures, hReads⟩ := hChoices.exists_reads hWellFormed
    exact ⟨captures, captures?_eq_some_iff_reads.mpr ⟨choices, hFlatten, hReads⟩,
      (hInstance choices captures hFlatten hReads).2⟩
  refine ⟨⟨?_, ?_⟩, ?_⟩
  · intro hSome
    obtain ⟨captures, hCaptures⟩ := Option.isSome_iff_exists.mp hSome
    obtain ⟨choices, hFlatten, hReads⟩ := captures?_eq_some_iff_reads.mp hCaptures
    exact ⟨choices, (hInstance choices captures hFlatten hReads).1, hFlatten⟩
  · rintro ⟨choices, hChoices, hFlatten⟩
    obtain ⟨captures, hCaptures, _⟩ := hMatch choices hChoices hFlatten
    exact Option.isSome_iff_exists.mpr ⟨captures, hCaptures⟩
  · intro choices hChoices hFlatten
    constructor
    · intro other hOther hOtherFlatten
      exact hOther.eq_of_flatten_eq hChoices hWellFormed (hOtherFlatten.trans hFlatten.symm)
    · obtain ⟨captures, hCaptures, hParams⟩ := hMatch choices hChoices hFlatten
      exact ⟨captures, hCaptures, hParams ▸ hChoices.shows⟩

theorem captures?_iff_instance_of_image_path :
    ∃ pattern, compile "/img/:id/*file.\x7bpng,jpg\x7d/**rest" = .ok pattern ∧
      IsInstance pattern.segments [["img"], ["7.json"], ["cat" ++ "." ++ "png"], ["a", "b.c"]] ∧
      [["img"], ["7.json"], ["cat" ++ "." ++ "png"], ["a", "b.c"]].flatten =
        Path.pieces "/img//7.json/cat.png/a/b.c/" ∧
      ∃ captures, pattern.captures? (Path.pieces "/img//7.json/cat.png/a/b.c/") = some captures ∧
        Shows pattern.segments [["img"], ["7.json"], ["cat" ++ "." ++ "png"], ["a", "b.c"]]
          captures.params := by
  have hRead : readPieces (Path.pieces "/img/:id/*file.\x7bpng,jpg\x7d/**rest") =
      .ok [.plain (.literal "img"), .plain (.param "id"), .union (.wildcard "file") ["png", "jpg"],
        .rest "rest"] := rfl
  have hCompile : compile "/img/:id/*file.\x7bpng,jpg\x7d/**rest" = .ok ⟨_, _, hRead⟩ :=
    compile_eq_ok_iff.mpr rfl
  have hInstance : IsInstance
      [.plain (.literal "img"), .plain (.param "id"), .union (.wildcard "file") ["png", "jpg"], .rest "rest"]
      [["img"], ["7.json"], ["cat" ++ "." ++ "png"], ["a", "b.c"]] :=
    .cons (.literal "img") (.cons (.param (by decide)) (.cons (.unionWildcard (by decide) (by decide))
      (.cons (.rest (by decide) (by decide)) .nil)))
  have hFlatten : [["img"], ["7.json"], ["cat" ++ "." ++ "png"], ["a", "b.c"]].flatten =
      Path.pieces "/img//7.json/cat.png/a/b.c/" := rfl
  exact ⟨_, hCompile, hInstance, hFlatten,
    ((captures?_iff_instance _ _ _ hCompile).2 _ hInstance hFlatten).2⟩

end Pattern

end Routing
