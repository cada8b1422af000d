import Routing.Proofs.Pattern.Matching
import Routing.Router

/-! # The format of a path

Each piece of a path may have a format, depending on the segment that it stands for. What a match reports
is the format of the right-most piece that has one.
-/

namespace Routing

/-- The format that a piece has when it stands for a segment. -/
def Segment.formatOf? (piece : String) : Segment → Option String
  | .plain (.literal _) => none
  | .plain (.param _) | .plain (.wildcard _) => (Format.split piece).2
  | .union _ _ => (Text.splitLast? '.' piece.toList).map fun parts => String.ofList parts.2
  | .rest _ => none

/-- The pieces of the choices, each with the segment that it has been chosen for. -/
def assigned (segments : List Segment) (choices : List (List String)) : List (Segment × String) :=
  (segments.zip choices).flatMap fun pair => pair.2.map (pair.1, ·)

/-- The format is that of the right-most piece that has one. -/
structure IsRightmost (pieces : List (Segment × String)) (format : Option String) : Prop where
  some_iff (text : String) : format = some text ↔ ∃ front segment piece back,
    pieces = front ++ (segment, piece) :: back ∧ segment.formatOf? piece = some text ∧
      ∀ later ∈ back, later.1.formatOf? later.2 = none
  none_iff : format = none ↔ ∀ pair ∈ pieces, pair.1.formatOf? pair.2 = none

theorem isRightmost_getLast? (pieces : List (Segment × String)) :
    IsRightmost pieces (pieces.filterMap fun pair => pair.1.formatOf? pair.2).getLast? where
  some_iff text := by
    rw [List.getLast?_filterMap, List.findSome?_eq_some_iff]
    constructor
    · rintro ⟨back, ⟨segment, piece⟩, front, hReverse, hFormat, hBack⟩
      refine ⟨front.reverse, segment, piece, back.reverse, ?_, hFormat, fun later hMem => ?_⟩
      · simpa using congrArg List.reverse hReverse
      · exact hBack later (List.mem_reverse.mp hMem)
    · rintro ⟨front, segment, piece, back, rfl, hFormat, hBack⟩
      refine ⟨back.reverse, (segment, piece), front.reverse, by simp, hFormat, fun later hMem => ?_⟩
      exact hBack later (List.mem_reverse.mp hMem)
  none_iff := by
    simp [List.getLast?_filterMap, List.findSome?_eq_none_iff]

theorem assigned_cons (segment : Segment) (segments : List Segment) (pieces : List String)
    (choices : List (List String)) :
    assigned (segment :: segments) (pieces :: choices) =
      pieces.map (segment, ·) ++ assigned segments choices := by
  simp [assigned]

theorem IsInstance.map_snd_assigned {segments : List Segment} {choices : List (List String)}
    (h : IsInstance segments choices) : (assigned segments choices).map Prod.snd = choices.flatten := by
  induction h with
  | nil => rfl
  | cons _ _ ih => simp [assigned_cons, ih, Function.comp_def]

/-- The format that a segment contributes is the last one among its pieces. -/
theorem Segment.format_of_captures? {segment : Segment} {pieces : List String} {captures : Captures}
    (h : segment.captures? pieces = some captures) :
    captures.format = (pieces.filterMap fun piece => segment.formatOf? piece).getLast? := by
  have hOne (piece : String) :
      ([piece].filterMap fun piece => segment.formatOf? piece).getLast? = segment.formatOf? piece := by
    cases hFormat : segment.formatOf? piece <;> simp [hFormat]
  have hNamed (name piece : String) : (Param.ofPiece name piece).format = (Format.split piece).2 :=
    congrArg Prod.snd (Param.value_format_ofPiece name piece)
  rw [Segment.captures?.eq_def] at h
  split at h
  · rename_i stem piece
    rw [hOne]
    cases stem with
    | literal text =>
      simp only [Stem.capture?, Option.ite_none_right_eq_some, Option.some.injEq] at h
      rw [← h.2]
      rfl
    | param name =>
      cases h
      exact hNamed name piece
    | wildcard name =>
      cases h
      exact hNamed name piece
  · rename_i stem extensions piece
    obtain ⟨extension, hExtension, rfl⟩ := Option.map_eq_some_iff.mp h
    obtain ⟨_, front, hPiece, hFree, _⟩ := unionExtension?_eq_some_iff.mp hExtension
    have hSplit : Text.splitLast? '.' piece.toList = some (front, extension.toList) :=
      Text.splitLast?_eq_some_iff.mpr ⟨hPiece, hFree⟩
    rw [hOne]
    simp [Segment.formatOf?, hSplit, Captures.ofFormat]
  · rename_i name piece pieces
    cases h
    -- whatever the pieces are, a segment that takes the rest gives none of them a format
    have hNone : ((piece :: pieces).filterMap fun piece => (Segment.rest name).formatOf? piece) = [] :=
      List.filterMap_eq_nil_iff.mpr fun _ _ => rfl
    rw [hNone]
    rfl
  · cases h

/-- A later segment that contributes a format replaces those of the earlier ones, and one that contributes
none leaves them as they are. -/
theorem Reads.format_eq {segments : List Segment} {choices : List (List String)} {captures : Captures}
    (h : Reads segments choices captures) :
    captures.format = ((assigned segments choices).filterMap fun pair => pair.1.formatOf? pair.2).getLast? := by
  induction h with
  | nil => rfl
  | cons hHead _ ih =>
    rw [Captures.format_append, Segment.format_of_captures? hHead, ih, assigned_cons, List.filterMap_append,
      List.getLast?_append, List.filterMap_map]
    rfl

/-- The pieces of the path stand for the segments, one after the other, and however they do so the format
is that of the right-most piece that has one. -/
structure ReportsRightmost (segments : List Segment) (path : String) (format : Option String) : Prop where
  exists_choices : ∃ choices, IsInstance segments choices ∧ choices.flatten = Path.pieces path
  rightmost {choices : List (List String)} (hInstance : IsInstance segments choices)
    (hFlatten : choices.flatten = Path.pieces path) :
    (assigned segments choices).map Prod.snd = Path.pieces path ∧ IsRightmost (assigned segments choices) format

theorem Pattern.reportsRightmost {pattern : Pattern} {path : String} {captures : Captures}
    (h : pattern.captures? (Path.pieces path) = some captures) :
    ReportsRightmost pattern.segments path captures.format := by
  obtain ⟨choices, hFlatten, hReads⟩ := captures?_eq_some_iff_reads.mp h
  obtain ⟨hInstance, _⟩ := hReads.isInstance (hFlatten ▸ fun _ => Path.isPiece_of_mem_pieces)
  refine ⟨⟨choices, hInstance, hFlatten⟩, fun {other} hOther hOtherFlatten => ?_⟩
  obtain rfl : other = choices :=
    hOther.eq_of_flatten_eq hInstance pattern.print_segments.1 (hOtherFlatten.trans hFlatten.symm)
  refine ⟨hOther.map_snd_assigned.trans hFlatten, ?_⟩
  rw [hReads.format_eq]
  exact isRightmost_getLast? _

namespace Router

/-- Every match of a pattern, and so every match that a router finds, reports the right-most format of the
path: that of the last piece that stands for a parameter, a wildcard or a union and has a format there. -/
theorem lookup?_reports_rightmost_format :
    (∀ (pattern : Pattern) (path : String) (captures : Captures),
      pattern.captures? (Path.pieces path) = some captures →
        ReportsRightmost pattern.segments path captures.format) ∧
    ∀ (router : Router) (method : Http.Method) (path : String) (found : Match),
      router.lookup? method path = some found →
        ReportsRightmost found.route.pattern.segments path found.captures.format := by
  constructor
  · intro pattern path captures h
    exact pattern.reportsRightmost h
  · intro router method path found h
    obtain ⟨_, _, hCaptures⟩ := captures?_of_lookup? h
    exact found.route.pattern.reportsRightmost hCaptures

def reportRoute : Route :=
  ⟨.get, ⟨"/r/:a/b.\x7bcsv\x7d/:c/**rest", [.plain (.literal "r"), .plain (.param "a"),
    .union (.literal "b") ["csv"], .plain (.param "c"), .rest "rest"], rfl⟩, ⟨[], .echo⟩, [], false⟩

/-- The rest of the path keeps its extension. So the format is that of the second parameter, or that of the
union where the parameter has none. -/
theorem lookup?_reports_rightmost_format_before_rest :
    (∃ captures, reportRoute.pattern.captures? (Path.pieces "/r/x.json/b.csv/.env/y.xml") = some captures ∧
      ReportsRightmost reportRoute.pattern.segments "/r/x.json/b.csv/.env/y.xml" captures.format ∧
      captures.format = some "csv") ∧
    ∃ found, (Router.add .empty reportRoute).lookup? .get "/r/x.json/b.csv/y.tar.gz/z.xml" = some found ∧
      ReportsRightmost found.route.pattern.segments "/r/x.json/b.csv/y.tar.gz/z.xml" found.captures.format ∧
      found.captures.format = some "gz" := by
  have hCaptures : reportRoute.pattern.captures? (Path.pieces "/r/x.json/b.csv/.env/y.xml") =
      some ⟨[.ofPiece "a" "x.json", .ofPiece "c" ".env", .ofRest "rest" ["y.xml"]], some "csv"⟩ := rfl
  have hFound : (Router.add .empty reportRoute).lookup? .get "/r/x.json/b.csv/y.tar.gz/z.xml" =
      some ⟨reportRoute, ⟨[.ofPiece "a" "x.json", .ofPiece "c" "y.tar.gz", .ofRest "rest" ["z.xml"]],
        some "gz"⟩⟩ := rfl
  obtain ⟨hPattern, hRouter⟩ := lookup?_reports_rightmost_format
  exact ⟨⟨_, hCaptures, hPattern _ _ _ hCaptures, rfl⟩, _, hFound, hRouter _ _ _ _ hFound, rfl⟩

end Router

end Routing
