import Mathlib.Data.List.Forall2
import Routing.Proofs.Pattern.Matching
import Routing.Router

/-! # The offset of a format

A text has a format just when it can be taken apart at its last dot with something on both sides. The offset
that a parameter keeps is that of this dot in bytes, so the value and the format are cut out of the text where
a character ends.
-/

namespace Routing

theorem Format.split_of_not_divides {raw : String} (h : ∀ value format, ¬ Divides raw value format) :
    split raw = (raw, none) := by
  rw [split]
  split
  · rename_i dot hDot
    obtain ⟨value, format, hDivides, _⟩ := dot?_eq_some_iff.mp hDot
    exact absurd hDivides (h value format)
  · rfl

def dotByte : UInt8 := '.'.toUInt8

theorem dot_mem_of_dotByte_mem {text : String} (h : dotByte ∈ utf8 text) : '.' ∈ text.toList := by
  obtain ⟨c, hMem, hByte⟩ := List.mem_flatMap.mp h
  have hEq : c.toNat = '.'.toNat := toNat_eq_of_mem_utf8EncodeChar hByte (by decide)
  rwa [← Char.toNat_inj.mp hEq]

/-- A dot stands at the offset, something stands before it and behind it, no dot stands behind it, and the text
may be cut on both sides of it. -/
structure MarksLastDot (raw : String) (offset : Nat) : Prop where
  dot : (utf8 raw)[offset]? = some dotByte
  before : 0 < offset
  behind : offset + 1 < (utf8 raw).length
  last : ∀ later, offset < later → (utf8 raw)[later]? ≠ some dotByte
  boundary : String.Pos.Raw.IsValid raw ⟨offset⟩
  boundary_behind : String.Pos.Raw.IsValid raw ⟨offset + 1⟩

theorem utf8_eq_of_divides {raw value format : String} (h : Format.Divides raw value format) :
    utf8 raw = utf8 value ++ dotByte :: utf8 format := by
  rw [h.eq_append, utf8_append, utf8_append, List.append_assoc]
  rfl

theorem Format.Divides.marksLastDot {raw value format : String} (h : Format.Divides raw value format) :
    MarksLastDot raw (utf8 value).length := by
  have hBytes := utf8_eq_of_divides h
  have hValue := length_utf8_pos_iff.mpr h.value_ne
  have hFormat := length_utf8_pos_iff.mpr h.format_ne
  obtain ⟨hCut, hCutBehind⟩ := h.cut?_eq
  constructor
  · rw [hBytes, List.getElem?_append_right (Nat.le_refl _), Nat.sub_self, List.getElem?_cons_zero]
  · exact hValue
  · rw [hBytes, List.length_append, List.length_cons]
    omega
  · intro later hLater hDot
    obtain ⟨place, rfl⟩ := Nat.exists_eq_add_of_lt hLater
    rw [hBytes, Nat.add_assoc, List.getElem?_append_right (Nat.le_add_right _ _), Nat.add_sub_cancel_left,
      List.getElem?_cons_succ] at hDot
    exact h.dot_not_mem (dot_mem_of_dotByte_mem (List.mem_of_getElem? hDot))
  · exact Text.canCut_iff_isValid.mp (Text.canCut_of_cut? hCut)
  · exact Text.canCut_iff_isValid.mp (Text.canCut_of_cut? hCutBehind)

/-! ## Captured parameters -/

/-- The offset is that of the last dot of the captured text, in front of which the value ends and behind which
the format begins. -/
structure Param.CutsAt (param : Param) (dot : Nat) : Prop where
  marks : MarksLastDot param.raw dot
  value : utf8 param.value = (utf8 param.raw).take dot
  format : param.format.map utf8 = some ((utf8 param.raw).drop (dot + 1))

theorem Param.cutsAt_ofPiece {name raw : String} {dot : Nat} (h : (ofPiece name raw).dot = some dot) :
    (ofPiece name raw).CutsAt dot := by
  obtain ⟨value, format, hDivides, rfl⟩ := Format.dot?_eq_some_iff.mp h
  have hReading : ((ofPiece name raw).value, (ofPiece name raw).format) = (value, some format) := by
    rw [value_format_ofPiece]
    exact Format.split_eq_some_iff.mpr hDivides
  obtain ⟨hValue, hFormat⟩ := Prod.mk.inj hReading
  have hBytes : utf8 (ofPiece name raw).raw = utf8 value ++ dotByte :: utf8 format :=
    utf8_eq_of_divides hDivides
  refine ⟨hDivides.marksLastDot, ?_, ?_⟩
  · rw [hValue, hBytes, List.take_left]
  · rw [hFormat, hBytes, ← List.drop_drop, List.drop_left, List.drop_one, List.tail_cons]
    rfl

/-- What a segment captures: the format rule reads a single piece, and never the rest of a path. -/
inductive Segment.Captured : Segment → Param → Prop where
  | param {name : String} {param : Param} (hName : param.name = name)
    (h : (param.value, param.format) = Format.split param.raw) : Captured (.plain (.param name)) param
  | wildcard {name : String} {param : Param} (hName : param.name = name)
    (h : (param.value, param.format) = Format.split param.raw) : Captured (.plain (.wildcard name)) param
  | rest {name : String} {param : Param} (hName : param.name = name) (hDot : param.dot = none)
    (h : (param.value, param.format) = (param.raw, none)) : Captured (.rest name) param

theorem Segment.cutsAt_of_param? {segment : Segment} {pieces : List String} {param : Param}
    (h : segment.param? pieces = some param) : ∀ dot, param.dot = some dot → param.CutsAt dot := by
  intro dot hDot
  rw [Segment.param?.eq_def] at h
  split at h
  · cases h
  · cases h
    exact Param.cutsAt_ofPiece hDot
  · cases h
    exact Param.cutsAt_ofPiece hDot
  · cases h
  · cases h
    cases hDot

theorem cutsAt_of_mem_instanceParams {segments : List Segment} {choices : List (List String)} {param : Param}
    (h : param ∈ instanceParams segments choices) : ∀ dot, param.dot = some dot → param.CutsAt dot := by
  obtain ⟨⟨segment, pieces⟩, _, hParam⟩ := List.mem_filterMap.mp h
  exact Segment.cutsAt_of_param? hParam

theorem IsInstance.captured {segments : List Segment} {choices : List (List String)}
    (h : IsInstance segments choices) :
    List.Forall₂ Segment.Captured (segments.filter fun segment => segment.paramName?.isSome)
      (instanceParams segments choices) := by
  induction h with
  | nil => exact .nil
  | cons hCovers _ ih =>
    rw [instanceParams_cons]
    cases hCovers with
    | literal | unionLiteral | unionParam | unionWildcard => exact ih
    | param => exact .cons (.param rfl (Param.value_format_ofPiece _ _)) ih
    | wildcard => exact .cons (.wildcard rfl (Param.value_format_ofPiece _ _)) ih
    | rest => exact .cons (.rest rfl rfl rfl) ih

namespace Router

/-- The format rule takes a text apart at its last dot, in one way only. Every parameter that a router captures
keeps the offset of that dot if it keeps one, and is cut there as the rule says, one after the other as the
segments of the pattern name them. -/
theorem lookup?_cuts_at_last_dot :
    (∀ raw value format, Format.split raw = (value, some format) ↔ Format.Divides raw value format) ∧
    (∀ raw, (∀ value format, ¬ Format.Divides raw value format) → Format.split raw = (raw, none)) ∧
    ∀ (router : Router) (method : Http.Method) (path : String) (found : Match),
      router.lookup? method path = some found →
        (∀ param ∈ found.captures.params, ∀ dot, param.dot = some dot → param.CutsAt dot) ∧
        List.Forall₂ Segment.Captured
          (found.route.pattern.segments.filter fun segment => segment.paramName?.isSome)
          found.captures.params := by
  refine ⟨fun _ _ _ => Format.split_eq_some_iff, fun _ => Format.split_of_not_divides, ?_⟩
  intro router method path found h
  obtain ⟨_, _, hCaptures⟩ := captures?_of_lookup? h
  obtain ⟨choices, hFlatten, hReads⟩ := Pattern.captures?_eq_some_iff_reads.mp hCaptures
  obtain ⟨hInstance, hParams⟩ := hReads.isInstance (hFlatten ▸ fun _ => Path.isPiece_of_mem_pieces)
  rw [hParams]
  exact ⟨fun _ => cutsAt_of_mem_instanceParams, hInstance.captured⟩

def archiveRoute : Route :=
  ⟨.get, ⟨"/:day/*file/**rest", [.plain (.param "day"), .plain (.wildcard "file"), .rest "rest"], rfl⟩,
    ⟨[], .echo⟩, [], false⟩

theorem lookup?_cuts_at_last_dot_in_archive :
    (∀ value format, ¬ Format.Divides ".ñ" value format) ∧ Format.split ".ñ" = (".ñ", none) ∧
      ∃ found, (Router.add .empty archiveRoute).lookup? .get "/é.日.ü/.ñ/a/ß.x" = some found ∧
        found.captures.params =
          [⟨"day", "é.日.ü", some 6, by decide⟩, ⟨"file", ".ñ", none, by decide⟩,
            .ofRest "rest" ["a", "ß.x"]] ∧
        MarksLastDot "é.日.ü" 6 ∧
        List.Forall₂ Segment.Captured archiveRoute.pattern.segments found.captures.params := by
  have hWhole : ∀ value format, ¬ Format.Divides ".ñ" value format := by
    intro value format h
    have hSplit := (lookup?_cuts_at_last_dot.1 ".ñ" value format).mpr h
    have hNone : (Format.split ".ñ").2 = none := rfl
    rw [hSplit] at hNone
    cases hNone
  have hFound : (Router.add .empty archiveRoute).lookup? .get "/é.日.ü/.ñ/a/ß.x" =
      some ⟨archiveRoute, ⟨[⟨"day", "é.日.ü", some 6, by decide⟩, ⟨"file", ".ñ", none, by decide⟩,
        .ofRest "rest" ["a", "ß.x"]], some "ü"⟩⟩ := rfl
  obtain ⟨_, hUndivided, hCuts⟩ := lookup?_cuts_at_last_dot
  obtain ⟨hOffsets, hCaptured⟩ := hCuts _ _ _ _ hFound
  exact ⟨hWhole, hUndivided _ hWhole, _, hFound, rfl, (hOffsets _ List.mem_cons_self 6 rfl).marks, hCaptured⟩

end Router

end Routing
