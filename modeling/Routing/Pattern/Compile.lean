import Routing.Pattern.Segment
import Routing.Text.Split

/-! # Compiling a route pattern

A pattern is read piece by piece. Its segments are those of its pieces, and the leftmost piece that
has no segment, or that takes the remaining pieces without being the last one, makes it malformed. A piece
is refused for one of eight reasons.
-/

namespace Routing

open Text

inductive Reason where
  | unbalancedBraces
  | misplacedUnion
  | invalidExtension
  | emptyStem
  | missingName
  | reservedName
  | restNotLast
  | restWithUnion
deriving DecidableEq

def Reason.explain (piece : String) : Reason → String
  | unbalancedBraces => "unbalanced braces in segment `" ++ piece ++ "`"
  | misplacedUnion =>
    "extension union in segment `" ++ piece ++ "` must be a trailing `.\x7bext,...\x7d`"
  | invalidExtension => "empty or malformed extension in segment `" ++ piece ++ "`"
  | emptyStem => "extension union in segment `" ++ piece ++ "` has nothing before it"
  | missingName => "segment `" ++ piece ++ "` declares a parameter without a name"
  | reservedName => "parameter name in segment `" ++ piece ++ "` contains a reserved character"
  | restNotLast => "multi-segment wildcard `" ++ piece ++ "` must be the last segment"
  | restWithUnion =>
    "multi-segment wildcard `" ++ piece ++ "` cannot carry an extension union"

structure Defect where
  piece : String
  reason : Reason
deriving DecidableEq

def Defect.explain (defect : Defect) : String :=
  defect.reason.explain defect.piece

structure Malformed where
  pattern : String
  defect : Defect
deriving DecidableEq

def Malformed.message (malformed : Malformed) : String :=
  "invalid route pattern `" ++ malformed.pattern ++ "`: " ++ malformed.defect.explain

def readName (text : List Char) : Except Reason String :=
  if text = [] then .error .missingName
  else if text.any (reserved.contains ·) then .error .reservedName
  else .ok (String.ofList text)

theorem readName_eq_ok_iff {text : List Char} {name : String} :
    readName text = .ok name ↔ name.toList = text ∧ text ≠ [] ∧ ∀ c ∈ reserved, c ∉ text := by
  have hAny : text.any (reserved.contains ·) = true ↔ ¬ ∀ c ∈ reserved, c ∉ text := by
    simp only [List.any_eq_true, List.contains_iff_mem, Classical.not_forall, Classical.not_not]
    exact ⟨fun ⟨c, hText, hReserved⟩ => ⟨c, hReserved, hText⟩,
      fun ⟨c, hReserved, hText⟩ => ⟨c, hText, hReserved⟩⟩
  unfold readName
  constructor
  · intro h
    split at h
    · cases h
    · rename_i hFull
      split at h
      · cases h
      · rename_i hFree
        cases h
        exact ⟨String.toList_ofList, hFull, Classical.not_not.mp (mt hAny.mpr hFree)⟩
  · rintro ⟨rfl, hFull, hFree⟩
    rw [if_neg hFull, if_neg (mt hAny.mp (not_not_intro hFree)), String.ofList_toList]

/-- What a text without braces spells: a stem, or the name of a segment that takes the remaining pieces. -/
inductive Base where
  | plain (stem : Stem)
  | rest (name : String)

def Base.segment : Base → Segment
  | plain stem => .plain stem
  | rest name => .rest name

def readBase : List Char → Except Reason Base
  | '*' :: '*' :: name => (readName name).map .rest
  | '*' :: name => (readName name).map fun name => .plain (.wildcard name)
  | ':' :: name => (readName name).map fun name => .plain (.param name)
  | text => .ok (.plain (.literal (String.ofList text)))

/-- What stands in front of `.{` and what stands between the braces, for a piece that ends there. -/
def unionParts? (text : List Char) : Option (List Char × List Char) :=
  match splitPair? '.' '{' text with
  | none => none
  | some (stem, tail) => if tail.getLast? = some '}' then some (stem, tail.dropLast) else none

theorem unionParts?_eq_some_iff {text stem list : List Char} (h : text.count '{' = 1) :
    unionParts? text = some (stem, list) ↔ text = stem ++ '.' :: '{' :: (list ++ ['}']) := by
  constructor
  · intro hParts
    unfold unionParts? at hParts
    split at hParts
    · cases hParts
    · rename_i front tail hSplit
      split at hParts
      · rename_i hLast
        cases hParts
        obtain ⟨list, rfl⟩ := List.getLast?_eq_some_iff.mp hLast
        rw [List.dropLast_concat]
        exact Text.eq_append_of_splitPair? hSplit
      · cases hParts
  · rintro rfl
    have hStem : '{' ∉ stem := by
      intro hMem
      have hPos := List.count_pos_iff.mpr hMem
      have hDot : ('.' == '{') = false := by decide
      simp only [List.count_append, List.count_cons, hDot, beq_self_eq_true, if_true] at h
      omega
    rw [unionParts?, Text.splitPair?_append _ hStem (by decide)]
    simp

def readUnion (text : List Char) : Except Reason Segment :=
  match unionParts? text with
  | none => .error .misplacedUnion
  | some (stem, list) =>
    let extensions := list.splitOn ','
    if stem = [] then .error .emptyStem
    else if extensions.any (fun extension => extension.isEmpty || extension.contains '.') then
      .error .invalidExtension
    else
      match readBase stem with
      | .error reason => .error reason
      | .ok (.plain stem) => .ok (.union stem (extensions.map String.ofList))
      | .ok (.rest _) => .error .restWithUnion

def Segment.parse (piece : String) : Except Reason Segment :=
  let text := piece.toList
  if text.count '{' = 0 ∧ text.count '}' = 0 then (readBase text).map Base.segment
  else if text.count '{' = 1 ∧ text.count '}' = 1 then readUnion text
  else .error .unbalancedBraces

/-- The segments of the pieces, or the leftmost defect. -/
def readPieces : List String → Except Defect (List Segment)
  | [] => .ok []
  | piece :: pieces =>
    match Segment.parse piece with
    | .error reason => .error ⟨piece, reason⟩
    | .ok segment =>
      if segment.IsRest ∧ pieces ≠ [] then .error ⟨piece, .restNotLast⟩
      else (readPieces pieces).map (segment :: ·)

/-- A route pattern is a text that compiles, together with its segments. -/
structure Pattern where
  source : String
  segments : List Segment
  readPieces_source : readPieces (Path.pieces source) = .ok segments

def Pattern.compile (source : String) : Except Malformed Pattern :=
  match h : readPieces (Path.pieces source) with
  | .ok segments => .ok ⟨source, segments, h⟩
  | .error defect => .error ⟨source, defect⟩

namespace Pattern

/-- Two patterns are equivalent when they have the same segments, whatever their slashes. -/
def Equivalent (pattern other : Pattern) : Prop :=
  pattern.segments = other.segments

instance (pattern other : Pattern) : Decidable (Equivalent pattern other) :=
  inferInstanceAs (Decidable (pattern.segments = other.segments))

structure Comparison where
  equivalent : Bool
  sameSource : Bool
deriving DecidableEq

/-- Compiles two patterns and compares them; the first one that is malformed is the answer. -/
def compare (source other : String) : Except Malformed Comparison := do
  let pattern ← compile source
  let otherPattern ← compile other
  pure ⟨pattern.Equivalent otherPattern, source = other⟩

def paramNames (pattern : Pattern) : List String :=
  pattern.segments.filterMap Segment.paramName?

theorem compile_eq_ok_iff {source : String} {pattern : Pattern} :
    compile source = .ok pattern ↔ pattern.source = source := by
  constructor
  · intro h
    unfold compile at h
    split at h
    · cases h
      rfl
    · cases h
  · rintro rfl
    unfold compile
    split
    · rename_i segments h
      have hEq := pattern.readPieces_source.symm.trans h
      cases pattern
      cases hEq
      rfl
    · rename_i defect h
      cases pattern.readPieces_source.symm.trans h

theorem compile_eq_error_iff {source : String} {malformed : Malformed} :
    compile source = .error malformed ↔
      malformed.pattern = source ∧ readPieces (Path.pieces source) = .error malformed.defect := by
  unfold compile
  constructor
  · intro h
    split at h
    · cases h
    · rename_i defect hDefect
      cases h
      exact ⟨rfl, hDefect⟩
  · rintro ⟨rfl, hDefect⟩
    split
    · rename_i segments h
      cases h.symm.trans hDefect
    · rename_i defect h
      cases h.symm.trans hDefect
      rfl

end Pattern

end Routing
