import Routing.Param
import Routing.Pattern.Compile

/-! # Matching a path against a pattern

The segments of a pattern are compared with the pieces of a path from left to right. A match captures
one parameter for each segment that names one, and the right-most format that it has seen.
-/

namespace Routing

@[ext]
structure Captures where
  params : List Param
  format : Option String
deriving DecidableEq

namespace Captures

def empty : Captures :=
  ⟨[], none⟩

def ofParam (param : Param) : Captures :=
  ⟨[param], param.format⟩

def ofFormat (format : String) : Captures :=
  ⟨[], some format⟩

/-- The captures of two stretches of a path; the format of the later one wins. -/
def append (front back : Captures) : Captures :=
  ⟨front.params ++ back.params, back.format.or front.format⟩

instance : Append Captures :=
  ⟨append⟩

@[simp]
theorem params_append (front back : Captures) : (front ++ back).params = front.params ++ back.params :=
  rfl

@[simp]
theorem format_append (front back : Captures) : (front ++ back).format = back.format.or front.format :=
  rfl

@[simp]
theorem empty_append (captures : Captures) : empty ++ captures = captures := by
  ext1 <;> simp [empty]

@[simp]
theorem append_empty (captures : Captures) : captures ++ empty = captures := by
  ext1 <;> simp [empty]

theorem append_assoc (front middle back : Captures) :
    front ++ middle ++ back = front ++ (middle ++ back) := by
  ext1
  · simp
  · simp [Option.or_assoc]

end Captures

def Stem.capture? : Stem → String → Option Captures
  | .literal text, piece => if piece = text then some .empty else none
  | .param name, piece => some (.ofParam (.ofPiece name piece))
  | .wildcard name, piece => some (.ofParam (.ofPiece name piece))

/-- Whether a stem allows `front` in front of an extension. -/
def Stem.Allows : Stem → List Char → Prop
  | .literal text, front => front = text.toList
  | .param _, front => front ≠ []
  | .wildcard _, front => front ≠ []

instance (stem : Stem) (front : List Char) : Decidable (stem.Allows front) :=
  match stem with
  | .literal text => inferInstanceAs (Decidable (front = text.toList))
  | .param _ => inferInstanceAs (Decidable (front ≠ []))
  | .wildcard _ => inferInstanceAs (Decidable (front ≠ []))

/-- The extension of `piece`, if it is one of `extensions` and the stem allows what stands before. -/
def unionExtension? (stem : Stem) (extensions : List String) (piece : String) : Option String :=
  match Text.splitLast? '.' piece.toList with
  | none => none
  | some (front, back) =>
    let extension := String.ofList back
    if extension ∈ extensions ∧ stem.Allows front then some extension else none

/-- The captures of the segments from the pieces, all of which have to be used. -/
def scan? : List Segment → List String → Option Captures
  | [], [] => some .empty
  | [], _ :: _ => none
  | _ :: _, [] => none
  | .plain stem :: segments, piece :: pieces =>
    match stem.capture? piece with
    | none => none
    | some captures => (scan? segments pieces).map (captures ++ ·)
  | .union stem extensions :: segments, piece :: pieces =>
    match unionExtension? stem extensions piece with
    | none => none
    | some extension => (scan? segments pieces).map (.ofFormat extension ++ ·)
  | .rest name :: segments, piece :: pieces =>
    (scan? segments []).map (.ofParam (.ofRest name (piece :: pieces)) ++ ·)

namespace Pattern

/-- Whether a path of `length` pieces has as many as the pattern asks for. -/
def AcceptsLength (pattern : Pattern) (length : Nat) : Prop :=
  match pattern.segments.getLast? with
  | some (.rest _) => pattern.segments.length ≤ length
  | _ => length = pattern.segments.length

instance (pattern : Pattern) (length : Nat) : Decidable (pattern.AcceptsLength length) := by
  unfold AcceptsLength
  split <;> infer_instance

def captures? (pattern : Pattern) (pieces : List String) : Option Captures :=
  if pattern.AcceptsLength pieces.length then scan? pattern.segments pieces else none

end Pattern

/-! ## Instances

An instance chooses pieces for every segment of a pattern. The paths that a pattern is meant to match are
those whose pieces are, one segment after the other, the pieces of an instance.
-/

/-- The pieces that may stand for a segment. -/
inductive Segment.Covers : Segment → List String → Prop where
  | literal (text : String) : Covers (.plain (.literal text)) [text]
  | param {name piece : String} (h : Path.IsPiece piece) : Covers (.plain (.param name)) [piece]
  | wildcard {name piece : String} (h : Path.IsPiece piece) : Covers (.plain (.wildcard name)) [piece]
  | unionLiteral {text extension : String} {extensions : List String} (h : extension ∈ extensions) :
    Covers (.union (.literal text) extensions) [text ++ "." ++ extension]
  | unionParam {name value extension : String} {extensions : List String} (hValue : Path.IsPiece value)
    (h : extension ∈ extensions) : Covers (.union (.param name) extensions) [value ++ "." ++ extension]
  | unionWildcard {name value extension : String} {extensions : List String}
    (hValue : Path.IsPiece value) (h : extension ∈ extensions) :
    Covers (.union (.wildcard name) extensions) [value ++ "." ++ extension]
  | rest {name : String} {pieces : List String} (hSome : pieces ≠ [])
    (h : ∀ piece ∈ pieces, Path.IsPiece piece) : Covers (.rest name) pieces

inductive IsInstance : List Segment → List (List String) → Prop where
  | nil : IsInstance [] []
  | cons {segment : Segment} {segments : List Segment} {pieces : List String}
    {choices : List (List String)} (h : segment.Covers pieces) (hTail : IsInstance segments choices) :
    IsInstance (segment :: segments) (pieces :: choices)

def Segment.param? (pieces : List String) : Segment → Option Param
  | .plain (.literal _) => none
  | .plain (.param name) => some (.ofPiece name (Path.join pieces))
  | .plain (.wildcard name) => some (.ofPiece name (Path.join pieces))
  | .union _ _ => none
  | .rest name => some (.ofRest name pieces)

end Routing
