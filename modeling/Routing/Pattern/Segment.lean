import Routing.Path

/-! # Segments of a route pattern

A segment says what one piece of a path has to look like, and the last segment may take all the
pieces that remain. `Segment.print` writes a segment as it stands in a pattern, and `WellFormed`
singles out the segment lists that a pattern can spell.
-/

namespace Routing

/-- The stem of a segment is what it says about a piece, an extension apart. -/
inductive Stem where
  | literal (text : String)
  | param (name : String)
  | wildcard (name : String)
deriving DecidableEq

inductive Segment where
  | plain (stem : Stem)
  | union (stem : Stem) (extensions : List String)
  | rest (name : String)
deriving DecidableEq

def Stem.print : Stem → String
  | .literal text => text
  | .param name => ":" ++ name
  | .wildcard name => "*" ++ name

def Segment.print : Segment → String
  | .plain stem => stem.print
  | .union stem extensions => stem.print ++ ".\x7b" ++ ",".intercalate extensions ++ "\x7d"
  | .rest name => "**" ++ name

/-- The parameter that a segment captures; an extension union captures none. -/
def Segment.paramName? : Segment → Option String
  | .plain (.literal _) => none
  | .plain (.param name) => some name
  | .plain (.wildcard name) => some name
  | .union _ _ => none
  | .rest name => some name

def Segment.IsRest (segment : Segment) : Prop :=
  ∃ name, segment = .rest name

instance (segment : Segment) : Decidable segment.IsRest :=
  match segment with
  | .rest name => isTrue ⟨name, rfl⟩
  | .plain _ => isFalse fun ⟨_, h⟩ => by cases h
  | .union _ _ => isFalse fun ⟨_, h⟩ => by cases h

@[simp]
theorem Segment.isRest_rest (name : String) : (Segment.rest name).IsRest := ⟨name, rfl⟩

@[simp]
theorem Segment.not_isRest_plain (stem : Stem) : ¬ (Segment.plain stem).IsRest := by
  rintro ⟨_, h⟩
  cases h

@[simp]
theorem Segment.not_isRest_union (stem : Stem) (extensions : List String) :
    ¬ (Segment.union stem extensions).IsRest := by
  rintro ⟨_, h⟩
  cases h

def reserved : List Char :=
  [':', '*', '.', '{', '}']

/-- A literal holds no brace and does not begin like a parameter or a wildcard. -/
def IsLiteral (text : String) : Prop :=
  Path.IsPiece text ∧ (∀ c ∈ ['{', '}'], c ∉ text.toList) ∧
    ∀ c ∈ [':', '*'], text.toList.head? ≠ some c

def IsName (name : String) : Prop :=
  Path.IsPiece name ∧ ∀ c ∈ reserved, c ∉ name.toList

def IsExtension (text : String) : Prop :=
  Path.IsPiece text ∧ ∀ c ∈ ['.', ',', '{', '}'], c ∉ text.toList

def Stem.WellFormed : Stem → Prop
  | .literal text => IsLiteral text
  | .param name => IsName name
  | .wildcard name => IsName name

def Segment.WellFormed : Segment → Prop
  | .plain stem => stem.WellFormed
  | .union stem extensions => stem.WellFormed ∧ extensions ≠ [] ∧ ∀ text ∈ extensions, IsExtension text
  | .rest name => IsName name

/-- Every segment is well formed, and only the last one may take the remaining pieces. -/
def WellFormed : List Segment → Prop
  | [] => True
  | segment :: segments =>
    segment.WellFormed ∧ (segment.IsRest → segments = []) ∧ WellFormed segments

end Routing
