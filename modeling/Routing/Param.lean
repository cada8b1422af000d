import Routing.Path
import Routing.Text.Split
import Routing.Text.Utf8

/-! # Captured parameters

A captured text such as `report.tar.gz` names a format behind its last dot, provided that something stands on
both sides of that dot. A parameter keeps the text that it captured and the byte offset of the dot; its value
and its format are cut out of the text there.
-/

namespace Routing

namespace Format

def lastDot? (raw : String) : Option Nat :=
  (Text.splitLast? '.' raw.toList).map fun (front, _) => (utf8 (String.ofList front)).length

def dot? (raw : String) : Option Nat :=
  (lastDot? raw).filter fun dot => 0 < dot && dot + 1 < (utf8 raw).length

/-- The text taken apart at its last dot, with something on both sides of it. -/
structure Divides (raw value format : String) : Prop where
  eq_append : raw = value ++ "." ++ format
  value_ne : value ≠ ""
  format_ne : format ≠ ""
  dot_not_mem : '.' ∉ format.toList

theorem length_utf8_append_dot (value format : String) :
    (utf8 (value ++ "." ++ format)).length = (utf8 value).length + 1 + (utf8 format).length := by
  rw [utf8_append, utf8_append, List.length_append, List.length_append]
  rfl

theorem lastDot?_eq_some_iff {raw : String} {dot : Nat} :
    lastDot? raw = some dot ↔ ∃ value format : String, raw = value ++ "." ++ format ∧ '.' ∉ format.toList ∧
      (utf8 value).length = dot := by
  constructor
  · intro h
    obtain ⟨⟨front, back⟩, hSplit, hLength⟩ := Option.map_eq_some_iff.mp h
    obtain ⟨hRaw, hFree⟩ := Text.splitLast?_eq_some_iff.mp hSplit
    exact ⟨String.ofList front, String.ofList back, String.toList_injective (by simp [hRaw]),
      by simpa using hFree, hLength⟩
  · rintro ⟨value, format, rfl, hFree, rfl⟩
    have hSplit := Text.splitLast?_append_cons value.toList format.toList hFree
    have hRaw : (value ++ "." ++ format).toList = value.toList ++ '.' :: format.toList := by simp
    rw [lastDot?, hRaw, hSplit, Option.map_some]
    simp only [String.ofList_toList]

theorem dot?_eq_some_iff {raw : String} {dot : Nat} :
    dot? raw = some dot ↔ ∃ value format, Divides raw value format ∧ (utf8 value).length = dot := by
  rw [dot?, Option.filter_eq_some_iff, lastDot?_eq_some_iff, Bool.and_eq_true, decide_eq_true_eq,
    decide_eq_true_eq]
  constructor
  · rintro ⟨⟨value, format, rfl, hFree, rfl⟩, hBefore, hBehind⟩
    rw [length_utf8_append_dot] at hBehind
    exact ⟨value, format, ⟨rfl, length_utf8_pos_iff.mp hBefore, length_utf8_pos_iff.mp (by omega), hFree⟩, rfl⟩
  · rintro ⟨value, format, ⟨rfl, hValue, hFormat, hFree⟩, rfl⟩
    have hBehind := length_utf8_pos_iff.mpr hFormat
    rw [length_utf8_append_dot]
    exact ⟨⟨value, format, rfl, hFree, rfl⟩, length_utf8_pos_iff.mpr hValue, by omega⟩

theorem Divides.cut?_eq {raw value format : String} (h : Divides raw value format) :
    Text.cut? raw (utf8 value).length = some (value, "." ++ format) ∧
      Text.cut? raw ((utf8 value).length + 1) = some (value ++ ".", format) := by
  constructor
  · rw [Text.cut?_eq_some_iff, h.eq_append, String.append_assoc]
    exact ⟨rfl, rfl⟩
  · rw [Text.cut?_eq_some_iff, utf8_append, List.length_append]
    exact ⟨h.eq_append, rfl⟩

theorem canCut_of_dot? {raw : String} {dot : Nat} (h : dot? raw = some dot) :
    Text.CanCut raw dot ∧ Text.CanCut raw (dot + 1) := by
  obtain ⟨value, format, hDivides, rfl⟩ := dot?_eq_some_iff.mp h
  exact ⟨Text.canCut_of_cut? hDivides.cut?_eq.1, Text.canCut_of_cut? hDivides.cut?_eq.2⟩

def split (raw : String) : String × Option String :=
  match h : dot? raw with
  | some dot =>
    (Text.before raw dot (canCut_of_dot? h).1, some (Text.behind raw (dot + 1) (canCut_of_dot? h).2))
  | none => (raw, none)

theorem split_eq_some_iff {raw value format : String} :
    split raw = (value, some format) ↔ Divides raw value format := by
  constructor
  · intro h
    rw [split] at h
    split at h
    · rename_i dot hDot
      obtain ⟨front, back, hDivides, rfl⟩ := dot?_eq_some_iff.mp hDot
      rw [Text.before_eq hDivides.cut?_eq.1, Text.behind_eq hDivides.cut?_eq.2] at h
      cases h
      exact hDivides
    · cases h
  · intro h
    have hDot : dot? raw = some (utf8 value).length := dot?_eq_some_iff.mpr ⟨value, format, h, rfl⟩
    rw [split]
    split
    · rename_i dot hSome
      cases hDot.symm.trans hSome
      rw [Text.before_eq h.cut?_eq.1, Text.behind_eq h.cut?_eq.2]
    · rename_i hNone
      cases hDot.symm.trans hNone

end Format

/-- A captured text, with the offset of the dot between its value and its format. The text may be cut on both
sides of the dot. -/
structure Param where
  name : String
  raw : String
  dot : Option Nat
  cuts : ∀ offset ∈ dot, Text.CanCut raw offset ∧ Text.CanCut raw (offset + 1)
deriving DecidableEq

namespace Param

def ofPiece (name raw : String) : Param :=
  ⟨name, raw, Format.dot? raw, fun _ => Format.canCut_of_dot?⟩

/-- The capture of all remaining pieces, which is never split. -/
def ofRest (name : String) (pieces : List String) : Param :=
  ⟨name, Path.join pieces, none, by simp⟩

def value (param : Param) : String :=
  match param.dot, param.cuts with
  | none, _ => param.raw
  | some dot, cuts => Text.before param.raw dot (cuts dot rfl).1

def format (param : Param) : Option String :=
  match param.dot, param.cuts with
  | none, _ => none
  | some dot, cuts => some (Text.behind param.raw (dot + 1) (cuts dot rfl).2)

theorem value_format_of_dot {param : Param} {dot : Nat} (h : param.dot = some dot) :
    (param.value, param.format) =
      (Text.before param.raw dot (param.cuts dot h).1,
        some (Text.behind param.raw (dot + 1) (param.cuts dot h).2)) := by
  cases param
  cases h
  rfl

theorem value_format_of_not_dot {param : Param} (h : param.dot = none) :
    (param.value, param.format) = (param.raw, none) := by
  cases param
  cases h
  rfl

/-- Cutting at the kept offset gives what the format rule says about the whole text. -/
theorem value_format_ofPiece (name raw : String) :
    ((ofPiece name raw).value, (ofPiece name raw).format) = Format.split raw := by
  rw [Format.split]
  split
  · rename_i dot hDot
    exact value_format_of_dot hDot
  · rename_i hNone
    exact value_format_of_not_dot hNone

end Param

def findParam? (params : List Param) (name : String) : Option Param :=
  params.find? (·.name == name)

end Routing
