import Routing.Http.StartLine

/-! # Headers

The names of headers are compared without regard to the case of ASCII letters, so a name is kept in
lower case. A header map holds any number of values for a name, in the order in which they came.

Names, values and maps follow the documented rules of the HTTP library that routing builds on.
-/

namespace Routing.Http

/-! ## Names -/

def lower (text : String) : String :=
  String.ofList (text.toList.map Char.toLower)

/-- Equality up to the case of ASCII letters. -/
def SameName (name other : String) : Prop :=
  lower name = lower other

instance (name other : String) : Decidable (SameName name other) :=
  inferInstanceAs (Decidable (lower name = lower other))

def maxNameLength : Nat := 65535

def IsHeaderName (text : String) : Prop :=
  IsToken text ∧ text.length ≤ maxNameLength

instance (text : String) : Decidable (IsHeaderName text) :=
  inferInstanceAs (Decidable (IsToken text ∧ text.length ≤ maxNameLength))

structure HeaderName where
  name : String
  valid : ∃ text, IsHeaderName text ∧ name = lower text
deriving DecidableEq

def HeaderName.ofString? (text : String) : Option HeaderName :=
  if h : IsHeaderName text then some ⟨lower text, text, h, rfl⟩ else none

theorem HeaderName.ofString?_eq_some_iff {text : String} {name : HeaderName} :
    ofString? text = some name ↔ IsHeaderName text ∧ name.name = lower text := by
  unfold ofString?
  constructor
  · intro h
    split at h
    · rename_i hText
      cases h
      exact ⟨hText, rfl⟩
    · cases h
  · rintro ⟨hText, hName⟩
    rw [dif_pos hText, Option.some.injEq, HeaderName.mk.injEq]
    exact hName.symm

/-! ## Values -/

/-- A tab or any byte that is no control character. -/
def isFieldByte (byte : UInt8) : Bool :=
  byte = 9 || (32 ≤ byte && byte ≠ 127)

/-- A tab or a printable ASCII character. -/
def isTextByte (byte : UInt8) : Bool :=
  byte = 9 || (32 ≤ byte && byte < 127)

structure HeaderValue where
  bytes : Bytes
  valid : bytes.all isFieldByte
deriving DecidableEq

namespace HeaderValue

def ofBytes? (bytes : Bytes) : Option HeaderValue :=
  if h : bytes.all isFieldByte then some ⟨bytes, h⟩ else none

theorem ofBytes?_eq_some_iff {bytes : Bytes} {value : HeaderValue} :
    ofBytes? bytes = some value ↔ value.bytes = bytes := by
  unfold ofBytes?
  constructor
  · intro h
    split at h
    · cases h
      rfl
    · cases h
  · rintro rfl
    rw [dif_pos value.valid]

def text? (value : HeaderValue) : Option String :=
  if value.bytes.all isTextByte then
    some (String.ofList (value.bytes.map fun byte => Char.ofNat byte.toNat))
  else none

end HeaderValue

/-- The entry that a name and a value make; the name is validated before the value. -/
def readField (name : String) (value : Bytes) : Except Invalid (HeaderName × HeaderValue) :=
  match HeaderName.ofString? name with
  | none => .error .headerName
  | some name =>
    match HeaderValue.ofBytes? value with
    | none => .error .headerValue
    | some value => .ok (name, value)

def field? (name : String) (value : Bytes) : Option (HeaderName × HeaderValue) :=
  (readField name value).toOption

theorem field?_eq_some_iff {name : String} {value : Bytes} {entry : HeaderName × HeaderValue} :
    field? name value = some entry ↔ HeaderName.ofString? name = some entry.1 ∧ entry.2.bytes = value := by
  rw [← HeaderValue.ofBytes?_eq_some_iff, field?, readField]
  constructor
  · intro h
    split at h
    · cases h
    · rename_i hName
      split at h
      · cases h
      · rename_i hValue
        cases h
        exact ⟨hName, hValue⟩
  · rintro ⟨hName, hValue⟩
    rw [hName, hValue]
    rfl

/-! ## Maps -/

/-- The entries of a header map, in the order in which they were added. -/
structure HeaderMap where
  entries : List (HeaderName × HeaderValue)
deriving DecidableEq

namespace HeaderMap

def empty : HeaderMap :=
  ⟨[]⟩

def append (headers : HeaderMap) (name : HeaderName) (value : HeaderValue) : HeaderMap :=
  ⟨headers.entries ++ [(name, value)]⟩

def erase (headers : HeaderMap) (name : HeaderName) : HeaderMap :=
  ⟨headers.entries.filter fun entry => entry.1 ≠ name⟩

/-- Makes `value` the only value of `name`. -/
def insert (headers : HeaderMap) (name : HeaderName) (value : HeaderValue) : HeaderMap :=
  (headers.erase name).append name value

/-- The values of `name`, in the order in which they were added. -/
def values (headers : HeaderMap) (name : HeaderName) : List HeaderValue :=
  headers.entries.filterMap fun entry => if entry.1 = name then some entry.2 else none

def sorted (headers : HeaderMap) : List (HeaderName × HeaderValue) :=
  headers.entries.mergeSort fun entry other => entry.1.name ≤ other.1.name

end HeaderMap

end Routing.Http
