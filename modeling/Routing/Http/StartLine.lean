import Routing.Text.Utf8

/-! # Start lines

The parts of a message that come before its headers: the method and the target of a request, and the status
code of a response. They are read by the rules of the HTTP library that routing builds on.
-/

namespace Routing.Http

inductive TargetFault where
  | empty
  | tooLong
  | character
  | scheme
  | authority
  | format
deriving DecidableEq

def TargetFault.message : TargetFault → String
  | empty => "empty string"
  | tooLong => "uri too long"
  | character => "invalid uri character"
  | scheme => "scheme too long"
  | authority => "invalid authority"
  | format => "invalid format"

inductive Invalid where
  | method
  | headerName
  | headerValue
  | status
  | target (fault : TargetFault)
deriving DecidableEq

def Invalid.message : Invalid → String
  | method => "invalid HTTP method"
  | headerName => "invalid HTTP header name"
  | headerValue => "failed to parse header value"
  | status => "invalid status code"
  | target fault => fault.message

/-! ## Methods -/

def isTokenChar (c : Char) : Bool :=
  c.isAlphanum || "!#$%&'*+-.^_`|~".toList.contains c

def IsToken (text : String) : Prop :=
  text ≠ "" ∧ text.toList.all isTokenChar

instance (text : String) : Decidable (IsToken text) :=
  inferInstanceAs (Decidable (text ≠ "" ∧ text.toList.all isTokenChar))

/-- A request method; two methods are the same when they are spelled the same. -/
structure Method where
  name : String
  isToken : IsToken name
deriving DecidableEq

def Method.ofString? (text : String) : Option Method :=
  if h : IsToken text then some ⟨text, h⟩ else none

def Method.get : Method :=
  ⟨"GET", by decide⟩

theorem Method.ofString?_eq_some_iff {text : String} {method : Method} :
    ofString? text = some method ↔ method.name = text := by
  unfold ofString?
  constructor
  · intro h
    split at h
    · cases h
      rfl
    · cases h
  · rintro rfl
    rw [dif_pos method.isToken]

/-! ## Targets

A target is a path, an authority alone, or a scheme and an authority with a path behind them. A query and a
fragment may follow the path. Only the path counts for routing, and it is not decoded.
-/

def maxTargetLength : Nat := 65534

def maxSchemeLength : Nat := 64

/-- The most colons that are read in an authority before a bracket is closed or an `@` comes. -/
def maxColons : Nat := 8

def isSchemeChar (c : Char) : Bool :=
  c.isAlphanum || "+-.".toList.contains c

def isAuthorityChar (c : Char) : Bool :=
  c.isAlphanum || "!$&'()*+,-.;=_~".toList.contains c

def isPathChar (c : Char) : Bool :=
  ' ' < c && !"<>`".toList.contains c

def isQueryChar (c : Char) : Bool :=
  ' ' < c && !"\"<>".toList.contains c

/-- Whether a query or a fragment begins here. -/
def endsPath (c : Char) : Bool :=
  c = '?' || c = '#'

/-- What has been seen of an authority; a closed bracket or an `@` lets the colons and the percent signs in
front of it be forgotten. -/
structure AuthorityScan where
  colons : Nat
  opened : Bool
  closed : Bool
  percent : Bool

namespace AuthorityScan

def start : AuthorityScan :=
  ⟨0, false, false, false⟩

def next (scan : AuthorityScan) (c : Char) : Except TargetFault AuthorityScan :=
  match c with
  | ':' => if scan.colons < maxColons then .ok { scan with colons := scan.colons + 1 } else .error .authority
  | '[' => if scan.percent || scan.opened then .error .authority else .ok { scan with opened := true }
  | ']' =>
    if !scan.opened || scan.closed then .error .authority
    else .ok { scan with closed := true, colons := 0, percent := false }
  | '@' => .ok { scan with colons := 0, percent := false }
  | '%' => .ok { scan with percent := true }
  | c => if isAuthorityChar c then .ok scan else .error .character

/-- Brackets come in pairs, and at most the colon of a port is left. -/
def accepts (scan : AuthorityScan) : Bool :=
  scan.opened = scan.closed && scan.colons ≤ 1 && !scan.percent

end AuthorityScan

def checkAuthority (text : List Char) : Except TargetFault Unit := do
  let scan ← text.foldlM AuthorityScan.next .start
  if scan.accepts && text.getLast? ≠ some '@' then pure () else throw .authority

def readAuthority (text : List Char) : Except TargetFault (List Char × List Char) :=
  let (authority, rest) := text.span fun c => c ≠ '/' && !endsPath c
  (checkAuthority authority).map fun _ => (authority, rest)

/-- The path at the beginning of a text; the query behind it is checked, a fragment is not. -/
def readPath (text : List Char) : Except TargetFault String :=
  let (path, rest) := text.span fun c => !endsPath c
  let query :=
    match rest with
    | '?' :: query => query.takeWhile (· ≠ '#')
    | _ => []
  if path.all isPathChar && query.all isQueryChar then
    .ok (if path = [] then "/" else String.ofList path)
  else .error .character

def splitScheme? (text : List Char) : Option (List Char × List Char) :=
  match text.span isSchemeChar with
  | (name, ':' :: '/' :: '/' :: rest) => some (name, rest)
  | _ => none

/-- The path of a target; an authority alone has none. -/
def targetPath (target : String) : Except TargetFault String :=
  let text := target.toList
  if maxTargetLength < (utf8 target).length then .error .tooLong
  else if text = [] then .error .empty
  else if text = ['*'] then .ok target
  else if text.head? = some '/' then readPath text
  else
    match splitScheme? text with
    | none => do
      let (_, rest) ← readAuthority text
      if rest = [] then pure "" else throw (if text.length = 1 then .character else .format)
    | some (name, text) =>
      if maxSchemeLength < name.length then .error .scheme
      else do
        let (authority, rest) ← readAuthority text
        if authority = [] then throw .format else readPath rest

/-! ## Status codes -/

structure Status where
  code : Nat
  three_digits : 100 ≤ code ∧ code ≤ 999
deriving DecidableEq

namespace Status

def ofNat? (code : Nat) : Option Status :=
  if h : 100 ≤ code ∧ code ≤ 999 then some ⟨code, h⟩ else none

def ok : Status := ⟨200, by decide⟩

def badRequest : Status := ⟨400, by decide⟩

def notFound : Status := ⟨404, by decide⟩

def methodNotAllowed : Status := ⟨405, by decide⟩

def internalServerError : Status := ⟨500, by decide⟩

end Status

end Routing.Http
