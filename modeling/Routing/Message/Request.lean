import Routing.Http.Header
import Routing.Param

/-! # Requests

The body of a request is either read already or still a stream of chunks. Reading a stream ends at its first
failure.
-/

namespace Routing

inductive Chunk where
  | data (bytes : Bytes)
  | failure (text : String)
deriving DecidableEq

/-- The concatenated chunks, or the text of the first failure. -/
def readChunks : List Chunk → Except String Bytes
  | [] => .ok []
  | .data bytes :: chunks => (readChunks chunks).map (bytes ++ ·)
  | .failure text :: _ => .error text

@[simp]
theorem readChunks_map_data (pieces : List Bytes) :
    readChunks (pieces.map .data) = .ok pieces.flatten := by
  induction pieces with
  | nil => rfl
  | cons piece pieces ih => simp [readChunks, ih, Except.map]

/-- Nothing counts but the first failure, if there is one. -/
theorem readChunks_map_data_append_failure (pieces : List Bytes) (text : String) (chunks : List Chunk) :
    readChunks (pieces.map .data ++ .failure text :: chunks) = .error text := by
  induction pieces with
  | nil => rfl
  | cons piece pieces ih => simp [readChunks, ih, Except.map]

inductive Body where
  | buffered (bytes : Bytes)
  | streaming (chunks : List Chunk)
deriving DecidableEq

namespace Body

def empty : Body :=
  .buffered []

def isStreaming : Body → Bool
  | buffered _ => false
  | streaming _ => true

/-- What can be seen of a body without reading a stream. -/
def bytes : Body → Bytes
  | buffered bytes => bytes
  | streaming _ => []

def read : Body → Except String Bytes
  | buffered bytes => .ok bytes
  | streaming chunks => readChunks chunks

def describe : Body → String
  | buffered bytes => "Buffered(" ++ toString bytes.length ++ ")"
  | streaming _ => "Streaming"

end Body

structure Request where
  method : Http.Method
  path : String
  headers : Http.HeaderMap
  body : Body
  params : List Param
  format : Option String
deriving DecidableEq

namespace Request

def ofParts (method : Http.Method) (path : String) (headers : Http.HeaderMap) (body : Body) : Request :=
  ⟨method, path, headers, body, [], none⟩

def root : Request :=
  ofParts .get "/" .empty .empty

def withRoute (request : Request) (params : List Param) (format : Option String) : Request :=
  { request with params, format }

def withBody (request : Request) (bytes : Bytes) : Request :=
  { request with body := .buffered bytes }

def takeBody (request : Request) : Body × Request :=
  (request.body, { request with body := .empty })

/-- The first value of a header, if it is a text. -/
def header? (request : Request) (name : String) : Option String := do
  let name ← Http.HeaderName.ofString? name
  let value ← (request.headers.values name).head?
  value.text?

def param? (request : Request) (name : String) : Option String :=
  (findParam? request.params name).map Param.value

end Request

end Routing
