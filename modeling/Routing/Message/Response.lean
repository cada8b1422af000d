import Routing.Event
import Routing.Http.Header

/-! # Responses

A response keeps its headers as a list of spelled pairs. On its way out the pairs whose name and value
are valid are put into a header map, and every other pair is dropped with a warning.
-/

namespace Routing

inductive ContentType where
  | csv
  | eventStream
  | html
  | json
  | octetStream
  | text
  | xml
deriving DecidableEq

namespace ContentType

def header : ContentType → String
  | csv => "text/csv"
  | eventStream => "text/event-stream"
  | html => "text/html; charset=utf-8"
  | json => "application/json"
  | octetStream => "application/octet-stream"
  | text => "text/plain; charset=utf-8"
  | xml => "application/xml"

def ofFormat? : String → Option ContentType
  | "csv" => some csv
  | "html" => some html
  | "htm" => some html
  | "json" => some json
  | "bin" => some octetStream
  | "txt" => some text
  | "xml" => some xml
  | _ => none

end ContentType

structure Response where
  status : Http.Status
  headers : List (String × String)
  body : Bytes
deriving DecidableEq

/-- A response as it is sent. -/
structure Http.Response where
  status : Http.Status
  headers : Http.HeaderMap
  body : Bytes
deriving DecidableEq

namespace Response

def ofStatus (status : Http.Status) : Response :=
  ⟨status, [], []⟩

def typed (status : Http.Status) (type : ContentType) (headers : List (String × String))
    (body : Bytes) : Response :=
  ⟨status, ("content-type", type.header) :: headers, body⟩

def ofText (text : String) : Response :=
  typed .ok .text [] (utf8 text)

def ofJson (body : Bytes) : Response :=
  typed .ok .json [] body

def header? (response : Response) (name : String) : Option String :=
  (response.headers.find? fun pair => Http.SameName pair.1 name).map (·.2)

/-- Replaces all values of a header; its new pair comes last. -/
def setHeader (response : Response) (name value : String) : Response :=
  { response with
    headers := (response.headers.filter fun pair => ¬ Http.SameName pair.1 name) ++ [(name, value)] }

def setStatus (response : Response) (status : Http.Status) : Response :=
  { response with status }

def validPair? (pair : String × String) : Option (Http.HeaderName × Http.HeaderValue) :=
  Http.field? pair.1 (utf8 pair.2)

/-- Puts a valid pair into the header map and warns about any other one, with its name as it is spelled. -/
def sendPair (sent : Http.HeaderMap × List Event) (pair : String × String) : Http.HeaderMap × List Event :=
  match validPair? pair with
  | some (name, value) => (sent.1.append name value, sent.2)
  | none => (sent.1, sent.2 ++ [.headerDropped pair.1])

def sendHeaders (response : Response) : Http.HeaderMap × List Event :=
  response.headers.foldl sendPair (.empty, [])

def toHttp (response : Response) : Http.Response :=
  ⟨response.status, response.sendHeaders.1, response.body⟩

def droppedHeaders (response : Response) : List Event :=
  response.sendHeaders.2

end Response

end Routing
