import Routing.Script.Action

/-! # Replies and layers

A reply says how a handler, or a layer that does not pass a request on, ends: with a response, with a fault
or in a panic. A layer stands around the rest of a chain. A traced layer reports how the rest ended. A scripted
layer first runs its actions, may then end the request itself, and at last works on the result.
-/

namespace Routing

inductive Finish where
  | json (body : Bytes)
  | text (body : String)
  | bytes (type : ContentType) (body : Bytes)
  | noBody
deriving DecidableEq

inductive Reply where
  | text (body : String)
  | json (body : Bytes)
  | status (code : Nat)
  | build (status : Option Nat) (headers : List (String × String)) (finish : Finish)
  | negotiate (fallback : String) (body : Bytes)
  | param (name : String)
  | echo
  | upload
  | fail (fault : Fault)
  | panic (text : String)
deriving DecidableEq

abbrev Result := Except Fault Response

inductive Outcome where
  | returned (result : Result)
  | panicked (text : String)

/-- The response made from a status code, which has to be valid. -/
def withStatus (code : Nat) (response : Http.Status → Response) : Result :=
  match Http.Status.ofNat? code with
  | some status => .ok (response status)
  | none => .error (.plain Http.Invalid.status.message)

def Finish.respond (headers : List (String × String)) (status : Http.Status) : Finish → Response
  | json body => .typed status .json headers body
  | text body => .typed status .text headers (utf8 body)
  | bytes type body => .typed status type headers body
  | noBody => ⟨status, headers, []⟩

/-- A streamed body is read and measured; a body that was read before is refused. -/
def uploadResult : Body → Result
  | .buffered _ => .ok (.ofStatus .badRequest)
  | .streaming chunks =>
    match readChunks chunks with
    | .ok bytes => .ok (.ofText ("streamed " ++ toString bytes.length ++ " bytes"))
    | .error text => .error (.plain text)

def Reply.outcome (request : Request) : Reply → Outcome
  | text body => .returned (.ok (.ofText body))
  | json body => .returned (.ok (.ofJson body))
  | status code => .returned (withStatus code .ofStatus)
  | build code headers finish => .returned (withStatus (code.getD 200) (finish.respond headers))
  | negotiate fallback body =>
    let type := (ContentType.ofFormat? (request.format.getD fallback)).getD .octetStream
    .returned (.ok (.typed .ok type [] body))
  | param name => .returned (.ok (.ofText ((request.param? name).getD "unknown")))
  | echo => .returned (.ok (.typed .ok .octetStream [] request.body.bytes))
  | upload => .returned (uploadResult request.body)
  | fail fault => .returned (.error fault)
  | panic message => .panicked message

inductive Step where
  | log (text : String)
  | see
  | setHeader (name value : String)
  | header (name : String)
  | setStatus (code : Nat)
  | fail (text : String)
  | recover (code : Nat)
  | wrap (text : String)
deriving DecidableEq

namespace Step

/-- The result after a step; a step for the other kind of result changes nothing. -/
def apply : Result → Step → Result
  | .ok response, setHeader name value => .ok (response.setHeader name value)
  | .ok response, setStatus code => withStatus code response.setStatus
  | .ok _, fail text => .error (.plain text)
  | .error _, recover code => withStatus code .ofStatus
  | .error fault, wrap text => .error (.plain (text ++ fault.text))
  | result, _ => result

def note? : Result → Step → Option Entry
  | _, log text => some (.text text)
  | .ok response, see => some (.response response)
  | .error fault, see => some (.fault fault)
  | .ok response, header name => some (.lookup (response.header? name))
  | _, _ => none

end Step

def applySteps (steps : List Step) (result : Result) : Result :=
  steps.foldl Step.apply result

def logSteps : List Step → Result → List Entry
  | [], _ => []
  | step :: steps, result => (step.note? result).toList ++ logSteps steps (step.apply result)

@[simp]
theorem applySteps_append (steps more : List Step) (result : Result) :
    applySteps (steps ++ more) result = applySteps more (applySteps steps result) :=
  List.foldl_append

theorem logSteps_append (steps more : List Step) (result : Result) :
    logSteps (steps ++ more) result = logSteps steps result ++ logSteps more (applySteps steps result) := by
  induction steps generalizing result with
  | nil => rfl
  | cons step steps ih => simp [logSteps, applySteps, ih]

structure LayerScript where
  before : List Action
  stop : Option Reply
  unlessHeader : Option String
  after : List Step
deriving DecidableEq

/-- The reply by which a layer ends a request itself; the header that exempts a request is looked up
after the layer's own actions. -/
def LayerScript.stopReply? (script : LayerScript) (request : Request) : Option Reply :=
  match script.unlessHeader with
  | none => script.stop
  | some name => if (request.header? name).isNone then script.stop else none

inductive Layer where
  | trace
  | scripted (script : LayerScript)
deriving DecidableEq

end Routing
