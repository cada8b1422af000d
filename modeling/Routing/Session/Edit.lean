import Routing.Session.Command

/-! # Edits of responses and of services

A response can be edited in place. Services are shared by cloning: extending a clone leaves the value it
was cloned from as it was.
-/

namespace Routing

inductive ResponseEdit where
  | setHeader (name value : String)
  | setStatus (code : Nat)
  | header (name : String)
deriving DecidableEq

inductive ResponseAnswer where
  | headers (pairs : List (String × String))
  | status (status : Http.Status)
  | invalid (part : Http.Invalid)
  | header (value : Option String)
deriving DecidableEq

def Response.edit (response : Response) : ResponseEdit → Response × ResponseAnswer
  | .setHeader name value =>
    let response := response.setHeader name value
    (response, .headers response.headers)
  | .setStatus code =>
    match Http.Status.ofNat? code with
    | some status => (response.setStatus status, .status status)
    | none => (response, .invalid .status)
  | .header name => (response, .header (response.header? name))

def Response.edits (response : Response) : List ResponseEdit → Response × List ResponseAnswer
  | [] => (response, [])
  | edit :: edits =>
    let (next, answer) := response.edit edit
    let (last, answers) := next.edits edits
    (last, answer :: answers)

inductive ServicesEdit where
  | extendClone (source : Nat) (value : SlotValue)
  | extend (target : Nat) (value : SlotValue)
  | get (source : Nat) (slot : Slot)
deriving DecidableEq

inductive ServicesAnswer where
  | index (index : Nat)
  | value (value : Option SlotValue)
deriving DecidableEq

/-- The services after an edit, and the answer to it: the index of the changed value, or what was asked
for. -/
def editServices (all : List Slots) : ServicesEdit → List Slots × ServicesAnswer
  | .extendClone source value =>
    (all ++ [(all.getD source .empty).insert value], .index all.length)
  | .extend target value => (all.modify target (·.insert value), .index target)
  | .get source slot => (all, .value ((all.getD source .empty).get? slot))

def servicesAnswers (all : List Slots) : List ServicesEdit → List ServicesAnswer
  | [] => []
  | edit :: edits =>
    let (next, answer) := editServices all edit
    answer :: servicesAnswers next edits

end Routing
