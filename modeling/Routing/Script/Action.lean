import Routing.Message.Request
import Routing.Message.Response

/-! # Actions

An action reads or changes the request and the context that come down a chain, and may add an entry to
the log. No action fails. A context belongs to one request and services to a whole application; both keep at
most one value of each kind, a number or a text.
-/

namespace Routing

/-! ## Slots -/

inductive Slot where
  | number
  | text
deriving DecidableEq

inductive SlotValue where
  | number (value : Int64)
  | text (value : String)
deriving DecidableEq

structure Slots where
  number : Option Int64
  text : Option String
deriving DecidableEq

namespace Slots

def empty : Slots :=
  ⟨none, none⟩

def get? (slots : Slots) : Slot → Option SlotValue
  | .number => slots.number.map .number
  | .text => slots.text.map .text

def erase (slots : Slots) : Slot → Slots
  | .number => { slots with number := none }
  | .text => { slots with text := none }

def insert (slots : Slots) : SlotValue → Slots
  | .number value => { slots with number := some value }
  | .text value => { slots with text := some value }

/-- Adds a number to the stored one, or a text behind the stored one. -/
def extend (slots : Slots) : SlotValue → Slots
  | .number value => { slots with number := slots.number.map (· + value) }
  | .text value => { slots with text := slots.text.map (· ++ value) }

end Slots

def SlotValue.slot : SlotValue → Slot
  | number _ => .number
  | text _ => .text

/-! ## Log entries

An entry about a body never tells how a stream was cut into chunks.
-/

/-- An error that a handler or a layer returns in place of a response. -/
structure Fault where
  text : String
  code : Option Int
deriving DecidableEq

def Fault.plain (text : String) : Fault :=
  ⟨text, none⟩

structure RequestView where
  method : Http.Method
  path : String
  params : List Param
  format : Option String
  streaming : Bool
  body : Bytes
  headers : Http.HeaderMap
deriving DecidableEq

def Request.view (request : Request) : RequestView where
  method := request.method
  path := request.path
  params := request.params
  format := request.format
  streaming := request.body.isStreaming
  body := request.body.bytes
  headers := request.headers

inductive Entry where
  | text (text : String)
  | lookup (value : Option String)
  | slot (value : Option SlotValue)
  | request (view : RequestView)
  | taken (form : String) (bytes : Bytes)
  | unread (form : String) (error : String)
  | response (response : Response)
  | fault (fault : Fault)
deriving DecidableEq

def Entry.ofTaken (body : Body) : Entry :=
  match body.read with
  | .ok bytes => .taken body.describe bytes
  | .error error => .unread body.describe error

/-! ## Actions -/

structure Exchange where
  request : Request
  context : Slots
  services : Slots
deriving DecidableEq

inductive Action where
  | log (text : String)
  | header (name : String)
  | param (name : String)
  | see
  | setHeader (name : String) (value : Bytes)
  | withBody (bytes : Bytes)
  | clearRoute (format : Option String)
  | takeBody
  | contextInsert (value : SlotValue)
  | contextGet (slot : Slot)
  | contextRemove (slot : Slot)
  | contextExtend (value : SlotValue)
  | service (slot : Slot)
deriving DecidableEq

namespace Action

def apply (exchange : Exchange) : Action → Exchange
  | setHeader name value =>
    match Http.field? name value with
    | some (name, value) =>
      let headers := exchange.request.headers.insert name value
      { exchange with request := { exchange.request with headers } }
    | none => exchange
  | withBody bytes => { exchange with request := exchange.request.withBody bytes }
  | clearRoute format => { exchange with request := exchange.request.withRoute [] format }
  | takeBody => { exchange with request := exchange.request.takeBody.2 }
  | contextInsert value => { exchange with context := exchange.context.insert value }
  | contextRemove slot => { exchange with context := exchange.context.erase slot }
  | contextExtend value => { exchange with context := exchange.context.extend value }
  | log _ | header _ | param _ | see | contextGet _ | service _ => exchange

def note? (exchange : Exchange) : Action → Option Entry
  | log text => some (.text text)
  | header name => some (.lookup (exchange.request.header? name))
  | param name => some (.lookup (exchange.request.param? name))
  | see => some (.request exchange.request.view)
  | setHeader name value =>
    if (Http.field? name value).isNone then some (.text "invalid header") else none
  | withBody _ => none
  | clearRoute _ => none
  | takeBody => some (.ofTaken exchange.request.body)
  | contextInsert value => some (.slot (exchange.context.get? value.slot))
  | contextGet slot => some (.slot (exchange.context.get? slot))
  | contextRemove slot => some (.slot (exchange.context.get? slot))
  | contextExtend value => some (.slot ((exchange.context.extend value).get? value.slot))
  | service slot => some (.slot (exchange.services.get? slot))

end Action

def applyActions (actions : List Action) (exchange : Exchange) : Exchange :=
  actions.foldl Action.apply exchange

def logActions : List Action → Exchange → List Entry
  | [], _ => []
  | action :: actions, exchange =>
    (action.note? exchange).toList ++ logActions actions (action.apply exchange)

@[simp]
theorem applyActions_append (actions more : List Action) (exchange : Exchange) :
    applyActions (actions ++ more) exchange = applyActions more (applyActions actions exchange) :=
  List.foldl_append

theorem logActions_append (actions more : List Action) (exchange : Exchange) :
    logActions (actions ++ more) exchange =
      logActions actions exchange ++ logActions more (applyActions actions exchange) := by
  induction actions generalizing exchange with
  | nil => rfl
  | cons action actions ih => simp [logActions, applyActions, ih]

end Routing
