import Routing.Dispatch

/-! # Sessions with a router

A session gives commands to one router, which is empty at first. Only a registration that succeeds
changes the router; every other command only asks it something. The requests in commands are spelled as they
come from outside. Their parts are validated from left to right, and the first one that is invalid is the
answer.
-/

namespace Routing

/-! ## Requests from outside -/

def readMethod (text : String) : Except Http.Invalid Http.Method :=
  match Http.Method.ofString? text with
  | some method => .ok method
  | none => .error .method

def readHeaders (headers : Http.HeaderMap) : List (String × Bytes) → Except Http.Invalid Http.HeaderMap
  | [] => .ok headers
  | (name, value) :: pairs =>
    match Http.readField name value with
    | .error part => .error part
    | .ok (name, value) => readHeaders (headers.append name value) pairs

def Slots.ofValues (values : List SlotValue) : Slots :=
  values.foldl Slots.insert .empty

structure Draft where
  method : String
  path : String
  headers : List (String × Bytes)
  body : Bytes
  services : List SlotValue
deriving DecidableEq

def Draft.exchange (draft : Draft) : Except Http.Invalid Exchange :=
  match readMethod draft.method with
  | .error part => .error part
  | .ok method =>
    match readHeaders .empty draft.headers with
    | .error part => .error part
    | .ok headers =>
      let request := Request.ofParts method draft.path headers (.buffered draft.body)
      .ok ⟨request, .empty, .ofValues draft.services⟩

def Draft.call (draft : Draft) (handler : Handler) : Except Http.Invalid Run :=
  draft.exchange.map handler

structure Arrival where
  method : String
  target : String
  headers : List (String × Bytes)
  body : List Chunk
  services : List SlotValue
deriving DecidableEq

def Arrival.incoming (arrival : Arrival) : Except Http.Invalid Incoming :=
  match readMethod arrival.method with
  | .error part => .error part
  | .ok method =>
    match Http.targetPath arrival.target with
    | .error fault => .error (.target fault)
    | .ok path => (readHeaders .empty arrival.headers).map (⟨method, path, ·, arrival.body⟩)

/-! ## Commands -/

inductive Command where
  | register (mode : RegistrationMode) (method pattern : String) (endpoint : Endpoint) (layers : List Layer)
  | lookup (method path : String)
  | params (method path : String) (names : List String)
  | allowed (path : String)
  | routes
  | print
  | printMatch (method path : String)
  | call (draft : Draft)
  | callBare (draft : Draft)
  | dispatch (arrival : Arrival)
deriving DecidableEq

/-- How many parameters there are, and the value and the captured text of those asked for. -/
structure ParamReport where
  size : Nat
  found : List (Option String × Option String)
deriving DecidableEq

def ParamReport.ofParams (names : List String) (params : List Param) : ParamReport where
  size := params.length
  found := names.map fun name =>
    ((findParam? params name).map Param.value, (findParam? params name).map Param.raw)

inductive Answer where
  | invalid (part : Http.Invalid)
  | invalidRegistration (part : Http.Invalid) (events : List Event)
  | added (size : Nat) (events : List Event)
  | refused (malformed : Malformed) (events : List Event)
  | panicked (text : String) (events : List Event)
  | lookup (found : Option Match)
  | params (report : Option ParamReport)
  | allowed (methods : List Http.Method)
  | routes (routes : List Route)
  | printed (text : String)
  | call (run : Option Run)
  | dispatch (dispatched : Dispatched) (size : Nat)

def Match.call (found : Match) (exchange : Exchange) : Run :=
  found.chain { exchange with request := found.attach exchange.request }

/-- The run of a match's handler without its layers, on the request as it is. -/
def Match.callBare (found : Match) (exchange : Exchange) : Run :=
  found.route.endpoint.handler exchange

namespace Router

def callAnswer (router : Router) (draft : Draft) (run : Match → Exchange → Run) : Answer :=
  match draft.exchange with
  | .error part => .invalid part
  | .ok exchange =>
    .call ((router.lookup? exchange.request.method exchange.request.path).map (run · exchange))

/-- The answer to a question about the match of a method and a path. -/
def matchAnswer (router : Router) (method path : String) (answer : Option Match → Answer) : Answer :=
  match readMethod method with
  | .error part => .invalid part
  | .ok method => answer (router.lookup? method path)

def execute (router : Router) : Command → Router × Answer
  | .register mode method pattern endpoint layers =>
    match readMethod method with
    | .error part => (router, .invalidRegistration part [])
    | .ok method =>
      match router.registerIn mode ⟨method, pattern, endpoint, layers⟩ with
      | .added router events => (router, .added router.routes.length events)
      | .refused malformed events => (router, .refused malformed events)
      | .panicked text events => (router, .panicked text events)
  | .lookup method path => (router, router.matchAnswer method path .lookup)
  | .params method path names =>
    let report (found : Match) := ParamReport.ofParams names found.captures.params
    (router, router.matchAnswer method path fun found => .params (found.map report))
  | .allowed path => (router, .allowed (router.allowedMethods path))
  | .routes => (router, .routes router.routes)
  | .print => (router, .printed router.print)
  | .printMatch method path =>
    (router, router.matchAnswer method path fun found => .printed (Printed.option (found.map Match.print)))
  | .call draft => (router, router.callAnswer draft Match.call)
  | .callBare draft => (router, router.callAnswer draft Match.callBare)
  | .dispatch arrival =>
    match arrival.incoming with
    | .error part => (router, .invalid part)
    | .ok incoming =>
      let dispatched := (⟨router, .ofValues arrival.services⟩ : Dispatcher).dispatch incoming
      (router, .dispatch dispatched router.routes.length)

def answers (router : Router) : List Command → List Answer
  | [] => []
  | command :: commands =>
    let (next, answer) := router.execute command
    answer :: next.answers commands

def after (router : Router) (commands : List Command) : Router :=
  commands.foldl (fun router command => (router.execute command).1) router

@[simp]
theorem answers_cons (router : Router) (command : Command) (commands : List Command) :
    router.answers (command :: commands) =
      (router.execute command).2 :: (router.execute command).1.answers commands := rfl

@[simp]
theorem after_cons (router : Router) (command : Command) (commands : List Command) :
    router.after (command :: commands) = (router.execute command).1.after commands := rfl

end Router

end Routing
