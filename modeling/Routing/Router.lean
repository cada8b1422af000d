import Routing.Chain
import Routing.Pattern.Captures
import Routing.Text.Quoted

/-! # Routers

A router is the list of its routes in the order of their registration. A request belongs to the first
route whose method is the request's and whose pattern matches the path.
-/

namespace Routing

structure Route where
  method : Http.Method
  pattern : Pattern
  endpoint : Endpoint
  layers : List Layer
  streaming : Bool

def Route.captures? (method : Http.Method) (pieces : List String) (route : Route) : Option Captures :=
  if route.method = method then route.pattern.captures? pieces else none

structure Router where
  routes : List Route

structure Match where
  route : Route
  captures : Captures

namespace Match

def attach (found : Match) (request : Request) : Request :=
  request.withRoute found.captures.params found.captures.format

def chain (found : Match) : Handler :=
  Routing.chain found.route.layers found.route.endpoint.handler

end Match

namespace Router

def empty : Router :=
  ⟨[]⟩

/-- The earliest route for the same method with an equivalent pattern. -/
def shadowing? (router : Router) (method : Http.Method) (pattern : Pattern) : Option Route :=
  router.routes.find? fun route => route.method = method ∧ route.pattern.Equivalent pattern

def registrationEvents (router : Router) (route : Route) : List Event :=
  ((router.shadowing? route.method route.pattern).map fun earlier =>
    .shadowed route.method route.pattern.source earlier.pattern.source).toList ++
  [.registered route.method route.pattern.source route.layers.length route.streaming]

def add (router : Router) (route : Route) : Router :=
  ⟨router.routes ++ [route]⟩

/-- The first route for a method that matches a path. -/
def lookup? (router : Router) (method : Http.Method) (path : String) : Option Match :=
  let pieces := Path.pieces path
  router.routes.findSome? fun route => (route.captures? method pieces).map (⟨route, ·⟩)

/-- A match is one of a route of the router, with what the route's pattern captures. -/
theorem captures?_of_lookup? {router : Router} {method : Http.Method} {path : String} {found : Match}
    (h : router.lookup? method path = some found) :
    found.route ∈ router.routes ∧ found.route.method = method ∧
      found.route.pattern.captures? (Path.pieces path) = some found.captures := by
  obtain ⟨route, hMem, hRoute⟩ := List.exists_of_findSome?_eq_some h
  obtain ⟨captures, hCaptures, rfl⟩ := Option.map_eq_some_iff.mp hRoute
  rw [Route.captures?, Option.ite_none_right_eq_some] at hCaptures
  exact ⟨hMem, hCaptures⟩

def collectMethod (pieces : List String) (methods : List Http.Method) (route : Route) :
    List Http.Method :=
  if route.method ∉ methods ∧ (route.pattern.captures? pieces).isSome then
    methods ++ [route.method]
  else methods

/-- The methods of the routes that match a path, in the order of their first such route. -/
def allowedMethods (router : Router) (path : String) : List Http.Method :=
  router.routes.foldl (collectMethod (Path.pieces path)) []

theorem allowedMethods_add (router : Router) (route : Route) (path : String) :
    (router.add route).allowedMethods path =
      collectMethod (Path.pieces path) (router.allowedMethods path) route := by
  simp [allowedMethods, add, List.foldl_append]

end Router

/-! ## Registration

A route is registered in one of five modes. They differ in whether the route streams its requests, in
whether it has layers, and in whether a malformed pattern is an answer or a panic.
-/

structure RouteRequest where
  method : Http.Method
  pattern : String
  endpoint : Endpoint
  layers : List Layer

/-- Registers a route if its pattern compiles, with what is reported on the way. -/
def Router.register (router : Router) (streaming : Bool) (asked : RouteRequest) :
    Except Malformed Router × List Event :=
  -- the pattern is compiled before anything is added or reported
  match Pattern.compile asked.pattern with
  | .error malformed => (.error malformed, [])
  | .ok pattern =>
    let route : Route := ⟨asked.method, pattern, asked.endpoint, asked.layers, streaming⟩
    (.ok (router.add route), router.registrationEvents route)

/-- A checked registration answers a malformed pattern, any other panics on it. -/
inductive RegistrationMode where
  | checked (streaming : Bool)
  | strict (streaming : Bool)
  | bare
deriving DecidableEq

namespace RegistrationMode

def streaming : RegistrationMode → Bool
  | checked streaming => streaming
  | strict streaming => streaming
  | bare => false

def layers (layers : List Layer) : RegistrationMode → List Layer
  | bare => []
  | _ => layers

end RegistrationMode

/-- How a registration ends, with what has been reported until then. -/
inductive Registration where
  | added (router : Router) (events : List Event)
  | refused (malformed : Malformed) (events : List Event)
  | panicked (text : String) (events : List Event)

def RegistrationMode.refuse (malformed : Malformed) (events : List Event) : RegistrationMode → Registration
  | checked _ => .refused malformed events
  | _ => .panicked malformed.message events

def Router.registerIn (router : Router) (mode : RegistrationMode) (asked : RouteRequest) : Registration :=
  match router.register mode.streaming { asked with layers := mode.layers asked.layers } with
  | (.ok router, events) => .added router events
  | (.error malformed, events) => mode.refuse malformed events

/-! ## Printed routers and matches

A router and a match are printed on one line, as the names and the values of their parts.
-/

open Text

namespace Printed

def list (items : List String) : String :=
  "[" ++ ", ".intercalate items ++ "]"

def option (value : Option String) : String :=
  match value with
  | some text => "Some(" ++ text ++ ")"
  | none => "None"

def record (name : String) (parts : List (String × String)) : String :=
  name ++ " \x7b " ++ ", ".intercalate (parts.map fun part => part.1 ++ ": " ++ part.2) ++ " \x7d"

end Printed

def Route.print (route : Route) : String :=
  Printed.record "RouteEntry"
    [("method", route.method.name), ("pattern", quoted route.pattern.source),
      ("middleware", toString route.layers.length), ("streaming", toString route.streaming)]

def Router.print (router : Router) : String :=
  Printed.record "Router" [("routes", Printed.list (router.routes.map Route.print))]

def Param.print (param : Param) : String :=
  Printed.record "Param"
    [("name", quoted param.name), ("raw", quoted param.raw),
      ("dot", Printed.option (param.dot.map toString))]

def Match.print (found : Match) : String :=
  Printed.record "RouteMatch"
    [("pattern", quoted found.route.pattern.source),
      ("middleware", toString found.route.layers.length),
      ("streaming", toString found.route.streaming),
      ("params", "Params(" ++ Printed.list (found.captures.params.map Param.print) ++ ")"),
      ("format", Printed.option (found.captures.format.map quoted))]

end Routing
