import ApiGateway.Handler

/-!
# The route table

Published routes, at most one for a context path and one for an API, with an index from API ids
to context paths.  Every change publishes both together as a new version.  Whoever goes through the
routes meets them in the order that they are in; an `Arrangement` gives them another.

`Routes` is what a reader sees at one moment, `RouteTable` adds the version and the counters.
-/

namespace ApiGateway

structure Route where
  path : String
  api : String
  handler : HandlerId
deriving DecidableEq, Repr, Inhabited

/-- The routes by context path and the index from API ids to context paths. -/
structure Routes where
  entries : List Route := []
  index : List (String × String) := []
deriving DecidableEq, Repr, Inhabited

namespace Routes

def at? (r : Routes) (path : String) : Option Route :=
  r.entries.find? (·.path == path)

def pathOf? (r : Routes) (api : String) : Option String :=
  r.index.lookup api

/-- The handler of an API, if the index leads to a route that the API owns. -/
def handlerOf? (r : Routes) (api : String) : Option HandlerId :=
  match r.pathOf? api with
  | none => none
  | some path =>
    match r.at? path with
    | some route => if route.api = api then some route.handler else none
    | none => none

def insert (r : Routes) (route : Route) : Routes where
  entries := r.entries ++ [route]
  index := r.index ++ [(route.api, route.path)]

def forget (r : Routes) (api : String) : Routes :=
  { r with index := r.index.filter (·.1 != api) }

def vacate (r : Routes) (path : String) : Routes :=
  { r with entries := r.entries.filter (·.path != path) }

def candidates (r : Routes) (pool : HandlerId → Handler) (path : String) : List Route :=
  r.entries.filter fun e => ContextPath.covers e.path path && (pool e.handler).isStarted

end Routes

inductive Rejection
  | pathTaken
  | apiTaken
  /-- There is no handler, it is not started, or the API id or the context path is not valid. -/
  | invalid
deriving DecidableEq, Repr, Inhabited

namespace Rejection

def name : Rejection → String
  | pathTaken => "path_taken"
  | apiTaken => "api_taken"
  | invalid => "invalid"

def outcomeName : Option Rejection → String
  | none => "ok"
  | some r => r.name

/-- The word for the outcome with a code, which for a code of no outcome is `unknown`. -/
def nameOfCode : Nat → String
  | 0 => outcomeName none
  | 1 => pathTaken.name
  | 2 => apiTaken.name
  | 3 => invalid.name
  | _ => "unknown"

end Rejection

inductive Removal
  | absent
  /-- The index led to a path that the API does not own; the index entry is dropped. -/
  | stale (path : String)
  | removed (handler : HandlerId)
deriving DecidableEq, Repr, Inhabited

namespace Removal

def handler? : Removal → Option HandlerId
  | removed h => some h
  | _ => none

end Removal

structure RouteTable where
  routes : Routes := {}
  version : Nat := 0
  adds : Nat := 0
  removes : Nat := 0
  rejections : Nat := 0
  clears : Nat := 0
deriving DecidableEq, Repr, Inhabited

namespace RouteTable

def maxApiId : Nat := 128

/-- API ids have 1 to 128 bytes. -/
def validApiId (id : String) : Bool :=
  !id.isEmpty && id.utf8ByteSize ≤ maxApiId

def size (t : RouteTable) : Nat :=
  t.routes.entries.length

def rejection? (t : RouteTable) (pool : HandlerId → Handler) (api : String) (h : HandlerId) :
    Option Rejection :=
  let path := (pool h).contextPath
  if !(validApiId api && ContextPath.valid path && (pool h).isStarted) then some .invalid
  else if (t.routes.at? path).isSome then some .pathTaken
  else if (t.routes.pathOf? api).isSome then some .apiTaken
  else none

def reject (t : RouteTable) : RouteTable :=
  { t with rejections := t.rejections + 1 }

def insert (t : RouteTable) (pool : HandlerId → Handler) (api : String) :
    Option HandlerId → Option Rejection × RouteTable
  | none => (some .invalid, t.reject)
  | some h =>
    match t.rejection? pool api h with
    | some r => (some r, t.reject)
    | none =>
      (none, { t with
        routes := t.routes.insert ⟨(pool h).contextPath, api, h⟩
        version := t.version + 1
        adds := t.adds + 1 })

def erase (t : RouteTable) (api : String) : Removal × RouteTable :=
  match t.routes.pathOf? api with
  | none => (.absent, t)
  | some path =>
    match t.routes.handlerOf? api with
    | some h =>
      (.removed h, { t with
        routes := (t.routes.forget api).vacate path
        version := t.version + 1
        removes := t.removes + 1 })
    | none =>
      (.stale path, { t with routes := t.routes.forget api, version := t.version + 1 })

def clear (t : RouteTable) : List Route × RouteTable :=
  (t.routes.entries,
    { t with routes := {}, version := t.version + 1, clears := t.clears + 1 })

end RouteTable

/-- How a hash table orders the routes of each version. -/
structure Arrangement where
  order : Nat → List Route → List Route
  perm : ∀ version routes, (order version routes).Perm routes

namespace Arrangement

def byArrival : Arrangement := ⟨fun _ l => l, fun _ l => .refl l⟩

end Arrangement

def RouteTable.arranged (t : RouteTable) (a : Arrangement) : RouteTable :=
  { t with routes := { t.routes with entries := a.order t.version t.routes.entries } }

end ApiGateway
