import ApiGateway.Scenario.Script
import ApiGateway.Scenario.Value

/-!
# What the scripted collaborators keep

The scripts of everything that has been created so far, by the number that the gateway knows it by,
and the names that steps use for them.
-/

namespace ApiGateway
namespace Scenario

/-- How much of a gateway there is: the event bus alone, a route table beside it, or the whole. -/
inductive Stage
  | bus
  | table
  | gateway
deriving DecidableEq, Repr, Inhabited

structure Parked where
  handler : HandlerId
  response : Response
  done : Callback
deriving DecidableEq, Repr, Inhabited

structure Snapshot where
  name : String
  version : Nat
  routes : Routes
deriving DecidableEq, Repr, Inhabited

structure State where
  stage : Stage := .bus
  /-- The name and script of each handler, in the order of creation. -/
  handlers : List (String × HandlerSpec Step) := []
  reporters : List (String × Reporter) := []
  sinks : List (String × Conduct Step) := []
  listeners : List (String × Conduct Step) := []
  /-- The subscription of each name, newest first. -/
  subscriptions : List (String × SubscriptionId) := []
  receivers : List (String × Conduct Step) := []
  parked : List Parked := []
  /-- The scripts of the factory for each API, the last of them for all further calls. -/
  factory : List (String × List (FactorySpec Step)) := []
  asked : List String := []
  built : Nat := 0
  snapshots : List Snapshot := []
deriving Inhabited

namespace State

def handlerName (s : State) (h : HandlerId) : String :=
  (s.handlers.getD h ("", {})).1

def handlerOf? (s : State) (name : String) : Option HandlerId :=
  (s.handlers.zipIdx.reverse.find? (·.1.1 == name)).map (·.2)

def targetOf (s : State) (name : String) : Target :=
  match s.handlerOf? name with
  | some h => .handler h
  | none => .fallback

def handlerSpec (s : State) (h : HandlerId) : HandlerSpec Step :=
  (s.handlers.getD h ("", {})).2

def factorySpec (s : State) (api : String) : FactorySpec Step :=
  let specs := (s.factory.lookup api).getD []
  (specs[s.asked.count api]?.or specs.getLast?).getD {}

end State
end Scenario
end ApiGateway
