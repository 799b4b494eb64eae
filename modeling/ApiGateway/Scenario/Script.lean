import ApiGateway.Behaviour

/-!
# Scripts

A scenario is a gateway with scripted collaborators.  A script says of each collaborator what it
does when it is called: how much time passes, which steps it takes in the middle of the call, what
it answers and whether it fails.  Steps name handlers, reporters and listeners.
-/

namespace ApiGateway
namespace Scenario

/-- A request; one without a time of receipt is received when its step is taken. -/
structure RequestSpec where
  request : Request
  receivedAt : Option Int
deriving DecidableEq, Repr, Inhabited

namespace RequestSpec

def receivedBy (r : RequestSpec) (now : Int) : Request :=
  { r.request with receivedAt := r.receivedAt.getD now }

end RequestSpec

variable (step : Type)

/-- What a called collaborator does: time passes, steps are taken, and it may fail. -/
structure Conduct where
  delay : Int := 0
  steps : List step := []
  fault : Option Fault := none
deriving Inhabited

inductive ReporterSpec
  | absent
  | scripted (name : String) (conduct : Conduct step)
  | log (name : String)
  | service (name : String) (sinks : List ReporterSpec)
deriving Inhabited

inductive Mode
  | ok
  | twice
  | okThenFail
  | fail
  | never
  /-- Calls the completion without a response. -/
  | empty
  | emptyThenOk
  /-- Answers with a response of its own. -/
  | fresh
  /-- Keeps the response, to answer later. -/
  | park
deriving DecidableEq, Repr, Inhabited

inductive HandlerKind
  | scripted
  | fixed
  /-- Answers with the response as it came, and has no hooks. -/
  | plain
deriving DecidableEq, Repr, Inhabited

structure HandlerSpec where
  kind : HandlerKind := .scripted
  mode : Mode := .ok
  fault : Option Fault := none
  status : Int := 200
  body : Option String := none
  headers : List (String × String) := []
  delay : Int := 0
  onStart : List step := []
  onHandle : List step := []
  onStop : List step := []
  startFault : Option Fault := none
  stopFault : Option Fault := none
deriving Inhabited

structure FactorySpec where
  handler : HandlerSpec step := {}
  onBuild : List step := []
  fault : Option Fault := none
  nothing : Bool := false
  /-- The factory answers with a handler that is there already. -/
  reuse : Option String := none
  /-- A context path in place of the API's own. -/
  path : Option String := none
deriving Inhabited

/-- What is done from outside the gateway, one step after another.  A callback or a listener that
is `none` is empty. -/
inductive Step
  | advance (ns : Int)
  | subscribe (name : String) (conduct : Option (Conduct Step))
  | unsubscribeId (id : SubscriptionId)
  | unsubscribeName (name : String)
  | publish (event : ApiEvent)
  | service (reporter : ReporterSpec Step)
  | addReporter (service : String) (reporter : ReporterSpec Step)
  | report (reporter : String) (record : AccessRecord)
  | handler (name path : String) (virtualHost : Option String) (apiName apiVersion : String)
      (spec : HandlerSpec Step)
  | startHandler (name : String)
  | stopHandler (name : String)
  | handlerState (name : String)
  | handle (name : String) (request : RequestSpec) (response : Response)
      (done : Option (Conduct Step))
  | complete (name : Option String) (status : Option Int) (twice : Bool)
  | add (api : String) (name : Option String)
  | remove (api : String)
  | clear
  | lookup (path host : String)
  | select (path host : String)
  | contextPathOf (api : String)
  | findByApi (api : String)
  | fallback
  | snapshot (as : String)
  | showSnapshot (name : String)
  | corrupt (path : String) (owner : Option String)
  | start
  | stop
  | destroy
  | undeployAll
  | event (event : ApiEvent)
  | deploy (api : Api)
  | update (api : Api)
  | undeploy (api : Api)
  | bestHandler (request : RequestSpec)
  | dispatch (request : Option RequestSpec) (response : Option Response)
      (done : Option (Conduct Step))
deriving Inhabited

namespace Step

def word : Step → String
  | advance .. => "advance"
  | subscribe .. => "subscribe"
  | unsubscribeId .. => "unsubscribe"
  | unsubscribeName .. => "unsubscribe"
  | publish .. => "publish"
  | service .. => "service"
  | addReporter .. => "add_reporter"
  | report .. => "report"
  | handler .. => "handler"
  | startHandler .. => "start_handler"
  | stopHandler .. => "stop_handler"
  | handlerState .. => "handler_state"
  | handle .. => "handle"
  | complete .. => "complete"
  | add .. => "add"
  | remove .. => "remove"
  | clear => "clear"
  | lookup .. => "lookup"
  | select .. => "match"
  | contextPathOf .. => "context_path_of"
  | findByApi .. => "find_by_api"
  | fallback => "fallback"
  | snapshot .. => "snapshot"
  | showSnapshot .. => "show_snapshot"
  | corrupt .. => "corrupt"
  | start => "start"
  | stop => "stop"
  | destroy => "destroy"
  | undeployAll => "clear_all"
  | event .. => "event"
  | deploy .. => "deploy"
  | update .. => "update"
  | undeploy .. => "undeploy"
  | bestHandler .. => "best_handler"
  | dispatch .. => "process"

end Step
end Scenario
end ApiGateway
