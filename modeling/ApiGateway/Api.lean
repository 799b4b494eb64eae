/-!
# API definitions and their events

An API definition is what an event carries to the gateway.  Its `id` stays the same across
deployments and is how later events find what was deployed.
-/

namespace ApiGateway

structure Api where
  id : String
  name : String := ""
  version : String := ""
  /-- A definition that is switched off is never deployed. -/
  enabled : Bool := true
  contextPath : String := ""
  virtualHost : Option String := none
deriving DecidableEq, Repr, Inhabited

/-- What happened to an API.  An event may carry a code that no kind has. -/
inductive EventKind
  | deploy
  | update
  | undeploy
  | other (code : Nat)
deriving DecidableEq, Repr, Inhabited

namespace EventKind

def ofCode : Nat → EventKind
  | 0 => deploy
  | 1 => update
  | 2 => undeploy
  | n => other n

def name : EventKind → String
  | deploy => "deploy"
  | update => "update"
  | undeploy => "undeploy"
  | other _ => "unknown"

/-- The kind that a word stands for; to start and to stop an API are older words for deploying
and removing it. -/
def ofName? : String → Option EventKind
  | "deploy" => some deploy
  | "start" => some deploy
  | "update" => some update
  | "undeploy" => some undeploy
  | "stop" => some undeploy
  | _ => none

end EventKind

structure ApiEvent where
  kind : EventKind
  api : Api
deriving DecidableEq, Repr, Inhabited

end ApiGateway
