import ApiGateway.Lifecycle

/-!
# Keeping the handlers in step with the APIs

To deploy an API is to build a handler, start it and publish it; what fails on the way leaves the
API without a route.  A handler is taken out of the table before it is stopped.  No fault of a
collaborator gets past these operations.
-/

namespace ApiGateway
namespace Run

variable {σ : Type}

def subscribe (l : Listener) : Run σ SubscriptionId :=
  modifyGet fun g =>
    let (id, bus) := g.bus.subscribe l
    (id, { g with bus := bus })

def unsubscribe (id : SubscriptionId) : Run σ Bool :=
  modifyGet fun g =>
    let (known, bus) := g.bus.unsubscribe id
    (known, { g with bus := bus })

def insertRoute (api : String) (h : Option HandlerId) : Run σ (Option Rejection) :=
  modifyGet fun g =>
    let (result, table) := g.table.insert g.handler api h
    (result, { g with table := table })

def eraseRoute (api : String) : Run σ (Option HandlerId) := do
  let removal ← modifyGet fun g =>
    let (removal, table) := g.table.erase api
    (removal, { g with table := table })
  match removal with
  | .stale path => notify (.staleIndex api path)
  | _ => pure ()
  return removal.handler?

def clearRoutes : Run σ (List Route) :=
  modifyGet fun g =>
    let (routes, table) := g.table.clear
    (routes, { g with table := table })

/-- Stops a handler that is not, or no longer, published. -/
def retire (c : Collaborators σ) (api : String) (h : HandlerId) : Run σ Unit := do
  match ← move c .stop h with
  | .ok () => pure ()
  | .error e =>
    tally fun s => { s with stopFailures := s.stopFailures + 1 }
    notify (.notStopped api e)

def deployFailed (n : Notice) : Run σ Unit := do
  tally fun s => { s with deployFailures := s.deployFailures + 1 }
  notify n

/-- Publishes a started handler, and stops it again if it is turned away. -/
def publishHandler (c : Collaborators σ) (api : String) (h : HandlerId) : Run σ Unit := do
  match ← insertRoute api (some h) with
  | some r =>
    deployFailed (.notPublished api ((← get).handler h).contextPath r)
    retire c api h
  | none =>
    tally fun s => { s with deployed := s.deployed + 1 }
    let handler := (← get).handler h
    notify (.deployed api (handler.virtualHost.getD "") handler.contextPath)

def deploy (c : Collaborators σ) (api : Api) : Run σ Unit := do
  if api.enabled then
    match ← build c api with
    | .error f => deployFailed (.notBuilt api.id f)
    | .ok none => deployFailed (.nothingBuilt api.id)
    | .ok (some h) =>
      match ← move c .start h with
      | .error e => deployFailed (.notStarted api.id e)
      | .ok () => publishHandler c api.id h
  else notify (.disabled api.id)

def undeploy (c : Collaborators σ) (api : String) : Run σ Unit := do
  match ← eraseRoute api with
  | none => notify (.nothingToRemove api)
  | some h =>
    tally fun s => { s with undeployed := s.undeployed + 1 }
    retire c api h
    notify (.removed api)

/-- Replaces the handler of an API by a new one; in between, the API has no route. -/
def update (c : Collaborators σ) (api : Api) : Run σ Unit := do
  if ((← get).table.routes.pathOf? api.id).isSome then
    undeploy c api.id
  else notify (.notYetDeployed api.id)
  deploy c api

def apply (c : Collaborators σ) (e : ApiEvent) : Run σ Unit :=
  match e.kind with
  | .deploy => deploy c e.api
  | .update => update c e.api
  | .undeploy => undeploy c e.api.id
  | .other _ => pure ()

def retireAll (c : Collaborators σ) : List Route → Run σ Unit
  | [] => pure ()
  | r :: rest => do
    tally fun s => { s with undeployed := s.undeployed + 1 }
    retire c r.api r.handler
    retireAll c rest

def undeployAll (c : Collaborators σ) : Run σ Unit := do
  let routes ← clearRoutes
  retireAll c routes
  if !routes.isEmpty then notify (.removedAll routes.length)

def start : Run σ Unit := do
  if !(← get).dispatcher.running then
    let id ← subscribe .gateway
    modify fun g =>
      { g with dispatcher := { g.dispatcher with subscription := some id, running := true } }
    notify .gatewayStarted

def endSubscription : Run σ Unit := do
  match (← get).dispatcher.subscription with
  | none => pure ()
  | some id =>
    let _ ← unsubscribe id
    modify fun g => { g with dispatcher := { g.dispatcher with subscription := none } }

/-- Stops listening to events, then drops every handler. -/
def stop (c : Collaborators σ) : Run σ Unit := do
  if (← get).dispatcher.running then
    endSubscription
    undeployAll c
    modify fun g => { g with dispatcher := { g.dispatcher with running := false } }
    notify .gatewayStopped

/-- The end of a gateway: it stops, and handlers deployed while it did not listen are dropped
too. -/
def shutDown (c : Collaborators σ) : Run σ Unit := do
  stop c
  undeployAll c

end Run
end ApiGateway
