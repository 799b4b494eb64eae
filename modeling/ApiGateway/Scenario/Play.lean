import ApiGateway.Scenario.State

/-!
# Playing scripts

`play` takes one step, `playAll` the steps inside a call, each between two notes.  `behaviours` is
the conduct of the scripted collaborators.
-/

namespace ApiGateway
namespace Scenario

open Behaviour

abbrev Act := Behaviour State

def sorted (rows : List (List String)) : List (List String) :=
  rows.mergeSort fun a b => !decide (b < a)

def did (a : Action) : Act (Except Fault Value) := do
  match ← attempt a with
  | .ok _ => return .ok .null
  | .error f => return .error f

def addHandler (name : String) (spec : HandlerSpec Step) (h : Handler) : Act HandlerId := do
  let id ← require (.create h)
  modifyOwn fun s => { s with handlers := s.handlers ++ [(name, spec)] }
  return id

def responder (spec : HandlerSpec Step) (apiName apiVersion : String) : Responder :=
  match spec.kind with
  | .fixed => .fixed (apiName ++ " " ++ apiVersion)
  | _ => .outside

def addReceiver (tag : String) : Option (Conduct Step) → Act (Option Nat)
  | none => return none
  | some conduct => do
    let n := (← own).receivers.length
    modifyOwn fun s => { s with receivers := s.receivers ++ [(tag, conduct)] }
    return some n

def addListener (name : String) : Option (Conduct Step) → Act Listener
  | none => return .empty
  | some conduct => do
    let n := (← own).listeners.length
    modifyOwn fun s => { s with listeners := s.listeners ++ [(name, conduct)] }
    return .outside n

/-- The reporter of a name, made only if there is none. -/
def reporterNamed (name : String) (make : Act Reporter) : Act (Option Reporter) := do
  match (← own).reporters.lookup name with
  | some r => return some r
  | none =>
    let r ← make
    modifyOwn fun s => { s with reporters := (name, r) :: s.reporters.filter (·.1 != name) }
    return some r

mutual

def addReporter : ReporterSpec Step → Act (Option Reporter)
  | .absent => return none
  | .log name => reporterNamed name (return .log)
  | .scripted name conduct =>
    reporterNamed name do
      let n := (← own).sinks.length
      modifyOwn fun s => { s with sinks := s.sinks ++ [(name, conduct)] }
      return .outside n
  | .service name sinks =>
    reporterNamed name do
      let n ← require .addService
      addSinks n sinks
      return .service n

def addSinks (service : Nat) : List (ReporterSpec Step) → Act Unit
  | [] => return ()
  | spec :: rest => do
    let sink ← addReporter spec
    require (.addSink service sink)
    addSinks service rest

end

def answered (name : String) (spec : HandlerSpec Step) (r : Response) : Response :=
  { r with
    status := spec.status
    body := spec.body.getD name
    headers := (r.headers.insert "X-Handler" name).insertMany spec.headers }

def answerTimes : Nat → Callback → Response → Act (Except Fault Unit)
  | 0, _, _ => return .ok ()
  | n + 1, done, r => do
    match ← attempt (.answer done (some r)) with
    | .error f => return .error f
    | .ok () => answerTimes n done r

/-- Answers requests that were put aside, until one fails. -/
def answerParked (status : Option Int) (twice : Bool) : List Parked → Act (Except Fault Unit)
  | [] => return .ok ()
  | p :: rest => do
    let s ← own
    let r := answered (s.handlerName p.handler) (s.handlerSpec p.handler) p.response
    let r := { r with status := status.getD r.status }
    match ← answerTimes (if twice then 2 else 1) p.done r with
    | .error f => return .error f
    | .ok () => answerParked status twice rest

def complete (name : Option String) (status : Option Int) (twice : Bool) :
    Act (Except Fault Value) := do
  let s ← own
  let (taken, rest) := s.parked.partition fun p => name.all (· == s.handlerName p.handler)
  modifyOwn fun s => { s with parked := rest }
  match ← answerParked status twice taken with
  | .error f => return .error f
  | .ok () => return .ok (.num taken.length)

/-- The routes of a snapshot: a snapshot of the present version shows the present routes. -/
def snapshotRoutes (g : Gateway State) (s : Snapshot) : Routes :=
  if s.version = g.table.version then g.table.routes else s.routes

def snapshotValue (g : Gateway State) (s : Snapshot) : Value :=
  let routes := snapshotRoutes g s
  let entries := routes.entries.map fun e =>
    [e.path, e.api, g.own.handlerName e.handler, (g.handler e.handler).state.name]
  let index := routes.index.map fun (api, path) => [api, path]
  .list [.list ((sorted entries).map .texts), .list ((sorted index).map .texts)]

def handlerValue (h : Handler) : Value :=
  .list [.text h.contextPath, .ofText? h.virtualHost, .bool h.virtualHost.isSome,
    .text h.state.name]

def moveValue (r : Except LifecycleError Unit) (h : Handler) : Value :=
  let result : Value := match r with
    | .ok () => .text "ok"
    | .error e =>
      let code := match e with
        | .invalidTransition .. => "InvalidTransition"
        | .startFailed _ => "StartFailed"
        | .stopFailed _ => "StopFailed"
      .texts [code, e.message]
  .list [result, .text h.state.name, .bool h.isStarted]

def playMove (m : Move) (name : String) : Act (Except Fault Value) := do
  match (← own).handlerOf? name with
  | none => return .ok .null
  | some h =>
    let r ← require (.move m h)
    look fun g => give (.ok (moveValue r (g.handler h)))

def playSelect (path host : String) (otherwise : Value) : Act (Except Fault Value) := do
  match ← require (.select path host) with
  | some h => return .ok (.text ((← own).handlerName h))
  | none => return .ok otherwise

def play : Step → Act (Except Fault Value)
  | .advance ns => did (.advance ns)
  | .subscribe name conduct => do
    let listener ← addListener name conduct
    let id ← require (.subscribe listener)
    modifyOwn fun s => { s with subscriptions := (name, id) :: s.subscriptions }
    return .ok (.num id)
  | .unsubscribeId id => do
    let known ← require (.unsubscribe id)
    return .ok (.bool known)
  | .unsubscribeName name => do
    let known ← require (.unsubscribe (((← own).subscriptions.lookup name).getD 0))
    return .ok (.bool known)
  | .publish e => did (.publish e)
  | .service spec => do
    let _ ← addReporter spec
    return .ok .null
  | .addReporter service spec => do
    let sink ← addReporter spec
    match (← own).reporters.lookup service with
    | some (.service n) => did (.addSink n sink)
    | _ => return .ok .null
  | .report reporter record => do
    match (← own).reporters.lookup reporter with
    | some r => did (.report r record)
    | none => return .ok .null
  | .handler name path host apiName apiVersion spec => do
    let h ← addHandler name spec (.create path host (responder spec apiName apiVersion))
    look fun g => give (.ok (handlerValue (g.handler h)))
  | .startHandler name => playMove .start name
  | .stopHandler name => playMove .stop name
  | .handlerState name => look fun g =>
    give (.ok (match g.own.handlerOf? name with
      | some h => .text (g.handler h).state.name
      | none => .null))
  | .handle name request response done => look fun g => do
    let request := request.receivedBy g.clock
    let receiver ← addReceiver request.id done
    did (.handle (g.own.targetOf name) request response (.receiver receiver))
  | .complete name status twice => complete name status twice
  | .add api name => do
    let h := name.bind (← own).handlerOf?
    let r ← require (.insertRoute api h)
    return .ok (.text (Rejection.outcomeName r))
  | .remove api => do
    let h ← require (.eraseRoute api)
    return .ok (.ofText? (h.map (← own).handlerName))
  | .clear => do
    let routes ← require .clearRoutes
    let s ← own
    return .ok (.list ((sorted (routes.map fun r => [r.api, s.handlerName r.handler])).map .texts))
  | .lookup path host => playSelect path host (.text "fallback")
  | .select path host => playSelect path host .null
  | .contextPathOf api => look fun g =>
    give (.ok (.ofText? (g.table.routes.pathOf? api)))
  | .findByApi api => look fun g =>
    give (.ok (.ofText? ((g.table.routes.handlerOf? api).map g.own.handlerName)))
  | .fallback => return .ok (.text "fallback")
  | .snapshot name => look fun g => do
    let s : Snapshot := ⟨name, g.table.version, g.table.routes⟩
    modifyOwn fun o => { o with snapshots := s :: o.snapshots }
    return .ok .null
  | .showSnapshot name => look fun g =>
    give (.ok (match g.own.snapshots.find? (·.name == name) with
      | some s => snapshotValue g s
      | none => .null))
  | .corrupt path owner => look fun g => do
    modifyOwn fun o => { o with
      snapshots := o.snapshots.map fun s =>
        if s.version = g.table.version then { s with routes := s.routes.damaged path owner }
        else s }
    did (.damage path owner)
  | .start => did .start
  | .stop => did .stop
  | .destroy => do
    let r ← did .shutDown
    modifyOwn fun s => { s with stage := .bus }
    return r
  | .undeployAll => did .undeployAll
  | .event e => did (.apply e)
  | .deploy api => did (.deploy api)
  | .update api => did (.update api)
  | .undeploy api => did (.undeploy api.id)
  | .bestHandler request => look fun g =>
    let request := request.receivedBy g.clock
    playSelect request.path request.host (.text "fallback")
  | .dispatch request response done => look fun g => do
    let request := request.map (·.receivedBy g.clock)
    let receiver ← addReceiver ((request.map (·.id)).getD "null") done
    did (.dispatch request response receiver)

/-- The answer of a step, a fault in place of a result included. -/
def outcome : Except Fault Value → Value
  | .ok v => v
  | .error f => .ofFault f

def playAll : List Step → Act Unit
  | [] => return ()
  | s :: rest => do
    note ["begin", s.word] (return ())
    let r ← play s
    note ["end", s.word, (outcome r).plain] (return ())
    playAll rest

def behave (c : Conduct Step) : Act Unit := do
  require (.advance c.delay)
  playAll c.steps
  failWith c.fault

def buildHandler (api : Api) : Act (Option HandlerId) := do
  let spec := (← own).factorySpec api.id
  modifyOwn fun s => { s with asked := api.id :: s.asked }
  playAll spec.onBuild
  failWith spec.fault
  if spec.nothing then return none
  match spec.reuse with
  | some name => return (← own).handlerOf? name
  | none =>
    modifyOwn fun s => { s with built := s.built + 1 }
    let name := api.id ++ "@" ++ api.version ++ "#" ++ toString (← own).built
    let path := match spec.handler.kind with
      | .fixed => api.contextPath
      | _ => spec.path.getD api.contextPath
    let h := Handler.create path api.virtualHost (responder spec.handler api.name api.version)
    return some (← addHandler name spec.handler h)

def handle (h : HandlerId) (response : Response) (done : Callback) : Act Unit := do
  let s ← own
  let spec := s.handlerSpec h
  let answer (r : Option Response) : Act Unit := require (.answer done r)
  let ok := some (answered (s.handlerName h) spec response)
  match spec.kind with
  | .scripted =>
    require (.advance spec.delay)
    playAll spec.onHandle
    match spec.mode with
    | .ok => answer ok
    | .twice => answer ok; answer ok
    | .okThenFail => answer ok; failWith spec.fault
    | .fail => failWith spec.fault
    | .never => return ()
    | .empty => answer none
    | .emptyThenOk => answer none; answer ok
    | .fresh => answer (some (answered (s.handlerName h) spec {}))
    | .park => modifyOwn fun s => { s with parked := s.parked ++ [⟨h, response, done⟩] }
  | _ => answer (some response)

def playHook (h : HandlerId) (m : Move) : Act Unit := do
  let spec := (← own).handlerSpec h
  match spec.kind, m with
  | .scripted, .start => playAll spec.onStart; failWith spec.startFault
  | .scripted, .stop => playAll spec.onStop; failWith spec.stopFault
  | _, _ => return ()

def behaviours : Behaviours State where
  build := buildHandler
  call
    | .hook m h _ => playHook h m
    | .handle (.handler h) _ response done => handle h response done
    | .handle .fallback _ response done => require (.answer done (some response))
    | .record (.outside k) _ => do behave ((← own).sinks.getD k ("", {})).2
    | .respond (some t) _ => do behave ((← own).receivers.getD t ("", {})).2
    | .deliver _ (.outside l) _ => do behave ((← own).listeners.getD l ("", {})).2
    | _ => return ()

end Scenario
end ApiGateway
