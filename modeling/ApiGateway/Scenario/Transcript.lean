import ApiGateway.Scenario.Play

/-!
# Transcripts

The rows in which a scenario tells what happened, one for each entry of the journal, and the values
that describe the state of the gateway after a step.
-/

namespace ApiGateway
namespace Scenario

def levelWord : Level → String
  | .err => "error"
  | l => l.name

def responseRow (tag : String) : Option Response → List String
  | none => ["done", tag, "null"]
  | some r =>
    ["done", tag, toString r.status, r.body, toString r.responseTime] ++
      r.headers.fields.flatMap fun (name, value) => [name, value]

def recordRow (name : String) (r : AccessRecord) : List String :=
  ["record", name, r.requestId, r.method, r.path, r.host, r.contextPath, toString r.status,
    toString r.timestamp, toString r.responseTime]

def accessRow (r : AccessRecord) : List String :=
  ["log", AccessRecord.logName, r.line]

/-- The row of a hook; only a scripted handler tells of its hooks. -/
def hookRow? (s : State) (m : Move) (h : HandlerId) (seen : LifecycleState) :
    Option (List String) :=
  match (s.handlerSpec h).kind with
  | .scripted => some [m.name, s.handlerName h, seen.name]
  | _ => none

/-- The row of a request that reached a handler; a fixed handler does not tell of its requests. -/
def handleRow? (s : State) (h : HandlerId) (request : String) : Option (List String) :=
  match (s.handlerSpec h).kind with
  | .scripted => some ["handle", s.handlerName h, request]
  | .plain => some ["handle", "plain", request]
  | .fixed => none

/-- The row of a call, if whoever was called tells of it. -/
def callRow? (s : State) : Invocation → Option (List String)
  | .hook m h seen => hookRow? s m h seen
  | .handle (.handler h) request _ _ => handleRow? s h request.id
  | .handle .fallback _ _ _ => none
  | .record .log r => some (accessRow r)
  | .record (.service _) _ => none
  | .record (.outside k) r => some (recordRow (s.sinks.getD k ("", {})).1 r)
  | .respond none _ => none
  | .respond (some t) r => some (responseRow (s.receivers.getD t ("", {})).1 r)
  | .deliver _ (.outside l) e =>
    some ["deliver", (s.listeners.getD l ("", {})).1, e.kind.name, e.api.id]
  | .deliver .. => none

def row? (s : State) : Entry → Option (List String)
  | .notice n => some ["log", levelWord n.level, n.text]
  | .build api => some ["factory", api.id, api.version]
  | .answer .. => none
  | .call _ i => callRow? s i
  | .note fields => some fields

def transcript (s : State) (journal : List Entry) : List (List String) :=
  journal.reverse.filterMap (row? s)

def Value.counts (l : List Nat) : Value :=
  .list (l.map fun n : Nat => .num n)

def statsFields (d : Dispatcher) : List (String × Value) :=
  let s := d.stats
  [("stats", .counts [s.dispatched, s.notFound, s.deployed, s.deployFailures, s.undeployed,
      s.stopFailures]),
    ("running", .bool d.running)]

def routeValues (g : Gateway State) : List Value :=
  let ordered := g.table.routes.entries.mergeSort fun a b =>
    !decide ([b.api, b.path] < [a.api, a.path])
  ordered.map fun e =>
    .list [.text e.api, .text e.path, .ofText? (g.handler e.handler).virtualHost]

def tableFields (g : Gateway State) : List (String × Value) :=
  let t := g.table
  [("table", .counts [t.adds, t.removes, t.rejections, t.clears]), ("version", .num t.version),
    ("size", .num t.size), ("routes", .list (routeValues g))]

def counterFields (g : Gateway State) : List (String × Value) :=
  let counters := g.own.reporters.filterMap fun (name, r) =>
    match r with
    | .service n =>
      let s := g.services.getD n {}
      some (name, .counts [s.records, s.notFound, s.serverErrors, s.sinks.length])
    | _ => none
  if counters.isEmpty then [] else [("counters", .object counters)]

def stateValue (g : Gateway State) : Value :=
  .object <|
    (match g.own.stage with
      | .bus => []
      | .table => tableFields g
      | .gateway => statsFields g.dispatcher ++ tableFields g) ++
    counterFields g ++ [("subscribers", .num g.bus.size), ("now", .num g.clock)]

end Scenario
end ApiGateway
