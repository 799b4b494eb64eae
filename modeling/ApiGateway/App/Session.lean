import ApiGateway.App.Options
import ApiGateway.Config.Settings
import ApiGateway.Delivery
import ApiGateway.Dispatching

/-!
# A session on the command line

A session loads the settings, deploys every API with a handler that answers with one fixed text,
lists the routes, sends each probe through the gateway and shows the response, and shuts the
gateway down.  It is a function of the arguments, the files and the time, and of the order in which
the route table goes through its routes.
-/

namespace ApiGateway
namespace App

def version : String := "0.3.0"

structure Outcome where
  exit : Nat
  errors : String := ""
  level : Level := .info
  pattern : String := ""
  /-- Everything that was noticed and called and, as notes, what was printed, oldest first. -/
  journal : List Entry := []
deriving DecidableEq, Repr, Inhabited

namespace Outcome

def prints (o : Outcome) : List String :=
  o.journal.filterMap fun
    | .note fields => some (String.join fields)
    | _ => none

def output (o : Outcome) : String :=
  String.join o.prints

end Outcome

open Run

def print (text : String) : Run Unit Unit :=
  write (.note [text])

def probeLine (target : String) (r : Response) : String :=
  target ++ " -> " ++ toString r.status ++
    (if r.body.isEmpty then "" else " (" ++ r.body ++ ")") ++ "\n"

def fixedText (api : Api) : String :=
  api.name ++ " " ++ api.version

/-- The factory builds handlers that answer with a fixed text, and responses are printed. -/
def collaborators (probes : List String) : Collaborators Unit where
  depth := 1
  build api := do
    let h ← create (.create api.contextPath api.virtualHost (.fixed (fixedText api)))
    return .ok (some h)
  call
    | .respond (some t) (some r) => do
      print (probeLine (probes.getD t "") r)
      return .ok ()
    | _ => return .ok ()

/-- A text filled up with blanks to so many bytes. -/
def pad (width : Nat) (s : String) : String :=
  s ++ String.ofList (List.replicate (width - s.utf8ByteSize) ' ')

def routeLine (pool : HandlerId → Handler) (r : Route) : String :=
  "  " ++ pad 16 r.api ++ pad 24 ((pool r.handler).virtualHost.getD "*") ++ r.path ++ "\n"

def probeRequest (wallClock : Int) (target : String) (n : Nat) : Request where
  id := "probe-" ++ toString n
  uri := target
  path := Uri.path target
  timestamp := wallClock

def printRoutes : Run Unit Unit := do
  print "Routes:\n"
  let g ← get
  g.table.routes.entries.forM fun r => print (routeLine g.handler r)

def arrange (a : Arrangement) : Run Unit Unit :=
  modify fun g => { g with table := g.table.arranged a }

/-- Deploys an API, after which the routes are in an order of their own. -/
def announce (c : Collaborators Unit) (a : Arrangement) (api : Api) : Run Unit Unit := do
  publish c ⟨.deploy, api⟩
  arrange a

def session (apis : List Api) (probes : List String) (wallClock : Int) (a : Arrangement) :
    Run Unit Unit := do
  let c := collaborators probes
  start
  apis.forM (announce c a)
  printRoutes
  probes.zipIdx.forM fun (target, n) => do
    let _ ← dispatch c (some (probeRequest wallClock target n)) (some {}) (some n)
  let stats := (← get).dispatcher.stats
  stop c
  let access := (← get).services.getD 0 {}
  notify (.dispatchSummary stats)
  notify (.accessSummary access.records access.notFound access.serverErrors)
  shutDown c

/-- The gateway before the session: one reporting service that writes the access log. -/
def initial (timeHeader : Bool) : Gateway Unit where
  services := [{ sinks := [.log] }]
  dispatcher := { reporter := some (.service 0), timeHeader := timeHeader }
  own := ()

/-- The level and line format that log settings ask for; an unknown level is a notice. -/
def openLog (s : LogSettings) : Level × String × List Notice :=
  match Level.parse? s.level with
  | some l => (l, s.pattern, [])
  | none => (.info, s.pattern, [.levelUnknown s.level])

def settings (files : String → Option String) (o : Options) : Except String Settings := do
  let loaded ← match o.config.getD "" with
    | "" => pure {}
    | path => (Settings.ofFile files path).mapError (·.message)
  match o.logLevel.getD "" with
  | "" => return loaded
  | word =>
    if (Level.parse? word).isNone then throw ("unknown log level '" ++ word ++ "'")
    return { loaded with logging := { loaded.logging with level := word } }

def refused (message : String) : Outcome :=
  { exit := 1, errors := "Error: " ++ message ++ "\n" }

def shown (text : String) : Outcome :=
  { exit := 0, journal := [.note [text]] }

/-- The usage.  A star stands for the list of options. -/
def usage : String :=
  "Usage: gatehouse_app --config FILE [--log-level LEVEL] [probe-uri...]\n\n*\n"

def serve (s : Settings) (probes : List String) (wallClock : Int) (a : Arrangement) : Outcome :=
  let (level, pattern, notices) := openLog s.logging
  let (_, g) := (session s.apis probes wallClock a).run (initial s.timeHeader)
  { exit := 0, level := level, pattern := pattern
    journal := notices.map .notice ++ g.journal.reverse }

/-- Runs a session.  Of a wrong command line only a star tells the reason. -/
def run (args : List String) (files : String → Option String) (wallClock : Int)
    (a : Arrangement := .byArrival) : Outcome :=
  match Options.parse? args with
  | none => refused "*\n*"
  | some o =>
    if o.help then shown usage
    else if o.version then shown ("gatehouse " ++ version ++ "\n")
    else
      match settings files o with
      | .error message => refused message
      | .ok s => serve s o.probes wallClock a

end App
end ApiGateway
