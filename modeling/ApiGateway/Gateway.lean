import ApiGateway.Completion
import ApiGateway.Event.Bus
import ApiGateway.Log.Notice
import ApiGateway.Route.Selection

/-!
# The gateway at one moment

`Gateway σ` holds everything the gateway keeps, next to a state `σ` of the collaborators' own.  The
gateway works by calling collaborators outside it, which may call back into the gateway before
they return.  `Collaborators σ` says what each such call does to it; every operation of the
gateway is a state change that takes the collaborators as an argument.

The journal lists, newest first, the notices of the gateway and every call that it made or that was
made of a completion.
-/

namespace ApiGateway

/-- A call that the gateway makes, apart from asking for handlers. -/
inductive Invocation
  /-- The hook of a handler, with the state in which it runs. -/
  | hook (move : Move) (handler : HandlerId) (seen : LifecycleState)
  | handle (target : Target) (request : Request) (response : Response) (done : Callback)
  | record (reporter : Reporter) (record : AccessRecord)
  | respond (receiver : Option Nat) (response : Option Response)
  | deliver (subscription : SubscriptionId) (listener : Listener) (event : ApiEvent)
deriving DecidableEq, Repr, Inhabited

inductive Origin
  | gateway
  | outside
  | completion (completion : CompletionId)
  /-- A reporting service, for the record that it counted as its `number`-th. -/
  | service (service number : Nat)
deriving DecidableEq, Repr, Inhabited

inductive Entry
  | notice (notice : Notice)
  | build (api : Api)
  | answer (completion : CompletionId) (time : Int) (response : Option Response)
  | call (origin : Origin) (invocation : Invocation)
  | note (fields : List String)
deriving DecidableEq, Repr, Inhabited

structure Dispatcher where
  fallback : Responder := .notFound
  reporter : Option Reporter := none
  /-- The elapsed time is written into a header field too. -/
  timeHeader : Bool := true
  running : Bool := false
  subscription : Option SubscriptionId := none
  stats : DispatchStats := {}
deriving DecidableEq, Repr, Inhabited

inductive SetupError
  | noFallback
  | noFactory
deriving DecidableEq, Repr, Inhabited

namespace SetupError

def message : SetupError → String
  | noFallback => "RoutingTable requires a fallback handler"
  | noFactory => "Reactor requires a handler factory"

end SetupError

namespace Dispatcher

/-- A dispatcher that has not been started.  Without a fallback or a factory there is none. -/
def create? (fallback : Option Responder) (factory : Bool) (reporter : Option Reporter)
    (timeHeader : Bool) : Except SetupError Dispatcher :=
  match fallback with
  | none => .error .noFallback
  | some f =>
    if factory then .ok { fallback := f, reporter := reporter, timeHeader := timeHeader }
    else .error .noFactory

end Dispatcher

structure Gateway (σ : Type) where
  clock : Int := 0
  journal : List Entry := []
  handlers : List Handler := []
  completions : List Completion := []
  services : List Service := []
  bus : EventBus := {}
  table : RouteTable := {}
  dispatcher : Dispatcher := {}
  own : σ

abbrev Run (σ : Type) := StateM (Gateway σ)

structure Collaborators (σ : Type) where
  /-- How many reporting services may be nested in one another. -/
  depth : Nat
  build : Api → Run σ (Except Fault (Option HandlerId))
  /-- Any other call.  What the gateway has at hand itself is never called this way. -/
  call : Invocation → Run σ (Except Fault Unit)

variable {σ : Type}

namespace Collaborators

def idle : Collaborators σ where
  depth := 0
  build _ := pure (.ok none)
  call _ := pure (.ok ())

end Collaborators

namespace Gateway

/-- The handler with a number; a number that was never given out belongs to a handler that is not
started. -/
def handler (g : Gateway σ) (h : HandlerId) : Handler :=
  g.handlers.getD h default

def responder (g : Gateway σ) : Target → Responder
  | .fallback => g.dispatcher.fallback
  | .handler h => (g.handler h).responder

end Gateway

namespace Run

def write (e : Entry) : Run σ Unit :=
  modify fun g => { g with journal := e :: g.journal }

def notify (n : Notice) : Run σ Unit :=
  write (.notice n)

def invoke (c : Collaborators σ) (o : Origin) (i : Invocation) : Run σ (Except Fault Unit) := do
  write (.call o i)
  c.call i

def build (c : Collaborators σ) (api : Api) : Run σ (Except Fault (Option HandlerId)) := do
  write (.build api)
  c.build api

def advance (ns : Int) : Run σ Unit :=
  modify fun g => { g with clock := g.clock + ns }

def create (h : Handler) : Run σ HandlerId :=
  modifyGet fun g => (g.handlers.length, { g with handlers := g.handlers ++ [h] })

def wrap (k : Completion) : Run σ CompletionId :=
  modifyGet fun g => (g.completions.length, { g with completions := g.completions ++ [k] })

def setState (h : HandlerId) (s : LifecycleState) : Run σ Unit :=
  modify fun g => { g with handlers := g.handlers.modify h ({ · with state := s }) }

def tally (f : DispatchStats → DispatchStats) : Run σ Unit :=
  modify fun g => { g with dispatcher := { g.dispatcher with stats := f g.dispatcher.stats } }

end Run
end ApiGateway
