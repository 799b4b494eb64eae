import ApiGateway.Scenario.Transcript

/-!
# Running scenarios

A scenario sets up as much of a gateway as it needs and takes its steps one by one; each step
answers with a result, a transcript and the state it leaves.
-/

namespace ApiGateway
namespace Scenario

def nesting : Nat := 10000

/-- Carries out a conduct of someone who stands outside every call. -/
def act {α : Type} (x : Act α) (g : Gateway State) : Except Fault α × Gateway State :=
  (x.run (behaviours.within nesting)).run g

structure Setup where
  stage : Stage := .bus
  fallback : Bool := true
  hasFactory : Bool := true
  factory : List (String × List (FactorySpec Step)) := []
  reporter : ReporterSpec Step := .absent
  timeHeader : Bool := true
deriving Inhabited

namespace Setup

def gateway (s : Setup) : Except SetupError (Gateway State) :=
  let (reporter, g) :=
    act (addReporter s.reporter) { own := { stage := s.stage, factory := s.factory } }
  let fallback := if s.fallback then some Responder.notFound else none
  match s.stage with
  | .bus => .ok g
  | _ =>
    match Dispatcher.create? fallback (s.stage == .table || s.hasFactory)
        (reporter.toOption.bind id) s.timeHeader with
    | .ok d => .ok { g with dispatcher := d }
    | .error e => .error e

end Setup

structure Report where
  result : Value
  transcript : List (List String)
  state : Value
deriving Inhabited

/-- Takes one step with an empty journal and the routes that stand before it.  Where it takes out
several routes at once, nothing is said about their order and the transcript is sorted. -/
def takeStep (s : Step) (g : Gateway State) : Report × Gateway State :=
  let (result, after) := act (play s) { g with journal := [] }
  let rows := transcript after.own after.journal
  let sweeps := match s with
    | .undeployAll => true
    | .stop => true
    | .destroy => true
    | _ => false
  let result : Value := match result with
    | .ok r => outcome r
    | .error f => .ofFault f
  ({ result := result
     transcript := if sweeps && 1 < g.table.size then sorted rows else rows
     state := stateValue after }, after)

def takeSteps : List Step → Gateway State → List Report
  | [], _ => []
  | s :: rest, g =>
    let (report, after) := takeStep s g
    report :: takeSteps rest after

def run (setup : Setup) (steps : List Step) : Except SetupError (List Report) :=
  (takeSteps steps ·) <$> setup.gateway

/-- A completion that is called directly, without a handler. -/
structure Exercise where
  now : Int := 0
  layers : Option Reporter → List Layer
  reporter : ReporterSpec Step := .absent
  receiver : Option (Conduct Step) := some {}

/-- The clock moves, then the completion is called if there is a call; a call may come without a
response. -/
structure Call where
  advance : Int := 0
  response : Option (Option Response) := none

structure CallReport where
  result : Value
  transcript : List (List String)
  now : Int
deriving Inhabited

namespace Exercise

def call (k : CompletionId) (c : Call) : Act (Except Fault Value) := do
  Behaviour.require (.advance c.advance)
  match c.response with
  | none => return .ok .null
  | some r => did (.answer (.completion k) r)

def calls (k : CompletionId) : List Call → Gateway State → List CallReport
  | [], _ => []
  | c :: rest, g =>
    let (result, after) := act (call k c) { g with journal := [] }
    let result : Value := match result with
      | .ok r => outcome r
      | .error f => .ofFault f
    ⟨result, transcript after.own after.journal, after.clock⟩ :: calls k rest after

def run (e : Exercise) (list : List Call) : List CallReport :=
  let prepare : Act (Option Reporter × Option Nat) := do
    let reporter ← addReporter e.reporter
    let receiver ← addReceiver "terminal" e.receiver
    return (reporter, receiver)
  let (prepared, g) := act prepare { clock := e.now, own := {} }
  let (reporter, receiver) := prepared.toOption.getD (none, none)
  let (k, g) := (Run.wrap { layers := e.layers reporter, receiver := receiver }).run g
  calls k list g

end Exercise
end Scenario
end ApiGateway
