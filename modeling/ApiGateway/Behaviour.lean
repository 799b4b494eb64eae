import ApiGateway.Delivery
import ApiGateway.Dispatching

/-!
# What collaborators do

A collaborator that is called may look at the gateway, keep something for itself, leave a note, ask
the gateway for one of its operations any number of times, and then return or fail.  `Behaviour`
is the type of such conduct.  Since the gateway may be asked from within a call that it made
itself, calls nest; `Behaviours.within n` is what the collaborators do when at most `n` calls are
nested, a call below that depth returning at once.
-/

namespace ApiGateway

inductive Action
  | advance (ns : Int)
  | create (handler : Handler)
  | move (move : Move) (handler : HandlerId)
  | handle (target : Target) (request : Request) (response : Response) (done : Callback)
  | answer (done : Callback) (response : Option Response)
  | addService
  | addSink (service : Nat) (sink : Option Reporter)
  | report (reporter : Reporter) (record : AccessRecord)
  | subscribe (listener : Listener)
  | unsubscribe (id : SubscriptionId)
  | publish (event : ApiEvent)
  | insertRoute (api : String) (handler : Option HandlerId)
  | eraseRoute (api : String)
  | clearRoutes
  | select (path host : String)
  | start
  | stop
  | shutDown
  | apply (event : ApiEvent)
  | deploy (api : Api)
  | update (api : Api)
  | undeploy (api : String)
  | undeployAll
  | dispatch (request : Option Request) (response : Option Response) (receiver : Option Nat)
  /-- Damages the published routes without a new version: the route on a path is lost, or passes
  to another owner, and the index is left as it was. -/
  | damage (path : String) (owner : Option String)
deriving DecidableEq, Repr, Inhabited

namespace Action

@[reducible] def Result : Action → Type
  | create _ => HandlerId
  | move .. => Except LifecycleError Unit
  | addService => Nat
  | subscribe _ => SubscriptionId
  | unsubscribe _ => Bool
  | insertRoute .. => Option Rejection
  | eraseRoute _ => Option HandlerId
  | clearRoutes => List Route
  | select .. => Option HandlerId
  | _ => Unit

end Action

namespace Routes

def damaged (r : Routes) (path : String) : Option String → Routes
  | none => r.vacate path
  | some owner =>
    { r with
      entries := r.entries.map fun e => if e.path = path then { e with api := owner } else e }

end Routes

namespace Run

variable {σ : Type}

def addService : Run σ Nat :=
  modifyGet fun g => (g.services.length, { g with services := g.services ++ [{}] })

def addSink (service : Nat) (sink : Option Reporter) : Run σ Unit :=
  modify fun g => { g with services := g.services.modify service (·.add sink) }

def damage (path : String) (owner : Option String) : Run σ Unit :=
  modify fun g => { g with table := { g.table with routes := g.table.routes.damaged path owner } }

def sure {α : Type} (x : Run σ α) : Run σ (Except Fault α) :=
  .ok <$> x

def perform (c : Collaborators σ) : (a : Action) → Run σ (Except Fault a.Result)
  | .advance ns => sure (advance ns)
  | .create h => sure (create h)
  | .move m h => sure (move c m h)
  | .handle t q r done => serve c .outside t q r done
  | .answer done r => answer c done r
  | .addService => sure addService
  | .addSink s r => sure (addSink s r)
  | .report reporter r => report c .outside reporter r
  | .subscribe l => sure (subscribe l)
  | .unsubscribe id => sure (unsubscribe id)
  | .publish e => sure (publish c e)
  | .insertRoute api h => sure (insertRoute api h)
  | .eraseRoute api => sure (eraseRoute api)
  | .clearRoutes => sure clearRoutes
  | .select path host => sure (select path host)
  | .start => sure start
  | .stop => sure (stop c)
  | .shutDown => sure (shutDown c)
  | .apply e => sure (apply c e)
  | .deploy api => sure (deploy c api)
  | .update api => sure (update c api)
  | .undeploy api => sure (undeploy c api)
  | .undeployAll => sure (undeployAll c)
  | .dispatch q r t => dispatch c q r t
  | .damage path owner => sure (damage path owner)

end Run

/-- The conduct of a collaborator that ends with an answer in `α`. -/
inductive Behaviour (σ α : Type)
  | give (answer : α)
  | fail (fault : Fault)
  | look (next : Gateway σ → Behaviour σ α)
  | keep (own : σ) (next : Behaviour σ α)
  | note (fields : List String) (next : Behaviour σ α)
  | ask (action : Action) (next : Except Fault action.Result → Behaviour σ α)

namespace Behaviour

variable {σ α β : Type}

def andThen : Behaviour σ α → (α → Behaviour σ β) → Behaviour σ β
  | give a, f => f a
  | fail e, _ => fail e
  | look next, f => look fun g => (next g).andThen f
  | keep own next, f => keep own (next.andThen f)
  | note fields next, f => note fields (next.andThen f)
  | ask a next, f => ask a fun r => (next r).andThen f

instance : Monad (Behaviour σ) where
  pure := give
  bind := andThen

/-- Asks for an action and goes on with whatever comes of it. -/
def attempt (a : Action) : Behaviour σ (Except Fault a.Result) :=
  ask a give

/-- Asks for an action and fails if it fails. -/
def require (a : Action) : Behaviour σ a.Result :=
  ask a fun
    | .ok r => give r
    | .error f => fail f

def failWith : Option Fault → Behaviour σ Unit
  | some f => fail f
  | none => give ()

def own : Behaviour σ σ :=
  look fun g => give g.own

def modifyOwn (f : σ → σ) : Behaviour σ Unit :=
  look fun g => keep (f g.own) (give ())

def run (c : Collaborators σ) : Behaviour σ α → Run σ (Except Fault α)
  | give a => return .ok a
  | fail e => return .error e
  | look next => do (next (← get)).run c
  | keep own next => do
    modify fun g => { g with own := own }
    next.run c
  | note fields next => do
    Run.write (.note fields)
    next.run c
  | ask a next => do (next (← Run.perform c a)).run c

end Behaviour

/-- The conduct of all collaborators: how the factory answers for an API, and what each call
does. -/
structure Behaviours (σ : Type) where
  build : Api → Behaviour σ (Option HandlerId)
  call : Invocation → Behaviour σ Unit

namespace Behaviours

variable {σ : Type}

/-- The collaborators when at most so many calls are nested. -/
def within (b : Behaviours σ) : Nat → Collaborators σ
  | 0 => .idle
  | n + 1 =>
    { depth := n + 1
      build := fun api => (b.build api).run (b.within n)
      call := fun i => (b.call i).run (b.within n) }

end Behaviours
end ApiGateway
