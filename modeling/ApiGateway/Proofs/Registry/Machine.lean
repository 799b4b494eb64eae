import ApiGateway.Proofs.Run.Aloof

/-!
# A registry of APIs

What deploying, updating and removing APIs comes to, told without handlers that have states, a
route table with an index, or a journal: a registry is a list of served APIs and four counters.

* `Served`             an API that is served: on which path and host, and by which handler;
* `Registry.deploy`, `Registry.update`, `Registry.undeploy`, `Registry.clear`   its operations;
* `Command`            what a registry and a gateway are both told to do.
-/

namespace ApiGateway

variable {σ : Type}

structure Served where
  api : String
  path : String
  host : Option String
  handler : HandlerId
  responder : Responder
deriving DecidableEq, Repr, Inhabited

namespace Served

/-- What is served for an API by a new handler. -/
def ofApi (api : Api) (h : HandlerId) (responder : Responder) : Served where
  api := api.id
  path := ContextPath.normalize api.contextPath
  host := (api.virtualHost.filter (!·.isEmpty)).map Ascii.lowerCase
  handler := h
  responder := responder

end Served

structure Registry (σ : Type) where
  /-- No two of one id, and no two on one path. -/
  served : List Served := []
  /-- How many handlers have been made. -/
  made : Nat := 0
  stats : DispatchStats := {}
  /-- What the collaborators keep. -/
  own : σ

namespace Registry

/-- The API can be served: its id has 1 to 128 bytes and is not in use, its path has 1 to 1024 bytes
and is not in use. -/
def Accepts (r : Registry σ) (e : Served) : Prop :=
  (1 ≤ e.api.utf8ByteSize ∧ e.api.utf8ByteSize ≤ 128) ∧
    (1 ≤ e.path.utf8ByteSize ∧ e.path.utf8ByteSize ≤ 1024) ∧
    (∀ e' ∈ r.served, e'.path ≠ e.path) ∧ ∀ e' ∈ r.served, e'.api ≠ e.api

instance (r : Registry σ) (e : Served) : Decidable (r.Accepts e) :=
  inferInstanceAs (Decidable (_ ∧ _ ∧ _ ∧ _))

def count (r : Registry σ) (f : DispatchStats → DispatchStats) : Registry σ :=
  { r with stats := f r.stats }

def deployFailed (r : Registry σ) : Registry σ :=
  r.count fun s => { s with deployFailures := s.deployFailures + 1 }

variable (a : Aloof σ)

/-- A handler is stopped; that this fails is counted and changes nothing else. -/
def halt (e : Served) (r : Registry σ) : Registry σ :=
  match a.runHook .stop e.handler r.own e.responder with
  | (.ok (), o) => { r with own := o }
  | (.error _, o) =>
    { r with own := o }.count fun s => { s with stopFailures := s.stopFailures + 1 }

/-- A new handler is started and published, and stopped again if it cannot be published. -/
def launch (e : Served) (r : Registry σ) : Registry σ :=
  match a.runHook .start e.handler r.own e.responder with
  | (.error _, o) => { r with own := o }.deployFailed
  | (.ok (), o) =>
    if r.Accepts e then
      { r with own := o, served := r.served ++ [e] }.count fun s =>
        { s with deployed := s.deployed + 1 }
    else halt a e { r with own := o }.deployFailed

def deploy (api : Api) (r : Registry σ) : Registry σ :=
  if api.enabled then
    match a.build api r.own with
    | (.error _, o) => { r with own := o }.deployFailed
    | (.ok none, o) => { r with own := o }.deployFailed
    | (.ok (some responder), o) =>
      launch a (.ofApi api r.made responder) { r with own := o, made := r.made + 1 }
  else r

/-- A served API is taken out, then its handler is stopped. -/
def undeploy (api : String) (r : Registry σ) : Registry σ :=
  match r.served.find? (·.api = api) with
  | none => r
  | some e => halt a e <| { r with served := r.served.filter (·.api ≠ api) }.count fun s =>
      { s with undeployed := s.undeployed + 1 }

def update (api : Api) (r : Registry σ) : Registry σ :=
  deploy a api (undeploy a api.id r)

/-- Handlers that are served no longer are stopped, one after the other. -/
def haltAll : List Served → Registry σ → Registry σ
  | [], r => r
  | e :: rest, r =>
    haltAll rest (halt a e (r.count fun s => { s with undeployed := s.undeployed + 1 }))

def clear (r : Registry σ) : Registry σ :=
  haltAll a r.served { r with served := [] }

def apply (e : ApiEvent) : Registry σ → Registry σ :=
  match e.kind with
  | .deploy => deploy a e.api
  | .update => update a e.api
  | .undeploy => undeploy a e.api.id
  | .other _ => id

/-- Who serves what: API id, context path, virtual host and handler. -/
def routes (r : Registry σ) : List (String × String × Option String × HandlerId) :=
  r.served.map fun e => (e.api, e.path, e.host, e.handler)

end Registry

/-- What a registry and a gateway are told. -/
inductive Command
  | event (event : ApiEvent)
  | clear
deriving DecidableEq, Repr

namespace Command

def step (a : Aloof σ) : Command → Registry σ → Registry σ
  | event e => Registry.apply a e
  | clear => Registry.clear a

/-- A gateway is told. -/
def tell (c : Collaborators σ) : Command → Run σ (Except Fault Unit)
  | event e => Run.perform c (.apply e)
  | clear => Run.perform c .undeployAll

end Command

namespace Gateway

/-- Who serves what: API id, context path, virtual host and handler. -/
def routes (g : Gateway σ) : List (String × String × Option String × HandlerId) :=
  g.table.routes.entries.map fun e => (e.api, e.path, (g.handler e.handler).virtualHost, e.handler)

end Gateway
end ApiGateway
