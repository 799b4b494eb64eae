import ApiGateway.Answering
import ApiGateway.Deployment
import ApiGateway.Http.Host

/-!
# Dispatching requests

A request goes to the handler of the selected route or to the fallback, together with a completion
to answer with.  A handler that fails before it has answered is answered for with a server error.
-/

namespace ApiGateway
namespace Run

variable {σ : Type}

def selectionNotice (r : Routes) (pool : HandlerId → Handler) (path host : String) : Notice :=
  match r.hosted? pool path host with
  | some e => .hostMatched (ContextPath.target path) host e.path
  | none => .candidates (r.candidates pool path).length (ContextPath.target path)

/-- The handler whose route serves a path on a host.  An empty table is no occasion for a
notice. -/
def select (path host : String) : Run σ (Option HandlerId) := do
  let g ← get
  let routes := g.table.routes
  if !routes.entries.isEmpty then notify (selectionNotice routes g.handler path host)
  return (routes.select? g.handler path host).map (·.handler)

def lookup (path host : String) : Run σ Target := do
  match ← select path host with
  | some h => return .handler h
  | none => return .fallback

def bestTarget (r : Request) : Run σ Target :=
  lookup r.path r.host

def serve (c : Collaborators σ) (o : Origin) (target : Target) (request : Request)
    (response : Response) (done : Callback) : Run σ (Except Fault Unit) := do
  write (.call o (.handle target request response done))
  match (← get).responder target with
  | .notFound =>
    notify (.unclaimed request.id request.path)
    answer c done (some response.asNotFound)
  | .fixed text => answer c done (some (response.asText text))
  | .outside => c.call (.handle target request response done)

def choose (request : Request) : Run σ (Target × Dispatch) := do
  let host := request.host
  match ← select request.path host with
  | some h => return (.handler h, ⟨request, host, ((← get).handler h).contextPath⟩)
  | none =>
    tally fun s => { s with notFound := s.notFound + 1 }
    return (.fallback, ⟨request, host, ""⟩)

/-- Dispatches one request.  Without a request the receiver gets a server error at once. -/
def dispatch (c : Collaborators σ) (request : Option Request) (response : Option Response)
    (receiver : Option Nat) : Run σ (Except Fault Unit) := do
  tally fun s => { s with dispatched := s.dispatched + 1 }
  let response := response.getD {}
  match request with
  | none =>
    notify .requestMissing
    if receiver.isSome then respond c .gateway receiver (some { response with status := 500 })
    else return .ok ()
  | some request =>
    notify (.receiving request.id request.path)
    let (target, dispatch) ← choose request
    let d := (← get).dispatcher
    let k ← wrap (.ofDispatch dispatch d.reporter d.timeHeader receiver)
    match ← serve c .gateway target request response (.completion k) with
    | .ok () => return .ok ()
    | .error f =>
      notify (.handlerFailed f)
      answer c (.completion k) (some .serverError)

end Run
end ApiGateway
