import ApiGateway.Gateway

/-!
# Answering a request

What a call of a completion does, and how a record reaches the reporters.  A fault of a reporter is
a notice and goes no further; a fault of the receiver reaches whoever called the completion.
-/

namespace ApiGateway
namespace Run

variable {σ : Type}

/-- Gives a record to each sink in turn, whatever the sinks before did. -/
def fanOut (pass : Reporter → AccessRecord → Run σ (Except Fault Unit)) (r : AccessRecord) :
    List Reporter → Run σ Unit
  | [] => pure ()
  | sink :: rest => do
    match ← pass sink r with
    | .ok () => pure ()
    | .error f => notify (.sinkFailed r.requestId f)
    fanOut pass r rest

def countAt (s : Nat) (r : AccessRecord) : Run σ Service :=
  modifyGet fun g =>
    let services := g.services.modify s (·.count r)
    (services.getD s {}, { g with services := services })

/-- Gives a record to a reporter inside at most `n` services.  A service counts the record and
hands it to the sinks that it has at that moment. -/
def reportWithin (c : Collaborators σ) :
    Nat → Origin → Reporter → AccessRecord → Run σ (Except Fault Unit)
  | _, o, .log, r => do
    write (.call o (.record .log r))
    return .ok ()
  | _, o, .outside k, r => invoke c o (.record (.outside k) r)
  | 0, o, .service s, r => do
    write (.call o (.record (.service s) r))
    let _ ← countAt s r
    return .ok ()
  | n + 1, o, .service s, r => do
    write (.call o (.record (.service s) r))
    let service ← countAt s r
    fanOut (reportWithin c n (.service s service.records)) r service.sinks
    return .ok ()

def report (c : Collaborators σ) (o : Origin) (reporter : Reporter) (r : AccessRecord) :
    Run σ (Except Fault Unit) :=
  reportWithin c c.depth o reporter r

def respond (c : Collaborators σ) (o : Origin) (receiver : Option Nat) (r : Option Response) :
    Run σ (Except Fault Unit) := do
  write (.call o (.respond receiver r))
  if receiver.isSome then c.call (.respond receiver r)
  else return .error .emptyCallback

def pass (c : Collaborators σ) (k : CompletionId) (receiver : Option Nat) :
    List Layer → Option Response → Run σ (Except Fault Unit)
  | [], r => respond c (.completion k) receiver r
  | .once id :: inner, r => do
    if ((← get).completions[k]?.map (·.fired)).getD true then
      notify (.repeated id)
      return .ok ()
    else
      modify fun g => { g with completions := g.completions.modify k ({ · with fired := true }) }
      match r with
      | some r => pass c k receiver inner (some r)
      | none =>
        notify (.unanswered id)
        pass c k receiver inner (some .serverError)
  | .timed request header :: inner, r => do
    let elapsed := (← get).clock - request.receivedAt
    match ← pass c k receiver inner (r.map (·.stamped elapsed header)) with
    | .error f => return .error f
    | .ok () =>
      notify (.completed request.id (((← get).clock - request.receivedAt).tdiv 1000))
      return .ok ()
  | .reported reporter dispatch :: inner, r => do
    match reporter, r with
    | some reporter, some response =>
      match ← report c (.completion k) reporter (dispatch.record response) with
      | .ok () => pure ()
      | .error f => notify (.reportFailed dispatch.request.id f)
    | _, _ => pure ()
    pass c k receiver inner r

def answer (c : Collaborators σ) (done : Callback) (r : Option Response) :
    Run σ (Except Fault Unit) := do
  match done with
  | .receiver t => respond c .gateway t r
  | .completion k =>
    match (← get).completions[k]? with
    | some completion =>
      write (.answer k (← get).clock r)
      pass c k completion.receiver completion.layers r
    | none => return .ok ()

end Run
end ApiGateway
