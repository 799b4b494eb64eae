import ApiGateway.Gateway

/-!
# Moving handlers through their lifecycle

`Run.move` runs the hook of a move between the state before and the state after it.  The hook may
call back into the gateway.
-/

namespace ApiGateway
namespace Run

variable {σ : Type}

def hook (c : Collaborators σ) (m : Move) (h : HandlerId) (seen : LifecycleState) :
    Run σ (Except Fault Unit) := do
  write (.call .gateway (.hook m h seen))
  let handler := (← get).handler h
  match handler.responder, m with
  | .outside, _ => c.call (.hook m h seen)
  | .fixed _, .start => notify (.fixedStarted handler.contextPath); return .ok ()
  | .fixed _, .stop => notify (.fixedStopped handler.contextPath); return .ok ()
  | .notFound, _ => return .ok ()

def move (c : Collaborators σ) (m : Move) (h : HandlerId) :
    Run σ (Except LifecycleError Unit) := do
  let state := ((← get).handler h).state
  match m.hookState? state with
  | none => return .error (.invalidTransition m state)
  | some seen =>
    setState h seen
    let (after, result) := m.settle (← hook c m h seen)
    setState h after
    return result

end Run
end ApiGateway
