import ApiGateway.Deployment

/-!
# Delivering events

An event goes to everyone who was subscribed when its delivery began, in the order of
subscription.  Who has been unsubscribed by the time of its turn is left out; who subscribes during
the delivery gets the next event.  A fault of a listener is a notice.
-/

namespace ApiGateway
namespace Run

variable {σ : Type}

def hear (c : Collaborators σ) (e : ApiEvent) (s : Subscription) : Run σ (Except Fault Unit) := do
  write (.call .gateway (.deliver s.id s.listener e))
  match s.listener with
  | .gateway =>
    apply c e
    return .ok ()
  | .outside _ => c.call (.deliver s.id s.listener e)
  | .empty => return .error .emptyCallback

/-- Delivers an event to subscriptions that are still active when their turn comes. -/
def deliver (c : Collaborators σ) (e : ApiEvent) : List Subscription → Run σ Unit
  | [] => pure ()
  | s :: rest => do
    if (← get).bus.isActive s.id then
      match ← hear c e s with
      | .ok () => pure ()
      | .error f => notify (.listenerFailed s.id e f)
    deliver c e rest

/-- Delivers an event to everyone subscribed now. -/
def publish (c : Collaborators σ) (e : ApiEvent) : Run σ Unit := do
  let listeners := (← get).bus.subscriptions
  notify (.publishing e listeners.length)
  deliver c e listeners

end Run
end ApiGateway
