/-!
# The event bus

Who listens to API events, in the order in which they subscribed.  Subscription ids start at 1 and
are never given out twice, so an id that is gone stays gone: a delivery under way can tell from the
id alone whether a listener is still subscribed.
-/

namespace ApiGateway

abbrev SubscriptionId := Nat

inductive Listener
  | gateway
  | outside (listener : Nat)
  /-- A subscription that came without a listener. -/
  | empty
deriving DecidableEq, Repr, Inhabited

structure Subscription where
  id : SubscriptionId
  listener : Listener
deriving DecidableEq, Repr, Inhabited

structure EventBus where
  subscriptions : List Subscription := []
  nextId : SubscriptionId := 1
deriving DecidableEq, Repr, Inhabited

namespace EventBus

def subscribe (b : EventBus) (l : Listener) : SubscriptionId × EventBus :=
  (b.nextId,
    { subscriptions := b.subscriptions ++ [⟨b.nextId, l⟩], nextId := b.nextId + 1 })

def isActive (b : EventBus) (id : SubscriptionId) : Bool :=
  b.subscriptions.any (·.id == id)

/-- Ends a subscription; an id that is not active ends none. -/
def unsubscribe (b : EventBus) (id : SubscriptionId) : Bool × EventBus :=
  (b.isActive id, { b with subscriptions := b.subscriptions.filter (·.id != id) })

theorem isActive_subscribe (b : EventBus) (l : Listener) (id : SubscriptionId) :
    (b.subscribe l).2.isActive id = (b.isActive id || id == b.nextId) := by
  simp [subscribe, isActive, List.any_append, Bool.beq_comm]

theorem isActive_unsubscribe (b : EventBus) (id other : SubscriptionId) :
    (b.unsubscribe id).2.isActive other = (b.isActive other && other != id) := by
  simp only [unsubscribe, isActive]
  induction b.subscriptions with
  | nil => rfl
  | cons s rest ih => grind

def size (b : EventBus) : Nat :=
  b.subscriptions.length

end EventBus
end ApiGateway
