import ApiGateway.Proofs.Event.Calls
import ApiGateway.Proofs.Run.Requests

/-!
# The subscriptions in the course of a run

Every request calls the event bus at most once, and calls it before anything else.  So what was
asked for so far says what the bus is like, and who was told of an event before it was
unsubscribed.

* `Moment.busCall?`         the call of the bus that a request makes;
* `Gateway.deliveries`      who was told of which event so far;
* `Moment.Gone m id`        once the bus has been called, the id is gone;
* `Booked B g`              the bus is as the requests left it, and who is gone is not told any more;
* `lasting_booked`          so it stays, whatever is asked for.
-/

namespace ApiGateway

variable {σ τ α : Type}

/-- The call of the bus that the action begins with. -/
def Action.busCall? (a : Action) (d : Dispatcher) : Option BusCall :=
  match a with
  | .subscribe l => some (.subscribe l)
  | .unsubscribe id => some (.unsubscribe id)
  | .start => if d.running then none else some (.subscribe .gateway)
  | .stop | .shutDown => if d.running then d.subscription.map .unsubscribe else none
  | _ => none

def Entry.delivery? : Entry → Option (Subscription × ApiEvent)
  | call .gateway (.deliver id l e) => some (⟨id, l⟩, e)
  | _ => none

theorem Entry.freeCalls_delivery : Run.FreeCalls (·.delivery? = none) :=
  ⟨⟨fun _ _ _ => rfl, fun o _ _ => by cases o <;> rfl⟩, fun o _ _ => by cases o <;> rfl,
    fun _ _ _ => rfl, fun o _ _ _ _ => by cases o <;> rfl⟩

namespace Gateway

/-- Who was told of which event so far. -/
def deliveries (g : Gateway σ) : List (Subscription × ApiEvent) :=
  (g.journal.filterMap (·.delivery?)).reverse

/-- What a subscription was told of so far. -/
def deliveriesTo (g : Gateway σ) (id : SubscriptionId) : List (Subscription × ApiEvent) :=
  g.deliveries.filter (·.1.id = id)

theorem deliveries_write (g : Gateway σ) (e : Entry) :
    (Run.write e g).2.deliveries = g.deliveries ++ e.delivery?.toList :=
  Run.filterMap_write _ e g

/-- The gateway after a call of the bus, if there is one. -/
def rung (g : Gateway σ) (call : Option BusCall) : Gateway σ :=
  { g with bus := g.bus.after call.toList }

end Gateway

namespace Moment

def busCall? (m : Moment σ) : Option BusCall :=
  m.asked?.bind (·.busCall? m.gateway.dispatcher)

/-- The id was given out, and with the call that is asked for it is gone, if it was not before. -/
def Gone (m : Moment σ) (id : SubscriptionId) : Prop :=
  id < m.gateway.bus.nextId ∧
    (m.gateway.bus.isActive id = false ∨ m.busCall? = some (.unsubscribe id))

/-- The calls of the bus that requests made, the first one first. -/
def busCalls : List (Moment σ) → List BusCall
  | [] => []
  | m :: earlier => busCalls earlier ++ m.busCall?.toList

end Moment

/-- With each request the bus was called, and so it is as it is now; and who was gone with a request
has not been told of anything since. -/
structure Booked (B : EventBus) (g : Gateway (Watched σ)) : Prop where
  bus : g.bus = B.after (Moment.busCalls g.own.moments)
  seen : ∀ m earlier, m :: earlier <:+ g.own.moments →
    m.gateway.bus = B.after (Moment.busCalls earlier)
  gone : ∀ m ∈ g.own.moments, ∀ id, m.Gone id → id < g.bus.nextId ∧
    g.bus.isActive id = false ∧ g.deliveriesTo id = m.gateway.deliveriesTo id

namespace Booked

variable {B : EventBus} {g g' : Gateway (Watched σ)}

theorem watched (g : Gateway σ) : Booked g.bus g.watched where
  bus := rfl
  seen _ _ h := absurd (List.suffix_nil.mp h) (List.cons_ne_nil _ _)
  gone _ h := absurd h List.not_mem_nil

theorem congr (h : Booked B g) (hb : g.bus = g'.bus) (ho : g.own.moments = g'.own.moments)
    (hd : g.deliveries = g'.deliveries) : Booked B g' := by
  obtain ⟨hbus, hseen, hgone⟩ := h
  rw [hb, ho] at hbus
  rw [ho] at hseen
  refine ⟨hbus, hseen, fun m hm id hid => ?_⟩
  have hold := hgone m (ho ▸ hm) id hid
  rw [hb] at hold
  unfold Gateway.deliveriesTo at hold ⊢
  rwa [← hd]

/-- A request is noted, and calls the bus. -/
theorem requested (h : Booked B g) (a : Action) :
    Booked B ((g.requested a).rung (a.busCall? g.dispatcher)) := by
  obtain ⟨hbus, hseen, hgone⟩ := h
  have hmoments : ((g.requested a).rung (a.busCall? g.dispatcher)).own.moments =
      ⟨.asked a :: g.own.stack, g.bare⟩ :: g.own.moments := rfl
  have hrung : ((g.requested a).rung (a.busCall? g.dispatcher)).bus =
      g.bus.after (a.busCall? g.dispatcher).toList := rfl
  have hnext : g.bus.nextId ≤ (g.bus.after (a.busCall? g.dispatcher).toList).nextId :=
    EventBus.nextId_le_after _
  refine ⟨?_, fun m earlier hm => ?_, fun m hm id hid => ?_⟩
  · rw [hmoments, hrung, hbus, ← EventBus.after_append]
    rfl
  · rw [hmoments] at hm
    rcases List.suffix_cons_iff.mp hm with heq | hm
    · obtain ⟨rfl, rfl⟩ := List.cons.inj heq
      exact hbus
    · exact hseen m earlier hm
  · rw [hrung]
    rcases List.mem_cons.mp hm with rfl | hm
    · obtain ⟨hlt, hinactive⟩ := hid
      have hlt' : id < g.bus.nextId := hlt
      refine ⟨Nat.lt_of_lt_of_le hlt' hnext, Bool.eq_false_iff.mpr fun hact => ?_, rfl⟩
      obtain ⟨hbefore, hnot⟩ := (EventBus.isActive_after hlt' _).mp hact
      rcases hinactive with hfalse | hcall
      · have hfalse' : g.bus.isActive id = false := hfalse
        exact Bool.eq_false_iff.mp hfalse' hbefore
      · have hcall' : a.busCall? g.dispatcher = some (.unsubscribe id) := hcall
        rw [hcall'] at hnot
        exact hnot (List.mem_singleton.mpr rfl)
    · obtain ⟨hlt, hfalse, hsame⟩ := hgone m hm id hid
      refine ⟨Nat.lt_of_lt_of_le hlt hnext, Bool.eq_false_iff.mpr fun hact => ?_, hsame⟩
      exact Bool.eq_false_iff.mp hfalse ((EventBus.isActive_after hlt _).mp hact).1

/-- Someone who is not gone is told of an event. -/
theorem tell (h : Booked B g) {s : Subscription} (hs : g.bus.isActive s.id = true)
    (e : ApiEvent) : Booked B (Run.write (.call .gateway (.deliver s.id s.listener e)) g).2 := by
  refine ⟨h.bus, h.seen, fun m hm id hid => ?_⟩
  obtain ⟨hlt, hfalse, hsame⟩ := h.gone m hm id hid
  refine ⟨hlt, hfalse, ?_⟩
  have hne : s.id ≠ id := fun heq => Bool.eq_false_iff.mp hfalse (heq ▸ hs)
  unfold Gateway.deliveriesTo at hsame ⊢
  rw [Gateway.deliveries_write, List.filter_append, hsame]
  simp [Entry.delivery?, hne]

end Booked

namespace Run

/-! ### Operations -/

section
variable {B : EventBus} {c : Collaborators (Watched σ)}

theorem keeps_booked {f : Gateway (Watched σ) → α × Gateway (Watched σ)}
    (h : ∀ g, g.bus = (f g).2.bus ∧ g.own = (f g).2.own ∧ g.journal = (f g).2.journal) :
    Keeps (Booked B) (f : Run (Watched σ) α) := by
  intro g hg
  obtain ⟨hb, ho, hj⟩ := h g
  refine hg.congr hb (congrArg _ ho) ?_
  unfold Gateway.deliveries
  rw [hj]

theorem keeps_booked_write {e : Entry} (he : e.delivery? = none) :
    Keeps (Booked (σ := σ) B) (write e) := by
  intro g hg
  refine hg.congr rfl rfl ?_
  rw [Gateway.deliveries_write, he]
  exact (List.append_nil _).symm

theorem unrouted_booked : Unrouted (Holding (Booked (σ := σ) B)) :=
  .of_same fun g g' h hg => hg.congr h.bus (congrArg _ h.own) (by
    unfold Gateway.deliveries
    rw [h.journal])

theorem trafficless_booked : Trafficless (Holding (Booked (σ := σ) B)) :=
  .of_same fun g g' h hg => hg.congr h.bus (congrArg _ h.own) (by
    unfold Gateway.deliveries
    rw [h.journal])

variable (hc : c.Keep (Booked B))
include hc

theorem tolerates_booked : Tolerates (Holding (Booked B)) (·.delivery? = none) c c :=
  hc.tolerates (fun _ => rfl) fun _ he => keeps_booked_write he

theorem hear_booked (e : ApiEvent) (s : Subscription) :
    Leads (fun g => Booked B g ∧ g.bus.isActive s.id = true) (Booked B) (hear c e s) := by
  have happly := (unrouted_booked.apply (tolerates_booked hc) (fun _ _ _ => rfl) (fun _ => rfl)
    e).keeps
  refine Leads.bind (fun g hg => hg.1.tell hg.2 e) fun _ => ?_
  cases s.listener with
  | gateway => exact Leads.bind happly fun _ g hg => hg
  | outside l => exact hc.call _
  | empty => exact fun g hg => hg

theorem keeps_deliver_booked (e : ApiEvent) (l : List Subscription) :
    Keeps (Booked B) (deliver c e l) :=
  Keeps.deliver fun s _ g hg => turn_ends (fun _ => keeps_booked_write rfl)
    (fun hactive => hear_booked hc e s g ⟨hg, hactive⟩) fun _ => hg

omit hc in
theorem start_booked (g : Gateway (Watched σ))
    (hg : Booked B (g.rung (Action.busCall? .start g.dispatcher))) : Booked B (start g).2 := by
  have hcall : Action.busCall? .start g.dispatcher =
      if g.dispatcher.running then none else some (.subscribe .gateway) := rfl
  rw [hcall] at hg
  show Booked B ((if !g.dispatcher.running then _ else pure () : Run _ Unit) g).2
  by_cases hrun : g.dispatcher.running
  · rw [if_pos hrun] at hg
    rw [if_neg (by simp [hrun])]
    exact hg
  · rw [if_neg hrun] at hg
    rw [if_pos (by simp [hrun])]
    exact keeps_booked_write rfl _ (hg.congr rfl rfl rfl)

theorem keeps_undeployAll_booked : Keeps (Booked B) (undeployAll c) :=
  (unrouted_booked.undeployAll (tolerates_booked hc) fun _ _ _ => rfl).keeps

theorem stop_booked (g : Gateway (Watched σ))
    (hg : Booked B (g.rung (Action.busCall? .stop g.dispatcher))) : Booked B (stop c g).2 := by
  have hcall : Action.busCall? .stop g.dispatcher =
      if g.dispatcher.running then g.dispatcher.subscription.map .unsubscribe else none := rfl
  rw [hcall] at hg
  show Booked B ((if g.dispatcher.running then _ else pure () : Run _ Unit) g).2
  by_cases hrun : g.dispatcher.running
  · rw [if_pos hrun] at hg ⊢
    have hrest : Keeps (Booked B) (do
        undeployAll c
        adjust fun d => { d with running := false }
        notify .gatewayStopped) :=
      (keeps_undeployAll_booked hc).bind fun _ =>
        (keeps_booked fun _ => ⟨rfl, rfl, rfl⟩).bind fun _ => keeps_booked_write rfl
    have hend : Booked B (endSubscription g).2 := by
      unfold endSubscription
      rw [get_bind_apply]
      cases hsub : g.dispatcher.subscription with
      | none =>
        rw [hsub] at hg
        exact hg
      | some id =>
        rw [hsub] at hg
        exact hg.congr rfl rfl rfl
    exact hrest _ hend
  · rw [if_neg hrun] at hg ⊢
    exact hg

/-- Whatever is asked for, once the bus has been called for it. -/
theorem perform_booked (a : Action) (g : Gateway (Watched σ))
    (hg : Booked B (g.rung (a.busCall? g.dispatcher))) : Booked B (perform c a g).2 := by
  have T := tolerates_booked hc
  have F := Entry.freeCalls_delivery
  have other (a : Action) (ha : ¬ a.OfEvents) : Keeps (Booked B) (perform c a) :=
    (trafficless_booked.perform T F unrouted_booked.toInert a
      (unrouted_booked.perform T F.hook fun _ => rfl) fun h => absurd h ha).keeps
  cases a with
  | subscribe l => exact hg
  | unsubscribe id => exact hg
  | publish e => exact (keeps_booked_write rfl).bind (fun _ => keeps_deliver_booked hc e _) g hg
  | start => exact start_booked g hg
  | stop => exact stop_booked hc g hg
  | shutDown => exact keeps_undeployAll_booked hc _ (stop_booked hc g hg)
  | _ => exact other _ id g hg

end

theorem lasting_booked : Lasting (Booked (σ := σ)) where
  stack _ _ _ hg := hg.congr rfl rfl rfl
  own _ _ _ hg := hg.congr rfl rfl rfl
  note _ _ := keeps_booked_write rfl
  perform _ hc a B _ hg := perform_booked (hc B) a _ (hg.requested a)

end Run
end ApiGateway
