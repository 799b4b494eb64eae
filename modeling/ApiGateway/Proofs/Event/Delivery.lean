import ApiGateway.Proofs.Event.History

/-!
# Who is told of an event

An event is told to everyone who was subscribed when its delivery began, one after another, unless
someone has unsubscribed them by then.  Listeners may subscribe and unsubscribe whom they like
meanwhile.

* `Run.notified`             who is still subscribed when their turn comes;
* `Quiet`                    as long as nobody publishes, nobody else is told of anything;
* `DeliveredOnce`            what a delivery comes to;
* `Run.events_delivered`     every delivery of every run.
-/

namespace ApiGateway

variable {σ τ α : Type}

namespace Run

/-- Who of some subscriptions is told of an event. -/
def notified (c : Collaborators σ) (e : ApiEvent) : List Subscription → Gateway σ →
    List Subscription
  | [], _ => []
  | s :: rest, g =>
    if g.bus.isActive s.id then s :: notified c e rest (turn c e s g).2
    else notified c e rest (turn c e s g).2

/-- The beginning of a delivery, up to some of those who are subscribed. -/
def deliverTo (c : Collaborators σ) (e : ApiEvent) (before : List Subscription) : Run σ Unit := do
  notify (.publishing e (← get).bus.subscriptions.length)
  deliver c e before

section
variable (c : Collaborators σ) (e : ApiEvent)

theorem notified_append (l l' : List Subscription) (g : Gateway σ) :
    notified c e (l ++ l') g = notified c e l g ++ notified c e l' (deliver c e l g).2 := by
  induction l generalizing g with
  | nil => rfl
  | cons s rest ih =>
    rw [List.cons_append, deliver_cons, notified, notified, ih]
    split
    · rfl
    · rfl

theorem notified_sublist (l : List Subscription) (g : Gateway σ) :
    (notified c e l g).Sublist l := by
  induction l generalizing g with
  | nil => exact List.Sublist.refl _
  | cons s rest ih =>
    rw [notified]
    split
    · exact (ih _).cons_cons s
    · exact (ih _).cons s

/-- Someone is told of an event who is still subscribed when their turn comes. -/
theorem mem_notified_iff {before after : List Subscription} {s : Subscription}
    (hn : ((before ++ s :: after).map (·.id)).Nodup) (g : Gateway σ) :
    s ∈ notified c e (before ++ s :: after) g ↔
      (deliver c e before g).2.bus.isActive s.id = true := by
  rw [List.map_append, List.map_cons, List.nodup_append, List.nodup_cons] at hn
  obtain ⟨-, ⟨hafter, -⟩, hbefore⟩ := hn
  have hnot {l : List Subscription} {g : Gateway σ} (h : s.id ∉ l.map (·.id)) :
      s ∉ notified c e l g :=
    fun hmem => h (List.mem_map_of_mem ((notified_sublist c e l g).subset hmem))
  have hnot' : s ∉ notified c e before g :=
    hnot fun h => hbefore _ h _ List.mem_cons_self rfl
  rw [notified_append, List.mem_append, or_iff_right hnot', notified]
  split
  next hact => simp [hact]
  next hact => simp [hact, hnot hafter]

end
end Run

/-! ### Nobody else is told -/

/-- A delivery is asked for. -/
def Moment.publishes (m : Moment σ) : Bool :=
  match m.asked? with
  | some (.publish _) => true
  | _ => false

/-- Someone has asked for a delivery. -/
def Published (o : Watched σ) : Prop :=
  ∃ m ∈ o.moments, m.publishes = true

/-- Someone has asked for a delivery, or only these have been told of an event. -/
def Quiet (D : Option (List (Subscription × ApiEvent))) (g : Gateway (Watched σ)) : Prop :=
  Published g.own ∨ g.deliveries ∈ D

namespace Run

section
variable {D : Option (List (Subscription × ApiEvent))} {c : Collaborators (Watched σ)}

theorem keeps_quiet_write {e : Entry} (he : e.delivery? = none) :
    Keeps (Quiet (σ := σ) D) (write e) := by
  intro g hg
  refine hg.imp id fun hd => ?_
  rw [Gateway.deliveries_write, he, Option.toList_none, List.append_nil]
  exact hd

theorem atoms_quiet : Atoms (Holding (Quiet (σ := σ) D)) :=
  .of_same fun g g' h hg => by
    unfold Quiet Gateway.deliveries at hg ⊢
    rwa [← h.own, ← h.journal]

theorem trafficless_quiet : Trafficless (Holding (Quiet (σ := σ) D)) :=
  .of_same fun g g' h hg => by
    unfold Quiet Gateway.deliveries at hg ⊢
    rwa [← h.own, ← h.journal]

variable (hc : ∀ D, c.Keep (Quiet D))
include hc

theorem tolerates_quiet : Tolerates (Holding (Quiet D)) (·.delivery? = none) c c :=
  (hc D).tolerates (fun _ => rfl) fun _ he => keeps_quiet_write he

/-- A listener who does not publish tells nobody else of an event. -/
theorem hear_quiet (D : List (Subscription × ApiEvent)) (e : ApiEvent) (s : Subscription) :
    Leads (Quiet (some D)) (Quiet (some (D ++ [(s, e)]))) (hear c e s) := by
  have happly : Keeps (Quiet (some (D ++ [(s, e)]))) (apply c e) :=
    (atoms_quiet.apply (tolerates_quiet hc) (fun _ _ _ => rfl) (fun _ => rfl) e).keeps
  refine Leads.bind (Q := Quiet (some (D ++ [(s, e)]))) (fun g hg => ?_) fun _ => ?_
  · refine hg.imp id fun hd => ?_
    rw [Gateway.deliveries_write, Option.mem_some.mp hd]
    rfl
  · cases s.listener with
    | gateway => exact Leads.bind happly fun _ g hg => hg
    | outside l => exact (hc _).call _
    | empty => exact fun g hg => hg

theorem turn_quiet (D : List (Subscription × ApiEvent)) (e : ApiEvent) (s : Subscription)
    (g : Gateway (Watched σ)) (hg : Quiet (some D) g) :
    Quiet (some (if g.bus.isActive s.id then D ++ [(s, e)] else D)) (turn c e s g).2 := by
  refine turn_ends (fun _ => keeps_quiet_write rfl) (fun h => ?_) fun h => ?_
  · rw [if_pos h]
    exact hear_quiet hc D e s g hg
  · rw [h, if_neg Bool.false_ne_true]
    exact hg

theorem deliver_quiet (e : ApiEvent) (l : List Subscription) (D : List (Subscription × ApiEvent))
    (g : Gateway (Watched σ)) (hg : Quiet (some D) g) :
    Quiet (some (D ++ (notified c e l g).map (·, e))) (deliver c e l g).2 := by
  induction l generalizing D g with
  | nil =>
    rw [notified, List.map_nil, List.append_nil]
    exact hg
  | cons s rest ih =>
    have hturn := turn_quiet hc D e s g hg
    rw [deliver_cons, notified]
    by_cases h : g.bus.isActive s.id
    · rw [if_pos h] at hturn ⊢
      have hrest := ih _ _ hturn
      rwa [List.append_assoc] at hrest
    · rw [if_neg h] at hturn ⊢
      exact ih _ _ hturn

theorem perform_quiet (a : Action) (D : Option (List (Subscription × ApiEvent)))
    (g : Gateway (Watched σ)) (hg : Quiet D g) : Quiet D (perform c a (g.requested a)).2 := by
  have T := tolerates_quiet (D := D) hc
  have F := Entry.freeCalls_delivery
  have hmoments : (g.requested a).own.moments =
      ⟨.asked a :: g.own.stack, g.bare⟩ :: g.own.moments := rfl
  by_cases ha : ∃ e, a = .publish e
  · -- from now on someone has asked for a delivery, and that is all there is to know
    obtain ⟨e, rfl⟩ := ha
    have hpublished : Quiet none (g.requested (.publish e)) :=
      .inl ⟨_, List.mem_cons_self, rfl⟩
    have hkeep : c.Keep fun g => Published g.own := by
      have hnone (g : Gateway (Watched σ)) : Quiet none g ↔ Published g.own := by
        simp [Quiet]
      refine ⟨fun api g hg => ?_, fun i g hg => ?_⟩
      · exact (hnone _).mp ((hc none).build api g ((hnone g).mpr hg))
      · exact (hnone _).mp ((hc none).call i g ((hnone g).mpr hg))
    exact .inl (keeps_own hkeep (.publish e) _ ⟨_, List.mem_cons_self, rfl⟩)
  · have hg' : Quiet D (g.requested a) := by
      refine hg.imp (fun ⟨m, hm, he⟩ => ⟨m, ?_, he⟩) id
      rw [hmoments]
      exact List.mem_cons_of_mem _ hm
    exact (trafficless_quiet.perform T F atoms_quiet.toInert a
      (atoms_quiet.toUnrouted.perform T F.hook fun _ => rfl)
      fun hev => atoms_quiet.events T F.hook hev fun e he => absurd ⟨e, he⟩ ha).keeps _ hg'

end

theorem lasting_quiet : Lasting (Quiet (σ := σ)) where
  stack _ _ _ hg := hg
  own _ _ _ hg := hg
  note _ _ := keeps_quiet_write rfl
  perform _ hc a D g hg := perform_quiet hc a D g hg

end Run

/-- What a delivery comes to: these are told of the event, once each and in the order in which they
subscribed, namely everyone whom nobody has unsubscribed when their turn comes. -/
structure DeliveredOnce (b : Behaviours σ) (d : Nat) (e : ApiEvent) (g : Gateway σ)
    (told : List Subscription) : Prop where
  returns : (Run.perform (b.within d) (.publish e) g).1 = .ok ()
  deliveries : (Run.publish (b.within d) e g).2.deliveries = g.deliveries ++ told.map (·, e)
  order : told.Sublist g.bus.subscriptions
  once : (told.map (·.id)).Nodup
  turn : ∀ before s after, g.bus.subscriptions = before ++ s :: after →
    (s ∈ told ↔ ∀ m ∈ b.requestsIn d (fun c => Run.deliverTo c e before) g,
      m.busCall? ≠ some (.unsubscribe s.id))

namespace Run

theorem mem_busCalls_iff {id : SubscriptionId} {l : List (Moment σ)} :
    .unsubscribe id ∈ Moment.busCalls l ↔ ∃ m ∈ l, m.busCall? = some (.unsubscribe id) := by
  induction l with
  | nil => simp [Moment.busCalls]
  | cons m rest ih =>
    rw [Moment.busCalls, List.mem_append, ih, Option.mem_toList, List.exists_mem_cons_iff]
    exact or_comm

section
variable (b : Behaviours σ) (d : Nat) (e : ApiEvent) (g : Gateway σ)

/-- Someone is still subscribed at their turn unless it was asked to unsubscribe them before. -/
theorem isActive_deliverTo {s : Subscription} (hs : s ∈ g.bus.subscriptions)
    (hlt : s.id < g.bus.nextId) (before : List Subscription) :
    (deliverTo (b.recorded.within d) e before g.watched).2.bus.isActive s.id = true ↔
      ∀ m ∈ b.requestsIn d (fun c => deliverTo c e before) g,
        m.busCall? ≠ some (.unsubscribe s.id) := by
  have hbooked : Booked g.bus (deliverTo (b.recorded.within d) e before g.watched).2 :=
    ((keeps_booked_write rfl).bind fun _ =>
      keeps_deliver_booked (lasting_booked.within b d g.bus) e before) _ (Booked.watched g)
  have hact : g.bus.isActive s.id = true :=
    EventBus.isActive_iff.mpr (List.mem_map_of_mem hs)
  rw [hbooked.bus, EventBus.isActive_after hlt, mem_busCalls_iff]
  simp only [hact, true_and, not_exists, not_and]
  rfl

/-- A delivery during which nobody publishes. -/
theorem deliveredOnce (hn : g.bus.ids.Nodup) (hlt : ∀ id ∈ g.bus.ids, id < g.bus.nextId)
    (hquiet : ∀ m ∈ b.requestsIn d (fun c => publish c e) g, m.publishes = false) :
    ∃ told, DeliveredOnce b d e g told := by
  let c := b.recorded.within d
  let x := (notify (.publishing e g.bus.subscriptions.length) g.watched).2
  have hstart : Quiet (some g.deliveries) x := keeps_quiet_write rfl g.watched (.inr rfl)
  have hend := deliver_quiet (lasting_quiet.within b d) e g.bus.subscriptions _ x hstart
  have hbare : (publish (b.within d) e g).2 = (publish c e g.watched).2.bare :=
    (robust_bare.perform (tolerates_recorded b d) (.publish e) g g.watched rfl).2
  rcases hend with ⟨m, hm, hpublishes⟩ | hend
  · exact absurd hpublishes (Bool.eq_false_iff.mp (hquiet m hm))
  · refine ⟨notified c e g.bus.subscriptions x, rfl, ?_, notified_sublist c e _ x,
      hn.sublist ((notified_sublist c e _ x).map _), fun before s after hsubs => ?_⟩
    · rw [hbare]
      exact (Option.some.inj hend).symm
    · have hs : s ∈ g.bus.subscriptions := hsubs ▸ List.mem_append_right _ List.mem_cons_self
      have hmem : s ∈ notified c e (before ++ s :: after) x ↔
          (deliver c e before x).2.bus.isActive s.id = true :=
        mem_notified_iff c e (hsubs ▸ hn) x
      rw [← isActive_deliverTo b d e g hs (hlt _ (List.mem_map_of_mem hs)) before, hsubs]
      rw [← hsubs] at hmem ⊢
      exact hmem

end

section
variable (b : Behaviours σ) (n : Nat) (user : Behaviour σ α) {g₀ : Gateway σ} (hbus : g₀.bus = {})
include hbus

/-- At every request the bus is as the requests before left it. -/
theorem bus_of_requests (m : Moment σ) (earlier : List (Moment σ))
    (hm : m :: earlier <:+ b.requests n user g₀) :
    m.gateway.bus = (BusBook.kept (Moment.busCalls earlier)).bus := by
  have hbooked : Booked g₀.bus (user.recorded.run (b.recorded.within n) g₀.watched).2 :=
    lasting_booked.conduct (lasting_booked.within b n) user _ _ (Booked.watched g₀)
  have hseen := hbooked.seen m earlier hm
  rwa [hbus, ← BusBook.bus_kept] at hseen

theorem ids_of_requests {m : Moment σ} (hm : m ∈ b.requests n user g₀) :
    m.gateway.bus.ids.Nodup ∧ ∀ id ∈ m.gateway.bus.ids, id < m.gateway.bus.nextId := by
  obtain ⟨later, earlier, hsplit⟩ := List.append_of_mem hm
  have hsound := BusBook.sound_kept (Moment.busCalls earlier)
  rw [bus_of_requests b n user hbus m earlier ⟨later, hsplit.symm⟩]
  exact ⟨hsound.nodup, fun id hid => hsound.below id ((hsound.present id).mp hid).1⟩

end

/-- At every request of every run, and at its end, the event bus is as the calls of it so far left
it; an id is given out once, and an unsubscription answers whether it is subscribed.  Who is
unsubscribed is told of no event any more.  A delivery during which nobody publishes returns, and
tells those of its event who were subscribed when it began, once each and in the order in which
they subscribed, unless it was asked to unsubscribe them before their turn. -/
theorem events_delivered (b : Behaviours σ) (n : Nat) (user : Behaviour σ α)
    (fallback : Responder) (reporter : Option Reporter) (header : Bool) (clock : Int) (own : σ) :
    let g₀ := Gateway.fresh fallback reporter header clock own
    let g := (user.run (b.within n) g₀).2
    let requests := b.requests n user g₀
    (∀ cs, (BusBook.kept cs).Accounts) ∧
    (∀ m earlier, m :: earlier <:+ requests →
      m.gateway.bus = (BusBook.kept (Moment.busCalls earlier)).bus) ∧
    g.bus = (BusBook.kept (Moment.busCalls requests)).bus ∧
    (∀ m ∈ requests, ∀ id, m.Gone id →
      g.bus.isActive id = false ∧ g.deliveriesTo id = m.gateway.deliveriesTo id) ∧
    ∀ m ∈ requests, ∀ d e,
      (∀ m' ∈ b.requestsIn d (fun c => publish c e) m.gateway, m'.publishes = false) →
      ∃ told, DeliveredOnce b d e m.gateway told := by
  intro g₀ g requests
  have hbooked : Booked {} (user.recorded.run (b.recorded.within n) g₀.watched).2 :=
    lasting_booked.conduct (lasting_booked.within b n) user _ _ (Booked.watched g₀)
  have hrun : g = (user.recorded.run (b.recorded.within n) g₀.watched).2.bare :=
    congrArg Prod.snd (run_recorded b n user g₀)
  refine ⟨BusBook.accounts_kept, bus_of_requests b n user rfl, ?_, fun m hm id hid => ?_,
    fun m hm d e hquiet => ?_⟩
  · rw [hrun, BusBook.bus_kept]
    exact hbooked.bus
  · rw [hrun]
    exact (hbooked.gone m hm id hid).2
  · obtain ⟨hn, hlt⟩ := ids_of_requests b n user rfl hm
    exact deliveredOnce b d e m.gateway hn hlt hquiet

/-- The first listener takes out the second one, subscribes a third one, and fails. -/
def jealous : Behaviours Unit where
  build _ := .give none
  call
    | .deliver _ (.outside 0) _ => do
      let _ ← Behaviour.require (.unsubscribe 2)
      let _ ← Behaviour.require (.subscribe (.outside 2))
      Behaviour.fail .foreign
    | _ => .give ()

/-- Two listeners subscribe, and an event is published. -/
def announcement : Behaviour Unit Unit := do
  let _ ← Behaviour.require (.subscribe (.outside 0))
  let _ ← Behaviour.require (.subscribe (.outside 1))
  Behaviour.require (.publish ⟨.other 7, { id := "shop" }⟩)

theorem events_delivered_jealous :
    ∃ m ∈ jealous.requests 1 announcement (.fresh .notFound none true 0 ()),
      m.gateway.bus.ids = [1, 2] ∧
      (∀ m' ∈ jealous.requestsIn 1 (fun c => publish c ⟨.other 7, { id := "shop" }⟩) m.gateway,
        m'.publishes = false) ∧
      ∃ told, DeliveredOnce jealous 1 ⟨.other 7, { id := "shop" }⟩ m.gateway told := by
  obtain ⟨m, hm, hids, hquiet⟩ :
      ∃ m ∈ jealous.requests 1 announcement (.fresh .notFound none true 0 ()),
        m.gateway.bus.ids = [1, 2] ∧
        ∀ m' ∈ jealous.requestsIn 1 (fun c => publish c ⟨.other 7, { id := "shop" }⟩) m.gateway,
          m'.publishes = false := by
    decide +kernel
  exact ⟨m, hm, hids, hquiet,
    (events_delivered jealous 1 announcement .notFound none true 0 ()).2.2.2.2 m hm 1 _ hquiet⟩

end Run
end ApiGateway
