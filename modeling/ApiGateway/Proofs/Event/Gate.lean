import ApiGateway.Proofs.Shutdown.Activity

/-!
# The gateway's own subscription

A gateway listens to events by a subscription like anyone else's.  It gets one when it is started,
and gives it up as the first step of stopping; so while it stops it still runs, but it has none.

* `Gate closing g`        as many subscriptions of its own as the gateway should have;
* `Moment.Meddles`        a request that touches the gateway's subscription from outside;
* `Guarded closing s g`   with the calls `s` under way there is such a gate, and there was one at
                          every request so far, unless one of these requests was not fair;
* `gate_run`              so it is at every request and at the end of a run of fair requests.
-/

namespace ApiGateway

variable {σ τ α : Type}

namespace EventBus

/-- The present subscriptions of the gateway itself. -/
def owned (b : EventBus) : List Subscription :=
  b.subscriptions.filter (·.listener = .gateway)

theorem owned_subscribe (b : EventBus) (l : Listener) : (b.subscribe l).2.owned =
    b.owned ++ if l = .gateway then [⟨b.nextId, .gateway⟩] else [] := by
  have happend : (b.subscribe l).2.owned =
      b.owned ++ [⟨b.nextId, l⟩].filter fun s : Subscription => decide (s.listener = .gateway) :=
    List.filter_append _ _
  rw [happend]
  by_cases hl : l = .gateway
  · rw [if_pos hl, hl]
    rfl
  · have hnot : ¬ decide (l = .gateway) = true := fun h => hl (of_decide_eq_true h)
    rw [if_neg hl]
    exact congrArg (b.owned ++ ·) (List.filter_cons_of_neg hnot)

theorem owned_unsubscribe (b : EventBus) (id : SubscriptionId) :
    (b.unsubscribe id).2.owned = b.owned.filter (·.id != id) := by
  show (b.subscriptions.filter _).filter _ = (b.subscriptions.filter _).filter _
  rw [List.filter_filter, List.filter_filter]
  exact List.filter_congr fun s _ => Bool.and_comm _ _

end EventBus

/-- The gateway has one subscription if it runs and is not closing, and none otherwise. -/
structure Gate (closing : Bool) (g : Gateway σ) : Prop where
  own : g.bus.owned = g.dispatcher.subscription.toList.map (⟨·, .gateway⟩)
  shut : closing = true ∨ g.dispatcher.running = false → g.dispatcher.subscription = none
  wide : closing = false → g.dispatcher.running = true → g.dispatcher.subscription ≠ none

namespace Gate

variable {closing : Bool} {g : Gateway σ} {g' : Gateway τ}

theorem fresh (fallback : Responder) (reporter : Option Reporter) (timeHeader : Bool) (clock : Int)
    (own : σ) : Gate false (Gateway.fresh fallback reporter timeHeader clock own) :=
  ⟨rfl, fun _ => rfl, fun _ h => absurd h Bool.false_ne_true⟩

theorem congr (h : Gate closing g) (hbus : g.bus = g'.bus)
    (hrunning : g.dispatcher.running = g'.dispatcher.running)
    (hsub : g.dispatcher.subscription = g'.dispatcher.subscription) : Gate closing g' := by
  obtain ⟨hown, hshut, hwide⟩ := h
  rw [hbus, hsub] at hown
  rw [hrunning, hsub] at hshut hwide
  exact ⟨hown, hshut, hwide⟩

theorem length_owned (h : Gate closing g)
    (hopen : g.dispatcher.running = true → closing = false) :
    g.bus.owned.length = if g.dispatcher.running then 1 else 0 := by
  rw [h.own, List.length_map]
  cases hrun : g.dispatcher.running with
  | false =>
    rw [h.shut (.inr hrun)]
    rfl
  | true =>
    have hsome := h.wide (hopen hrun) hrun
    cases hsub : g.dispatcher.subscription with
    | none => exact absurd hsub hsome
    | some id => rfl

theorem length_owned_le (h : Gate closing g) : g.bus.owned.length ≤ 1 := by
  rw [h.own, List.length_map]
  cases g.dispatcher.subscription with
  | none => exact Nat.zero_le 1
  | some id => exact Nat.le_refl 1

theorem subscribe (h : Gate closing g) {l : Listener} (hl : l ≠ .gateway) :
    Gate closing { g with bus := (g.bus.subscribe l).2 } := by
  refine ⟨?_, h.shut, h.wide⟩
  rw [EventBus.owned_subscribe, if_neg hl, List.append_nil]
  exact h.own

/-- Whoever does not use the gateway's id leaves its subscription alone. -/
theorem unsubscribe (h : Gate closing g) {id : SubscriptionId}
    (hid : g.dispatcher.subscription ≠ some id) :
    Gate closing { g with bus := (g.bus.unsubscribe id).2 } := by
  refine ⟨?_, h.shut, h.wide⟩
  rw [EventBus.owned_unsubscribe, h.own, List.filter_eq_self]
  intro s hs
  obtain ⟨id', hsub, rfl⟩ := List.mem_map.mp hs
  refine bne_iff_ne.mpr fun heq => hid ?_
  rw [← heq]
  exact Option.mem_toList.mp hsub

theorem start (h : Gate false g) (hrun : g.dispatcher.running = false) :
    Gate false { g with
      bus := (g.bus.subscribe .gateway).2
      dispatcher :=
        { g.dispatcher with subscription := some g.bus.nextId, running := true } } := by
  refine ⟨?_, ?_, fun _ _ => Option.some_ne_none _⟩
  · have hnone := h.own
    rw [h.shut (.inr hrun)] at hnone
    rw [EventBus.owned_subscribe, hnone, if_pos rfl]
    rfl
  · rintro (hclosing | hidle)
    · exact absurd hclosing Bool.false_ne_true
    · exact absurd hidle.symm Bool.false_ne_true

theorem close (h : Gate closing g) : Gate true (Run.endSubscription g).2 := by
  unfold Run.endSubscription
  rw [Run.get_bind_apply]
  cases hsub : g.dispatcher.subscription with
  | none => exact ⟨h.own, fun _ => hsub, fun hclosing => absurd hclosing.symm Bool.false_ne_true⟩
  | some id =>
    refine ⟨?_, fun _ => rfl, fun hclosing => absurd hclosing.symm Bool.false_ne_true⟩
    -- the one subscription with this id was the gateway's own
    show (g.bus.unsubscribe id).2.owned = []
    rw [EventBus.owned_unsubscribe, h.own, hsub]
    show ([⟨id, .gateway⟩] : List Subscription).filter (·.id != id) = []
    rw [List.filter_cons_of_neg (by simp), List.filter_nil]

theorem halt (h : Gate true g) (closing : Bool) :
    Gate closing { g with dispatcher := { g.dispatcher with running := false } } :=
  ⟨h.own, fun _ => h.shut (.inl rfl), fun _ hrun => absurd hrun Bool.false_ne_true⟩

end Gate

/-! ### Fair requests -/

namespace Moment

/-- Someone else uses the gateway's subscription, or subscribes the gateway. -/
def Meddles (m : Moment σ) : Prop :=
  match m.asked? with
  | some (.subscribe l) => l = .gateway
  | some (.unsubscribe id) => m.gateway.dispatcher.subscription = some id
  | _ => False

instance (m : Moment σ) : Decidable m.Meddles := by
  unfold Meddles
  split <;> infer_instance

/-- The request comes when the locks allow it, and leaves the gateway's subscription alone. -/
def Fair (m : Moment σ) : Prop :=
  m.Unlocked ∧ ¬ m.Meddles

instance (m : Moment σ) : Decidable m.Fair :=
  inferInstanceAs (Decidable (_ ∧ _))

/-- The gate as it was at a request, while the calls around it were under way. -/
def Gated (m : Moment σ) : Prop :=
  ∃ closing, (closing = true → Stopping m.stack.tail) ∧ Gate closing m.gateway

end Moment

/-- With these calls under way the gateway has its gate, and had it at every request so far, unless
one of them was not fair. -/
def Guarded (closing : Bool) (s : List Frame) (g : Gateway (Watched σ)) : Prop :=
  Asked (fun m => ¬ m.Fair) g.own ∨
    g.own.stack = s ∧ (∀ m ∈ g.own.moments, m.Gated) ∧ Gate closing g

/-- The collaborators keep the gate that the calls under way allow. -/
structure Loyal (c : Collaborators (Watched σ)) : Prop where
  unfair : c.Keep fun g => Asked (fun m => ¬ m.Fair) g.own
  gate : ∀ (closing : Bool) s, (closing = true → Stopping s) → c.Keep (Guarded closing s)

theorem Guarded.step {closing closing' : Bool} {s : List Frame} {g g' : Gateway (Watched σ)}
    (hg : Guarded closing s g) (ho : g'.own = g.own) (h : Gate closing g → Gate closing' g') :
    Guarded closing' s g' := by
  unfold Guarded
  rw [ho]
  exact hg.imp id (And.imp_right (And.imp_right h))

namespace Run

variable {closing : Bool} {s : List Frame} {c : Collaborators (Watched σ)}

theorem keeps_guarded_write (e : Entry) : Keeps (Guarded (σ := σ) closing s) (write e) :=
  fun _ hg => hg.step rfl fun h => h.congr rfl rfl rfl

theorem unrouted_guarded : Unrouted (Holding (Guarded (σ := σ) closing s)) :=
  .of_same fun _ _ h hg =>
    hg.step h.own.symm fun hgate => hgate.congr h.bus h.running h.subscription

theorem trafficless_guarded : Trafficless (Holding (Guarded (σ := σ) closing s)) :=
  .of_same fun _ _ h hg =>
    hg.step h.own.symm fun hgate => hgate.congr h.bus h.running h.subscription

section
variable (hc : Loyal c) (hs : closing = true → Stopping s)
include hc hs

theorem tolerates_guarded :
    Tolerates (Holding (Guarded closing s)) (fun _ => True) c c :=
  (hc.gate closing s hs).tolerates (fun _ => trivial) fun e _ => keeps_guarded_write e

theorem keeps_guarded_undeployAll : Keeps (Guarded closing s) (undeployAll c) :=
  (unrouted_guarded.undeployAll (tolerates_guarded hc hs) FreeCalls.all.hook).keeps

theorem keeps_guarded_publish (e : ApiEvent) : Keeps (Guarded closing s) (publish c e) := by
  have T := tolerates_guarded hc hs
  have happly := unrouted_guarded.apply T FreeCalls.all.hook (fun _ => trivial) e
  exact (Alike.publish T fun _ => Alike.hear T trivial happly).keeps

end

theorem keeps_guarded_start : Keeps (Guarded (σ := σ) false s) start := by
  intro g hg
  show Guarded false s
    ((if !g.dispatcher.running then _ else pure () : Run (Watched σ) Unit) g).2
  cases hrun : g.dispatcher.running with
  | true => exact hg
  | false => exact hg.step rfl fun h => (h.start hrun).congr rfl rfl rfl

/-- While the handlers are stopped the gateway has no subscription, and afterwards it does not
run. -/
theorem keeps_guarded_stop (hc : Loyal c) (hs : Stopping s) :
    Keeps (Guarded false s) (stop c) := by
  intro g hg
  show Guarded false s ((if g.dispatcher.running then _ else pure () : Run (Watched σ) Unit) g).2
  cases g.dispatcher.running with
  | false => exact hg
  | true =>
    have hown : (endSubscription g).2.own = g.own := by
      unfold endSubscription
      rw [get_bind_apply]
      cases g.dispatcher.subscription <;> rfl
    have hclosed : Guarded true s (endSubscription g).2 := hg.step hown Gate.close
    have hall := keeps_guarded_undeployAll hc (fun _ => hs) _ hclosed
    exact keeps_guarded_write _ _ (hall.step rfl fun h => h.halt false)

/-! ### All operations -/

/-- A request that is fair keeps the gate. -/
theorem perform_guarded (hc : Loyal c) (hs : closing = true → Stopping s) (a : Action)
    (g : Gateway (Watched σ)) (hfair : (⟨.asked a :: s, g.bare⟩ : Moment σ).Fair)
    (hg : Guarded closing (.asked a :: s) g) :
    Guarded closing (.asked a :: s) (perform c a g).2 := by
  have hs' : closing = true → Stopping (.asked a :: s) := fun h =>
    (hs h).imp (List.mem_cons_of_mem _) (List.mem_cons_of_mem _)
  have T := tolerates_guarded hc hs'
  have hopen (hstop : ¬ Stopping s) : closing = false :=
    Bool.eq_false_iff.mpr fun h => hstop (hs h)
  have hother (ha : ¬ a.OfEvents) : Keeps (Guarded closing (.asked a :: s)) (perform c a) :=
    (trafficless_guarded.perform T .all unrouted_guarded.toInert a
      (unrouted_guarded.perform T FreeCalls.all.hook fun _ => trivial)
      fun h => absurd h ha).keeps
  obtain ⟨hunlocked, hmeddles⟩ := hfair
  cases a with
  | subscribe l => exact hg.step rfl fun h => h.subscribe hmeddles
  | unsubscribe id => exact hg.step rfl fun h => h.unsubscribe hmeddles
  | publish e => exact (keeps_guarded_publish hc hs' e).sure g hg
  | start =>
    obtain rfl := hopen hunlocked
    exact keeps_guarded_start.sure g hg
  | stop =>
    obtain rfl := hopen hunlocked
    exact (keeps_guarded_stop hc (.inl List.mem_cons_self)).sure g hg
  | shutDown =>
    obtain rfl := hopen hunlocked
    have hstop := keeps_guarded_stop hc (s := .asked .shutDown :: s) (.inr List.mem_cons_self)
    exact (hstop.bind fun _ => keeps_guarded_undeployAll hc hs').sure g hg
  | _ => exact hother id g hg

/-! ### All runs -/

theorem entered_guarded {g : Gateway (Watched σ)} (hg : Guarded closing s g) (f : Frame) :
    Guarded closing (f :: s) (g.entered f) :=
  hg.imp id fun ⟨hs, hseen, hgate⟩ => ⟨congrArg (f :: ·) hs, hseen, hgate.congr rfl rfl rfl⟩

theorem left_guarded {f : Frame} {g : Gateway (Watched σ)} (hg : Guarded closing (f :: s) g) :
    Guarded closing s g.left := by
  refine hg.imp id fun ⟨hs, hseen, hgate⟩ => ⟨?_, hseen, hgate.congr rfl rfl rfl⟩
  show g.own.stack.tail = s
  rw [hs, List.tail_cons]

theorem ask_guarded (hc : Loyal c) (hs : closing = true → Stopping s) (a : Action)
    (g : Gateway (Watched σ)) (hg : Guarded closing s g) :
    Guarded closing s (perform c a (g.requested a)).2.left := by
  have hunfair : Asked (fun m => ¬ m.Fair) (g.requested a).own →
      Guarded closing s (perform c a (g.requested a)).2.left :=
    fun h => .inl (keeps_own hc.unfair a _ h)
  rcases hg with ⟨m, hm, hnot⟩ | ⟨hstack, hseen, hgate⟩
  · exact hunfair ⟨m, List.mem_cons_of_mem _ hm, hnot⟩
  · by_cases hfair : (⟨.asked a :: s, g.bare⟩ : Moment σ).Fair
    · refine left_guarded (f := .asked a) (perform_guarded hc hs a _ hfair (.inr ⟨?_, ?_, ?_⟩))
      · exact congrArg (Frame.asked a :: ·) hstack
      · intro m hm
        rcases List.mem_cons.mp hm with rfl | hm
        · refine ⟨closing, ?_, hgate.congr rfl rfl rfl⟩
          show closing = true → Stopping g.own.stack
          rwa [hstack]
        · exact hseen m hm
      · exact hgate.congr rfl rfl rfl
    · rw [← hstack] at hfair
      exact hunfair ⟨_, List.mem_cons_self, hfair⟩

theorem conduct_guarded (hc : Loyal c) (hs : closing = true → Stopping s) (u : Behaviour σ α) :
    Keeps (Guarded closing s) (u.recorded.run c) :=
  run_recorded_keeps
    (fun _ _ hg => hg.imp id fun ⟨hs, hseen, hgate⟩ => ⟨hs, hseen, hgate.congr rfl rfl rfl⟩)
    (fun _ => keeps_guarded_write _) (fun a _ => ask_guarded hc hs a) u
    (Behaviour.asks_of_forall (fun _ => trivial) u)

theorem loyal_within (b : Behaviours σ) (n : Nat) : Loyal (b.recorded.within n) := by
  -- on the depth: a call is made on top of those that are under way, which it leaves as they are
  induction n with
  | zero => exact ⟨.idle _, fun _ _ _ => .idle _⟩
  | succ n ih =>
    have hcalled {closing : Bool} {s : List Frame} (hs : closing = true → Stopping s) (f : Frame)
        (h : closing = true) : Stopping (f :: s) :=
      (hs h).imp (List.mem_cons_of_mem _) (List.mem_cons_of_mem _)
    refine ⟨(lasting_asked _).within b (n + 1) (), fun closing s hs =>
      ⟨fun api g hg => ?_, fun i g hg => ?_⟩⟩
    · show Guarded closing s ((b.recorded.build api).run (b.recorded.within n) g).2
      rw [Behaviours.run_recorded_build]
      exact left_guarded (conduct_guarded ih (hcalled hs _) _ _ (entered_guarded hg _))
    · show Guarded closing s ((b.recorded.call i).run (b.recorded.within n) g).2
      rw [Behaviours.run_recorded_call]
      exact left_guarded (conduct_guarded ih (hcalled hs _) _ _ (entered_guarded hg _))

/-- In a run of fair requests the gateway has its gate at each of them and at the end. -/
theorem gate_run (b : Behaviours σ) (n : Nat) (user : Behaviour σ α) {g₀ : Gateway σ}
    (hg : Gate false g₀) (hfair : ∀ m ∈ b.requests n user g₀, m.Fair) :
    (∀ m ∈ b.requests n user g₀, m.Gated) ∧ Gate false (user.run (b.within n) g₀).2 := by
  have hstart : Guarded false [] g₀.watched :=
    .inr ⟨rfl, fun _ hm => absurd hm List.not_mem_nil, hg.congr rfl rfl rfl⟩
  rw [run_recorded]
  rcases conduct_guarded (loyal_within b n) (fun h => absurd h Bool.false_ne_true) user _ hstart
    with ⟨m, hm, hnot⟩ | ⟨-, hseen, hgate⟩
  · exact absurd (hfair m hm) hnot
  · exact ⟨hseen, hgate.congr rfl rfl rfl⟩

end Run
end ApiGateway
