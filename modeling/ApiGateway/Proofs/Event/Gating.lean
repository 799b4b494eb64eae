import ApiGateway.Proofs.Event.Delivery
import ApiGateway.Proofs.Event.Gate

/-!
# Events reach the gateway while it is subscribed

An event that is published is applied by the gateway once if the gateway was subscribed when the
delivery began and still is at its turn.  Otherwise nothing is applied, and unless someone commands
the gateway meanwhile, its routes, handlers and counters are left as they are.

* `Gateway.applied`       the events that the gateway was told of;
* `Hears b d e g`         the gateway is told of an event that is published now;
* `Action.Commands`       actions that may change routes, handlers or counters of the gateway;
* `Gateway.Untouched`     nothing of this has changed, and no handler was asked for;
* `Aside G g`             so it is as long as nobody publishes or commands the gateway;
* `Run.subscription_gated`   every delivery of every run of fair requests.
-/

namespace ApiGateway

variable {σ τ α : Type}

/-! ### What is applied -/

/-- The events that the gateway was told of so far, oldest first. -/
def Gateway.applied (g : Gateway σ) : List ApiEvent :=
  (g.deliveries.filter (·.1.listener = .gateway)).map (·.2)

/-- The gateway is subscribed when the event is published, and still is at its turn. -/
def Hears (b : Behaviours σ) (d : Nat) (e : ApiEvent) (g : Gateway σ) : Prop :=
  ∃ before s after, g.bus.subscriptions = before ++ s :: after ∧ s.listener = .gateway ∧
    (Run.deliverTo (b.within d) e before g).2.bus.isActive s.id = true

namespace Run

/-- Noting the requests changes nothing about the beginning of a delivery. -/
theorem deliverTo_recorded (b : Behaviours σ) (d : Nat) (e : ApiEvent)
    (before : List Subscription) (g : Gateway σ) :
    (deliverTo (b.within d) e before g).2 =
      (deliverTo (b.recorded.within d) e before g.watched).2.bare := by
  have T := tolerates_recorded b d
  have happly := robust_bare.toUnrouted.apply T FreeCalls.all.hook (fun _ => trivial) e
  have hdeliver := Alike.deliver (e := e) T (fun _ => Alike.hear T trivial happly) before
  have hbegin : Alike Bare (deliverTo (b.within d) e before)
      (deliverTo (b.recorded.within d) e before) :=
    Alike.get T.apart fun g o _ => Alike.bind (T.notify _) fun _ => hdeliver
  exact (hbegin g g.watched rfl).2

section
variable {b : Behaviours σ} {d : Nat} {e : ApiEvent} {g : Gateway σ} {told : List Subscription}
  (hlt : ∀ id ∈ g.bus.ids, id < g.bus.nextId) (hone : g.bus.owned.length ≤ 1)
  (h : DeliveredOnce b d e g told)
include hlt h

theorem mem_told_iff {before after : List Subscription} {s : Subscription}
    (hsubs : g.bus.subscriptions = before ++ s :: after) :
    s ∈ told ↔ (deliverTo (b.within d) e before g).2.bus.isActive s.id = true := by
  have hs : s ∈ g.bus.subscriptions := hsubs ▸ List.mem_append_right _ List.mem_cons_self
  have hid : s.id < g.bus.nextId := hlt _ (List.mem_map_of_mem hs)
  rw [h.turn before s after hsubs, deliverTo_recorded, ← isActive_deliverTo b d e g hs hid before]
  rfl

omit hlt in
theorem applied_delivered : (publish (b.within d) e g).2.applied =
    g.applied ++ (told.filter (·.listener = .gateway)).map fun _ => e := by
  unfold Gateway.applied
  rw [h.deliveries, List.filter_append, List.map_append, List.filter_map, List.map_map]
  rfl

include hone

/-- The gateway is told of an event once if it hears of it, and not at all otherwise. -/
theorem applied_once :
    (Hears b d e g → (publish (b.within d) e g).2.applied = g.applied ++ [e]) ∧
    (¬ Hears b d e g → (publish (b.within d) e g).2.applied = g.applied) := by
  rw [applied_delivered h]
  have hle : (told.filter (·.listener = .gateway)).length ≤ 1 :=
    Nat.le_trans (h.order.filter _).length_le hone
  constructor
  · rintro ⟨before, s, after, hsubs, hown, hactive⟩
    have hmem : s ∈ told.filter (·.listener = .gateway) :=
      List.mem_filter.mpr ⟨(mem_told_iff hlt h hsubs).mpr hactive, decide_eq_true hown⟩
    have hlength : (told.filter (·.listener = .gateway)).length = 1 :=
      Nat.le_antisymm hle (List.length_pos_of_mem hmem)
    obtain ⟨t, ht⟩ := List.length_eq_one_iff.mp hlength
    rw [ht]
    rfl
  · intro hnot
    have hnone : told.filter (·.listener = .gateway) = [] := by
      rw [List.filter_eq_nil_iff]
      intro s hs hown
      obtain ⟨before, after, hsubs⟩ := List.append_of_mem (h.order.subset hs)
      exact hnot ⟨before, s, after, hsubs, of_decide_eq_true hown,
        (mem_told_iff hlt h hsubs).mp hs⟩
    rw [hnone, List.map_nil, List.append_nil]

end
end Run

/-! ### What is left alone -/

/-- The action may change routes, handlers or counters of the gateway. -/
def Action.Commands : Action → Prop
  | move .. | dispatch .. | stop | shutDown => True
  | a => a.OfRoutes

def Moment.Commands (m : Moment σ) : Prop :=
  match m.asked? with
  | some a => a.Commands
  | none => False

/-- Asked for a handler. -/
def Entry.build? : Entry → Option Api
  | .build api => some api
  | _ => none

theorem Entry.freeCalls_build : Run.FreeCalls (·.build? = none) :=
  ⟨⟨fun _ _ _ => rfl, fun _ _ _ => rfl⟩, fun _ _ _ => rfl, fun _ _ _ => rfl,
    fun _ _ _ _ _ => rfl⟩

/-- For which APIs the factory was asked for a handler so far. -/
def Gateway.builds (g : Gateway σ) : List Api :=
  g.journal.filterMap (·.build?)

/-- Routes, handlers and counters are as they were, but for handlers that others have added, and the
factory was not asked for anything. -/
structure Gateway.Untouched (g : Gateway σ) (g' : Gateway τ) : Prop where
  table : g'.table = g.table
  stats : g'.dispatcher.stats = g.dispatcher.stats
  handlers : g.handlers <+: g'.handlers
  builds : g'.builds = g.builds

theorem Gateway.Untouched.of_same {g : Gateway σ} {g' : Gateway τ} (htable : g'.table = g.table)
    (hstats : g'.dispatcher.stats = g.dispatcher.stats) (hhandlers : g'.handlers = g.handlers)
    (hjournal : g'.journal = g.journal) : g.Untouched g' :=
  ⟨htable, hstats, hhandlers ▸ List.prefix_rfl, congrArg (List.filterMap _) hjournal⟩

theorem Gateway.Untouched.trans {ρ : Type} {g : Gateway σ} {g' : Gateway τ} {g'' : Gateway ρ}
    (h : g.Untouched g') (h' : g'.Untouched g'') : g.Untouched g'' :=
  ⟨h'.table.trans h.table, h'.stats.trans h.stats, h.handlers.trans h'.handlers,
    h'.builds.trans h.builds⟩

namespace Moment

/-- The request is for an event to be published, or for the gateway to be commanded. -/
def Stirs (m : Moment σ) : Prop :=
  m.publishes = true ∨ m.Commands

end Moment

/-- There was such a request, or nothing has changed since. -/
def Aside (G : Option (Gateway σ)) (g : Gateway (Watched σ)) : Prop :=
  Asked Moment.Stirs g.own ∨ ∃ g₀ ∈ G, g₀.Untouched g

theorem Aside.withOwn {G : Option (Gateway σ)} {g : Gateway (Watched σ)} {o : Watched σ}
    (hg : Aside G g) (ho : o.moments = g.own.moments) : Aside G (g.withOwn o) := by
  refine hg.imp (fun ⟨m, hm, hstirs⟩ => ⟨m, ?_, hstirs⟩) fun ⟨g₀, hmem, h₀⟩ =>
    ⟨g₀, hmem, h₀.trans (.of_same rfl rfl rfl rfl)⟩
  show m ∈ o.moments
  rwa [ho]

namespace Run

section
variable {G : Option (Gateway σ)} {c : Collaborators (Watched σ)}

theorem keeps_aside {f : Gateway (Watched σ) → α × Gateway (Watched σ)}
    (h : ∀ g, (f g).2.own = g.own ∧ g.Untouched (f g).2) : Keeps (Aside G) (f : Run _ α) := by
  intro g hg
  obtain ⟨ho, hf⟩ := h g
  unfold Aside
  rw [ho]
  exact hg.imp id fun ⟨g₀, hmem, h₀⟩ => ⟨g₀, hmem, h₀.trans hf⟩

theorem keeps_aside_write {e : Entry} (he : e.build? = none) :
    Keeps (Aside (σ := σ) G) (write e) := by
  refine keeps_aside fun g => ⟨rfl, rfl, rfl, List.prefix_refl _, ?_⟩
  show (e :: g.journal).filterMap _ = _
  rw [List.filterMap_cons, he]
  rfl

variable (hc : ∀ G, c.Keep (Aside G))
include hc

theorem tolerates_aside : Tolerates (Holding (Aside G)) (·.build? = none) c c :=
  (hc G).tolerates (fun _ => rfl) fun _ he => keeps_aside_write he

theorem alike_report_aside (o : Origin) (rep : Reporter) (r : AccessRecord) :
    Alike (Holding (Aside G)) (report c o rep r) (report c o rep r) := by
  have T := tolerates_aside (G := G) hc
  have hcount (s : Nat) (r : AccessRecord) :
      Alike (Holding (Aside G)) (countAt s r) (countAt s r) :=
    (keeps_aside fun _ => ⟨rfl, .of_same rfl rfl rfl rfl⟩).alike
  have hreports (o : Origin) : Reports (Holding (Aside G)) (·.build? = none) o :=
    .of_free T.toJournals hcount (Entry.freeCalls_build.record o)
  exact Alike.report T (fun _ _ => hreports _) (hreports o) rep r

theorem alike_answer_aside (done : Callback) (r : Option Response) :
    Alike (Holding (Aside G)) (answer c done r) (answer c done r) :=
  Alike.reply (tolerates_aside hc) Entry.freeCalls_build.toFreeAnswers
    (fun k => alike_report_aside hc (.completion k))
    (fun _ => (keeps_aside fun _ => ⟨rfl, .of_same rfl rfl rfl rfl⟩).alike)
    done r

/-- What is asked for neither publishes an event nor commands the gateway. -/
theorem alike_perform_aside {a : Action} {s : List Frame} {g : Gateway σ}
    (ha : ¬ (⟨.asked a :: s, g⟩ : Moment σ).Stirs) :
    Alike (Holding (Aside G)) (perform c a) (perform c a) := by
  have T := tolerates_aside (G := G) hc
  have hsame {α : Type} {f : Gateway (Watched σ) → α × Gateway (Watched σ)}
      (h : ∀ g, (f g).2.own = g.own ∧ g.Untouched (f g).2) : Alike (Holding (Aside G)) f f :=
    (keeps_aside h).alike
  cases a with
  | publish e => exact absurd (.inl rfl) ha
  | advance ns => exact Alike.sure (hsame fun _ => ⟨rfl, .of_same rfl rfl rfl rfl⟩)
  | create h => exact Alike.sure (hsame fun _ => ⟨rfl, ⟨rfl, rfl, List.prefix_append _ _, rfl⟩⟩)
  | addService => exact Alike.sure (hsame fun _ => ⟨rfl, .of_same rfl rfl rfl rfl⟩)
  | addSink s r => exact Alike.sure (hsame fun _ => ⟨rfl, .of_same rfl rfl rfl rfl⟩)
  | subscribe l => exact Alike.sure (hsame fun _ => ⟨rfl, .of_same rfl rfl rfl rfl⟩)
  | unsubscribe id => exact Alike.sure (hsame fun _ => ⟨rfl, .of_same rfl rfl rfl rfl⟩)
  | handle t q r done =>
    exact Alike.serve T (Entry.freeCalls_build.handle _ _ _ _ _) (alike_answer_aside hc done)
  | answer done r => exact alike_answer_aside hc done r
  | report rep r => exact alike_report_aside hc .outside rep r
  | select path host => exact Alike.sure (Alike.select T path host)
  | start =>
    refine Alike.sure (Alike.start T (hsame fun g => ?_) fun f hf => hsame fun g => ?_)
    · exact ⟨rfl, .of_same rfl rfl rfl rfl⟩
    · obtain ⟨running, subscription, h⟩ := hf g.dispatcher
      exact ⟨rfl, .of_same rfl (congrArg (·.stats) h) rfl rfl⟩
  | _ => exact absurd (.inr trivial) ha

omit hc in
theorem lasting_aside : Lasting (Aside (σ := σ)) where
  stack _ _ _ hg := hg.withOwn rfl
  own _ _ _ hg := hg.withOwn rfl
  note _ _ := keeps_aside_write rfl
  perform c hc a G g hg := by
    -- once there was such a request, nothing more has to be known
    have hnone (g : Gateway (Watched σ)) : Aside none g ↔ Asked Moment.Stirs g.own := by
      simp [Aside]
    have hstirred (h : Asked Moment.Stirs (g.requested a).own) :
        Aside G (perform c a (g.requested a)).2 := by
      have hkeep : c.Keep fun g => Asked Moment.Stirs g.own :=
        ⟨fun api g hg => (hnone _).mp ((hc none).build api g ((hnone g).mpr hg)),
          fun i g hg => (hnone _).mp ((hc none).call i g ((hnone g).mpr hg))⟩
      exact .inl (keeps_own hkeep a _ h)
    by_cases ha : (⟨.asked a :: g.own.stack, g.bare⟩ : Moment σ).Stirs
    · exact hstirred ⟨_, List.mem_cons_self, ha⟩
    · rcases hg with ⟨m, hm, hstirs⟩ | ⟨g₀, hmem, h₀⟩
      · exact hstirred ⟨m, List.mem_cons_of_mem _ hm, hstirs⟩
      · exact (alike_perform_aside hc ha).keeps (g.requested a)
          (.inr ⟨g₀, hmem, h₀.trans (.of_same rfl rfl rfl rfl)⟩)

/-- An event that the gateway is not told of changes nothing. -/
theorem keeps_aside_deliver (e : ApiEvent) (l : List Subscription) (g : Gateway (Watched σ))
    (hdeaf : ∀ before s after, l = before ++ s :: after → s.listener = .gateway →
      (deliver c e before g).2.bus.isActive s.id = false)
    (hg : Aside G g) : Aside G (deliver c e l g).2 := by
  induction l generalizing g with
  | nil => exact hg
  | cons s rest ih =>
    rw [deliver_cons]
    refine ih _ (fun before s' after hl hown => ?_) (turn_ends (fun _ => keeps_aside_write rfl)
      (fun hactive => ?_) fun _ => hg)
    · rw [← deliver_cons]
      exact hdeaf (s :: before) s' after (congrArg (s :: ·) hl) hown
    · have hother : s.listener ≠ .gateway := by
        intro hown
        have hgone : g.bus.isActive s.id = false := hdeaf [] s rest rfl hown
        rw [hgone] at hactive
        exact absurd hactive Bool.false_ne_true
      have hwrite := keeps_aside_write (G := G) (σ := σ)
        (e := .call .gateway (.deliver s.id s.listener e)) rfl g hg
      unfold hear
      cases hl : s.listener with
      | gateway => exact absurd hl hother
      | outside l =>
        rw [hl] at hwrite
        exact (hc G).call _ _ hwrite
      | empty =>
        rw [hl] at hwrite
        exact hwrite

end

/-- A delivery that the gateway does not hear of, in which nobody else publishes or commands it. -/
theorem untouched_publish (b : Behaviours σ) (d : Nat) (e : ApiEvent) (g : Gateway σ)
    (hdeaf : ¬ Hears b d e g)
    (hcalm : ∀ m ∈ b.requestsIn d (fun c => publish c e) g, ¬ m.Stirs) :
    g.Untouched (publish (b.within d) e g).2 := by
  let c := b.recorded.within d
  let x := (notify (.publishing e g.bus.subscriptions.length) g.watched).2
  have hstart : Aside (some g) x :=
    keeps_aside_write rfl g.watched (.inr ⟨g, rfl, .of_same rfl rfl rfl rfl⟩)
  have hend : Aside (some g) (publish c e g.watched).2 := by
    refine keeps_aside_deliver (lasting_aside.within b d) e g.bus.subscriptions x
      (fun before s after hsubs hown => Bool.eq_false_iff.mpr fun hactive => ?_) hstart
    refine hdeaf ⟨before, s, after, hsubs, hown, ?_⟩
    rw [deliverTo_recorded]
    exact hactive
  have hbare : (publish (b.within d) e g).2 = (publish c e g.watched).2.bare :=
    (robust_bare.perform (tolerates_recorded b d) (.publish e) g g.watched rfl).2
  rw [hbare]
  rcases hend with ⟨m, hm, hstirs⟩ | ⟨g₀, hmem, h₀⟩
  · exact absurd hstirs (hcalm m hm)
  · obtain rfl := Option.mem_some.mp hmem
    exact h₀.trans (.of_same rfl rfl rfl rfl)

/-- The gateway has one subscription of its own while it runs, and none while it does not, whoever
starts and stops it, and in the middle of whatever; only while it is being stopped it may run
without one.  An event that is published is applied once if the gateway is subscribed when the
delivery begins and still is at its turn, and otherwise not at all; and then routes, handlers and
counters are left alone, unless someone commands the gateway meanwhile.

Starting and stopping takes a lock, which the user and the collaborators must respect; and nobody
else may use the gateway's subscription. -/
theorem subscription_gated (b : Behaviours σ) (n : Nat) (user : Behaviour σ α)
    (fallback : Responder) (reporter : Option Reporter) (header : Bool) (clock : Int) (own : σ)
    (hfair : ∀ m ∈ b.requests n user (.fresh fallback reporter header clock own), m.Fair) :
    let g₀ := Gateway.fresh fallback reporter header clock own
    let g := (user.run (b.within n) g₀).2
    g.bus.owned.length = (if g.dispatcher.running then 1 else 0) ∧
    ∀ m ∈ b.requests n user g₀,
      (¬ Stopping m.stack.tail ∨ m.gateway.dispatcher.running = false →
        m.gateway.bus.owned.length = if m.gateway.dispatcher.running then 1 else 0) ∧
      ∀ d e, (∀ m' ∈ b.requestsIn d (fun c => publish c e) m.gateway, m'.publishes = false) →
        let g' := (publish (b.within d) e m.gateway).2
        (Hears b d e m.gateway → g'.applied = m.gateway.applied ++ [e]) ∧
        (¬ Hears b d e m.gateway → g'.applied = m.gateway.applied ∧
          ((∀ m' ∈ b.requestsIn d (fun c => publish c e) m.gateway, ¬ m'.Commands) →
            m.gateway.Untouched g')) := by
  intro g₀ g
  obtain ⟨hseen, hend⟩ :=
    gate_run b n user (Gate.fresh fallback reporter header clock own) hfair
  refine ⟨hend.length_owned fun _ => rfl, fun m hm => ?_⟩
  obtain ⟨closing, hclosing, hgate⟩ := hseen m hm
  refine ⟨fun hsettled => hgate.length_owned fun hrun => ?_, fun d e hquiet => ?_⟩
  · rcases hsettled with hopen | hidle
    · exact Bool.eq_false_iff.mpr fun h => hopen (hclosing h)
    · exact absurd (hidle.symm.trans hrun) Bool.false_ne_true
  · obtain ⟨hn, hlt⟩ := ids_of_requests b n user rfl hm
    obtain ⟨told, htold⟩ := deliveredOnce b d e m.gateway hn hlt hquiet
    obtain ⟨heard, hnot⟩ := applied_once hlt hgate.length_owned_le htold
    refine ⟨heard, fun hdeaf => ⟨hnot hdeaf, fun hcommands => ?_⟩⟩
    refine untouched_publish b d e m.gateway hdeaf fun m' hm' => ?_
    rintro (hpublishes | hcommanded)
    · exact absurd hpublishes (Bool.eq_false_iff.mp (hquiet m' hm'))
    · exact hcommands m' hm' hcommanded

/-- A listener that restarts the gateway when it is told of an event. -/
def restarter : Behaviours Unit where
  build _ := .give none
  call
    | .deliver .. => do
      Behaviour.require .stop
      Behaviour.require .start
    | _ => .give ()

/-- The listener subscribes, the gateway is started twice, and an event is published. -/
def restarts : Behaviour Unit Unit := do
  let _ ← Behaviour.require (.subscribe (.outside 0))
  Behaviour.require .start
  Behaviour.require .start
  Behaviour.require (.publish ⟨.deploy, { id := "shop", contextPath := "/shop" }⟩)

/-- The gateway is subscribed anew, and has missed the event. -/
theorem subscription_gated_restarted :
    (∀ m ∈ restarter.requests 1 restarts (.fresh .notFound none true 0 ()), m.Fair) ∧
    (restarts.run (restarter.within 1) (.fresh .notFound none true 0 ())).2.bus.ids = [1, 3] ∧
    (restarts.run (restarter.within 1) (.fresh .notFound none true 0 ())).2.applied = [] ∧
    (restarts.run (restarter.within 1) (.fresh .notFound none true 0 ())).2.bus.owned.length =
      if (restarts.run (restarter.within 1)
        (.fresh .notFound none true 0 ())).2.dispatcher.running then 1 else 0 := by
  have hfair : ∀ m ∈ restarter.requests 1 restarts (.fresh .notFound none true 0 ()), m.Fair := by
    decide +kernel
  exact ⟨hfair, by decide +kernel, by decide +kernel,
    (subscription_gated restarter 1 restarts .notFound none true 0 () hfair).1⟩

end Run
end ApiGateway
