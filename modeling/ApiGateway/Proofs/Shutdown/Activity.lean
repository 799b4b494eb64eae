import Mathlib.Data.List.Infix
import ApiGateway.Proofs.Population.Operations
import ApiGateway.Proofs.Run.Requests

/-!
# What a gateway is at when it is asked for something

A gateway that is given APIs by events alone has routes only while it runs.  In the middle of an
operation there is more to say: while it deploys an API it runs, and while it stops it has no
subscription and no route.  Whoever is called meanwhile can tell from the calls under way.

* `Action.ByEvents`        actions that give the gateway no APIs but by events that it hears of;
* `Withdrawn j h`          by the journal, a handler was stopped, and not as it was turned away;
* `Deploying j s`, `Stopping s`   what the calls under way say of the gateway;
* `Action.Unlocked`, `Action.Timely`   when the gateway may be started and stopped;
* `Calm ids g`             routes only while the gateway runs, and subscriptions of its own alone;
* `Activity.Is p ids g`    the gateway is at what the activity says.
-/

namespace ApiGateway

variable {σ τ α : Type}

/-! ### Calls under way -/

/-- The gateway tells that a handler was turned away. -/
def Entry.turnsAway : Entry → Bool
  | notice (.notPublished ..) => true
  | _ => false

/-- The newest entry of the journal does not tell that a handler was turned away. -/
def NotTurnedAway (journal : List Entry) : Prop :=
  ∀ e ∈ journal.head?, e.turnsAway = false

instance (journal : List Entry) : Decidable (NotTurnedAway journal) :=
  inferInstanceAs (Decidable (∀ e ∈ journal.head?, _))

/-- The stop hook of the handler was run, and not because the handler was turned away: that would
have been told right before. -/
def Withdrawn (journal : List Entry) (h : HandlerId) : Prop :=
  ∃ t ∈ journal.tails, (∃ e ∈ t.head?, e.isHook .stop h = true) ∧ NotTurnedAway t.tail

instance (journal : List Entry) (h : HandlerId) : Decidable (Withdrawn journal h) :=
  inferInstanceAs (Decidable (∃ t ∈ journal.tails, _ ∧ _))

theorem Withdrawn.mono {journal journal' : List Entry} {h : HandlerId} (hw : Withdrawn journal h)
    (hj : journal <:+ journal') : Withdrawn journal' h := by
  obtain ⟨t, ht, hstop⟩ := hw
  exact ⟨t, (List.mem_tails ..).mpr (((List.mem_tails ..).mp ht).trans hj), hstop⟩

theorem withdrawn_cons {journal : List Entry} (hj : NotTurnedAway journal) (h : HandlerId)
    (seen : LifecycleState) :
    Withdrawn (.call .gateway (.hook .stop h seen) :: journal) h :=
  ⟨_, (List.mem_tails ..).mpr List.suffix_rfl, ⟨_, rfl, by simp [Entry.isHook]⟩, hj⟩

/-- On top of these calls, the call is part of a deployment, or of a replacement. -/
def Frame.Deploys (journal : List Entry) : Frame → List Frame → Prop
  | .building _, _ => True
  | .called (.hook .start _ _), _ => True
  | .called (.hook .stop h _), .asked (.publish e) :: _ =>
    (e.kind = .update ∧ e.api.enabled = true) ∧ Withdrawn journal h
  | _, _ => False

instance (journal : List Entry) (f : Frame) (s : List Frame) :
    Decidable (f.Deploys journal s) := by
  unfold Frame.Deploys
  split <;> infer_instance

/-- The gateway is deploying an API, or replacing the handler of one. -/
def Deploying (journal : List Entry) : List Frame → Prop
  | [] => False
  | f :: s => f.Deploys journal s ∨ Deploying journal s

instance decidableDeploying (journal : List Entry) :
    ∀ s : List Frame, Decidable (Deploying journal s)
  | [] => .isFalse id
  | _ :: s =>
    have := decidableDeploying journal s
    inferInstanceAs (Decidable (_ ∨ _))

/-- The gateway is stopping. -/
def Stopping (s : List Frame) : Prop :=
  .asked .stop ∈ s ∨ .asked .shutDown ∈ s

instance (s : List Frame) : Decidable (Stopping s) :=
  inferInstanceAs (Decidable (_ ∨ _))

namespace Action

/-- The gateway is given APIs by the events that it hears of, and it alone subscribes itself. -/
def ByEvents : Action → Prop
  | deploy _ => False
  | update _ => False
  | apply e => e.kind ≠ .deploy ∧ e.kind ≠ .update
  | subscribe l => l ≠ .gateway
  | a => a.Indirect

theorem ByEvents.indirect {a : Action} (ha : a.ByEvents) : a.Indirect := by
  cases a <;> first | exact trivial | exact ha

/-- The locks allow the action while these calls are under way: who stops the gateway holds the
lock that starting and stopping it takes. -/
def Unlocked : Action → List Frame → Prop
  | start, s | stop, s | shutDown, s => ¬ Stopping s
  | _, _ => True

instance (a : Action) (s : List Frame) : Decidable (a.Unlocked s) := by
  unfold Unlocked
  split <;> infer_instance

/-- The gateway is not asked to stop while it deploys.  It may be asked to by a handler that it
stops because it turned it away: nothing comes after that. -/
def Timely (journal : List Entry) : Action → List Frame → Prop
  | stop, s | shutDown, s => ¬ Deploying journal s
  | _, _ => True

instance (journal : List Entry) (a : Action) (s : List Frame) :
    Decidable (a.Timely journal s) := by
  unfold Timely
  split <;> infer_instance

end Action

namespace Moment

def Unlocked (m : Moment σ) : Prop :=
  match m.stack with
  | .asked a :: s => a.Unlocked s
  | _ => True

instance : ∀ m : Moment σ, Decidable m.Unlocked
  | ⟨.asked a :: s, _⟩ => inferInstanceAs (Decidable (a.Unlocked s))
  | ⟨[], _⟩ | ⟨.called _ :: _, _⟩ | ⟨.building _ :: _, _⟩ | ⟨.handing _ :: _, _⟩ => .isTrue trivial

def Timely (m : Moment σ) : Prop :=
  match m.stack with
  | .asked a :: s => a.Timely m.gateway.journal s
  | _ => True

instance : ∀ m : Moment σ, Decidable m.Timely
  | ⟨.asked a :: s, g⟩ => inferInstanceAs (Decidable (a.Timely g.journal s))
  | ⟨[], _⟩ | ⟨.called _ :: _, _⟩ | ⟨.building _ :: _, _⟩ | ⟨.handing _ :: _, _⟩ => .isTrue trivial

end Moment

/-! ### The gateway itself -/

/-- A gateway that is given APIs by events alone has routes only while it runs.  Of the ids, which
a delivery under way has yet to come to, those that are still active are its own. -/
structure Calm (ids : List SubscriptionId) (g : Gateway σ) : Prop where
  own : ∀ s ∈ g.bus.subscriptions, s.listener = .gateway →
    g.dispatcher.subscription = some s.id
  below : ∀ id ∈ g.dispatcher.subscription, id < g.bus.nextId
  running : g.dispatcher.subscription ≠ none → g.dispatcher.running = true
  idle : g.dispatcher.running = false → g.table.routes = {}
  tied : ∀ id ∈ ids, id < g.bus.nextId ∧
    (g.bus.isActive id = true → g.dispatcher.subscription = some id)

/-- What the gateway is at. -/
inductive Activity
  /-- It may be asked for anything. -/
  | calm
  /-- It is deploying an API, and must go on running.  These handlers have been withdrawn. -/
  | deploying (withdrawn : List HandlerId)
  /-- It is stopping: it is told of no event and has no route any more. -/
  | stopping
deriving DecidableEq

namespace Activity

/-- The calls under way tell of the activity, whatever else is in the journal. -/
def Allows : Activity → List Frame → Prop
  | calm, _ => True
  | deploying hs, s => ∀ journal, (∀ h ∈ hs, Withdrawn journal h) → Deploying journal s
  | stopping, s => Stopping s

theorem Allows.cons {p : Activity} {s : List Frame} (hp : p.Allows s) (f : Frame) :
    p.Allows (f :: s) := by
  cases p with
  | calm => exact trivial
  | deploying hs => exact fun journal hj => .inr (hp journal hj)
  | stopping => exact hp.imp (List.mem_cons_of_mem _) (List.mem_cons_of_mem _)

/-- The gateway is deploying an API in the midst of the activity. -/
def raised : Activity → Activity
  | deploying hs => deploying hs
  | _ => deploying []

/-- A handler more is withdrawn. -/
def withdrawing (h : HandlerId) : Activity → Activity
  | deploying hs => deploying (h :: hs)
  | _ => deploying [h]

theorem allows_raised {f : Frame} {s : List Frame} (hf : ∀ journal, f.Deploys journal s)
    (p : Activity) : p.raised.Allows (f :: s) := by
  cases p <;> exact fun journal _ => .inl (hf journal)

theorem allows_withdrawing {e : ApiEvent} (hkind : e.kind = .update) (hen : e.api.enabled = true)
    (h : HandlerId) (seen : LifecycleState) (s : List Frame) (p : Activity) :
    (p.withdrawing h).Allows (.called (.hook .stop h seen) :: .asked (.publish e) :: s) := by
  cases p <;> exact fun journal hj => .inl ⟨⟨hkind, hen⟩, hj h List.mem_cons_self⟩

/-- In the midst of the activity the gateway may be asked for the action. -/
def Permits (p : Activity) : Action → Prop
  | .start => p ≠ stopping
  | .stop | .shutDown => p = calm
  | _ => True

/-- What else is known of the gateway. -/
def Marks (g : Gateway σ) : Activity → Prop
  | calm => True
  | deploying hs => g.dispatcher.running = true ∧ ∀ h ∈ hs, Withdrawn g.journal h
  | stopping => g.dispatcher.subscription = none ∧ g.table.routes = {}

/-- The gateway is like that. -/
structure Is (p : Activity) (ids : List SubscriptionId) (g : Gateway σ) : Prop where
  calm : Calm ids g
  marks : p.Marks g

end Activity

variable {ids : List SubscriptionId} {g : Gateway σ} {g' : Gateway τ} {p : Activity}

namespace Calm

theorem fresh (fallback : Responder) (reporter : Option Reporter) (timeHeader : Bool) (clock : Int)
    (own : σ) : Calm [] (Gateway.fresh fallback reporter timeHeader clock own) where
  own _ hs := absurd hs List.not_mem_nil
  below _ h := nomatch h
  running h := absurd rfl h
  idle _ := rfl
  tied _ h := absurd h List.not_mem_nil

theorem congr (hg : Calm ids g) (hbus : g.bus = g'.bus)
    (hrunning : g.dispatcher.running = g'.dispatcher.running)
    (hsub : g.dispatcher.subscription = g'.dispatcher.subscription)
    (hroutes : g'.dispatcher.running = false → g.table.routes = {} → g'.table.routes = {}) :
    Calm ids g' := by
  obtain ⟨own, below, running, idle, tied⟩ := hg
  rw [hbus, hsub] at own below tied
  rw [hsub, hrunning] at running
  rw [hrunning] at idle
  exact ⟨own, below, running, fun h => hroutes h (idle h), tied⟩

theorem anti {more : List SubscriptionId} (hg : Calm (more ++ ids) g) : Calm ids g :=
  ⟨hg.own, hg.below, hg.running, hg.idle, fun id h => hg.tied id (List.mem_append_right _ h)⟩

/-- The gateway's own subscriptions may be among those that a delivery has to come to. -/
theorem capture (hg : Calm ids g) :
    Calm ((g.bus.subscriptions.filter (·.listener = .gateway)).map (·.id) ++ ids) g := by
  refine ⟨hg.own, hg.below, hg.running, hg.idle, fun id hid => ?_⟩
  rcases List.mem_append.mp hid with hmem | hmem
  · obtain ⟨s, hs, rfl⟩ := List.mem_map.mp hmem
    obtain ⟨hs, hl⟩ := List.mem_filter.mp hs
    have hsub := hg.own s hs (of_decide_eq_true hl)
    exact ⟨hg.below _ (Option.mem_def.mpr hsub), fun _ => hsub⟩
  · exact hg.tied id hmem

/-- A gateway that is told of an event runs. -/
theorem hears (hg : Calm ids g) {id : SubscriptionId} (hid : id ∈ ids)
    (hactive : g.bus.isActive id = true) :
    g.dispatcher.subscription = some id ∧ g.dispatcher.running = true := by
  have hsub := (hg.tied id hid).2 hactive
  exact ⟨hsub, hg.running (by simp [hsub])⟩

theorem isActive_subscribe_of_lt {b : EventBus} {id : SubscriptionId} (hlt : id < b.nextId)
    (l : Listener) : (b.subscribe l).2.isActive id = b.isActive id := by
  rw [EventBus.isActive_subscribe]
  simp [Nat.ne_of_lt hlt]

theorem subscribe (hg : Calm ids g) {l : Listener} (hl : l ≠ .gateway) :
    Calm ids { g with bus := (g.bus.subscribe l).2 } := by
  refine ⟨fun s hs hown => ?_, fun id hid => Nat.lt_succ_of_lt (hg.below id hid), hg.running,
    hg.idle, fun id hid => ?_⟩
  · rcases List.mem_append.mp hs with hs | hs
    · exact hg.own s hs hown
    · rw [List.mem_singleton.mp hs] at hown
      exact absurd hown hl
  · obtain ⟨hlt, htied⟩ := hg.tied id hid
    refine ⟨Nat.lt_succ_of_lt hlt, fun hactive => htied ?_⟩
    exact (isActive_subscribe_of_lt hlt l).symm.trans hactive

theorem unsubscribe (hg : Calm ids g) (id : SubscriptionId) :
    Calm ids { g with bus := (g.bus.unsubscribe id).2 } := by
  refine ⟨fun s hs => hg.own s (List.mem_filter.mp hs).1, hg.below, hg.running, hg.idle,
    fun other hid => ⟨(hg.tied other hid).1, fun hactive => (hg.tied other hid).2 ?_⟩⟩
  have hboth : (g.bus.unsubscribe id).2.isActive other = true := hactive
  rw [EventBus.isActive_unsubscribe, Bool.and_eq_true] at hboth
  exact hboth.1

theorem start (hg : Calm ids g) (hrun : g.dispatcher.running = false) :
    Calm ids { g with
      bus := (g.bus.subscribe .gateway).2
      dispatcher :=
        { g.dispatcher with subscription := some g.bus.nextId, running := true } } := by
  have hnone : g.dispatcher.subscription = none := by
    cases hsub : g.dispatcher.subscription with
    | none => rfl
    | some id =>
      rw [hg.running (by simp [hsub])] at hrun
      cases hrun
  refine ⟨fun s hs hown => ?_, fun id hid => ?_, fun _ => rfl, nofun, fun id hid => ?_⟩
  · -- the old subscriptions are those of others, since the gateway had none
    rcases List.mem_append.mp hs with hs | hs
    · have hsub := hg.own s hs hown
      simp [hnone] at hsub
    · rw [List.mem_singleton.mp hs]
  · rw [← Option.some.inj hid]
    exact Nat.lt_succ_self _
  · obtain ⟨hlt, htied⟩ := hg.tied id hid
    refine ⟨Nat.lt_succ_of_lt hlt, fun hactive => ?_⟩
    have hsub := htied ((isActive_subscribe_of_lt hlt .gateway).symm.trans hactive)
    simp [hnone] at hsub

theorem endSubscription (hg : Calm ids g) : Calm ids (Run.endSubscription g).2 ∧
    (Run.endSubscription g).2.dispatcher.subscription = none := by
  unfold Run.endSubscription
  rw [Run.get_bind_apply]
  cases hsub : g.dispatcher.subscription with
  | none => exact ⟨hg, hsub⟩
  | some id =>
    have hbus := hg.unsubscribe id
    -- the gateway had one subscription, and that one is gone
    have hgone (other : SubscriptionId) (hother : (g.bus.unsubscribe id).2.isActive other = true) :
        g.dispatcher.subscription ≠ some other := by
      rw [EventBus.isActive_unsubscribe, Bool.and_eq_true, bne_iff_ne] at hother
      rw [hsub]
      exact fun heq => hother.2 (Option.some.inj heq).symm
    refine ⟨⟨fun s hs hown => ?_, nofun, fun h => absurd rfl h, hg.idle,
      fun other hid => ⟨(hg.tied other hid).1, fun hactive => ?_⟩⟩, rfl⟩
    · refine absurd (hbus.own s hs hown) (hgone s.id ?_)
      exact List.any_eq_true.mpr ⟨s, hs, beq_self_eq_true _⟩
    · exact absurd ((hbus.tied other hid).2 hactive) (hgone other hactive)

theorem halt (hg : Calm ids g) (hsub : g.dispatcher.subscription = none)
    (hroutes : g.table.routes = {}) :
    Calm ids { g with dispatcher := { g.dispatcher with running := false } } :=
  ⟨hg.own, hg.below, fun h => absurd hsub h, fun _ => hroutes, hg.tied⟩

end Calm

namespace Activity

theorem Is.congr (hg : p.Is ids g) (hbus : g.bus = g'.bus)
    (hrunning : g.dispatcher.running = g'.dispatcher.running)
    (hsub : g.dispatcher.subscription = g'.dispatcher.subscription)
    (hroutes : g.table.routes = {} → g'.table.routes = {}) (hjournal : g.journal <:+ g'.journal) :
    p.Is ids g' := by
  refine ⟨hg.calm.congr hbus hrunning hsub fun _ => hroutes, ?_⟩
  have hmarks := hg.marks
  cases p with
  | calm => exact trivial
  | deploying hs =>
    exact ⟨hrunning.symm.trans hmarks.1, fun h hh => (hmarks.2 h hh).mono hjournal⟩
  | stopping => exact ⟨hsub.symm.trans hmarks.1, hroutes hmarks.2⟩

theorem Is.permits (hg : p.Is ids g) {s : List Frame} (hp : p.Allows s) {a : Action}
    (hu : a.Unlocked s) (ht : a.Timely g.journal s) : p.Permits a := by
  have hcalm (hstop : ¬ Stopping s) (hdeploy : ¬ Deploying g.journal s) : p = .calm := by
    cases p with
    | calm => rfl
    | deploying hs => exact absurd (hp _ hg.marks.2) hdeploy
    | stopping => exact absurd hp hstop
  cases a with
  | start =>
    rintro rfl
    exact hu hp
  | stop | shutDown => exact hcalm hu ht
  | _ => exact trivial

theorem Is.runs (hg : p.raised.Is ids g) : g.dispatcher.running = true := by
  cases p <;> exact hg.marks.1

/-- A gateway that runs may begin to deploy. -/
theorem Is.raise (hg : p.Is ids g) (hrun : g.dispatcher.running = true) : p.raised.Is ids g := by
  cases p with
  | calm => exact ⟨hg.calm, hrun, nofun⟩
  | deploying hs => exact hg
  | stopping => exact ⟨hg.calm, hrun, nofun⟩

theorem Is.relax (hg : p.raised.Is ids g) (hne : p ≠ stopping) : p.Is ids g := by
  cases p with
  | calm => exact ⟨hg.calm, trivial⟩
  | deploying hs => exact hg
  | stopping => exact absurd rfl hne

theorem Is.withdraw (hg : p.raised.Is ids g) {h : HandlerId} (hh : Withdrawn g.journal h) :
    (p.withdrawing h).Is ids g := by
  cases p with
  | calm => exact ⟨hg.calm, hg.marks.1, List.forall_mem_singleton.mpr hh⟩
  | deploying hs => exact ⟨hg.calm, hg.marks.1, List.forall_mem_cons.mpr ⟨hh, hg.marks.2⟩⟩
  | stopping => exact ⟨hg.calm, hg.marks.1, List.forall_mem_singleton.mpr hh⟩

theorem Is.forget {h : HandlerId} (hg : (p.withdrawing h).Is ids g) : p.raised.Is ids g := by
  cases p with
  | calm => exact ⟨hg.calm, hg.marks.1, nofun⟩
  | deploying hs => exact ⟨hg.calm, hg.marks.1, (List.forall_mem_cons.mp hg.marks.2).2⟩
  | stopping => exact ⟨hg.calm, hg.marks.1, nofun⟩

theorem Is.insert (hg : p.raised.Is ids g) (api : String) (h : Option HandlerId) :
    p.raised.Is ids (Run.insertRoute api h g).2 := by
  refine ⟨hg.calm.congr rfl rfl rfl fun hidle => ?_, ?_⟩
  · exact absurd (hidle.symm.trans hg.runs) Bool.false_ne_true
  · cases p <;> exact hg.marks

theorem Is.take (hg : p.Is ids g) (api : String) : p.Is ids (Run.takeRoute api g).2 := by
  refine hg.congr rfl rfl rfl (fun hempty => ?_) List.suffix_rfl
  show (g.table.erase api).2.routes = {}
  rcases g.table.erase_cases api with ⟨-, heq⟩ | ⟨path, hpath, -, -⟩ | ⟨e, he, -⟩
  · rw [heq]
    exact hempty
  · rw [hempty] at hpath
    exact nomatch hpath
  · rw [hempty] at he
    exact absurd he List.not_mem_nil

theorem Is.clear (hg : p.Is ids g) : p.Is ids (Run.clearRoutes g).2 :=
  hg.congr rfl rfl rfl (fun _ => rfl) List.suffix_rfl

theorem Is.subscribe (hg : p.Is ids g) {l : Listener} (hl : l ≠ .gateway) :
    p.Is ids (Run.subscribe l g).2 :=
  ⟨hg.calm.subscribe hl, by cases p <;> exact hg.marks⟩

theorem Is.unsubscribe (hg : p.Is ids g) (id : SubscriptionId) :
    p.Is ids (Run.unsubscribe id g).2 :=
  ⟨hg.calm.unsubscribe id, by cases p <;> exact hg.marks⟩

theorem Is.start (hg : p.Is ids g) (hne : p ≠ .stopping) : p.Is ids (Run.start g).2 := by
  show p.Is ids ((if !g.dispatcher.running then _ else pure () : Run σ Unit) g).2
  cases hrun : g.dispatcher.running with
  | true => exact hg
  | false =>
    refine ⟨(hg.calm.start hrun).congr rfl rfl rfl fun _ => id, ?_⟩
    cases p with
    | calm => exact trivial
    | deploying hs => exact absurd (hrun.symm.trans hg.marks.1) Bool.false_ne_true
    | stopping => exact absurd rfl hne

/-- Without its subscription and its routes, the gateway is stopping. -/
theorem Is.close (hg : p.Is ids g) :
    stopping.Is ids (Run.clearRoutes (Run.endSubscription g).2).2 := by
  obtain ⟨hcalm, hnone⟩ := hg.calm.endSubscription
  exact ⟨hcalm.congr rfl rfl rfl fun _ _ => rfl, hnone, rfl⟩

theorem Is.halt (hg : stopping.Is ids g) : Activity.calm.Is ids
    { g with dispatcher := { g.dispatcher with running := false } } :=
  ⟨hg.calm.halt hg.marks.1 hg.marks.2, trivial⟩

end Activity
end ApiGateway
