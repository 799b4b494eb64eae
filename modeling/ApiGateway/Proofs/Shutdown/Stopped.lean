import ApiGateway.Proofs.Event.Delivery
import ApiGateway.Proofs.Population.Invariant
import ApiGateway.Proofs.Shutdown.Activity

/-!
# A stopped gateway serves nothing

A gateway that has been stopped has no routes, and every handler that it ever started is stopped,
whoever stopped it and in the middle of whatever, if only it was not in the middle of a deployment:
an API whose deployment goes on is published once its handler is started.  To stop the handler that
is replaced is part of the deployment of the new one; to stop a handler that was turned away is not.

* `Doing p ids s g`       with the calls `s` under way the gateway is at the activity `p`, or it was
                          started or stopped at a time when it may not be;
* `Poised p ids s g`      besides, the gateway may deploy, and has not just turned a handler away;
* `Faithful c`            the collaborators keep the activity that the calls under way tell of;
* `keeps_doing_perform`   and so does every action that gives the gateway no APIs but by events;
* `faithful_within`       and so do the collaborators, however deep calls nest;
* `Run.stopped_serves_nothing`   at the end of every run.
-/

namespace ApiGateway

variable {σ α : Type}

/-- Some request so far came at a time when the gateway may not be started or stopped. -/
def Misused (o : Watched σ) : Prop :=
  ∃ m ∈ o.moments, ¬ (m.Unlocked ∧ m.Timely)

/-- With these calls under way the gateway is at the activity, unless it was misused before. -/
def Doing (p : Activity) (ids : List SubscriptionId) (s : List Frame) (g : Gateway (Watched σ)) :
    Prop :=
  Misused g.own ∨ g.own.stack = s ∧ p.Is ids g

/-- Besides, no handler has just been turned away, and the gateway may deploy or replace one. -/
def Poised (p : Activity) (ids : List SubscriptionId) (s : List Frame)
    (g : Gateway (Watched σ)) : Prop :=
  Doing p.raised ids s g ∧ NotTurnedAway g.journal

/-- The collaborators keep every activity that the calls under way tell of. -/
structure Faithful (c : Collaborators (Watched σ)) : Prop where
  misused : c.Keep fun g => Misused g.own
  build : ∀ (p : Activity) ids s api, p.Allows (.building api :: s) →
    Run.Keeps (Doing p ids s) (c.build api)
  call : ∀ (p : Activity) ids s i, p.Allows (.called i :: s) →
    Run.Keeps (Doing p ids s) (c.call i)

section
variable {p q : Activity} {ids ids' : List SubscriptionId} {s : List Frame}
  {g g' : Gateway (Watched σ)}

theorem Doing.step (hg : Doing p ids s g) (ho : g'.own = g.own)
    (h : p.Is ids g → q.Is ids' g') : Doing q ids' s g' := by
  unfold Doing
  rw [ho]
  exact hg.imp id (And.imp_right h)

theorem Doing.relax (hg : Doing p.raised ids s g) (hne : p ≠ .stopping) : Doing p ids s g :=
  hg.step rfl fun hi => hi.relax hne

end

namespace Run

variable {p : Activity} {ids : List SubscriptionId} {s : List Frame} {c : Collaborators (Watched σ)}

/-! ### Changes that keep an activity -/

theorem keeps_doing_write (e : Entry) : Keeps (Doing (σ := σ) p ids s) (write e) :=
  fun _ hg => hg.step rfl fun hi => hi.congr rfl rfl rfl id (List.suffix_cons _ _)

theorem keeps_doing_tally (f : DispatchStats → DispatchStats) :
    Keeps (Doing (σ := σ) p ids s) (tally f) :=
  fun _ hg => hg.step rfl fun hi => hi.congr rfl rfl rfl id List.suffix_rfl

theorem keeps_doing_deployFailed (n : Notice) :
    Keeps (Doing (σ := σ) p ids s) (deployFailed n) :=
  (keeps_doing_tally _).bind fun _ => keeps_doing_write _

theorem journals_doing : Journals (Holding (Doing (σ := σ) p ids s)) fun _ => True :=
  journals_holding (fun _ => trivial) fun e _ => keeps_doing_write e

theorem inert_doing : Inert (Holding (Doing (σ := σ) p ids s)) :=
  .of_same fun _ _ h hg => hg.step h.own.symm fun hi =>
    hi.congr h.bus h.running h.subscription (fun hempty => h.table ▸ hempty)
      (h.journal ▸ List.suffix_rfl)

theorem trafficless_doing : Trafficless (Holding (Doing (σ := σ) p ids s)) :=
  .of_same fun _ _ h hg => hg.step h.own.symm fun hi =>
    hi.congr h.bus h.running h.subscription (fun hempty => h.table ▸ hempty)
      (h.journal ▸ List.suffix_rfl)

theorem keeps_doing_take (api : String) : Keeps (Doing (σ := σ) p ids s) (takeRoute api) :=
  fun _ hg => hg.step rfl fun hi => hi.take api

theorem keeps_doing_clear : Keeps (Doing (σ := σ) p ids s) clearRoutes :=
  fun _ hg => hg.step rfl fun hi => hi.clear

/-! ### Removals -/

section
variable (hc : Faithful c)
include hc

theorem alike_move_doing (m : Move) (h : HandlerId)
    (hm : ∀ seen, p.Allows (.called (.hook m h seen) :: s)) :
    Alike (Holding (Doing p ids s)) (move c m h) (move c m h) :=
  Alike.move journals_doing m h (fun seen => (hc.call p ids s _ (hm seen)).alike)
    (fun _ => trivial) (inert_doing.setState h)

theorem alike_retire_doing (hstop : ∀ h seen, p.Allows (.called (.hook .stop h seen) :: s))
    (api : String) (h : HandlerId) :
    Alike (Holding (Doing p ids s)) (retire c api h) (retire c api h) :=
  Alike.retire journals_doing inert_doing.tally (alike_move_doing hc .stop h (hstop h))

theorem alike_undeploy_doing (hstop : ∀ h seen, p.Allows (.called (.hook .stop h seen) :: s))
    (api : String) : Alike (Holding (Doing p ids s)) (undeploy c api) (undeploy c api) :=
  Alike.undeploy journals_doing inert_doing.tally (keeps_doing_take api).alike
    (alike_retire_doing hc hstop api)

theorem undeployAll_leads (hp : p.Allows s) :
    Leads (fun g => Doing p ids s (clearRoutes g).2) (Doing p ids s) (undeployAll c) := by
  have hretire (l : List Route) : Keeps (Doing p ids s) (retireAll c l) :=
    (Alike.retireAll inert_doing.tally
      (alike_retire_doing hc fun _ _ => hp.cons _) l).keeps
  refine Leads.bind (Q := Doing p ids s) (fun g hg => hg) fun l => (hretire l).bind fun _ => ?_
  exact (Alike.ite (journals_doing.notify _) (Alike.pure _)).keeps

theorem keeps_doing_undeployAll (hp : p.Allows s) : Keeps (Doing p ids s) (undeployAll c) :=
  fun g hg => undeployAll_leads hc hp g (keeps_doing_clear g hg)

/-! ### Deployments -/

section
variable (hp : p.Allows s) (hne : p ≠ .stopping)
include hp hne

theorem publishHandler_leads (api : String) (h : HandlerId) :
    Leads (Doing p.raised ids s) (Doing p ids s) (publishHandler c api h) := by
  refine Leads.bind (Q := Doing p.raised ids s)
    (fun g hg => hg.step rfl fun hi => hi.insert api (some h)) fun a g hg => ?_
  refine (?_ : Keeps (Doing p ids s) _) g (hg.relax hne)
  have hretire : Keeps (Doing p ids s) (retire c api h) :=
    (alike_retire_doing hc (fun _ _ => hp.cons _) api h).keeps
  cases a with
  | some r =>
    intro g hg
    have hfail := keeps_doing_deployFailed (.notPublished api (g.handler h).contextPath r) g hg
    exact hretire _ hfail
  | none => exact (keeps_doing_tally _).bind fun _ g hg => keeps_doing_write _ g hg

/-- While an API is deployed the gateway runs, so the API may be published in the end. -/
theorem deploy_leads (api : Api) :
    Leads (Doing p.raised ids s) (Doing p ids s) (deploy c api) := by
  have hfail (n : Notice) :
      Leads (Doing (σ := σ) p.raised ids s) (Doing p ids s) (deployFailed n) :=
    fun g hg => keeps_doing_deployFailed n g (hg.relax hne)
  unfold deploy
  by_cases hen : api.enabled = true
  · rw [if_pos hen]
    have hbuild : Keeps (Doing p.raised ids s) (Run.build c api) :=
      (keeps_doing_write _).bind fun _ =>
        hc.build _ ids s api (Activity.allows_raised (f := .building api) (fun _ => trivial) p)
    refine Leads.bind hbuild fun a => ?_
    rcases a with f | _ | h
    · exact hfail _
    · exact hfail _
    · have hstart : Keeps (Doing p.raised ids s) (move c .start h) :=
        (alike_move_doing hc .start h fun seen =>
          Activity.allows_raised (f := .called (.hook .start h seen)) (fun _ => trivial) p).keeps
      refine Leads.bind hstart fun a => ?_
      cases a with
      | error e => exact hfail _
      | ok u => exact publishHandler_leads hc hp hne api.id h
  · rw [if_neg hen]
    exact fun g hg => keeps_doing_write _ g (hg.relax hne)

end

/-! ### Events -/

section
variable {e : ApiEvent}

omit hc in
theorem keeps_poised_tally (f : DispatchStats → DispatchStats) :
    Keeps (Poised (σ := σ) p ids s) (tally f) :=
  fun g hg => ⟨keeps_doing_tally f g hg.1, hg.2⟩

/-- The stop hook of a handler that is replaced is part of the deployment; who runs in it finds the
handler withdrawn. -/
theorem withdraw_leads (hkind : e.kind = .update) (hen : e.api.enabled = true) (h : HandlerId) :
    Leads (Poised p ids (.asked (.publish e) :: s))
      (Doing p.raised ids (.asked (.publish e) :: s)) (move c .stop h) := by
  rintro g ⟨hg, hquiet⟩
  rw [move_eq]
  cases Move.stop.hookState? (g.handler h).state with
  | none => exact hg
  | some seen =>
    have hnoted := keeps_doing_write (.call .gateway (.hook .stop h seen)) _
      ((inert_doing.setState h seen).keeps g hg)
    have hbegun : Doing (p.withdrawing h) ids (.asked (.publish e) :: s)
        (write (.call .gateway (.hook .stop h seen)) (setState h seen g).2).2 :=
      hnoted.step rfl fun hi => hi.withdraw (withdrawn_cons hquiet h seen)
    have hhook := (Alike.runHook journals_doing (hc.call _ ids _ (.hook .stop h seen)
      (Activity.allows_withdrawing hkind hen h seen s p)).alike).keeps _ hbegun
    exact ((inert_doing.setState h _).keeps _ hhook).step rfl fun hi => hi.forget

theorem replaced_leads (hkind : e.kind = .update) (hen : e.api.enabled = true) (api : String) :
    Leads (Poised p ids (.asked (.publish e) :: s))
      (Doing p.raised ids (.asked (.publish e) :: s)) (undeploy c api) := by
  refine Leads.bind (Q := Poised p ids (.asked (.publish e) :: s)) ?_ fun a => ?_
  · rintro g ⟨hg, hquiet⟩
    refine ⟨(Alike.eraseRoute journals_doing (keeps_doing_take api).alike).keeps g hg, ?_⟩
    rcases eraseRoute_cases g api with ⟨-, heq⟩ | ⟨path, -, -, heq⟩ | ⟨r, -, -, -, -, heq⟩
    · rwa [heq]
    · rw [heq]
      rintro _ ⟨⟩
      rfl
    · rwa [heq]
  · cases a with
    | none => exact fun g hg => keeps_doing_write _ g hg.1
    | some h =>
      refine Leads.bind (keeps_poised_tally _) fun _ => Leads.bind ?_ fun _ => keeps_doing_write _
      refine Leads.bind (withdraw_leads hc hkind hen h) fun a => ?_
      cases a with
      | ok u => exact fun g hg => hg
      | error f => exact (keeps_doing_tally _).bind fun _ => keeps_doing_write _

end

section
variable {e : ApiEvent} (hp : p.Allows s)
include hp

theorem update_leads (hne : p ≠ .stopping) (hkind : e.kind = .update) :
    Leads (Poised p ids (.asked (.publish e) :: s))
      (Doing p ids (.asked (.publish e) :: s)) (update c e.api) := by
  intro g hg
  unfold update
  rw [get_bind_apply]
  generalize (g.table.routes.pathOf? e.api.id).isSome = known
  revert g
  by_cases hen : e.api.enabled = true
  · have hdeploy : Leads (Doing p.raised ids (.asked (.publish e) :: s))
        (Doing p ids (.asked (.publish e) :: s)) (deploy c e.api) :=
      deploy_leads hc (hp.cons _) hne e.api
    cases known with
    | true => exact Leads.bind (replaced_leads hc hkind hen e.api.id) fun _ => hdeploy
    | false => exact Leads.bind (fun g hg => keeps_doing_write _ g hg.1) fun _ => hdeploy
  · -- nothing is deployed afterwards, so the gateway may be stopped at any time
    have hdisabled : Keeps (Doing p ids (.asked (.publish e) :: s)) (deploy c e.api) := by
      unfold deploy
      rw [if_neg hen]
      exact keeps_doing_write _
    have hundeploy : Keeps (Doing p ids (.asked (.publish e) :: s)) (undeploy c e.api.id) :=
      (alike_undeploy_doing hc (fun _ _ => (hp.cons _).cons _) e.api.id).keeps
    rintro g ⟨hg, -⟩
    cases known with
    | true => exact (hundeploy.bind fun _ => hdisabled) g (hg.relax hne)
    | false => exact (Keeps.bind (keeps_doing_write _) fun _ => hdisabled) g (hg.relax hne)

theorem apply_leads (hne : p ≠ .stopping) :
    Leads (Poised p ids (.asked (.publish e) :: s))
      (Doing p ids (.asked (.publish e) :: s)) (apply c e) := by
  unfold apply
  cases hkind : e.kind with
  | deploy => exact fun g hg => deploy_leads hc (hp.cons _) hne e.api g hg.1
  | update => exact update_leads hc hp hne hkind
  | undeploy =>
    exact fun g hg => (alike_undeploy_doing (p := p) hc (fun _ _ => (hp.cons _).cons _) _).keeps g
      (hg.1.relax hne)
  | other n => exact fun g hg => hg.1.relax hne

theorem hear_doing {sub : Subscription} {g : Gateway (Watched σ)}
    (hown : sub.listener = .gateway → sub.id ∈ ids) (hactive : g.bus.isActive sub.id = true)
    (hg : Doing p ids (.asked (.publish e) :: s) g) :
    Doing p ids (.asked (.publish e) :: s) (hear c e sub g).2 := by
  have hwrite := keeps_doing_write (.call .gateway (.deliver sub.id sub.listener e)) g hg
  unfold hear
  cases hl : sub.listener with
  | gateway =>
    rcases hg with hv | ⟨hs, hi⟩
    · exact .inl (keeps_own hc.misused (.apply e) _ hv)
    · -- it has a subscription, so it runs and is not stopping
      obtain ⟨hsome, hrun⟩ := hi.calm.hears (hown hl) hactive
      have hne : p ≠ .stopping := by
        rintro rfl
        exact absurd (hi.marks.1.symm.trans hsome) nofun
      have htold := keeps_doing_write (.call .gateway (.deliver sub.id .gateway e)) g
        (.inr ⟨hs, hi.raise hrun⟩)
      refine apply_leads hc hp hne _ ⟨htold, ?_⟩
      rintro _ ⟨⟩
      rfl
  | outside l =>
    rw [hl] at hwrite
    exact hc.call p ids _ _ ((hp.cons _).cons _) _ hwrite
  | empty =>
    rw [hl] at hwrite
    exact hwrite

theorem keeps_doing_deliver (l : List Subscription)
    (hl : ∀ sub ∈ l, sub.listener = .gateway → sub.id ∈ ids) :
    Keeps (Doing p ids (.asked (.publish e) :: s)) (deliver c e l) :=
  Keeps.deliver fun sub hmem _ hg => turn_ends (fun _ => keeps_doing_write _)
    (fun hactive => hear_doing hc hp (hl sub hmem) hactive hg) fun _ => hg

theorem keeps_doing_publish :
    Keeps (Doing p ids (.asked (.publish e) :: s)) (publish c e) := by
  intro g hg
  -- the ids of the gateway's own subscriptions are kept in mind for as long as the delivery lasts
  let more := (g.bus.subscriptions.filter (·.listener = .gateway)).map (·.id)
  have hmore : Doing p (more ++ ids) (.asked (.publish e) :: s) g :=
    hg.step rfl fun hi => ⟨hi.calm.capture, hi.marks⟩
  have hdue (sub : Subscription) (hmem : sub ∈ g.bus.subscriptions)
      (hown : sub.listener = .gateway) : sub.id ∈ more ++ ids :=
    List.mem_append_left _ (List.mem_map_of_mem
      (List.mem_filter.mpr ⟨hmem, decide_eq_true hown⟩))
  have hend := keeps_doing_deliver (e := e) hc hp g.bus.subscriptions hdue _
    (keeps_doing_write (.notice (.publishing e g.bus.subscriptions.length)) g hmore)
  exact hend.step rfl fun hi => ⟨hi.calm.anti, hi.marks⟩

end

/-! ### The beginning and the end -/

omit hc in
theorem keeps_doing_start (hne : p ≠ .stopping) : Keeps (Doing (σ := σ) p ids s) start := by
  intro g hg
  refine hg.step ?_ fun hi => hi.start hne
  show ((if !g.dispatcher.running then _ else pure () : Run (Watched σ) Unit) g).2.own = g.own
  cases g.dispatcher.running <;> rfl

omit hc in
theorem endSubscription_leads : Leads (Doing (σ := σ) .calm ids s)
    (fun g => Doing .stopping ids s (clearRoutes g).2) endSubscription := by
  intro g hg
  refine hg.step ?_ fun hi => hi.close
  show (endSubscription g).2.own = g.own
  unfold endSubscription
  rw [get_bind_apply]
  cases g.dispatcher.subscription <;> rfl

theorem keeps_doing_stop (hs : Stopping s) : Keeps (Doing .calm ids s) (stop c) := by
  intro g hg
  show Doing .calm ids s ((if g.dispatcher.running then _ else pure () : Run (Watched σ) Unit) g).2
  cases g.dispatcher.running with
  | false => exact hg
  | true =>
    have hall := undeployAll_leads (p := .stopping) hc hs _ (endSubscription_leads g hg)
    exact keeps_doing_write _ _ (hall.step rfl fun hi => hi.halt)

theorem keeps_doing_shutDown (hs : Stopping s) : Keeps (Doing .calm ids s) (shutDown c) :=
  (keeps_doing_stop hc hs).bind fun _ => keeps_doing_undeployAll (p := .calm) hc trivial

/-! ### All operations -/

section
variable {a : Action} (ha : a.ByEvents) (hp : p.Allows s)
include ha hp

theorem keeps_doing_routes (hr : a.OfRoutes) :
    Keeps (Doing p ids (.asked a :: s)) (perform c a) := by
  have hundeploy (api : String) : Keeps (Doing p ids (.asked a :: s)) (undeploy c api) :=
    (alike_undeploy_doing hc (fun _ _ => (hp.cons _).cons _) api).keeps
  cases a with
  | apply e =>
    obtain ⟨hdeploy, hupdate⟩ := ha
    show Keeps _ (sure (apply c e))
    refine Keeps.sure ?_
    unfold apply
    cases hkind : e.kind with
    | deploy => exact absurd hkind hdeploy
    | update => exact absurd hkind hupdate
    | undeploy => exact hundeploy _
    | other n => exact fun g hg => hg
  | undeploy api => exact (hundeploy api).sure
  | undeployAll => exact (keeps_doing_undeployAll hc (hp.cons _)).sure
  | insertRoute api h => exact absurd ha id
  | eraseRoute api => exact absurd ha id
  | clearRoutes => exact absurd ha id
  | deploy api => exact absurd ha id
  | update api => exact absurd ha id
  | damage path owner => exact absurd ha id
  | _ => exact absurd hr id

variable (hpermit : p.Permits a)
include hpermit

theorem keeps_doing_events (he : a.OfEvents) :
    Keeps (Doing p ids (.asked a :: s)) (perform c a) := by
  cases a with
  | subscribe l => exact Keeps.sure fun g hg => hg.step rfl fun hi => hi.subscribe ha
  | unsubscribe id => exact Keeps.sure fun g hg => hg.step rfl fun hi => hi.unsubscribe id
  | publish e => exact (keeps_doing_publish hc hp).sure
  | start => exact (keeps_doing_start hpermit).sure
  | stop =>
    obtain rfl : p = .calm := hpermit
    exact (keeps_doing_stop hc (.inl List.mem_cons_self)).sure
  | shutDown =>
    obtain rfl : p = .calm := hpermit
    exact (keeps_doing_shutDown hc (.inr List.mem_cons_self)).sure
  | _ => exact absurd he id

/-- An action that gives the gateway no APIs but by events keeps every activity that it may come in
the midst of. -/
theorem keeps_doing_perform : Keeps (Doing p ids (.asked a :: s)) (perform c a) := by
  have T : Tolerates (Holding (Doing p ids (.asked a :: s))) (fun _ => True) c c :=
    ⟨journals_doing, fun api => (hc.build p ids _ api ((hp.cons _).cons _)).alike,
      fun i => (hc.call p ids _ i ((hp.cons _).cons _)).alike, rfl⟩
  exact (trafficless_doing.perform T .all inert_doing a
    (fun hr => (keeps_doing_routes hc ha hp hr).alike)
    fun he => (keeps_doing_events hc ha hp hpermit he).alike).keeps

end
end

/-! ### All runs -/

theorem lasting_misused : Lasting fun (_ : Unit) (g : Gateway (Watched σ)) => Misused g.own :=
  lasting_asked _

/-- A request either comes at a time when it may, or the gateway is misused from now on. -/
theorem requested_doing {a : Action} {g : Gateway (Watched σ)} (hp : p.Allows s)
    (hg : Doing p ids s g) :
    Misused (g.requested a).own ∨
      p.Permits a ∧ Doing p ids (.asked a :: s) (g.requested a) := by
  rcases hg with ⟨m, hm, hmis⟩ | ⟨rfl, hi⟩
  · exact .inl ⟨m, List.mem_cons_of_mem _ hm, hmis⟩
  · by_cases hok : a.Unlocked g.own.stack ∧ a.Timely g.journal g.own.stack
    · have hi' : p.Is ids (g.requested a) := hi.congr rfl rfl rfl id List.suffix_rfl
      exact .inr ⟨hi.permits hp hok.1 hok.2, .inr ⟨rfl, hi'⟩⟩
    · exact .inl ⟨⟨.asked a :: g.own.stack, g.bare⟩, List.mem_cons_self, hok⟩

theorem left_doing {f : Frame} {g : Gateway (Watched σ)} (hg : Doing p ids (f :: s) g) :
    Doing p ids s g.left := by
  refine hg.imp id fun ⟨hs, hi⟩ => ⟨?_, hi.congr rfl rfl rfl id List.suffix_rfl⟩
  show g.own.stack.tail = s
  rw [hs, List.tail_cons]

theorem entered_doing {g : Gateway (Watched σ)} (hg : Doing p ids s g) (f : Frame) :
    Doing p ids (f :: s) (g.entered f) :=
  hg.imp id fun hi => ⟨congrArg (f :: ·) hi.1, hi.2.congr rfl rfl rfl id List.suffix_rfl⟩

theorem keeps_doing_conduct (hc : Faithful c) (hp : p.Allows s) (u : Behaviour σ α)
    (hu : u.Asks Action.ByEvents) : Keeps (Doing p ids s) (u.recorded.run c) := by
  refine run_recorded_keeps
    (fun g o hg => hg.imp id fun hi => ⟨hi.1, hi.2.congr rfl rfl rfl id List.suffix_rfl⟩)
    (fun fields => keeps_doing_write _) (fun a ha g hg => left_doing (f := .asked a) ?_) u hu
  rcases requested_doing (a := a) hp hg with hmis | ⟨hpermit, hg'⟩
  · exact .inl (keeps_own hc.misused a _ hmis)
  · exact keeps_doing_perform hc ha hp hpermit _ hg'

theorem faithful_within (b : Behaviours σ) (hb : b.Asks Action.ByEvents) (n : Nat) :
    Faithful (b.recorded.within n) := by
  -- on the depth, for all activities at once: a call meets the one that its own frame tells of
  induction n with
  | zero => exact ⟨.idle _, fun _ _ _ _ _ _ hg => hg, fun _ _ _ _ _ _ hg => hg⟩
  | succ n ih =>
    refine ⟨lasting_misused.within b (n + 1) (), fun p ids s api hp g hg => ?_,
      fun p ids s i hp g hg => ?_⟩
    · show Doing p ids s ((b.recorded.build api).run (b.recorded.within n) g).2
      rw [Behaviours.run_recorded_build]
      exact left_doing (keeps_doing_conduct ih hp _ (hb.build api) _ (entered_doing hg _))
    · show Doing p ids s ((b.recorded.call i).run (b.recorded.within n) g).2
      rw [Behaviours.run_recorded_call]
      exact left_doing (keeps_doing_conduct ih hp _ (hb.call i) _ (entered_doing hg _))

/-- At the end of a run in which the gateway is given APIs by events alone, and started and stopped
when it may be, it has routes only if it runs. -/
theorem calm_run (b : Behaviours σ) (n : Nat) (user : Behaviour σ α)
    (hb : b.Asks Action.ByEvents) (hu : user.Asks Action.ByEvents) {g₀ : Gateway σ}
    (hg : Calm [] g₀) (hunlocked : ∀ m ∈ b.requests n user g₀, m.Unlocked)
    (htimely : ∀ m ∈ b.requests n user g₀, m.Timely) : Calm [] (user.run (b.within n) g₀).2 := by
  have hstart : Doing .calm [] [] g₀.watched :=
    .inr ⟨rfl, hg.congr rfl rfl rfl fun _ => id, trivial⟩
  rw [run_recorded]
  rcases keeps_doing_conduct (p := .calm) (faithful_within b hb n) trivial user hu _ hstart with
    ⟨m, hm, hmis⟩ | ⟨-, hi⟩
  · exact absurd ⟨hunlocked m hm, htimely m hm⟩ hmis
  · exact hi.calm.congr rfl rfl rfl fun _ => id

end Run

/-- Nothing is served, and nothing is left over: there is no route, and a handler was never
started, or its start failed, or it was started once and is stopped. -/
structure Gateway.ServesNothing (g : Gateway σ) : Prop where
  routes : g.table.routes = {}
  handlers : ∀ h, g.standing h ∈
    [(.created, 0, 0, 0), (.failedToStart, 1, 0, 0), (.stopped, 1, 1, 0)]

theorem Gateway.servesNothing {g : Gateway σ} (hroutes : g.table.routes = {})
    (hstanding : ∀ h, Standing h g) : g.ServesNothing := by
  refine ⟨hroutes, fun h => ?_⟩
  have hmem := hstanding h
  have hplaces : (g.standing h).2.2.2 = 0 := by
    show g.table.routes.entries.countP _ = 0
    rw [hroutes]
    rfl
  unfold Standing at hmem
  generalize g.standing h = t at hmem hplaces ⊢
  simp only [Stage.tallies, List.mem_cons, List.not_mem_nil, or_false] at hmem
  rcases hmem with rfl | rfl | rfl | rfl
  · simp
  · simp
  · cases hplaces
  · simp

namespace Run

/-- A gateway that is given APIs by events alone and does not run serves nothing, wherever it was
stopped: between two events, by another listener of the event that is being delivered, or within a
hook.  Only in the middle of a deployment it may not be stopped. -/
theorem stopped_serves_nothing (b : Behaviours σ) (n : Nat) (user : Behaviour σ α)
    (fallback : Responder) (reporter : Option Reporter) (header : Bool) (clock : Int) (own : σ)
    (hb : b.Asks Action.ByEvents) (hu : user.Asks Action.ByEvents)
    (hlawful : ∀ m ∈ b.moments n user (.fresh fallback reporter header clock own), m.Lawful)
    (hunlocked : ∀ m ∈ b.requests n user (.fresh fallback reporter header clock own), m.Unlocked)
    (htimely : ∀ m ∈ b.requests n user (.fresh fallback reporter header clock own), m.Timely)
    (hstopped : (user.run (b.within n)
      (.fresh fallback reporter header clock own)).2.dispatcher.running = false) :
    (user.run (b.within n) (.fresh fallback reporter header clock own)).2.ServesNothing := by
  have hcalm := calm_run b n user hb hu (Calm.fresh fallback reporter header clock own)
    hunlocked htimely
  refine Gateway.servesNothing (hcalm.idle hstopped) fun h => ?_
  exact standing_run b n user (hb.mono fun _ => Action.ByEvents.indirect)
    (hu.mono fun _ => Action.ByEvents.indirect) _ hlawful
    (Stage.is_fresh h fallback reporter header clock own)

/-- Collaborators with a handler for every API, one of whom asks the gateway to stop when certain
calls are made. -/
def stoppedWithin (within : Invocation → Bool) : Behaviours Unit where
  build api := do
    let h ← Behaviour.require (.create (.create api.contextPath api.virtualHost .outside))
    return some h
  call i := if within i then .require .stop else .give ()

theorem stoppedWithin_asks (within : Invocation → Bool) :
    (stoppedWithin within).Asks Action.ByEvents := by
  refine ⟨fun api => ⟨rfl, fun r => by cases r <;> exact trivial⟩, fun i => ?_⟩
  show Behaviour.Asks _ (if within i then _ else _)
  cases within i with
  | true => exact ⟨trivial, fun r => by cases r <;> exact trivial⟩
  | false => exact trivial

/-- Another listener stops the gateway when it is told of an event. -/
def stoppedByListener : Behaviours Unit :=
  stoppedWithin (· matches .deliver ..)

/-- A handler stops the gateway when it is started. -/
def stoppedByHandler : Behaviours Unit :=
  stoppedWithin (· matches .hook .start ..)

/-- The gateway is started, someone else subscribes, and an API is deployed. -/
def launch : Behaviour Unit Unit := do
  Behaviour.require .start
  let _ ← Behaviour.require (.subscribe (.outside 0))
  Behaviour.require (.publish ⟨.deploy, { id := "shop", contextPath := "/shop" }⟩)

theorem launch_asks : launch.Asks Action.ByEvents := by
  refine ⟨trivial, fun r => ?_⟩
  rcases r with f | u
  · exact trivial
  · refine ⟨nofun, fun r => ?_⟩
    rcases r with f | id
    · exact trivial
    · exact ⟨trivial, fun r => by cases r <;> exact trivial⟩

theorem stopped_serves_nothing_listener :
    (stoppedByListener.Asks Action.ByEvents ∧ launch.Asks Action.ByEvents) ∧
    ((∀ m ∈ stoppedByListener.moments 2 launch (.fresh .notFound none true 0 ()), m.Lawful) ∧
      (∀ m ∈ stoppedByListener.requests 2 launch (.fresh .notFound none true 0 ()), m.Unlocked) ∧
      (∀ m ∈ stoppedByListener.requests 2 launch (.fresh .notFound none true 0 ()), m.Timely) ∧
      (launch.run (stoppedByListener.within 2)
        (.fresh .notFound none true 0 ())).2.dispatcher.running = false) ∧
    (launch.run (stoppedByListener.within 2) (.fresh .notFound none true 0 ())).2.standing 0 =
      (.stopped, 1, 1, 0) ∧
    (launch.run (stoppedByListener.within 2)
      (.fresh .notFound none true 0 ())).2.ServesNothing := by
  have h : (∀ m ∈ stoppedByListener.moments 2 launch (.fresh .notFound none true 0 ()),
        m.Lawful) ∧
      (∀ m ∈ stoppedByListener.requests 2 launch (.fresh .notFound none true 0 ()),
        m.Unlocked) ∧
      (∀ m ∈ stoppedByListener.requests 2 launch (.fresh .notFound none true 0 ()), m.Timely) ∧
      (launch.run (stoppedByListener.within 2)
        (.fresh .notFound none true 0 ())).2.dispatcher.running = false := by
    decide +kernel
  exact ⟨⟨stoppedWithin_asks _, launch_asks⟩, h, by decide +kernel,
    stopped_serves_nothing stoppedByListener 2 launch .notFound none true 0 ()
      (stoppedWithin_asks _) launch_asks h.1 h.2.1 h.2.2.1 h.2.2.2⟩

/-- The gateway is started and an API is deployed; an update would put another on its path. -/
def contend : Behaviour Unit Unit := do
  Behaviour.require .start
  Behaviour.require (.publish ⟨.deploy, { id := "shop", contextPath := "/shop" }⟩)
  Behaviour.require (.publish ⟨.update, { id := "cart", contextPath := "/shop" }⟩)

/-- The handler that is turned away may stop the gateway. -/
example : let b := stoppedWithin (· matches .hook .stop 1 ..)
    (∀ m ∈ b.requests 3 contend (.fresh .notFound none true 0 ()), m.Unlocked ∧ m.Timely) ∧
      (contend.run (b.within 3)
        (.fresh .notFound none true 0 ())).2.dispatcher.running = false := by
  decide +kernel

/-- A gateway that a handler stops while it is started publishes the handler all the same, and
neither runs nor stops it any more. -/
theorem stopped_by_handler_serves :
    (stoppedByHandler.Asks Action.ByEvents ∧ launch.Asks Action.ByEvents) ∧
    ((∀ m ∈ stoppedByHandler.moments 2 launch (.fresh .notFound none true 0 ()), m.Lawful) ∧
      (∀ m ∈ stoppedByHandler.requests 2 launch (.fresh .notFound none true 0 ()), m.Unlocked) ∧
      (launch.run (stoppedByHandler.within 2)
        (.fresh .notFound none true 0 ())).2.dispatcher.running = false) ∧
    (launch.run (stoppedByHandler.within 2) (.fresh .notFound none true 0 ())).2.standing 0 =
      (.started, 1, 0, 1) ∧
    ¬ (launch.run (stoppedByHandler.within 2)
      (.fresh .notFound none true 0 ())).2.ServesNothing := by
  have hstanding : (launch.run (stoppedByHandler.within 2)
      (.fresh .notFound none true 0 ())).2.standing 0 = (.started, 1, 0, 1) := by
    decide +kernel
  refine ⟨⟨stoppedWithin_asks _, launch_asks⟩, by decide +kernel, hstanding, fun hnothing => ?_⟩
  have hmem := hnothing.handlers 0
  rw [hstanding] at hmem
  exact absurd hmem (by decide)

end Run
end ApiGateway
