import ApiGateway.Proofs.Population.Operations

/-!
# The population of handlers

Whoever calls whom, handlers and routes stay in step: what is published is started, and what was
started is published or has been stopped once.

* `Moment.Lawful`     the factory hands over a handler that exists and is not within its start hook;
* `Moment.InStep`     handlers and routes are in step at a moment;
* `watch h s`         what is known of the moments seen so far while the calls `s` are under way;
* `obeys_within`      the collaborators keep every stage of a handler, however deep calls nest;
* `population_in_step`   at every moment of every run.
-/

namespace ApiGateway

variable {σ τ α β : Type}

/-- A hook is running, or the factory is at work. -/
def Frame.Busy : Frame → Prop
  | .called (.hook ..) => True
  | .building _ => True
  | .handing _ => True
  | _ => False

namespace Moment

/-- A handler that is just handed over may be given to the gateway. -/
def Lawful (m : Moment σ) : Prop :=
  match m.stack with
  | .handing h :: _ => Allowed h m.gateway
  | _ => True

instance (m : Moment σ) : Decidable m.Lawful := by
  unfold Lawful
  split <;> infer_instance

/-- Whatever is published is started, on its own context path, published once, and its stop hook
has not begun.  Unless a hook is running or the factory is at work, every handler stands as it
may. -/
structure InStep (m : Moment σ) : Prop where
  paths : (m.gateway.table.routes.entries.map (·.path)).Nodup
  started : ∀ e ∈ m.gateway.table.routes.entries, (m.gateway.handler e.handler).state = .started
  path : ∀ e ∈ m.gateway.table.routes.entries,
    e.path = (m.gateway.handler e.handler).contextPath
  once : ∀ e ∈ m.gateway.table.routes.entries, m.gateway.places e.handler = 1
  unstopped : ∀ e ∈ m.gateway.table.routes.entries, m.gateway.hooks .stop e.handler = 0
  standing : (∀ f ∈ m.stack, ¬ f.Busy) → ∀ h, Standing h m.gateway

/-- The handler is at some stage, and at rest unless a hook or the factory is at work. -/
def Sound (h : HandlerId) (m : Moment σ) : Prop :=
  (∃ i : Stage, i.Is h m.gateway) ∧ ((∀ f ∈ m.stack, ¬ f.Busy) → Standing h m.gateway)

end Moment

/-- Some moment so far was not lawful. -/
def Broken (o : Watched σ) : Prop :=
  ∃ m ∈ o.moments, ¬ m.Lawful

/-- While the calls are under way, all moments so far were sound, unless one was not lawful. -/
def watch (h : HandlerId) (s : List Frame) : Watch (Watched σ) where
  void := Broken
  sound o := o.stack = s ∧ ∀ m ∈ o.moments, m.Sound h

/-- Among the calls is one of a hook or of the factory. -/
def BusyIn (s : List Frame) : Prop :=
  ∃ f ∈ s, f.Busy

namespace Run

variable {h : HandlerId} {s : List Frame} {i : Stage} {g : Gateway (Watched σ)}

theorem busyIn_cons {f : Frame} (hb : i.Transient → BusyIn s) : i.Transient → BusyIn (f :: s) :=
  fun ht => (hb ht).imp fun _ hf => ⟨List.mem_cons_of_mem _ hf.1, hf.2⟩

theorem at_entered (hg : At (watch h s) h i g) (f : Frame) :
    At (watch h (f :: s)) h i (g.entered f) := by
  rcases hg with hv | ⟨hi, hs, hm⟩
  · exact .inl hv
  · exact .inr ⟨hi.congr rfl rfl fun _ => rfl, congrArg (f :: ·) hs, hm⟩

theorem at_left {f : Frame} (hg : At (watch h (f :: s)) h i g) : At (watch h s) h i g.left := by
  rcases hg with hv | ⟨hi, hs, hm⟩
  · exact .inl hv
  · exact .inr ⟨hi.congr rfl rfl fun _ => rfl, congrArg List.tail hs, hm⟩

theorem at_sighted (hb : i.Transient → BusyIn s) (hg : At (watch h s) h i g) :
    At (watch h s) h i g.sighted := by
  rcases hg with ⟨m, hm, hl⟩ | ⟨hi, hs, hm⟩
  · exact .inl ⟨m, List.mem_cons_of_mem _ hm, hl⟩
  · refine .inr ⟨hi.congr rfl rfl fun _ => rfl, hs, fun m hmem => ?_⟩
    rcases List.mem_cons.mp hmem with rfl | hmem
    · have hbare : i.Is h g.bare := hi.congr rfl rfl fun _ => rfl
      refine ⟨⟨i, hbare⟩, fun hcalm => hbare.standing fun ht => ?_⟩
      obtain ⟨f, hf, hbusy⟩ := hb ht
      exact hcalm f (hs ▸ hf) hbusy
    · exact hm m hmem

theorem broken_sighted (hv : Broken g.own) : Broken g.sighted.own :=
  hv.imp fun _ hm => ⟨List.mem_cons_of_mem _ hm.1, hm.2⟩

theorem at_handed (hg : At (watch h s) h i g) (hb : i.Transient → BusyIn s)
    (r : Except Fault (Option HandlerId)) : At (watch h s) h i (Behaviours.handed g r) := by
  rcases r with f | _ | h'
  · exact hg
  · exact hg
  · exact at_left (at_sighted (busyIn_cons hb) (at_entered hg (.handing h')))

theorem broken_handed (hv : Broken g.own) (r : Except Fault (Option HandlerId)) :
    Broken (Behaviours.handed g r).own := by
  rcases r with f | _ | h'
  · exact hv
  · exact hv
  · exact broken_sighted hv

theorem allowed_of_handed (g : Gateway (Watched σ)) :
    Broken (Behaviours.handed g (.ok (some h))).own ∨
      Allowed h (Behaviours.handed g (.ok (some h))) := by
  by_cases ha : Allowed h g
  · exact .inr ha
  · refine .inl ⟨⟨.handing h :: g.own.stack, g.bare⟩, List.mem_cons_self, fun hl => ha ?_⟩
    exact hl

section
variable {c : Collaborators (Watched σ)} {u : Behaviour σ α}

theorem broken_conduct (hc : c.Keep fun g => Broken g.own) (u : Behaviour σ α) :
    Keeps (fun g => Broken g.own) (u.watched.run c) :=
  Behaviour.run_watched_keeps (P := fun g => Broken g.own) (fun _ => broken_sighted)
    (fun _ _ hg => hg) (fun _ _ hg => hg)
    (fun a _ g hg => keeps_own hc a (g.entered (.asked a)) hg) u
    (Behaviour.asks_of_forall (fun _ => trivial) u)

theorem at_conduct (hc : ∀ s, Obeys (watch h s) (BusyIn s) h c) (hu : u.Asks Action.Indirect)
    (hb : i.Transient → BusyIn s) : Keeps (At (watch h s) h i) (u.watched.run c) := by
  refine Behaviour.run_watched_keeps (P := At (watch h s) h i) (fun g => at_sighted hb)
    (fun g o hg => ?_) (fun fields => keeps_at_write fun _ => rfl) (fun a ha g hg => ?_) u hu
  · rcases hg with hv | ⟨hi, hs⟩
    · exact .inl hv
    · exact .inr ⟨hi.congr rfl rfl fun _ => rfl, hs⟩
  · exact at_left (keeps_perform (hc (.asked a :: s)) (busyIn_cons hb) ha _
      (at_entered hg (.asked a)))

end

/-- The collaborators keep every stage of a handler, however deep calls nest. -/
theorem obeys_within (b : Behaviours σ) (hb : b.Asks Action.Indirect) (h : HandlerId) (n : Nat)
    (s : List Frame) : Obeys (watch h s) (BusyIn s) h (b.watched.within n) := by
  -- on the depth, for all calls at once: what a collaborator asks for runs with its frame on top
  induction n generalizing s with
  | zero =>
    refine ⟨.idle _, fun i _ => .idle _, fun i m h' s' g hg => hg, fun i _ api g _ => ?_⟩
    exact .inr fun ha => nomatch ha
  | succ n ih =>
    have hcall (i : Stage) (inv : Invocation) (s : List Frame)
        (ht : i.Transient → BusyIn (.called inv :: s)) :
        Keeps (At (watch h s) h i) ((b.watched.within (n + 1)).call inv) := by
      intro g hg
      have hc := at_conduct (u := b.call inv) ih (hb.call inv) ht _ (at_entered hg (.called inv))
      show At (watch h s) h i ((b.watched.call inv).run (b.watched.within n) g).2
      rw [Behaviours.run_watched_call]
      exact at_left hc
    have hbuild (i : Stage) (api : Api) (s : List Frame) (g : Gateway (Watched σ))
        (hg : At (watch h s) h i g) :
        At (watch h s) h i ((b.watched.within (n + 1)).build api g).2 := by
      have ht : i.Transient → BusyIn (.building api :: s) :=
        fun _ => ⟨_, List.mem_cons_self, trivial⟩
      have hc := at_conduct (u := b.build api) ih (hb.build api) ht _ (at_entered hg (.building api))
      show At (watch h s) h i ((b.watched.build api).run (b.watched.within n) g).2
      rw [Behaviours.run_watched_build]
      exact at_left (at_handed hc ht _)
    -- the first two keep a broken run broken; the last is about the handler that was given
    refine ⟨⟨fun api g hg => ?_, fun inv g hg => ?_⟩, fun i ht => ⟨fun api => hbuild i api s,
      fun inv => hcall i inv s (busyIn_cons ht)⟩, fun i m h' s' => ?_, fun i ht api g hg => ?_⟩
    · have hc := broken_conduct (ih []).void (b.build api) (g.entered (.building api)) hg
      show Broken ((b.watched.build api).run (b.watched.within n) g).2.own
      rw [Behaviours.run_watched_build]
      exact broken_handed hc _
    · have hc := broken_conduct (ih []).void (b.call inv) (g.entered (.called inv)) hg
      show Broken ((b.watched.call inv).run (b.watched.within n) g).2.own
      rw [Behaviours.run_watched_call]
      exact hc
    · exact hcall i _ s fun _ => ⟨_, List.mem_cons_self, trivial⟩
    · show Broken ((b.watched.build api).run (b.watched.within n) g).2.own ∨
        (((b.watched.build api).run (b.watched.within n) g).1 = .ok (some h) →
          Allowed h ((b.watched.build api).run (b.watched.within n) g).2)
      rw [Behaviours.run_watched_build]
      generalize (b.build api).watched.run (b.watched.within n) (g.entered (.building api)) = x
      obtain ⟨r, g'⟩ := x
      by_cases hr : r = .ok (some h)
      · subst hr
        exact (allowed_of_handed g').imp id fun ha _ => ha
      · exact .inr fun heq => absurd heq hr

/-- At the end of a run, every handler is where it may be while nobody is at work on it, and it was
so at each moment. -/
theorem at_run (b : Behaviours σ) (n : Nat) (user : Behaviour σ α) (hb : b.Asks Action.Indirect)
    (hu : user.Asks Action.Indirect) (g₀ : Gateway σ) (hg : Stage.resting.Is h g₀) :
    At (watch h []) h .resting (user.watched.run (b.watched.within n) g₀.watched).2 := by
  have ht : Stage.resting.Transient → BusyIn [] := by
    rintro (h | h) <;> cases h
  exact at_conduct (obeys_within b hb h n) hu ht g₀.watched
    (.inr ⟨hg.congr rfl rfl fun _ => rfl, rfl, fun m hm => absurd hm List.not_mem_nil⟩)

theorem sound_moments (b : Behaviours σ) (n : Nat) (user : Behaviour σ α)
    (hb : b.Asks Action.Indirect) (hu : user.Asks Action.Indirect) (g₀ : Gateway σ)
    (hlawful : ∀ m ∈ b.moments n user g₀, m.Lawful) (hg : Stage.resting.Is h g₀) :
    ∀ m ∈ b.moments n user g₀, m.Sound h := by
  rcases at_run b n user hb hu g₀ hg with ⟨m, hm, hl⟩ | ⟨-, -, hs⟩
  · exact absurd (hlawful m hm) hl
  · exact hs

theorem standing_run (b : Behaviours σ) (n : Nat) (user : Behaviour σ α)
    (hb : b.Asks Action.Indirect) (hu : user.Asks Action.Indirect) (g₀ : Gateway σ)
    (hlawful : ∀ m ∈ b.moments n user g₀, m.Lawful) (hg : Stage.resting.Is h g₀) :
    Standing h (user.run (b.within n) g₀).2 := by
  rw [run_watched]
  rcases at_run b n user hb hu g₀ hg with ⟨m, hm, hl⟩ | ⟨hi, -⟩
  · exact absurd (hlawful m hm) hl
  · have hbare : Stage.resting.Is h (user.watched.run (b.watched.within n) g₀.watched).2.bare :=
      hi.congr rfl rfl fun _ => rfl
    exact hbare.tally

theorem inStep_of_sound {m : Moment σ} (hsound : ∀ h, m.Sound h) : m.InStep := by
  have hpublished (e : Route) (he : e ∈ m.gateway.table.routes.entries) :
      m.gateway.standing e.handler = (.started, 1, 0, 1) := by
    obtain ⟨⟨i, hi⟩, -⟩ := hsound e.handler
    refine (hi.published ?_).2
    exact Nat.pos_iff_ne_zero.mp (List.countP_pos_iff.mpr ⟨e, he, by simp⟩)
  refine ⟨?_, fun e he => ?_, fun e he => ?_, fun e he => ?_, fun e he => ?_, fun hcalm h => ?_⟩
  · obtain ⟨⟨i, hi⟩, -⟩ := hsound 0
    exact hi.keyed.paths
  · exact congrArg (·.1) (hpublished e he)
  · obtain ⟨⟨i, hi⟩, -⟩ := hsound e.handler
    exact hi.keyed.path e he
  · exact congrArg (·.2.2.2) (hpublished e he)
  · exact congrArg (·.2.2.1) (hpublished e he)
  · exact (hsound h).2 hcalm

/-- At every moment of every run in which handlers and routes are left to the gateway, they are in
step.  A handler that was started is published then and was never stopped, or it is not published,
is stopped, and its stop hook ran once; one whose start failed is not published and was never
stopped. -/
theorem population_in_step (b : Behaviours σ) (n : Nat) (user : Behaviour σ α)
    (fallback : Responder) (reporter : Option Reporter) (header : Bool) (clock : Int) (own : σ)
    (hb : b.Asks Action.Indirect) (hu : user.Asks Action.Indirect)
    (hlawful : ∀ m ∈ b.moments n user (.fresh fallback reporter header clock own), m.Lawful) :
    ∀ m ∈ b.moments n user (.fresh fallback reporter header clock own), m.InStep := by
  intro m hm
  refine inStep_of_sound fun h => ?_
  exact sound_moments b n user hb hu _ hlawful
    (Stage.is_fresh h fallback reporter header clock own) m hm

/-- Collaborators whose start hooks take out every route, and whose stop hooks fail. -/
def unruly : Behaviours Unit where
  build api := do
    let h ← Behaviour.require (.create (.create api.contextPath api.virtualHost .outside))
    return some h
  call
    | .hook .start .. => .require .undeployAll
    | .hook .stop .. => .fail .foreign
    | _ => .give ()

/-- An API is deployed, and then replaced. -/
def replacement : Behaviour Unit Unit := do
  Behaviour.require (.deploy { id := "shop", contextPath := "/shop" })
  Behaviour.require (.update { id := "shop", contextPath := "/shop/" })

theorem population_in_step_replacement :
    (unruly.Asks Action.Indirect ∧ replacement.Asks Action.Indirect ∧
      ∀ m ∈ unruly.moments 2 replacement (.fresh .notFound none true 0 ()), m.Lawful) ∧
    ∀ m ∈ unruly.moments 2 replacement (.fresh .notFound none true 0 ()), m.InStep := by
  have hb : unruly.Asks Action.Indirect := by
    refine ⟨fun api => ⟨rfl, fun r => by cases r <;> exact trivial⟩, fun i => ?_⟩
    cases i with
    | hook m h seen =>
      cases m with
      | start => exact ⟨trivial, fun r => by cases r <;> exact trivial⟩
      | stop => exact trivial
    | _ => exact trivial
  have hu : replacement.Asks Action.Indirect := by
    refine ⟨trivial, fun r => ?_⟩
    cases r with
    | error f => exact trivial
    | ok => exact ⟨trivial, fun r => by cases r <;> exact trivial⟩
  have hlawful : ∀ m ∈ unruly.moments 2 replacement (.fresh .notFound none true 0 ()), m.Lawful := by
    decide +kernel
  exact ⟨⟨hb, hu, hlawful⟩,
    population_in_step unruly 2 replacement .notFound none true 0 () hb hu hlawful⟩

end Run
end ApiGateway
