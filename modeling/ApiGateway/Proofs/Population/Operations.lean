import ApiGateway.Proofs.Population.Standing

/-!
# What operations do to a handler

Every operation keeps the stage of a handler, whatever the collaborators do that it calls on the
way, as long as nobody but the gateway starts and stops handlers and publishes routes.

* `Action.Indirect`   the actions that leave handlers and routes to the gateway;
* `At w h i`          the handler is at the stage, or what the collaborators keep is void;
* `Obeys w busy h c`  the collaborators keep the stage; they meet a handler that is started or held
                      within hooks alone, unless it was so when the operation began;
* `keeps_perform`     such an action keeps every stage.
-/

namespace ApiGateway

variable {σ τ α β : Type}

namespace Action

/-- Handlers are started and stopped, and routes published, by the gateway alone; a new handler has
no past. -/
def Indirect : Action → Prop
  | create new => new.state = .created
  | move .. => False
  | insertRoute .. => False
  | eraseRoute _ => False
  | clearRoutes => False
  | damage .. => False
  | _ => True

end Action

/-- What is known of what the collaborators keep for themselves. -/
structure Watch (τ : Type) where
  /-- They broke a rule; nothing is claimed then. -/
  void : τ → Prop
  sound : τ → Prop

/-- The handler may be given to the gateway: it exists, and it is not within its start hook. -/
def Allowed (h : HandlerId) (g : Gateway σ) : Prop :=
  h < g.handlers.length ∧ ¬ ((g.handler h).state = .created ∧ g.hooks .start h ≠ 0)

instance (h : HandlerId) (g : Gateway σ) : Decidable (Allowed h g) :=
  inferInstanceAs (Decidable (_ ∧ _))

def At (w : Watch τ) (h : HandlerId) (i : Stage) (g : Gateway τ) : Prop :=
  w.void g.own ∨ i.Is h g ∧ w.sound g.own

theorem Stage.Is.resting_of_created {h : HandlerId} {g : Gateway σ} {i : Stage} (hi : i.Is h g)
    (hs : (g.handler h).state = .created) (ha : Allowed h g) : i = .resting := by
  have hmem := hi.tally
  have hstate : (g.standing h).1 = .created := hs
  have hhook : (g.standing h).1 = .created → (g.standing h).2.1 = 0 :=
    fun hc => Decidable.byContradiction fun hn => ha.2 ⟨hc, hn⟩
  generalize g.standing h = t at hmem hstate hhook
  cases i with
  | resting => rfl
  | starting =>
    rw [List.mem_singleton.mp hmem] at hhook
    cases hhook rfl
  | held =>
    rw [List.mem_singleton.mp hmem] at hstate
    cases hstate
  | stopped =>
    rw [List.mem_singleton.mp hmem] at hstate
    cases hstate

theorem At.step {w : Watch τ} {h : HandlerId} {i j : Stage} {g g' : Gateway τ}
    (hg : At w h i g) (ho : g'.own = g.own) (hi : i.Is h g → j.Is h g') : At w h j g' := by
  unfold At
  rw [ho]
  exact hg.imp id (And.imp_left hi)

/-- The handler was at a stage, and it is still, or it was resting and is held now. -/
def Taken (w : Watch τ) (h : HandlerId) (i : Stage) (g : Gateway τ) : Prop :=
  w.void g.own ∨ i = .resting ∧ Stage.held.Is h g ∧ w.sound g.own

/-- The collaborators keep a handler where it is. -/
structure Obeys (w : Watch τ) (busy : Prop) (h : HandlerId) (c : Collaborators τ) : Prop where
  void : c.Keep fun g => w.void g.own
  keep : ∀ i : Stage, (i.Transient → busy) → c.Keep (At w h i)
  hook : ∀ (i : Stage) m h' s, Run.Keeps (At w h i) (c.call (.hook m h' s))
  handed : ∀ i : Stage, (i.Transient → busy) → ∀ api g, At w h i g →
    w.void (c.build api g).2.own ∨
      ((c.build api g).1 = .ok (some h) → Allowed h (c.build api g).2)

namespace Run

section
variable {w : Watch τ} {busy : Prop} {h h' : HandlerId} {c : Collaborators τ} {i j : Stage}

/-! ### Changes that do not concern the handler -/

theorem keeps_at {f : Gateway τ → α × Gateway τ} (hh : ∀ g, g.handlers = (f g).2.handlers)
    (ht : ∀ g, g.table.routes.entries = (f g).2.table.routes.entries)
    (hj : ∀ g, g.journal = (f g).2.journal)
    (ho : ∀ g, (f g).2.own = g.own) : Keeps (At w h i) (f : Run τ α) := by
  intro g hg
  refine hg.step (ho g) fun hi => hi.congr (hh g) (ht g) fun m => ?_
  unfold Gateway.hooks
  rw [hj g]

theorem keeps_at_write {e : Entry} (he : e.SparesHooks h) : Keeps (At w h i) (write e) :=
  fun g hg => hg.step rfl fun hi => hi.congr rfl rfl fun m => (g.hooks_write_spare h m he).symm

theorem journals_at : Journals (Holding (At w h i)) (Entry.SparesHooks h) :=
  journals_holding (fun _ _ => rfl) fun _ he => keeps_at_write he

theorem alike_tally (f : DispatchStats → DispatchStats) :
    Alike (Holding (At w h i)) (tally f) (tally f) :=
  (keeps_at (fun _ => rfl) (fun _ => rfl) (fun _ => rfl) fun _ => rfl).alike

theorem keeps_notify_at (n : Notice) : Keeps (At w h i) (notify n) :=
  (journals_at.notify n).keeps

theorem keeps_tally_at (f : DispatchStats → DispatchStats) : Keeps (At w h i) (tally f) :=
  (alike_tally f).keeps

theorem keeps_deployFailed (n : Notice) : Keeps (At w h i) (deployFailed n) :=
  (keeps_tally_at _).bind fun _ => keeps_notify_at n

theorem keeps_taken {x : Run τ α} (hv : Keeps (fun g => w.void g.own) x)
    (hh : Keeps (At w h .held) x) : Keeps (Taken w h i) x := by
  rintro g (hg | ⟨rfl, hi, hs⟩)
  · exact .inl (hv g hg)
  · exact (hh g (.inr ⟨hi, hs⟩)).imp id fun h => ⟨rfl, h⟩

theorem spares_hook_other (hh : h' ≠ h) (m : Move) (s : LifecycleState) :
    (Entry.call .gateway (.hook m h' s)).SparesHooks h := by
  intro m'
  simp [Entry.isHook, hh]

theorem alike_countAt (s : Nat) (r : AccessRecord) :
    Alike (Holding (At w h i)) (countAt s r) (countAt s r) :=
  (keeps_at (fun _ => rfl) (fun _ => rfl) (fun _ => rfl) fun _ => rfl).alike

theorem spares_hook_call {o : Origin} {inv : Invocation} (hi : ∀ m h s, inv ≠ .hook m h s) :
    (Entry.call o inv).SparesHooks h := by
  intro m
  cases o <;> cases inv <;> first | rfl | exact absurd rfl (hi _ _ _)

theorem keeps_setState_other (hh : h' ≠ h) (s : LifecycleState) :
    Keeps (At w h i) (setState h' s) :=
  fun _ hg => hg.step rfl fun hi => hi.setState_other hh s

/-! ### Whatever happens once the rules are broken -/

section
variable (O : Obeys w busy h c)
include O

theorem void_move (m : Move) (h' : HandlerId) : Keeps (fun g => w.void g.own) (move c m h') :=
  ((robust_own _).toAtoms.move (tolerates_own O.void) (fun _ _ _ => trivial) m h').keeps

theorem void_retire (api : String) (h' : HandlerId) :
    Keeps (fun g => w.void g.own) (retire c api h') :=
  ((robust_own _).toAtoms.retire (tolerates_own O.void) (fun _ _ _ => trivial) api h').keeps

/-! ### Another handler's moves -/

theorem move_other (hh : h' ≠ h) (m : Move) : Keeps (At w h i) (move c m h') :=
  (Alike.move journals_at m h' (fun s => (O.hook i m h' s).alike) (spares_hook_other hh m)
    fun s => (keeps_setState_other hh s).alike).keeps

theorem retire_other (hh : h' ≠ h) (api : String) : Keeps (At w h i) (retire c api h') :=
  (Alike.retire journals_at (fun f _ => alike_tally f) (move_other O hh .stop).alike).keeps

theorem publish_other (hh : h' ≠ h) (api : String) : Keeps (At w h i) (publishHandler c api h') :=
  (Alike.publishHandler journals_at (fun f _ => alike_tally f)
    (Keeps.alike fun _ hg => hg.step rfl fun hi => hi.insert_other api hh)
    (retire_other O hh api).alike).keeps

/-! ### The handler's own moves -/

theorem keeps_runHook (m : Move) (h' : HandlerId) (s : LifecycleState) :
    Keeps (At w h i) (runHook c m h' s) :=
  (Alike.runHook journals_at (O.hook i m h' s).alike).keeps

/-- A start leads to a handler that is held, or leaves the handler where it was. -/
def Started (w : Watch τ) (h : HandlerId) (i : Stage) :
    Except LifecycleError Unit → Gateway τ → Prop
  | .ok () => Taken w h i
  | .error _ => At w h i

theorem start_self : Yields (fun g => At w h i g ∧ (w.void g.own ∨ Allowed h g)) (Started w h i)
    (move c .start h) := by
  have hvoid : ∀ g, w.void g.own → Started w h i (move c .start h g).1 (move c .start h g).2 := by
    intro g hv
    have hv' := void_move O .start h g hv
    cases (move c .start h g).1 with
    | ok u => exact .inl hv'
    | error e => exact .inl hv'
  rintro g ⟨hv | ⟨hi, hs⟩, hv | hall⟩
  · exact hvoid g hv
  · exact hvoid g hv
  · exact hvoid g hv
  rw [move_eq]
  by_cases hstate : (g.handler h).state = .created
  · obtain rfl := hi.resting_of_created hstate hall
    -- meanwhile the hook may do what it likes, and finds the handler at `starting`
    have hmid := keeps_runHook O .start h .created _
      (.inr ⟨hi.begin_start hall.1 hstate .created, hs⟩ : At w h .starting _)
    rw [hstate]
    show Started w h .resting (Move.settle .start (runHook c .start h .created _).1).2
      (setState h _ (runHook c .start h .created _).2).2
    generalize runHook c .start h .created _ = x at hmid ⊢
    obtain ⟨f | u, g'⟩ := x
    · exact hmid.step rfl fun hj => hj.settle rfl (by decide) (by simp [Move.settle, Stage.tallies])
    · rcases hmid with hv | ⟨hj, hs'⟩
      · exact .inl hv
      · exact .inr ⟨rfl, hj.settle rfl (by decide) (by simp [Move.settle, Stage.tallies]), hs'⟩
  · have hnone : Move.hookState? .start (g.handler h).state = none := by
      revert hstate
      cases (g.handler h).state <;> simp [Move.hookState?]
    rw [hnone]
    exact .inr ⟨hi, hs⟩

theorem stop_self : Leads (Taken w h i) (At w h i) (move c .stop h) := by
  rintro g (hv | ⟨rfl, hi, hs⟩)
  · exact .inl (void_move O .stop h g hv)
  have hstate : (g.handler h).state = .started :=
    congrArg (·.1) (List.mem_singleton.mp hi.tally)
  have hmid := keeps_runHook O .stop h .stopped _
    (.inr ⟨hi.begin_stop .stopped, hs⟩ : At w h .stopped _)
  rw [move_eq, hstate]
  show At w h .resting (setState h (Move.settle .stop (runHook c .stop h .stopped _).1).1
    (runHook c .stop h .stopped _).2).2
  generalize runHook c .stop h .stopped _ = x at hmid ⊢
  obtain ⟨f | u, g'⟩ := x
  · exact hmid.step rfl fun hj => hj.settle rfl (by decide) (by simp [Move.settle, Stage.tallies])
  · exact hmid.step rfl fun hj => hj.settle rfl (by decide) (by simp [Move.settle, Stage.tallies])

theorem retire_self (api : String) : Leads (Taken w h i) (At w h i) (retire c api h) := by
  refine Leads.bind (stop_self O) fun a => ?_
  cases a with
  | ok u => exact fun g hg => hg
  | error e => exact (keeps_tally_at _).bind fun _ => keeps_notify_at _

/-- A handler that is turned away is still held, and one that has a route is where it was. -/
def Placed (w : Watch τ) (h : HandlerId) (i : Stage) : Option Rejection → Gateway τ → Prop
  | some _ => Taken w h i
  | none => At w h i

theorem publish_self (api : String) : Leads (Taken w h i) (At w h i) (publishHandler c api h) := by
  have hinsert : Yields (Taken w h i) (Placed w h i) (insertRoute api (some h)) := by
    rintro g (hv | ⟨rfl, hi, hs⟩)
    · cases (insertRoute api (some h) g).1 with
      | some r => exact .inl hv
      | none => exact .inl hv
    · have hself := hi.insert_self api
      cases hres : (insertRoute api (some h) g).1 with
      | some r =>
        rw [hres] at hself
        exact .inr ⟨rfl, hself, hs⟩
      | none =>
        rw [hres] at hself
        exact .inr ⟨hself, hs⟩
  refine Yields.bind hinsert fun a => ?_
  cases a with
  | some r =>
    intro g hg
    have hfail :
        Keeps (Taken w h i) (deployFailed (.notPublished api (g.handler h).contextPath r)) :=
      keeps_taken (fun _ hv => hv) ((keeps_tally_at _).bind fun _ => keeps_notify_at _)
    exact retire_self O api _ (hfail g hg)
  | none => exact (keeps_tally_at _).bind fun _ g hg => keeps_notify_at _ g hg

/-! ### Deployments -/

/-- The handler is where it was, and if the factory gave it, it may be given. -/
def Built (w : Watch τ) (h : HandlerId) (i : Stage) (a : Except Fault (Option HandlerId))
    (g : Gateway τ) : Prop :=
  At w h i g ∧ (a = .ok (some h) → w.void g.own ∨ Allowed h g)

theorem build_yields (hb : i.Transient → busy) (api : Api) :
    Yields (At w h i) (Built w h i) (Run.build c api) := by
  intro g hg
  have hw : At w h i (write (.build api) g).2 := keeps_at_write (fun _ => rfl) g hg
  refine ⟨(O.keep i hb).build api _ hw, fun ha => ?_⟩
  exact (O.handed i hb api _ hw).imp id fun hall => hall ha

theorem keeps_deploy (hb : i.Transient → busy) (api : Api) : Keeps (At w h i) (deploy c api) := by
  unfold deploy
  by_cases hen : api.enabled = true
  · rw [if_pos hen]
    refine Keeps.bind_of_yields (build_yields O hb api) fun a => ?_
    rcases a with f | _ | h'
    · exact fun g hg => keeps_deployFailed _ g hg.1
    · exact fun g hg => keeps_deployFailed _ g hg.1
    · by_cases hh : h' = h
      · subst hh
        have hstart : Yields (Built w h' i (.ok (some h'))) (Started w h' i) (move c .start h') :=
          fun g hg => start_self O g ⟨hg.1, hg.2 rfl⟩
        refine Yields.bind hstart fun a => ?_
        cases a with
        | error e => exact keeps_deployFailed _
        | ok u => exact publish_self O api.id
      · have hstart : Leads (Built w h i (.ok (some h'))) (At w h i) (move c .start h') :=
          fun g hg => move_other O hh .start g hg.1
        refine Leads.bind hstart fun a => ?_
        cases a with
        | error e => exact keeps_deployFailed _
        | ok u => exact publish_other O hh api.id
  · rw [if_neg hen]
    exact keeps_notify_at _

/-! ### Removals -/

omit O in
theorem erase_yields (api : String) : Yields (At w h i) (fun a g =>
    if a = some h then Taken w h i g else At w h i g) (eraseRoute api) := by
  intro g hg
  rcases eraseRoute_cases g api with ⟨-, heq⟩ | ⟨p, -, -, heq⟩ | ⟨e, he, -, -, -, heq⟩
  · rw [heq, if_neg (by simp)]
    exact hg
  · rw [heq, if_neg (by simp)]
    exact keeps_notify_at _ _ (hg.step rfl fun hi => hi.congr rfl rfl fun _ => rfl)
  · rw [heq]
    rcases hg with hv | ⟨hi, hs⟩
    · by_cases hh : some e.handler = some h
      · rw [if_pos hh]
        exact .inl hv
      · rw [if_neg hh]
        exact .inl hv
    · have hremove := hi.remove he api
      by_cases hh : e.handler = h
      · rw [if_pos hh] at hremove
        rw [if_pos (congrArg some hh)]
        exact .inr ⟨hremove.1, hremove.2, hs⟩
      · rw [if_neg hh] at hremove
        rw [if_neg fun heq => hh (Option.some.inj heq)]
        exact .inr ⟨hremove, hs⟩

theorem keeps_undeploy (api : String) : Keeps (At w h i) (undeploy c api) := by
  refine Keeps.bind_of_yields (erase_yields api) fun a => ?_
  cases a with
  | none => exact keeps_notify_at _
  | some h' =>
    have hretire : Leads (fun g => if some h' = some h then Taken w h i g else At w h i g)
        (At w h i) (retire c api h') := by
      intro g hg
      by_cases hh : h' = h
      · rw [if_pos (congrArg some hh)] at hg
        rw [hh]
        exact retire_self O api g hg
      · rw [if_neg fun heq => hh (Option.some.inj heq)] at hg
        exact retire_other O hh api g hg
    have htally : Keeps (fun g => if some h' = some h then Taken w h i g else At w h i g)
        (tally fun s => { s with undeployed := s.undeployed + 1 }) := by
      intro g hg
      by_cases hh : some h' = some h
      · rw [if_pos hh] at hg ⊢
        exact keeps_taken (fun _ hv => hv) (keeps_tally_at _) g hg
      · rw [if_neg hh] at hg ⊢
        exact keeps_tally_at _ g hg
    exact Leads.bind htally fun _ => Leads.bind hretire fun _ => keeps_notify_at _

/-- The routes that have been taken out are those of others, or one of them is the handler's. -/
def Pending (w : Watch τ) (h : HandlerId) (i : Stage) (l : List Route) (g : Gateway τ) : Prop :=
  w.void g.own ∨ (l.countP (·.handler = h) = 0 ∧ At w h i g) ∨
    l.countP (·.handler = h) = 1 ∧ Taken w h i g

omit O in
theorem clear_yields : Yields (At w h i) (Pending w h i) clearRoutes := by
  rintro g (hv | ⟨hi, hs⟩)
  · exact .inl hv
  · rcases hi.clear with ⟨h0, hj⟩ | ⟨h1, rfl, hj⟩
    · exact .inr (.inl ⟨h0, .inr ⟨hj, hs⟩⟩)
    · exact .inr (.inr ⟨h1, .inr ⟨rfl, hj, hs⟩⟩)

theorem retireAll_leads (l : List Route) : Leads (Pending w h i l) (At w h i) (retireAll c l) := by
  -- on the routes that are left; the handler is held for as long as its own is among them
  induction l with
  | nil =>
    rintro g (hv | ⟨-, hg⟩ | ⟨h1, -⟩)
    · exact .inl hv
    · exact hg
    · cases h1
  | cons r rest ih =>
    have hkeep : Keeps (Pending w h i (r :: rest))
        (tally fun s => { s with undeployed := s.undeployed + 1 }) := by
      rintro g (hv | ⟨h0, hg⟩ | ⟨h1, hg⟩)
      · exact .inl hv
      · exact .inr (.inl ⟨h0, keeps_tally_at _ g hg⟩)
      · exact .inr (.inr ⟨h1, keeps_taken (fun _ hv => hv) (keeps_tally_at _) g hg⟩)
    refine Leads.bind hkeep fun _ => Leads.bind (Q := Pending w h i rest) ?_ fun _ => ih
    rintro g (hv | ⟨h0, hg⟩ | ⟨h1, hg⟩)
    · exact .inl (void_retire O r.api r.handler g hv)
    · rw [List.countP_cons] at h0
      have hh : r.handler ≠ h := by
        intro hh
        simp [hh] at h0
      exact .inr (.inl ⟨by omega, retire_other O hh r.api g hg⟩)
    · rw [List.countP_cons] at h1
      by_cases hh : r.handler = h
      · refine .inr (.inl ⟨by simpa [hh] using h1, ?_⟩)
        rw [hh]
        exact retire_self O r.api g hg
      · refine .inr (.inr ⟨by simpa [hh] using h1, ?_⟩)
        exact keeps_taken (void_retire O _ _) (retire_other O hh r.api) g hg

theorem keeps_undeployAll : Keeps (At w h i) (undeployAll c) := by
  refine Keeps.bind_of_yields clear_yields fun l => Leads.bind (retireAll_leads O l) fun _ => ?_
  by_cases hl : !l.isEmpty
  · rw [if_pos hl]
    exact keeps_notify_at _
  · rw [if_neg hl]
    exact fun g hg => hg

/-! ### All operations -/

section
variable (hb : i.Transient → busy)
include hb

theorem tolerates_at : Tolerates (Holding (At w h i)) (Entry.SparesHooks h) c c :=
  (O.keep i hb).tolerates (fun _ _ => rfl) fun _ he => keeps_at_write he

theorem keeps_apply (e : ApiEvent) : Keeps (At w h i) (apply c e) := by
  have hdeploy := (keeps_deploy O hb e.api).alike
  have hundeploy := (keeps_undeploy (i := i) O e.api.id).alike
  exact (Alike.apply hdeploy (Alike.update journals_at hundeploy hdeploy) hundeploy).keeps

theorem alike_report (o : Origin) (rep : Reporter) (r : AccessRecord) :
    Alike (Holding (At w h i)) (report c o rep r) (report c o rep r) := by
  have hreports (o : Origin) : Reports (Holding (At w h i)) (Entry.SparesHooks h) o :=
    .of_free (tolerates_at O hb).toJournals alike_countAt fun _ _ =>
      spares_hook_call fun _ _ _ => nofun
  exact Alike.report (tolerates_at O hb) (fun _ _ => hreports _) (hreports o) rep r

theorem alike_answer (done : Callback) (r : Option Response) :
    Alike (Holding (At w h i)) (answer c done r) (answer c done r) := by
  refine Alike.reply (tolerates_at O hb) ⟨fun _ _ _ _ => rfl, fun _ _ _ => ?_⟩
    (fun _ => alike_report O hb _) (fun k => ?_) done r
  · exact spares_hook_call fun _ _ _ => nofun
  · exact (keeps_at (fun _ => rfl) (fun _ => rfl) (fun _ => rfl) fun _ => rfl).alike

theorem alike_dispatch (q : Option Request) (r : Option Response) (t : Option Nat) :
    Alike (Holding (At w h i)) (dispatch c q r t) (dispatch c q r t) := by
  have T := tolerates_at O hb
  have hcount : Alike (Holding (At w h i)) countDispatched countDispatched := alike_tally _
  have hmissed : Alike (Holding (At w h i)) countMissed countMissed := alike_tally _
  refine Alike.dispatch T hmissed (fun _ _ _ _ => ?_) hcount (Alike.respond T fun _ _ _ => rfl)
    (fun q r p => ?_) q r t
  · exact (keeps_at (fun _ => rfl) (fun _ => rfl) (fun _ => rfl) fun _ => rfl).alike
  · exact Alike.entrust T q r p (fun _ => rfl) (alike_answer O hb _)

/-- An action that leaves handlers and routes to the gateway keeps every stage. -/
theorem keeps_perform {a : Action} (ha : a.Indirect) : Keeps (At w h i) (perform c a) := by
  have T := tolerates_at O hb
  have same {α : Type} {f : Gateway τ → α × Gateway τ}
      (hs : ∀ g, g.handlers = (f g).2.handlers ∧ g.table = (f g).2.table ∧
        g.journal = (f g).2.journal ∧ (f g).2.own = g.own) : Alike (Holding (At w h i)) f f :=
    (keeps_at (fun g => (hs g).1) (fun g => by rw [(hs g).2.1]) (fun g => (hs g).2.2.1)
      fun g => (hs g).2.2.2).alike
  have hall : Alike (Holding (At w h i)) (undeployAll c) (undeployAll c) :=
    (keeps_undeployAll O).alike
  have hadjust (f : Dispatcher → Dispatcher) : Alike (Holding (At w h i)) (adjust f) (adjust f) :=
    same fun _ => ⟨rfl, rfl, rfl, rfl⟩
  have hstop : Alike (Holding (At w h i)) (stop c) (stop c) :=
    Alike.stop T (fun _ => same fun _ => ⟨rfl, rfl, rfl, rfl⟩) (fun f _ => hadjust f) hall
  have hdeploy (api : Api) := (keeps_deploy O hb api).alike
  have hundeploy (api : String) := (keeps_undeploy (i := i) O api).alike
  refine Alike.keeps ?_
  cases a with
  | advance ns => exact Alike.sure (same fun _ => ⟨rfl, rfl, rfl, rfl⟩)
  | create new => exact Alike.sure (Keeps.alike fun g hg => hg.step rfl fun hi => hi.create ha)
  | move m h' => exact absurd ha id
  | handle t q r done => exact Alike.serve T (fun _ => rfl) (alike_answer O hb done)
  | answer done r => exact alike_answer O hb done r
  | addService => exact Alike.sure (same fun _ => ⟨rfl, rfl, rfl, rfl⟩)
  | addSink s r => exact Alike.sure (same fun _ => ⟨rfl, rfl, rfl, rfl⟩)
  | report rep r => exact alike_report O hb .outside rep r
  | subscribe l => exact Alike.sure (same fun _ => ⟨rfl, rfl, rfl, rfl⟩)
  | unsubscribe id => exact Alike.sure (same fun _ => ⟨rfl, rfl, rfl, rfl⟩)
  | publish e =>
    exact Alike.sure (Alike.publish T fun s => Alike.hear T (fun _ => rfl)
      (keeps_apply O hb e).alike)
  | insertRoute api h' => exact absurd ha id
  | eraseRoute api => exact absurd ha id
  | clearRoutes => exact absurd ha id
  | select path host => exact Alike.sure (Alike.select T path host)
  | start =>
    exact Alike.sure (Alike.start T (same fun _ => ⟨rfl, rfl, rfl, rfl⟩) fun f _ => hadjust f)
  | stop => exact Alike.sure hstop
  | shutDown => exact Alike.sure (Alike.shutDown hstop hall)
  | apply e => exact Alike.sure (keeps_apply O hb e).alike
  | deploy api => exact Alike.sure (hdeploy api)
  | update api => exact Alike.sure (Alike.update journals_at (hundeploy api.id) (hdeploy api))
  | undeploy api => exact Alike.sure (hundeploy api)
  | undeployAll => exact Alike.sure hall
  | dispatch q r t => exact alike_dispatch O hb q r t
  | damage path owner => exact absurd ha id

end
end
end
end Run
end ApiGateway
