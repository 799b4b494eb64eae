import ApiGateway.Proofs.Population.Standing

/-!
# What conduct can do to the state of a handler

The state of a handler changes in its own moves alone, and a move that changes it runs a hook.  So
conduct in the course of which no hook of a handler is run finds the handler in one state from
beginning to end.

* `Gateway.runs`              how often hooks of a handler were run;
* `Roused`, `Stays`           they were run more than `k` times; or else the handler is in a state;
* `keeps_perform_of_journal`, `keeps_perform_of_moves`   what tells only of the journal, or of the
                              handlers too, is kept by every operation if its steps keep it;
* `enduring_stays`            no operation changes a handler's state without running a hook of it;
* `runs_le_of_moment`         at no moment were more hooks run than there are at the end;
* `stays_of_undisturbed`      the state throughout undisturbed conduct.
-/

namespace ApiGateway

variable {σ τ α : Type}

namespace Gateway

/-- How often hooks of a handler were run. -/
def runs (g : Gateway σ) (h : HandlerId) : Nat :=
  g.hooks .start h + g.hooks .stop h

variable (g : Gateway σ) (h : HandlerId)

theorem runs_le_write (e : Entry) : g.runs h ≤ (Run.write e g).2.runs h := by
  unfold runs
  rw [hooks_write, hooks_write]
  omega

theorem runs_write_hook (m : Move) (seen : LifecycleState) :
    (Run.write (.call .gateway (.hook m h seen)) g).2.runs h = g.runs h + 1 := by
  unfold runs
  rw [hooks_write, hooks_write]
  cases m <;> simp [Entry.isHook] <;> omega

end Gateway

/-! ### Predicates of the journal and the handlers -/

/-- The predicate looks at the handlers and the journal alone. -/
def OfHandlers (P : Gateway Unit → Prop) : Prop :=
  ∀ g g', g.handlers = g'.handlers → g.journal = g'.journal → P g → P g'

namespace Run

/-- What looks at the journal, and at what the collaborators keep, is kept by every operation if no
entry can change it. -/
theorem keeps_perform_of_journal {P : Gateway τ → Prop} {c : Collaborators τ}
    (hP : ∀ g g', g.own = g'.own → g.journal = g'.journal → P g → P g')
    (hwrite : ∀ e, Keeps P (write e)) (hc : c.Keep P) (a : Action) : Keeps P (perform c a) := by
  have hrobust : Robust (Holding P) :=
    { toAtoms := .of_same fun g g' hs => hP g g' hs.own hs.journal
      toTrafficless := .of_same fun g g' hs => hP g g' hs.own hs.journal }
  exact (hrobust.perform (hc.tolerates (fun _ => trivial) fun e _ => hwrite e) a).keeps

section
variable {P : Gateway Unit → Prop} {O : τ → Prop} {c : Collaborators τ}

/-- Such a predicate is kept by every operation if entries, new handlers and the moves of handlers
keep it. -/
theorem keeps_perform_of_moves (hP : OfHandlers P) (hwrite : ∀ e, Keeps P (write e))
    (hcreate : ∀ new, Keeps P (create new)) (hc : c.Keep (Both P O))
    (hmove : ∀ m h, Keeps (Both P O) (move c m h)) (a : Action) :
    Keeps (Both P O) (perform c a) := by
  have T : Tolerates (Holding (Both P O)) (fun _ => True) c c :=
    hc.tolerates (fun _ => trivial) fun e _ => (hwrite e).write
  have J := T.toJournals
  have same {α : Type} {f : Gateway τ → α × Gateway τ} (hf : ∀ g, g.handlers = (f g).2.handlers ∧
      g.journal = (f g).2.journal ∧ g.own = (f g).2.own) : Alike (Holding (Both P O)) f f :=
    Keeps.alike fun g hg =>
      ⟨hP g.shown (f g).2.shown (hf g).1 (hf g).2.1 hg.1, (hf g).2.2 ▸ hg.2⟩
  have htally f : Alike (Holding (Both P O)) (tally f) (tally f) :=
    same fun _ => ⟨rfl, rfl, rfl⟩
  have hadjust f : Alike (Holding (Both P O)) (adjust f) (adjust f) :=
    same fun _ => ⟨rfl, rfl, rfl⟩
  have B : Trafficless (Holding (Both P O)) :=
    { fire := fun _ => same fun _ => ⟨rfl, rfl, rfl⟩
      missed := htally _
      dispatched := htally _
      wrap := fun _ _ _ _ => same fun _ => ⟨rfl, rfl, rfl⟩
      countAt := fun _ _ => same fun _ => ⟨rfl, rfl, rfl⟩ }
  have hretire (api : String) (h : HandlerId) :
      Alike (Holding (Both P O)) (retire c api h) (retire c api h) :=
    Alike.retire J (fun f _ => htally f) (hmove .stop h).alike
  have hpublish (api : String) (h : HandlerId) :=
    Alike.publishHandler J (fun f _ => htally f) (same fun _ => ⟨rfl, rfl, rfl⟩) (hretire api h)
  have hdeploy (api : Api) : Alike (Holding (Both P O)) (deploy c api) (deploy c api) :=
    Alike.deploy J (fun f _ => htally f) (T.buildHandler trivial)
      (fun h => (hmove .start h).alike) (hpublish api.id)
  have hundeploy (api : String) : Alike (Holding (Both P O)) (undeploy c api) (undeploy c api) :=
    Alike.undeploy J (fun f _ => htally f) (same fun _ => ⟨rfl, rfl, rfl⟩) (hretire api)
  have hupdate (api : Api) := Alike.update J (hundeploy api.id) (hdeploy api)
  have happly (e : ApiEvent) := Alike.apply (hdeploy e.api) (hupdate e.api) (hundeploy e.api.id)
  have hall := Alike.undeployAll J (same fun _ => ⟨rfl, rfl, rfl⟩)
    (Alike.retireAll (fun f _ => htally f) hretire)
  have hstop := Alike.stop T (fun _ => same fun _ => ⟨rfl, rfl, rfl⟩) (fun f _ => hadjust f) hall
  refine Alike.keeps ?_
  cases a with
  | advance ns => exact Alike.sure (same fun _ => ⟨rfl, rfl, rfl⟩)
  | create new => exact Alike.sure (Keeps.alike fun g hg => ⟨hcreate new g.shown hg.1, hg.2⟩)
  | move m h => exact Alike.sure (hmove m h).alike
  | handle t q r done => exact Alike.serve T trivial (B.answer T .all done)
  | answer done r => exact B.answer T .all done r
  | addService => exact Alike.sure (same fun _ => ⟨rfl, rfl, rfl⟩)
  | addSink s r => exact Alike.sure (same fun _ => ⟨rfl, rfl, rfl⟩)
  | report rep r => exact B.report T .all .outside rep r
  | subscribe l => exact Alike.sure (same fun _ => ⟨rfl, rfl, rfl⟩)
  | unsubscribe id => exact Alike.sure (same fun _ => ⟨rfl, rfl, rfl⟩)
  | publish e => exact Alike.sure (Alike.publish T fun _ => Alike.hear T trivial (happly e))
  | insertRoute api h => exact Alike.sure (same fun _ => ⟨rfl, rfl, rfl⟩)
  | eraseRoute api => exact Alike.sure (Alike.eraseRoute J (same fun _ => ⟨rfl, rfl, rfl⟩))
  | clearRoutes => exact Alike.sure (same fun _ => ⟨rfl, rfl, rfl⟩)
  | select path host => exact Alike.sure (Alike.select T path host)
  | start =>
    exact Alike.sure (Alike.start T (same fun _ => ⟨rfl, rfl, rfl⟩) fun f _ => hadjust f)
  | stop => exact Alike.sure hstop
  | shutDown => exact Alike.sure (Alike.shutDown hstop hall)
  | apply e => exact Alike.sure (happly e)
  | deploy api => exact Alike.sure (hdeploy api)
  | update api => exact Alike.sure (hupdate api)
  | undeploy api => exact Alike.sure (hundeploy api)
  | undeployAll => exact Alike.sure hall
  | dispatch q r t => exact B.dispatch T .all q r t
  | damage path owner => exact Alike.sure (same fun _ => ⟨rfl, rfl, rfl⟩)

end
end Run

/-! ### The state of one handler -/

/-- Hooks of the handler were run more than `k` times. -/
def Roused (h : HandlerId) (k : Nat) (g : Gateway σ) : Prop :=
  k < g.runs h

/-- The handler is in the state that it had when its hooks had been run `k` times, unless one was
run since. -/
def Stays (h : HandlerId) (k : Nat) (s : LifecycleState) (g : Gateway σ) : Prop :=
  Roused h k g ∨ g.runs h = k ∧ h < g.handlers.length ∧ (g.handler h).state = s

namespace Run

section
variable {h : HandlerId} {k : Nat} {s : LifecycleState}

theorem keeps_roused_write (e : Entry) : Keeps (Roused (σ := σ) h k) (write e) :=
  fun g hg => Nat.lt_of_lt_of_le hg (g.runs_le_write h e)

theorem keeps_stays_write (e : Entry) : Keeps (Stays (σ := σ) h k s) (write e) := by
  rintro g (hg | ⟨hk, hlen, hs⟩)
  · exact .inl (keeps_roused_write e g hg)
  · rcases Nat.lt_or_eq_of_le (g.runs_le_write h e) with hlt | heq
    · exact .inl (hk ▸ hlt)
    · exact .inr ⟨heq.symm.trans hk, hlen, hs⟩

theorem keeps_stays_create (new : Handler) : Keeps (Stays (σ := σ) h k s) (create new) := by
  rintro g (hg | ⟨hk, hlen, hs⟩)
  · exact .inl hg
  · have hlen' : (create new g).2.handlers.length = g.handlers.length + 1 := List.length_append
    refine .inr ⟨hk, Nat.lt_of_lt_of_eq (Nat.lt_succ_of_lt hlen) hlen'.symm, ?_⟩
    rw [g.handler_create hlen]
    exact hs

theorem keeps_stays_setState {h' : HandlerId} (hh : h' ≠ h) (s' : LifecycleState) :
    Keeps (Stays (σ := σ) h k s) (setState h' s') := by
  rintro g (hg | ⟨hk, hlen, hs⟩)
  · exact .inl hg
  · refine .inr ⟨hk, Nat.lt_of_lt_of_eq hlen (List.length_modify _ _ _).symm, ?_⟩
    rw [g.handler_setState_other hh]
    exact hs

section
variable {O : τ → Prop} {c : Collaborators τ}

theorem keeps_roused_perform (hc : c.Keep (Both (Roused h k) O)) (a : Action) :
    Keeps (Both (Roused h k) O) (perform c a) := by
  refine keeps_perform_of_journal (fun g g' ho hj hg => ?_)
    (fun e => (keeps_roused_write e).write) hc a
  have hroused : Roused h k g := hg.1
  unfold Roused Gateway.runs Gateway.hooks at hroused
  rw [hj] at hroused
  exact ⟨hroused, ho ▸ hg.2⟩

/-- A move of the handler itself runs a hook, or changes nothing. -/
theorem keeps_stays_move (hroused : c.Keep (Both (Roused h k) O))
    (hstays : c.Keep (Both (Stays h k s) O)) (m : Move) (h' : HandlerId) :
    Keeps (Both (Stays h k s) O) (move c m h') := by
  by_cases hh : h' = h
  · subst hh
    intro g hg
    rw [move_eq]
    cases m.hookState? (g.handler h').state with
    | none => exact hg
    | some seen =>
      have hcount : k ≤ g.runs h' := by
        rcases hg.1 with hlt | ⟨heq, -⟩
        · exact Nat.le_of_lt hlt
        · exact Nat.le_of_eq heq.symm
      have hbegun : Both (Roused h' k) O
          (write (.call .gateway (.hook m h' seen)) (setState h' seen g).2).2 := by
        refine ⟨?_, hg.2⟩
        show k < (write _ (setState h' seen g).2).2.runs h'
        rw [Gateway.runs_write_hook]
        exact Nat.lt_succ_of_le hcount
      -- with the entry of the hook the handler is roused, whatever was done to its state before
      have T := hroused.tolerates (fun _ => trivial)
        fun e (_ : True) => (keeps_roused_write e).write
      have hend := (Alike.runHook T.toJournals (T.call (.hook m h' seen))).keeps _ hbegun
      exact ⟨.inl hend.1, hend.2⟩
  · have T := hstays.tolerates (fun _ => trivial) fun e (_ : True) => (keeps_stays_write e).write
    have hset (s' : LifecycleState) : Keeps (Both (Stays h k s) O) (setState h' s') :=
      fun g hg => ⟨keeps_stays_setState hh s' g.shown hg.1, hg.2⟩
    exact (Alike.move T.toJournals m h' (fun _ => T.call _) (fun _ => trivial)
      fun s' => (hset s').alike).keeps

end

/-- That the handler stays in a state, and that a hook of it was run. -/
def stayFamily (h : HandlerId) (k : Nat) (s : LifecycleState) : Bool → Gateway Unit → Prop
  | true => Stays h k s
  | false => Roused h k

/-- No operation changes a handler's state without running a hook of it. -/
theorem enduring_stays (h : HandlerId) (k : Nat) (s : LifecycleState) :
    Enduring (stayFamily h k s) where
  note i fields := by
    cases i with
    | true => exact keeps_stays_write _
    | false => exact keeps_roused_write _
  perform O c hc a i := by
    cases i with
    | true =>
      have hlook : OfHandlers (Stays h k s) := by
        intro g g' hh hj hg
        unfold Stays Roused Gateway.runs Gateway.hooks Gateway.handler at hg ⊢
        rwa [← hj, ← hh]
      exact keeps_perform_of_moves hlook keeps_stays_write keeps_stays_create (hc true)
        (keeps_stays_move (hc false) (hc true)) a
    | false => exact keeps_roused_perform (hc false) a

end

/-! ### Moments -/

section
variable {h : HandlerId}

/-- At no moment so far had more hooks of the handler been run. -/
def Ahead (h : HandlerId) (g : Gateway (Watched σ)) : Prop :=
  ∀ m ∈ g.own.moments, m.gateway.runs h ≤ g.runs h

theorem Ahead.sighted {g : Gateway (Watched σ)} (hg : Ahead h g) : Ahead h g.sighted := by
  intro m hm
  rcases List.mem_cons.mp hm with rfl | hm
  · exact Nat.le_refl _
  · exact hg m hm

theorem Ahead.handed {g : Gateway (Watched σ)} (hg : Ahead h g)
    (r : Except Fault (Option HandlerId)) : Ahead h (Behaviours.handed g r) := by
  rcases r with f | _ | h'
  · exact hg
  · exact hg
  · exact Ahead.sighted (g := g.entered (.handing h')) hg

theorem keeps_ahead_write (e : Entry) : Keeps (Ahead (σ := σ) h) (write e) :=
  fun g hg m hm => Nat.le_trans (hg m hm) (g.runs_le_write h e)

theorem keeps_ahead_perform {c : Collaborators (Watched σ)} (hc : c.Keep (Ahead h)) (a : Action) :
    Keeps (Ahead h) (perform c a) := by
  refine keeps_perform_of_journal (fun g g' ho hj hg => ?_) keeps_ahead_write hc a
  unfold Ahead Gateway.runs Gateway.hooks at hg ⊢
  rwa [← ho, ← hj]

theorem keeps_ahead_conduct {c : Collaborators (Watched σ)} (hc : c.Keep (Ahead h))
    (u : Behaviour σ α) : Keeps (Ahead h) (u.watched.run c) :=
  u.run_watched_keeps (P := Ahead h) (fun _ => Ahead.sighted) (fun _ _ hg => hg)
    (fun fields => keeps_ahead_write (.note fields))
    (fun a _ g hg => keeps_ahead_perform hc a (g.entered (.asked a)) hg)
    (Behaviour.asks_of_forall (fun _ => trivial) u)

theorem within_ahead (b : Behaviours σ) (n : Nat) : (b.watched.within n).Keep (Ahead h) := by
  induction n with
  | zero => exact .idle _
  | succ n ih =>
    refine ⟨fun api g hg => ?_, fun inv g hg => ?_⟩
    · have hend := keeps_ahead_conduct ih (b.build api) (g.entered (.building api)) hg
      show Ahead h ((b.watched.build api).run (b.watched.within n) g).2
      rw [Behaviours.run_watched_build]
      exact hend.handed _
    · have hend := keeps_ahead_conduct ih (b.call inv) (g.entered (.called inv)) hg
      show Ahead h ((b.watched.call inv).run (b.watched.within n) g).2
      rw [Behaviours.run_watched_call]
      exact hend

/-- At no moment of a run had more hooks been run than have been at its end. -/
theorem runs_le_of_moment (b : Behaviours σ) (n : Nat) (u : Behaviour σ α) (g : Gateway σ)
    {m : Moment σ} (hm : m ∈ b.moments n u g) :
    m.gateway.runs h ≤ (u.run (b.within n) g).2.runs h := by
  rw [run_watched]
  exact keeps_ahead_conduct (within_ahead b n) u g.watched
    (fun _ hm => absurd hm List.not_mem_nil) m hm

/-- Conduct in the course of which no hook of a handler is run finds the handler in one state. -/
theorem stays_of_undisturbed (b : Behaviours σ) (n : Nat) (u : Behaviour σ α) {g : Gateway σ}
    (hlen : h < g.handlers.length) (hruns : (u.run (b.within n) g).2.runs h = g.runs h) :
    h < (u.run (b.within n) g).2.handlers.length ∧
      ((u.run (b.within n) g).2.handler h).state = (g.handler h).state ∧
      ∀ m ∈ b.moments n u g, (m.gateway.handler h).state = (g.handler h).state := by
  have E := enduring_stays h (g.runs h) (g.handler h).state
  have hbegin : stayFamily h (g.runs h) (g.handler h).state true g.shown := .inr ⟨rfl, hlen, rfl⟩
  have hend : Stays h (g.runs h) (g.handler h).state (u.run (b.within n) g).2 :=
    E.run b n u hbegin
  rcases hend with hroused | ⟨-, hlen', hstate⟩
  · exact absurd hruns (Nat.ne_of_gt hroused)
  refine ⟨hlen', hstate, fun m hm => ?_⟩
  have hnot : ¬ Roused h (g.runs h) m.gateway :=
    Nat.not_lt.mpr (hruns ▸ runs_le_of_moment b n u g hm)
  obtain ⟨i, hi⟩ := E.moments b n u hbegin m hm
  cases i with
  | true => exact (Or.resolve_left hi hnot).2.2
  | false => exact absurd hi hnot

end
end Run
end ApiGateway
