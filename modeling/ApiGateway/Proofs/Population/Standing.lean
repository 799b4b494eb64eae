import ApiGateway.Proofs.Route.Keyed

/-!
# Where a handler stands

A handler is built, started, published, taken out and stopped.  `Gateway.standing` sums up how far
one handler is: its state, how often its hooks ran, and how often it is published.

* `Standing h g`    the handler is as it may be while nobody is at work on it;
* `Stage.Is h g`    where it may be found while the gateway is at work.
-/

namespace ApiGateway

variable {σ τ α β : Type}

namespace Entry

/-- The gateway ran the hook of a move of a handler. -/
def isHook (m : Move) (h : HandlerId) : Entry → Bool
  | call .gateway (.hook m' h' _) => m' = m && h' = h
  | _ => false

/-- The entry is not about a hook of a handler. -/
def SparesHooks (h : HandlerId) (e : Entry) : Prop :=
  ∀ m, e.isHook m h = false

end Entry

/-- A state, how often the start hook and the stop hook ran, and how many routes there are. -/
abbrev Tally := LifecycleState × Nat × Nat × Nat

namespace Gateway

/-- How often the hook of a move of a handler was run. -/
def hooks (g : Gateway σ) (m : Move) (h : HandlerId) : Nat :=
  g.journal.countP (·.isHook m h)

/-- How many routes a handler has. -/
def places (g : Gateway σ) (h : HandlerId) : Nat :=
  g.table.routes.entries.countP (·.handler = h)

def standing (g : Gateway σ) (h : HandlerId) : Tally :=
  ((g.handler h).state, g.hooks .start h, g.hooks .stop h, g.places h)

end Gateway

/-- How far the gateway is with a handler. -/
inductive Stage
  /-- Nobody is at work on it. -/
  | resting
  /-- Its start hook is running. -/
  | starting
  /-- It is started and not published, yet or any more. -/
  | held
  /-- It is stopped, and its stop hook has been run or is running. -/
  | stopped
deriving DecidableEq

namespace Stage

/-- The gateway has more to do with the handler. -/
def Transient (i : Stage) : Prop :=
  i = starting ∨ i = held

def tallies : Stage → List Tally
  | resting =>
    [(.created, 0, 0, 0), (.failedToStart, 1, 0, 0), (.started, 1, 0, 1), (.stopped, 1, 1, 0)]
  | starting => [(.created, 1, 0, 0)]
  | held => [(.started, 1, 0, 0)]
  | stopped => [(.stopped, 1, 1, 0)]

end Stage

/-- Of a handler that nobody is at work on: it was never started and has no route, or its start
failed and it has no route, or it is started, has one route and was never stopped, or it is
stopped, has no route, and its stop hook ran once. -/
def Standing (h : HandlerId) (g : Gateway σ) : Prop :=
  g.standing h ∈ Stage.resting.tallies

/-- The handler is at the stage; one that does not exist has no past. -/
structure Stage.Is (h : HandlerId) (g : Gateway σ) (i : Stage) : Prop where
  keyed : g.Keyed
  past : g.handlers.length ≤ h → g.standing h = (.created, 0, 0, 0)
  tally : g.standing h ∈ i.tallies

namespace Stage

variable {h : HandlerId} {g : Gateway σ} {g' : Gateway τ} {i : Stage}

theorem Is.standing (hi : i.Is h g) (ht : ¬ i.Transient) : Standing h g := by
  have hr := hi.tally
  cases i with
  | resting => exact hr
  | starting => exact absurd (.inl rfl) ht
  | held => exact absurd (.inr rfl) ht
  | stopped =>
    rw [tallies, List.mem_singleton] at hr
    unfold Standing
    rw [hr]
    decide

theorem is_fresh (h : HandlerId) (fallback : Responder) (reporter : Option Reporter)
    (timeHeader : Bool) (clock : Int) (own : σ) :
    resting.Is h (Gateway.fresh fallback reporter timeHeader clock own) :=
  ⟨Gateway.keyed_fresh fallback reporter timeHeader clock own, fun _ => rfl, List.mem_cons_self⟩

theorem Is.congr (hi : i.Is h g) (hh : g.handlers = g'.handlers)
    (ht : g.table.routes.entries = g'.table.routes.entries) (hj : ∀ m, g.hooks m h = g'.hooks m h) :
    i.Is h g' := by
  have hhandler : g.handler = g'.handler := by unfold Gateway.handler; rw [hh]
  have hstanding : g.standing h = g'.standing h := by
    unfold Gateway.standing Gateway.places
    rw [hhandler, ht, hj, hj]
  obtain ⟨hkeyed, hpast, htally⟩ := hi
  rw [hh, hstanding] at hpast
  rw [hstanding] at htally
  exact ⟨hkeyed.congr hh.symm ht.symm, hpast, htally⟩

end Stage

namespace Gateway

variable (g : Gateway σ) (h : HandlerId) (m : Move)

theorem hooks_write (e : Entry) :
    (Run.write e g).2.hooks m h = g.hooks m h + (e.isHook m h).toNat := by
  show (e :: g.journal).countP _ = _
  rw [List.countP_cons]
  cases e.isHook m h <;> rfl

theorem hooks_write_spare {e : Entry} (he : e.SparesHooks h) :
    (Run.write e g).2.hooks m h = g.hooks m h := by
  rw [hooks_write, he]
  rfl

end Gateway

namespace Stage

variable {h h' : HandlerId} {g : Gateway σ} {i : Stage}

/-! ### Handlers -/

theorem Is.exists_of_ne (hi : i.Is h g) (hs : g.standing h ≠ (.created, 0, 0, 0)) :
    h < g.handlers.length :=
  Nat.lt_of_not_le fun hlen => hs (hi.past hlen)

theorem Is.setState_other (hi : i.Is h g) (hh : h' ≠ h) (s : LifecycleState) :
    i.Is h (Run.setState h' s g).2 := by
  have hhandler := g.handler_setState_other hh s
  have hstanding : (Run.setState h' s g).2.standing h = g.standing h := by
    show (((Run.setState h' s g).2.handler h).state, _) = ((g.handler h).state, _)
    rw [hhandler]
    rfl
  have hlen : (Run.setState h' s g).2.handlers.length = g.handlers.length :=
    List.length_modify _ _ _
  refine ⟨hi.keyed.setState h' s, ?_, ?_⟩
  · rw [hlen, hstanding]
    exact hi.past
  · rw [hstanding]
    exact hi.tally

theorem standing_setState_self (hlen : h < g.handlers.length) (s : LifecycleState) :
    (Run.setState h s g).2.standing h = (s, (g.standing h).2) := by
  show (((Run.setState h s g).2.handler h).state, (g.standing h).2) = _
  rw [g.handler_setState_self hlen s]

theorem past_setState_self (hlen : h < g.handlers.length) (s : LifecycleState) :
    (Run.setState h s g).2.handlers.length ≤ h →
      (Run.setState h s g).2.standing h = (.created, 0, 0, 0) := by
  rw [show (Run.setState h s g).2.handlers.length = _ from List.length_modify _ _ _]
  exact fun hle => absurd hle (Nat.not_le.mpr hlen)

theorem Is.create (hi : i.Is h g) {new : Handler} (hnew : new.state = .created) :
    i.Is h (Run.create new g).2 := by
  have hlen' : (Run.create new g).2.handlers.length = g.handlers.length + 1 :=
    List.length_append
  rcases Nat.lt_or_ge h g.handlers.length with hlen | hlen
  · have hhandler := g.handler_create hlen new
    have hstanding : (Run.create new g).2.standing h = g.standing h := by
      show (((Run.create new g).2.handler h).state, _) = ((g.handler h).state, _)
      rw [hhandler]
      rfl
    refine ⟨hi.keyed.create new, fun hle => ?_, ?_⟩
    · omega
    · rw [hstanding]
      exact hi.tally
  · have hpast := hi.past hlen
    have hstate : ((Run.create new g).2.handler h).state = .created := by
      show ((g.handlers ++ [new]).getD h default).state = .created
      rw [List.getD_eq_getElem?_getD, List.getElem?_append_right hlen]
      rcases Nat.eq_zero_or_pos (h - g.handlers.length) with h0 | h0
      · rw [h0]
        exact hnew
      · rw [List.getElem?_eq_none h0]
        rfl
    have hstanding : (Run.create new g).2.standing h = g.standing h := by
      rw [hpast]
      show (((Run.create new g).2.handler h).state, (g.standing h).2) = _
      rw [hstate, hpast]
    refine ⟨hi.keyed.create new, fun _ => hstanding.trans hpast, ?_⟩
    rw [hstanding]
    exact hi.tally

/-! ### Hooks -/

theorem standing_write_hook (m : Move) (seen : LifecycleState) :
    (Run.write (.call .gateway (.hook m h seen)) g).2.standing h =
      ((g.standing h).1, (g.standing h).2.1 + (m = .start : Bool).toNat,
        (g.standing h).2.2.1 + (m = .stop : Bool).toNat, (g.standing h).2.2.2) := by
  show ((g.handler h).state, (Run.write _ g).2.hooks .start h, (Run.write _ g).2.hooks .stop h,
    g.places h) = _
  rw [Gateway.hooks_write, Gateway.hooks_write]
  cases m <;> simp [Entry.isHook, Gateway.standing]

theorem is_begin {j : Stage} (hk : g.Keyed) (hlen : h < g.handlers.length) {m : Move}
    {s seen : LifecycleState} {t : Tally} (ht : g.standing h = t)
    (hj : (s, t.2.1 + (m = .start : Bool).toNat, t.2.2.1 + (m = .stop : Bool).toNat, t.2.2.2) ∈
      j.tallies) :
    j.Is h (Run.write (.call .gateway (.hook m h seen)) (Run.setState h s g).2).2 := by
  have hlen' : h < (Run.setState h s g).2.handlers.length :=
    Nat.lt_of_lt_of_eq hlen (List.length_modify _ _ _).symm
  refine ⟨(hk.setState h s).congr rfl rfl, fun hle => absurd hle (Nat.not_le.mpr hlen'), ?_⟩
  rw [standing_write_hook, standing_setState_self hlen, ht]
  exact hj

theorem Is.begin_start (hi : resting.Is h g) (hlen : h < g.handlers.length)
    (hs : (g.handler h).state = .created) (seen : LifecycleState) :
    starting.Is h (Run.write (.call .gateway (.hook .start h seen))
      (Run.setState h .created g).2).2 := by
  have ht : g.standing h = (.created, 0, 0, 0) := by
    have hmem := hi.tally
    have hstate : (g.standing h).1 = .created := hs
    revert hmem hstate
    generalize g.standing h = t
    intro hmem hstate
    simp only [tallies, List.mem_cons, List.not_mem_nil, or_false] at hmem
    rcases hmem with rfl | rfl | rfl | rfl
    · rfl
    · cases hstate
    · cases hstate
    · cases hstate
  exact is_begin hi.keyed hlen ht (by decide)

theorem Is.begin_stop (hi : held.Is h g) (seen : LifecycleState) :
    stopped.Is h (Run.write (.call .gateway (.hook .stop h seen))
      (Run.setState h .stopped g).2).2 := by
  have ht : g.standing h = (.started, 1, 0, 0) := List.mem_singleton.mp hi.tally
  have hlen : h < g.handlers.length := hi.exists_of_ne (by rw [ht]; decide)
  exact is_begin hi.keyed hlen ht (by decide)

theorem Is.settle {j : Stage} {t : Tally} (hi : i.Is h g) (ht : i.tallies = [t])
    (hne : t ≠ (.created, 0, 0, 0)) {s : LifecycleState} (hj : (s, t.2) ∈ j.tallies) :
    j.Is h (Run.setState h s g).2 := by
  have hs : g.standing h = t := by
    have hmem := hi.tally
    rw [ht] at hmem
    exact List.mem_singleton.mp hmem
  have hlen : h < g.handlers.length := hi.exists_of_ne (by rw [hs]; exact hne)
  refine ⟨hi.keyed.setState h s, past_setState_self hlen s, ?_⟩
  rw [standing_setState_self hlen, hs]
  exact hj

/-! ### Routes -/

theorem Is.retable {j : Stage} (hi : i.Is h g) {t : RouteTable}
    (hk : Gateway.Keyed { g with table := t }) {n : Nat}
    (hn : t.routes.entries.countP (·.handler = h) = n)
    (hlen : h < g.handlers.length ∨ n = g.places h)
    (hj : ((g.standing h).1, (g.standing h).2.1, (g.standing h).2.2.1, n) ∈ j.tallies) :
    j.Is h { g with table := t } := by
  have hstanding : ({ g with table := t } : Gateway σ).standing h =
      ((g.standing h).1, (g.standing h).2.1, (g.standing h).2.2.1, n) := by
    rw [← hn]
    rfl
  refine ⟨hk, fun hle => ?_, ?_⟩
  · rcases hlen with hlt | rfl
    · exact absurd hle (Nat.not_le.mpr hlt)
    · rw [hstanding]
      exact hi.past hle
  · rw [hstanding]
    exact hj

theorem Is.reject (hi : i.Is h g) : i.Is h { g with table := g.table.reject } :=
  hi.congr rfl rfl fun _ => rfl

theorem Is.added {j : Stage} (hi : i.Is h g) {api : String}
    (hk : Gateway.Keyed { g with table := g.table.added g.handler api h' })
    (hlen : h < g.handlers.length ∨ h' ≠ h)
    (hj : ((g.standing h).1, (g.standing h).2.1, (g.standing h).2.2.1,
      g.places h + (h' = h : Bool).toNat) ∈ j.tallies) :
    j.Is h { g with table := g.table.added g.handler api h' } := by
  refine hi.retable hk (n := g.places h + (h' = h : Bool).toNat) ?_ ?_ hj
  · show (g.table.routes.entries ++ [_]).countP _ = _
    rw [List.countP_append, List.countP_singleton]
    by_cases hh : h' = h <;> simp [hh, Gateway.places]
  · rcases hlen with hlt | hne
    · exact .inl hlt
    · exact .inr (by simp [hne])

theorem Is.insert_other (hi : i.Is h g) (api : String) (hh : h' ≠ h) :
    i.Is h (Run.insertRoute api (some h') g).2 := by
  have hk := hi.keyed.insertRoute api (some h')
  rw [Run.insertRoute_eq] at hk ⊢
  rcases g.table.insert_cases g.handler api h' with ⟨r, -, heq⟩ | ⟨-, heq⟩
  · rw [heq]
    exact hi.reject
  · rw [heq] at hk ⊢
    refine hi.added hk (.inr hh) ?_
    rw [show g.places h + (h' = h : Bool).toNat = g.places h by simp [hh]]
    exact hi.tally

/-- A handler that is held is published, or turned away and still held. -/
theorem Is.insert_self (hi : held.Is h g) (api : String) :
    match (Run.insertRoute api (some h) g).1 with
    | some _ => held.Is h (Run.insertRoute api (some h) g).2
    | none => resting.Is h (Run.insertRoute api (some h) g).2 := by
  show match (g.table.insert g.handler api (some h)).1 with
    | some _ => held.Is h { g with table := (g.table.insert g.handler api (some h)).2 }
    | none => resting.Is h { g with table := (g.table.insert g.handler api (some h)).2 }
  have ht : g.standing h = (.started, 1, 0, 0) := List.mem_singleton.mp hi.tally
  have hlen : h < g.handlers.length := hi.exists_of_ne (by rw [ht]; decide)
  have hk := hi.keyed.insertRoute api (some h)
  rw [Run.insertRoute_eq] at hk
  rcases g.table.insert_cases g.handler api h with ⟨r, -, heq⟩ | ⟨-, heq⟩
  · rw [heq]
    exact hi.reject
  · rw [heq] at hk ⊢
    refine hi.added hk (.inl hlen) ?_
    have hplaces : g.places h = 0 := congrArg (·.2.2.2) ht
    rw [ht, hplaces]
    simp [tallies]

/-- A handler with a route is one that nobody is at work on. -/
theorem Is.published (hi : i.Is h g) (hplaces : g.places h ≠ 0) :
    i = resting ∧ g.standing h = (.started, 1, 0, 1) := by
  have hmem := hi.tally
  have hp : (g.standing h).2.2.2 ≠ 0 := hplaces
  generalize g.standing h = t at hmem hp
  cases i with
  | resting =>
    simp only [tallies, List.mem_cons, List.not_mem_nil, or_false] at hmem
    rcases hmem with rfl | rfl | rfl | rfl
    · exact absurd rfl hp
    · exact absurd rfl hp
    · exact ⟨rfl, rfl⟩
    · exact absurd rfl hp
  | starting =>
    rw [List.mem_singleton.mp hmem] at hp
    exact absurd rfl hp
  | held =>
    rw [List.mem_singleton.mp hmem] at hp
    exact absurd rfl hp
  | stopped =>
    rw [List.mem_singleton.mp hmem] at hp
    exact absurd rfl hp

theorem Is.published_places (hi : i.Is h g) (hplaces : g.places h ≠ 0) : g.places h = 1 :=
  congrArg (·.2.2.2) (hi.published hplaces).2

theorem Is.clear (hi : i.Is h g) :
    (g.places h = 0 ∧ i.Is h (Run.clearRoutes g).2) ∨
      (g.places h = 1 ∧ i = resting ∧ held.Is h (Run.clearRoutes g).2) := by
  have hret {j : Stage} (hlen : h < g.handlers.length ∨ 0 = g.places h)
      (hj : ((g.standing h).1, (g.standing h).2.1, (g.standing h).2.2.1, 0) ∈ j.tallies) :
      j.Is h (Run.clearRoutes g).2 :=
    hi.retable (hi.keyed.filter _ (List.nil_sublist _)) rfl hlen hj
  by_cases hplaces : g.places h = 0
  · refine .inl ⟨hplaces, hret (.inr hplaces.symm) ?_⟩
    have hmem := hi.tally
    rw [← show g.places h = 0 from hplaces]
    exact hmem
  · obtain ⟨hrest, ht⟩ := hi.published hplaces
    have hlen : h < g.handlers.length := hi.exists_of_ne (by rw [ht]; decide)
    refine .inr ⟨hi.published_places hplaces, hrest, hret (.inl hlen) ?_⟩
    rw [ht]
    decide

theorem Is.remove (hi : i.Is h g) {e : Route} (he : e ∈ g.table.routes.entries) (api : String) :
    if e.handler = h then i = resting ∧ held.Is h { g with table := g.table.removed api e.path }
    else i.Is h { g with table := g.table.removed api e.path } := by
  -- only the one route on its path goes, so the handler loses no other
  have hcount := Routes.countP_vacate hi.keyed.paths he (·.handler = h)
  have hret {j : Stage} {n : Nat}
      (hn : (g.table.removed api e.path).routes.entries.countP (·.handler = h) = n)
      (hlen : h < g.handlers.length ∨ n = g.places h)
      (hj : ((g.standing h).1, (g.standing h).2.1, (g.standing h).2.2.1, n) ∈ j.tallies) :
      j.Is h { g with table := g.table.removed api e.path } :=
    hi.retable (hi.keyed.filter _ List.filter_sublist) hn hlen hj
  by_cases hh : e.handler = h
  · rw [if_pos hh]
    have hplaces : g.places h ≠ 0 :=
      Nat.pos_iff_ne_zero.mp (List.countP_pos_iff.mpr ⟨e, he, by simpa using hh⟩)
    obtain ⟨hrest, ht⟩ := hi.published hplaces
    have hlen : h < g.handlers.length := hi.exists_of_ne (by rw [ht]; decide)
    have hone := hi.published_places hplaces
    refine ⟨hrest, hret (n := 0) ?_ (.inl hlen) (by rw [ht]; decide)⟩
    have hone' : g.table.routes.entries.countP (·.handler = h) = 1 := hone
    rw [hone', hh, decide_eq_true rfl] at hcount
    exact Nat.succ.inj hcount
  · rw [if_neg hh]
    refine hret (n := g.places h) ?_ (.inr rfl) hi.tally
    rw [decide_eq_false hh] at hcount
    exact hcount

end Stage
end ApiGateway
