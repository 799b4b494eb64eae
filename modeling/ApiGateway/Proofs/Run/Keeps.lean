import ApiGateway.Proofs.Run.Moments

/-!
# What runs keep

An invariant of the gateway is kept by every operation if every call of a collaborator keeps it, and
collaborators do no more than ask for operations.  So an invariant is proved of one operation
at a time, and holds at every moment of every run.

Operations are not always short of surprises: between two calls of collaborators an invariant may
be broken, and the collaborators that are called then must be known to leave what is broken as it
is.  That is why an invariant comes as a family: `Enduring P` says that an operation keeps each
member of `P` if every call of a collaborator keeps each member.

* `Yields P Q x`, `Leads P Q x`, `Keeps P x`   what holds after the run `x` if `P` holds before;
* `Behaviour.run_keeps`, `Behaviour.run_watched_keeps`   conduct keeps what its requests keep;
* `turn_ends`, `Keeps.deliver`   a delivery, one subscription at a time;
* `Inert.of_same`, `Unrouted.of_same`, `Atoms.of_same`   a predicate that looks at some parts of the
  gateway alone survives the changes of the others;
* `Enduring.within`         the collaborators keep an enduring family, however deep calls nest;
* `Enduring.moments`        some member of the family holds at every moment of a run.
-/

namespace ApiGateway

variable {σ τ α β : Type}

namespace Run

/-- From a gateway with the first property the run gives an answer and leaves a gateway with the
second, which may speak of the answer. -/
def Yields (P : Gateway σ → Prop) (Q : α → Gateway σ → Prop) (x : Run σ α) : Prop :=
  ∀ g, P g → Q (x g).1 (x g).2

/-- From a gateway with the first property the run leads to one with the second. -/
def Leads (P Q : Gateway σ → Prop) (x : Run σ α) : Prop :=
  Yields P (fun _ => Q) x

/-- The run keeps the predicate. -/
def Keeps (P : Gateway σ → Prop) (x : Run σ α) : Prop :=
  Leads P P x

/-- A gateway with a property, and the same gateway. -/
def Holding (P : Gateway σ → Prop) (g g' : Gateway σ) : Prop :=
  g = g' ∧ P g

theorem apart_holding (P : Gateway σ → Prop) : Apart (Holding P) := by
  rintro g g' ⟨rfl, -⟩
  exact ⟨g.own, rfl⟩

section
variable {P : Gateway σ → Prop}

theorem Keeps.alike {x : Run σ α} (h : Keeps P x) : Alike (Holding P) x x := by
  rintro g g' ⟨rfl, hg⟩
  exact ⟨rfl, rfl, h g hg⟩

theorem Alike.keeps {x : Run σ α} (h : Alike (Holding P) x x) : Keeps P x :=
  fun g hg => (h g g ⟨rfl, hg⟩).2.2

theorem Yields.bind {Q : α → Gateway σ → Prop} {R : β → Gateway σ → Prop} {x : Run σ α}
    {f : α → Run σ β} (hx : Yields P Q x) (hf : ∀ a, Yields (Q a) R (f a)) : Yields P R (x >>= f) :=
  fun g hg => hf _ _ (hx g hg)

theorem Leads.bind {Q R : Gateway σ → Prop} {x : Run σ α} {f : α → Run σ β} (hx : Leads P Q x)
    (hf : ∀ a, Leads Q R (f a)) : Leads P R (x >>= f) :=
  fun g hg => hf _ _ (hx g hg)

theorem Keeps.bind {x : Run σ α} {f : α → Run σ β} (hx : Keeps P x) (hf : ∀ a, Keeps P (f a)) :
    Keeps P (x >>= f) :=
  fun g hg => hf _ _ (hx g hg)

/-- A property that is given up and restored. -/
theorem Keeps.bind_of_yields {Q : α → Gateway σ → Prop} {x : Run σ α} {f : α → Run σ β}
    (hx : Yields P Q x) (hf : ∀ a, Leads (Q a) P (f a)) : Keeps P (x >>= f) :=
  Yields.bind hx hf

theorem Keeps.sure {x : Run σ α} (hx : Keeps P x) : Keeps P (Run.sure x) :=
  fun g hg => hx g hg

theorem Alike.and {Q : Gateway σ → Prop} {x : Run σ α} (hp : Alike (Holding P) x x)
    (hq : Alike (Holding Q) x x) : Alike (Holding fun g => P g ∧ Q g) x x :=
  Keeps.alike fun g hg => ⟨hp.keeps g hg.1, hq.keeps g hg.2⟩

theorem journals_holding {free : Entry → Prop} (hnotice : ∀ n, free (.notice n))
    (hwrite : ∀ e, free e → Keeps P (write e)) : Journals (Holding P) free :=
  ⟨apart_holding P, fun e he => (hwrite e he).alike, hnotice⟩

end
end Run

/-- Every call of a collaborator keeps the predicate. -/
structure Collaborators.Keep (c : Collaborators σ) (P : Gateway σ → Prop) : Prop where
  build : ∀ api, Run.Keeps P (c.build api)
  call : ∀ i, Run.Keeps P (c.call i)

theorem Collaborators.Keep.idle (P : Gateway σ → Prop) : (Collaborators.idle (σ := σ)).Keep P :=
  ⟨fun _ _ h => h, fun _ _ h => h⟩

theorem Collaborators.Keep.tolerates {c : Collaborators σ} {P : Gateway σ → Prop}
    (hc : c.Keep P) {free : Entry → Prop} (hnotice : ∀ n, free (.notice n))
    (hwrite : ∀ e, free e → Run.Keeps P (Run.write e)) :
    Run.Tolerates (Run.Holding P) free c c :=
  ⟨Run.journals_holding hnotice hwrite, fun api => (hc.build api).alike,
    fun i => (hc.call i).alike, rfl⟩

namespace Behaviour

/-- All that the conduct may ask for has the property. -/
def Asks (p : Action → Prop) : Behaviour σ α → Prop
  | give _ => True
  | fail _ => True
  | look next => ∀ g, (next g).Asks p
  | keep _ next => next.Asks p
  | note _ next => next.Asks p
  | ask a next => p a ∧ ∀ r, (next r).Asks p

theorem asks_of_forall {p : Action → Prop} (hp : ∀ a, p a) (b : Behaviour σ α) : b.Asks p := by
  induction b with
  | give a => exact trivial
  | fail e => exact trivial
  | look next ih => exact ih
  | keep own next ih => exact ih
  | note fields next ih => exact ih
  | ask a next ih => exact ⟨hp a, ih⟩

theorem Asks.mono {p q : Action → Prop} (hpq : ∀ a, p a → q a) {b : Behaviour σ α}
    (hb : b.Asks p) : b.Asks q := by
  induction b with
  | give a => exact trivial
  | fail e => exact trivial
  | look next ih => exact fun g => ih g (hb g)
  | keep own next ih => exact ih hb
  | note fields next ih => exact ih hb
  | ask a next ih => exact ⟨hpq a hb.1, fun r => ih r (hb.2 r)⟩

open Run in
theorem run_keeps {p : Action → Prop} {P : Gateway σ → Prop} {c : Collaborators σ}
    (hown : ∀ g o, P g → P (g.withOwn o)) (hnote : ∀ fields, Keeps P (write (.note fields)))
    (hask : ∀ a, p a → Keeps P (perform c a)) (b : Behaviour σ α) (hb : b.Asks p) :
    Keeps P (b.run c) := by
  induction b with
  | give a => exact fun g hg => hg
  | fail e => exact fun g hg => hg
  | look next ih => exact fun g hg => ih g (hb g) g hg
  | keep own next ih => exact fun g hg => ih hb _ (hown g own hg)
  | note fields next ih => exact (hnote fields).bind fun _ => ih hb
  | ask a next ih => exact (hask a hb.1).bind fun r => ih r (hb.2 r)

open Run in
/-- Watched conduct: each request lies between the beginning and the end of its frame. -/
theorem run_watched_keeps {p : Action → Prop} {P : Gateway (Watched σ) → Prop}
    {c : Collaborators (Watched σ)} (hsight : ∀ g, P g → P g.sighted)
    (hown : ∀ (g : Gateway (Watched σ)) o, P g → P (g.withOwn { g.own with own := o }))
    (hnote : ∀ fields, Keeps P (write (.note fields)))
    (hask : ∀ a, p a → ∀ g, P g → P (perform c a (g.entered (.asked a))).2.left)
    (b : Behaviour σ α) (hb : b.Asks p) : Keeps P (b.watched.run c) := by
  induction b with
  | give a => exact fun g hg => hsight g hg
  | fail e => exact fun g hg => hsight g hg
  | look next ih => exact fun g hg => ih g.bare (hb g.bare) g hg
  | keep own next ih => exact fun g hg => ih hb _ (hown g own hg)
  | note fields next ih => exact (hnote fields).bind fun _ => ih hb
  | ask a next ih =>
    intro g hg
    rw [run_watched_ask]
    exact ih _ (hb.2 _) _ (hask a hb.1 _ (hsight g hg))

end Behaviour

/-- The conduct of all collaborators asks for no other actions. -/
structure Behaviours.Asks (b : Behaviours σ) (p : Action → Prop) : Prop where
  build : ∀ api, (b.build api).Asks p
  call : ∀ i, (b.call i).Asks p

theorem Behaviours.Asks.mono {p q : Action → Prop} (hpq : ∀ a, p a → q a) {b : Behaviours σ}
    (hb : b.Asks p) : b.Asks q :=
  ⟨fun api => (hb.build api).mono hpq, fun i => (hb.call i).mono hpq⟩

/-! ### Deliveries, one turn at a time -/

namespace Run

/-- The turn of one subscription in a delivery. -/
def turn (c : Collaborators σ) (e : ApiEvent) (s : Subscription) : Run σ Unit := do
  if (← get).bus.isActive s.id then
    match ← hear c e s with
    | .ok () => pure ()
    | .error f => notify (.listenerFailed s.id e f)

section
variable {c : Collaborators σ} {e : ApiEvent} {s : Subscription}

theorem deliver_cons (rest : List Subscription) (g : Gateway σ) :
    deliver c e (s :: rest) g = deliver c e rest (turn c e s g).2 := by
  have hturn : turn c e s g = (if g.bus.isActive s.id then (hear c e s >>= fun
      | .ok () => pure ()
      | .error f => notify (.listenerFailed s.id e f)) else pure () : Run σ Unit) g := rfl
  have hdeliver : deliver c e (s :: rest) g = (if g.bus.isActive s.id then (hear c e s >>= fun
      | .ok () => deliver c e rest
      | .error f => do notify (.listenerFailed s.id e f); deliver c e rest)
      else deliver c e rest : Run σ Unit) g := rfl
  rw [hturn, hdeliver]
  by_cases h : g.bus.isActive s.id
  · rw [if_pos h, if_pos h, bind_apply, bind_apply]
    cases (hear c e s g).1 <;> rfl
  · rw [if_neg h, if_neg h]
    rfl

/-- After a turn there is what the listener left behind, or what was there before. -/
theorem turn_ends {Q : Gateway σ → Prop} {g : Gateway σ} (hnotice : ∀ n, Keeps Q (notify n))
    (hhear : g.bus.isActive s.id = true → Q (hear c e s g).2)
    (hgone : g.bus.isActive s.id = false → Q g) : Q (turn c e s g).2 := by
  show Q ((if g.bus.isActive s.id then (hear c e s >>= fun
      | .ok () => pure ()
      | .error f => notify (.listenerFailed s.id e f)) else pure () : Run σ Unit) g).2
  cases hactive : g.bus.isActive s.id with
  | false => exact hgone hactive
  | true =>
    have hq := hhear hactive
    rw [if_pos rfl, bind_apply]
    cases (hear c e s g).1 with
    | ok u => exact hq
    | error f => exact hnotice _ _ hq

/-- A delivery keeps what each turn keeps. -/
theorem Keeps.deliver {P : Gateway σ → Prop} {l : List Subscription}
    (hturn : ∀ s ∈ l, Keeps P (turn c e s)) : Keeps P (Run.deliver c e l) := by
  induction l with
  | nil => exact fun g hg => hg
  | cons s rest ih =>
    intro g hg
    rw [deliver_cons]
    exact ih (fun other hmem => hturn other (List.mem_cons_of_mem _ hmem)) _
      (hturn s List.mem_cons_self g hg)

end
end Run

/-! ### Predicates that overlook changes -/

/-- Who answers for requests without a route, who gets the records, and whether the time is
written into a header field. -/
def Gateway.settings (g : Gateway σ) : Responder × Option Reporter × Bool :=
  (g.dispatcher.fallback, g.dispatcher.reporter, g.dispatcher.timeHeader)

/-- The same entries, settings, completions and counts of requests, and the same in the hands of
the collaborators. -/
structure SameTraffic (g g' : Gateway τ) : Prop where
  own : g.own = g'.own
  journal : g.journal = g'.journal
  settings : g.settings = g'.settings
  completions : g.completions = g'.completions
  dispatched : g.dispatcher.stats.dispatched = g'.dispatcher.stats.dispatched
  notFound : g.dispatcher.stats.notFound = g'.dispatcher.stats.notFound

/-- Besides, the same subscriptions. -/
structure SameEvents (g g' : Gateway τ) : Prop extends SameTraffic g g' where
  bus : g.bus = g'.bus
  running : g.dispatcher.running = g'.dispatcher.running
  subscription : g.dispatcher.subscription = g'.dispatcher.subscription

/-- Besides, the same routes. -/
structure SameRoutes (g g' : Gateway τ) : Prop extends SameEvents g g' where
  table : g.table = g'.table

/-- The same but for completions and counts. -/
structure SameButTraffic (g g' : Gateway τ) : Prop where
  own : g.own = g'.own
  journal : g.journal = g'.journal
  bus : g.bus = g'.bus
  running : g.dispatcher.running = g'.dispatcher.running
  subscription : g.dispatcher.subscription = g'.dispatcher.subscription
  table : g.table = g'.table

namespace Run

section
variable {P : Gateway τ → Prop}

theorem Inert.of_same (hP : ∀ g g', SameRoutes g g' → P g → P g') : Inert (Holding P) := by
  have same {α : Type} {f : Gateway τ → α × Gateway τ} (h : ∀ g, SameRoutes g (f g).2) :
      Alike (Holding P) f f :=
    Keeps.alike fun g hg => hP g _ (h g) hg
  exact
    { advance := fun _ => same fun _ => ⟨⟨⟨rfl, rfl, rfl, rfl, rfl, rfl⟩, rfl, rfl, rfl⟩, rfl⟩
      addService := same fun _ => ⟨⟨⟨rfl, rfl, rfl, rfl, rfl, rfl⟩, rfl, rfl, rfl⟩, rfl⟩
      addSink := fun _ _ => same fun _ => ⟨⟨⟨rfl, rfl, rfl, rfl, rfl, rfl⟩, rfl, rfl, rfl⟩, rfl⟩
      create := fun _ => same fun _ => ⟨⟨⟨rfl, rfl, rfl, rfl, rfl, rfl⟩, rfl, rfl, rfl⟩, rfl⟩
      setState := fun _ _ => same fun _ => ⟨⟨⟨rfl, rfl, rfl, rfl, rfl, rfl⟩, rfl, rfl, rfl⟩, rfl⟩
      tally := fun f hf => same fun _ =>
        ⟨⟨⟨rfl, rfl, rfl, rfl, (hf _).1.symm, (hf _).2.symm⟩, rfl, rfl, rfl⟩, rfl⟩ }

theorem Unrouted.of_same (hP : ∀ g g', SameEvents g g' → P g → P g') :
    Unrouted (Holding P) where
  toInert := .of_same fun g g' h => hP g g' h.toSameEvents
  insertRoute _ _ := Keeps.alike fun g => hP g _ ⟨⟨rfl, rfl, rfl, rfl, rfl, rfl⟩, rfl, rfl, rfl⟩
  takeRoute _ := Keeps.alike fun g => hP g _ ⟨⟨rfl, rfl, rfl, rfl, rfl, rfl⟩, rfl, rfl, rfl⟩
  clearRoutes := Keeps.alike fun g => hP g _ ⟨⟨rfl, rfl, rfl, rfl, rfl, rfl⟩, rfl, rfl, rfl⟩
  damage _ _ := Keeps.alike fun g => hP g _ ⟨⟨rfl, rfl, rfl, rfl, rfl, rfl⟩, rfl, rfl, rfl⟩

theorem Atoms.of_same (hP : ∀ g g', SameTraffic g g' → P g → P g') : Atoms (Holding P) where
  toUnrouted := .of_same fun g g' h => hP g g' h.toSameTraffic
  subscribe _ := Keeps.alike fun g => hP g _ ⟨rfl, rfl, rfl, rfl, rfl, rfl⟩
  unsubscribe _ := Keeps.alike fun g => hP g _ ⟨rfl, rfl, rfl, rfl, rfl, rfl⟩
  adjust f hf := Keeps.alike fun g => by
    obtain ⟨running, subscription, h⟩ := hf g.dispatcher
    exact hP g _ ⟨rfl, rfl, congrArg (fun d => (d.fallback, d.reporter, d.timeHeader)) h.symm, rfl,
      congrArg (·.stats.dispatched) h.symm, congrArg (·.stats.notFound) h.symm⟩

theorem Trafficless.of_same (hP : ∀ g g', SameButTraffic g g' → P g → P g') :
    Trafficless (Holding P) where
  fire _ := Keeps.alike fun g => hP g _ ⟨rfl, rfl, rfl, rfl, rfl, rfl⟩
  missed := Keeps.alike fun g => hP g _ ⟨rfl, rfl, rfl, rfl, rfl, rfl⟩
  dispatched := Keeps.alike fun g => hP g _ ⟨rfl, rfl, rfl, rfl, rfl, rfl⟩
  wrap _ _ _ _ := Keeps.alike fun g => hP g _ ⟨rfl, rfl, rfl, rfl, rfl, rfl⟩
  countAt _ _ := Keeps.alike fun g => hP g _ ⟨rfl, rfl, rfl, rfl, rfl, rfl⟩

/-- What two relations survive, their conjunction does. -/
theorem Atoms.and {Q : Gateway τ → Prop} (hP : Atoms (Holding P)) (hQ : Atoms (Holding Q)) :
    Atoms (Holding fun g => P g ∧ Q g) where
  advance ns := (hP.advance ns).and (hQ.advance ns)
  addService := hP.addService.and hQ.addService
  addSink s r := (hP.addSink s r).and (hQ.addSink s r)
  tally f hf := (hP.tally f hf).and (hQ.tally f hf)
  create h := (hP.create h).and (hQ.create h)
  setState h s := (hP.setState h s).and (hQ.setState h s)
  insertRoute api h := (hP.insertRoute api h).and (hQ.insertRoute api h)
  takeRoute api := (hP.takeRoute api).and (hQ.takeRoute api)
  clearRoutes := hP.clearRoutes.and hQ.clearRoutes
  damage path owner := (hP.damage path owner).and (hQ.damage path owner)
  subscribe l := (hP.subscribe l).and (hQ.subscribe l)
  unsubscribe id := (hP.unsubscribe id).and (hQ.unsubscribe id)
  adjust f hf := (hP.adjust f hf).and (hQ.adjust f hf)

end
end Run

/-! ### Predicates of what the collaborators keep -/

namespace Run

variable {V : τ → Prop} {c : Collaborators τ}

theorem robust_own (V : τ → Prop) : Robust (Holding fun g : Gateway τ => V g.own) where
  toAtoms := .of_same fun _ _ h hg => h.own ▸ hg
  toTrafficless := .of_same fun _ _ h hg => h.own ▸ hg

theorem tolerates_own (hc : c.Keep fun g => V g.own) :
    Tolerates (Holding fun g : Gateway τ => V g.own) (fun _ => True) c c :=
  hc.tolerates (fun _ => trivial) fun _ _ _ hg => hg

/-- Operations do not touch what the collaborators keep. -/
theorem keeps_own (hc : c.Keep fun g => V g.own) (a : Action) :
    Keeps (fun g => V g.own) (perform c a) :=
  ((robust_own V).perform (tolerates_own hc) a).keeps

end Run

/-! ### Families that endure -/

/-- What the gateway shows, without what its collaborators keep. -/
def Gateway.shown (g : Gateway σ) : Gateway Unit :=
  g.withOwn ()

/-- A property of what the gateway shows, and one of what the collaborators keep. -/
def Both (P : Gateway Unit → Prop) (O : τ → Prop) (g : Gateway τ) : Prop :=
  P g.shown ∧ O g.own

/-- Every operation keeps each member of the family if the collaborators do, whatever they keep
for themselves meanwhile. -/
structure Enduring {ι : Type} (P : ι → Gateway Unit → Prop) : Prop where
  note : ∀ i fields, Run.Keeps (P i) (Run.write (.note fields))
  perform : ∀ {τ : Type} (O : τ → Prop) (c : Collaborators τ), (∀ i, c.Keep (Both (P i) O)) →
    ∀ a i, Run.Keeps (Both (P i) O) (Run.perform c a)

/-! ### Predicates of requests -/

/-- The predicate looks at the journal, the completions and the count of misses alone. -/
def OfTraffic (P : Gateway Unit → Prop) : Prop :=
  ∀ g g', g.journal = g'.journal → g.completions = g'.completions →
    g.dispatcher.stats.notFound = g'.dispatcher.stats.notFound → P g → P g'

namespace Run

variable {P : Gateway Unit → Prop} {O : τ → Prop}

theorem Keeps.write {e : Entry} (h : Keeps P (Run.write e)) :
    Keeps (Both P O) (Run.write (σ := τ) e) :=
  fun g hg => ⟨h g.shown hg.1, hg.2⟩

/-- Whatever does not touch requests keeps such a predicate. -/
theorem atoms_of_traffic (hP : OfTraffic P) : Atoms (Holding (Both P O)) :=
  .of_same fun g g' h hg =>
    ⟨hP g.shown g'.shown h.journal h.completions h.notFound hg.1, h.own ▸ hg.2⟩

theorem alike_countAt_of_traffic (hP : OfTraffic P) (s : Nat) (r : AccessRecord) :
    Alike (Holding (Both P O)) (countAt s r) (countAt s r) :=
  Keeps.alike fun g hg => ⟨hP g.shown _ rfl rfl rfl hg.1, hg.2⟩

end Run

namespace Enduring

variable {ι : Type} {P : ι → Gateway Unit → Prop} (E : Enduring P)
include E

/-- The collaborators keep what endures, and so does all that they ask for. -/
theorem within (b : Behaviours σ) (n : Nat) (i : ι) :
    (b.within n).Keep (Both (P i) fun _ => True) := by
  -- for all members at once: an operation keeps one if the collaborators below keep each
  induction n generalizing i with
  | zero => exact .idle _
  | succ n ih =>
    have hrun {α : Type} (u : Behaviour σ α) :
        Run.Keeps (Both (P i) fun _ => True) (u.run (b.within n)) :=
      u.run_keeps (fun _ _ hg => ⟨hg.1, trivial⟩)
        (fun fields g hg => ⟨E.note i fields g.shown hg.1, trivial⟩)
        (fun a _ => E.perform _ _ ih a i) (Behaviour.asks_of_forall (fun _ => trivial) u)
    exact ⟨fun api => hrun (b.build api), fun inv => hrun (b.call inv)⟩

/-- What holds at the beginning of a run holds at its end. -/
theorem run (b : Behaviours σ) (n : Nat) (user : Behaviour σ α) {i : ι} {g : Gateway σ}
    (hg : P i g.shown) : P i (user.run (b.within n) g).2.shown :=
  (user.run_keeps (fun _ _ hg => ⟨hg.1, trivial⟩)
    (fun fields g hg => ⟨E.note i fields g.shown hg.1, trivial⟩)
    (fun a _ => E.perform _ _ (E.within b n) a i)
    (Behaviour.asks_of_forall (fun _ => trivial) user) g ⟨hg, trivial⟩).1

omit E in
/-- So far some member of the family held at each moment. -/
def Seen (P : ι → Gateway Unit → Prop) (o : Watched σ) : Prop :=
  ∀ m ∈ o.moments, ∃ j, P j m.gateway.shown

omit E in
theorem sighted {i : ι} (g : Gateway (Watched σ)) (hg : Both (P i) (Seen P) g) :
    Both (P i) (Seen P) g.sighted := by
  refine ⟨hg.1, fun m hm => ?_⟩
  rcases List.mem_cons.mp hm with rfl | hm
  · exact ⟨i, hg.1⟩
  · exact hg.2 m hm

omit E in
theorem handed {i : ι} (g : Gateway (Watched σ)) (r : Except Fault (Option HandlerId))
    (hg : Both (P i) (Seen P) g) : Both (P i) (Seen P) (Behaviours.handed g r) := by
  cases r with
  | error f => exact hg
  | ok h =>
    cases h with
    | none => exact hg
    | some h => exact sighted (g.entered (.handing h)) hg

theorem run_watched (c : Collaborators (Watched σ)) (hc : ∀ i, c.Keep (Both (P i) (Seen P)))
    (u : Behaviour σ α) (i : ι) : Run.Keeps (Both (P i) (Seen P)) (u.watched.run c) :=
  u.run_watched_keeps sighted (fun _ _ hg => hg)
    (fun fields g hg => ⟨E.note i fields g.shown hg.1, hg.2⟩)
    (fun a _ g hg => E.perform _ c hc a i (g.entered (.asked a)) hg)
    (Behaviour.asks_of_forall (fun _ => trivial) u)

theorem within_watched (b : Behaviours σ) (n : Nat) (i : ι) :
    (b.watched.within n).Keep (Both (P i) (Seen P)) := by
  induction n generalizing i with
  | zero => exact .idle _
  | succ n ih =>
    refine ⟨fun api g hg => ?_, fun inv g hg => ?_⟩
    · have h := E.run_watched _ ih (b.build api) i (g.entered (.building api)) hg
      show Both (P i) (Seen P) ((b.watched.build api).run (b.watched.within n) g).2
      rw [Behaviours.run_watched_build]
      exact handed _ _ h
    · have h := E.run_watched _ ih (b.call inv) i (g.entered (.called inv)) hg
      show Both (P i) (Seen P) ((b.watched.call inv).run (b.watched.within n) g).2
      rw [Behaviours.run_watched_call]
      exact h

/-- What endures is seen at every moment of a run. -/
theorem moments (b : Behaviours σ) (n : Nat) (user : Behaviour σ α) {i : ι} {g : Gateway σ}
    (hg : P i g.shown) : ∀ m ∈ b.moments n user g, ∃ j, P j m.gateway.shown :=
  (E.run_watched _ (E.within_watched b n) user i g.watched
    ⟨hg, fun _ hm => absurd hm List.not_mem_nil⟩).2

end Enduring
end ApiGateway
