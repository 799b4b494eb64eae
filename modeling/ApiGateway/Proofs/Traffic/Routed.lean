import ApiGateway.Proofs.Route.Keyed
import ApiGateway.Proofs.Route.Selection
import ApiGateway.Proofs.Run.Aloof
import ApiGateway.Proofs.Traffic.Ledger

/-!
# Requests reach the selected handler

At every moment of every run, whoever asks for the handler of a path and a host is told the one
that the routes select, and a dispatched request is handed to it once and to nobody else.

* `Gateway.reordered`   the gateway with its routes in another order;
* `Gateway.Routed`      what a gateway does with paths, hosts and requests;
* `handed_of_dispatch`  a dispatch hands its request over once, whatever happens later;
* `requests_routed`     at every moment of every run.
-/

namespace ApiGateway

variable {σ α β : Type}

namespace Gateway

/-- The gateway as it is when its routes are gone through in another order. -/
def reordered (g : Gateway σ) (entries : List Route) : Gateway σ :=
  { g with table := { g.table with routes := { g.table.routes with entries := entries } } }

/-- The gateway selects among the routes, and gives every request to what it selects for the path
and the host of the request. -/
structure Routed (g : Gateway σ) (routes : Routes) (b : Behaviours σ) : Prop where
  paths : (routes.entries.map (·.path)).Nodup
  path : ∀ e ∈ routes.entries, e.path = (g.handler e.handler).contextPath
  selects : ∀ path host,
    routes.Selects g.handler path host (g.table.routes.select? g.handler path host)
  /-- If one route alone may be taken, it is. -/
  unique : ∀ path host e, (∀ e', routes.Eligible g.handler path host e' ↔ e' = e) →
    g.table.routes.select? g.handler path host = some e
  select : ∀ path host, (Run.select path host g).1 =
    (g.table.routes.select? g.handler path host).map (·.handler)
  lookup : ∀ path host, (Run.lookup path host g).1 = g.target path host
  bestTarget : ∀ q, (Run.bestTarget q g).1 = g.target q.path q.host
  /-- A dispatch hands the request to the target once, whatever the collaborators do, and nobody
  does so later. -/
  handed : ∀ d q r t d' (u : Behaviour σ Unit),
    (u.run (b.within d') (Run.dispatch (b.within d) (some q) r t g).2).2.ledger.ofCompletion
        g.completions.length =
      [⟨g.completions.length, g.target q.path q.host, q, r.getD {}⟩]
  /-- As many requests were counted as missed as the fallback got. -/
  sound : g.ledger.Sound
  soundAfter : ∀ d q r t, (Run.dispatch (b.within d) q r t g).2.ledger.Sound

end Gateway

namespace Run

variable (b : Behaviours σ)

/-- The ledger knows of a completion, and what was handed over with it. -/
def Recorded (k : CompletionId) (l : List Handover) (L : Ledger) : Prop :=
  k < L.made ∧ L.ofCompletion k = l

theorem Recorded.book {k : CompletionId} {l : List Handover} {L : Ledger} (h : Recorded k l L)
    (t : Target) (q : Request) (r : Response) : Recorded k l (L.book t q r) :=
  ⟨Nat.lt_succ_of_lt h.1, (Ledger.ofCompletion_book_of_lt h.1 t q r).trans h.2⟩

theorem enduring_recorded (k : CompletionId) :
    Enduring fun l g => Recorded k l g.ledger :=
  enduring_ledger (Q := fun l => Recorded k l) fun _ _ t q r h => h.book t q r

theorem enduring_sound : Enduring fun (_ : Unit) g => g.ledger.Sound :=
  enduring_ledger (Q := fun _ => Ledger.Sound) fun _ _ t q r h => h.book t q r

/-- A dispatch hands its request over once, whatever happens later. -/
theorem handed_of_dispatch (d : Nat) (q : Request) (r : Option Response) (t : Option Nat)
    {g : Gateway σ} (h : g.ledger.Sound) (d' : Nat) (u : Behaviour σ α) :
    (u.run (b.within d') (dispatch (b.within d) (some q) r t g).2).2.ledger.ofCompletion
        g.completions.length =
      [⟨g.completions.length, g.target q.path q.host, q, r.getD {}⟩] := by
  have hnoted : Recorded g.completions.length
      [⟨g.completions.length, g.target q.path q.host, q, r.getD {}⟩] (noted q r t g).ledger := by
    rw [ledger_noted]
    refine ⟨Nat.lt_succ_self _, (Ledger.ofCompletion_book _ _ _).trans ?_⟩
    rw [h.ofCompletion_made]
    rfl
  have E := enduring_recorded g.completions.length
  have hdispatch : Recorded g.completions.length
      [⟨g.completions.length, g.target q.path q.host, q, r.getD {}⟩]
      (dispatch (b.within d) (some q) r t g).2.ledger := by
    rw [dispatch_undertake]
    exact (keeps_undertake_ledger (fun l => E.within b d l) _ q (r.getD {}) _ _
      ⟨hnoted, trivial⟩).1
  exact (E.run b d' u hdispatch).2

theorem sound_of_dispatch (d : Nat) (q : Option Request) (r : Option Response) (t : Option Nat)
    {g : Gateway σ} (h : g.ledger.Sound) : (dispatch (b.within d) q r t g).2.ledger.Sound :=
  (enduring_sound.perform (fun _ => True) _ (fun i => enduring_sound.within b d i)
    (.dispatch q r t) () g ⟨h, trivial⟩).1

/-- At every moment of every run, in whatever order the gateway goes through its routes. -/
theorem requests_routed (n : Nat) (user : Behaviour σ α) (fallback : Responder)
    (reporter : Option Reporter) (timeHeader : Bool) (clock : Int) (own : σ) :
    ∀ m ∈ b.moments n user (.fresh fallback reporter timeHeader clock own),
      ∀ entries : List Route, entries.Perm m.gateway.table.routes.entries →
        (m.gateway.reordered entries).Routed m.gateway.table.routes b := by
  intro m hm entries hperm
  have hfresh : (Gateway.fresh fallback reporter timeHeader clock own).shown.ledger.Sound :=
    ⟨rfl, rfl⟩
  obtain ⟨-, hsound⟩ := enduring_sound.moments b n user (i := ()) hfresh m hm
  have hempty : (Gateway.fresh fallback reporter timeHeader clock own).shown.Keyed :=
    Gateway.keyed_fresh fallback reporter timeHeader clock ()
  obtain ⟨-, hkeyed⟩ := enduring_keyed.moments b n user (i := ()) hempty m hm
  have hreordered : (m.gateway.reordered entries).ledger.Sound := hsound
  exact
    { paths := hkeyed.paths
      path := hkeyed.path
      selects := fun path host => Routes.selects_perm hperm (Routes.select?_selects _ _ path host)
      unique := fun path host e he =>
        Routes.select?_eq_of_unique fun e' => (Routes.eligible_perm hperm e').trans (he e')
      select := fun path host => congrArg Prod.fst (select_eq path host _)
      lookup := fun path host => congrArg Prod.fst (lookup_eq path host _)
      bestTarget := fun q => congrArg Prod.fst (bestTarget_eq q _)
      handed := fun d q r t d' u => handed_of_dispatch b d q r t hreordered d' u
      sound := hreordered
      soundAfter := fun d q r t => sound_of_dispatch b d q r t hreordered }

/-- A factory whose handlers greet. -/
def greeters : Aloof Unit where
  build _ _ := (.ok (some (.fixed "hello")), ())
  hook _ _ _ := (.ok (), ())

/-- Two APIs that serve the same paths are deployed. -/
def opening : Behaviour Unit Unit := do
  Behaviour.require (.deploy { id := "shop", contextPath := "/shop" })
  Behaviour.require (.deploy { id := "cart", contextPath := "/shop/cart" })

theorem requests_routed_reversed :
    ∃ m ∈ greeters.behaviours.moments 1 opening (.fresh .notFound none true 0 ()),
      m.gateway.table.routes.entries.map (·.path) = ["/shop/", "/shop/cart/"] ∧
        (m.gateway.reordered m.gateway.table.routes.entries.reverse).Routed
          m.gateway.table.routes greeters.behaviours := by
  have hboth : ∃ m ∈ greeters.behaviours.moments 1 opening (.fresh .notFound none true 0 ()),
      m.gateway.table.routes.entries.map (·.path) = ["/shop/", "/shop/cart/"] := by
    decide +kernel
  obtain ⟨m, hm, hpaths⟩ := hboth
  exact ⟨m, hm, hpaths, requests_routed greeters.behaviours 1 opening .notFound none true 0 () m hm
    _ (List.reverse_perm _)⟩

end Run
end ApiGateway
