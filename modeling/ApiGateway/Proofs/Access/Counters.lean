import ApiGateway.Proofs.Access.Agreement
import ApiGateway.Proofs.Traffic.Routed
import ApiGateway.Proofs.Traffic.Tally

/-!
# The counters of a dispatcher and of its reporting service

A dispatched request is reported when its completion is called, so the counters of the service lag
behind those of the dispatcher by the requests whose handlers have not answered yet.

* `Gateway.pending`       the requests that were handed over and not answered yet;
* `length_pending`        there is one for each completion that nobody has called;
* `pending_of_dispatch`   a dispatch leaves its request pending if the handler returns without an
  answer;
* `Run.counters_agree`    how the counters are related at every request and at the end of a run.
-/

namespace ApiGateway

variable {σ α : Type}

namespace Gateway

/-- The requests that were handed over and whose completion nobody has called, oldest first. -/
def pending (g : Gateway σ) : List Handover :=
  g.ledger.handovers.filter fun x => (g.answers x.completion).isEmpty

end Gateway

/-- Who counts the records agrees with who counts the requests. -/
structure Service.Agrees (v : Service) (earlier : List (Moment σ)) (g : Gateway σ) : Prop where
  notFound : v.notFound = g.dispatcher.stats.notFound
  dispatched : g.dispatcher.stats.dispatched =
    v.records + earlier.countP Moment.lacksRequest + g.pending.length

def CountersAgree (s : Nat) (earlier : List (Moment σ)) (g : Gateway σ) : Prop :=
  ∃ v, g.services[s]? = some v ∧ v.Agrees earlier g

namespace Run

section
variable {g : Gateway σ}

theorem answers_isEmpty_iff (hphase : ∀ k, ∃ p, Phase.Is k g p) {k : CompletionId}
    (hk : k < g.completions.length) : (g.answers k).isEmpty = !g.completions[k].fired := by
  obtain ⟨p, hp⟩ := hphase k
  have hget : g.completions[k]? = some g.completions[k] := List.getElem?_eq_getElem hk
  rcases hp.cases with ⟨hlen, -⟩ | ⟨o, hK, ha, -⟩ | ⟨o, time, r, rs, ps, hK, hhead, -⟩
  · exact absurd hk (Nat.not_lt.mpr hlen)
  · rw [hget, Option.some.injEq] at hK
    rw [ha, hK]
    rfl
  · rw [hget, Option.some.injEq] at hK
    rw [hK]
    cases hans : g.answers k with
    | nil =>
      rw [hans] at hhead
      cases hhead
    | cons a rest => rfl

/-- There is a pending request for each completion that nobody has called. -/
theorem length_pending (hsound : g.ledger.Sound) (hphase : ∀ k, ∃ p, Phase.Is k g p) :
    g.pending.length = g.completions.countP (!·.fired) := by
  have hmap : g.completions.map (!·.fired) =
      (List.range g.completions.length).map fun k => (g.answers k).isEmpty := by
    apply List.ext_getElem
    · rw [List.length_map, List.length_map, List.length_range]
    · intro k h1 h2
      rw [List.length_map] at h1
      rw [List.getElem_map, List.getElem_map, List.getElem_range]
      exact (answers_isEmpty_iff hphase h1).symm
  have hmade : g.ledger.handovers.map (·.completion) = List.range g.completions.length :=
    hsound.each
  calc g.pending.length
      = g.ledger.handovers.countP fun x => (g.answers x.completion).isEmpty :=
        List.countP_eq_length_filter.symm
    _ = (List.range g.completions.length).countP fun k => (g.answers k).isEmpty := by
        rw [← hmade, List.countP_map]
        rfl
    _ = ((List.range g.completions.length).map fun k => (g.answers k).isEmpty).countP id := by
        rw [List.countP_map]
        rfl
    _ = g.completions.countP (!·.fired) := by
        rw [← hmap, List.countP_map]
        rfl

/-- What is known of the parts says how the counters are related. -/
theorem countersAgree {s : Nat} {earlier : List (Moment σ)} (hcounted : g.Counted s)
    (hagree : Agreement s none g) (hsound : g.ledger.Sound) (hphase : ∀ k, ∃ p, Phase.Is k g p)
    (htally : Tallied earlier g) (hres : g.Reserved s) : CountersAgree s earlier g := by
  obtain ⟨v, hv, hcounts⟩ := hcounted
  refine ⟨v, hv, ?_, ?_⟩
  · rw [hcounts.notFound]
    exact hagree.notFound hres
  · have hlen : g.completions.length =
        g.completions.countP (·.fired) + g.completions.countP (!·.fired) := by
      rw [List.length_eq_countP_add_countP (·.fired)]
      simp
    have htally' : g.dispatcher.stats.dispatched =
      earlier.countP Moment.lacksRequest + g.completions.length := htally
    have hrecords := hagree.records hres
    rw [htally', hcounts.records, hrecords, length_pending hsound hphase, hlen]
    omega

/-- A dispatch leaves its request pending if its handler returns, and nobody has called the
completion until then. -/
theorem pending_of_dispatch (b : Behaviours σ) (d : Nat) (q : Request) (r : Option Response)
    (t : Option Nat) (hsound : g.ledger.Sound)
    (hphase : Phase.Is g.completions.length g .idle) :
    let k := g.completions.length
    let x := handOver (b.within d) q r t g
    (∃ y ∈ (dispatch (b.within d) (some q) r t g).2.pending, y.completion = k) ↔
      x.1.2 = .ok () ∧ x.2.answers k = [] := by
  intro k x
  let g' := (dispatch (b.within d) (some q) r t g).2
  have hhanded : g'.ledger.ofCompletion k = [⟨k, g.target q.path q.host, q, r.getD {}⟩] :=
    handed_of_dispatch b d q r t hsound 0 (.give ())
  have hpending : (∃ y ∈ g'.pending, y.completion = k) ↔ g'.answers k = [] := by
    constructor
    · rintro ⟨y, hy, hk⟩
      have hempty := (List.mem_filter.mp hy).2
      rw [hk] at hempty
      exact List.isEmpty_iff.mp hempty
    · intro hempty
      have hmem : (⟨k, g.target q.path q.host, q, r.getD {}⟩ : Handover) ∈
          g'.ledger.ofCompletion k := hhanded ▸ List.mem_singleton.mpr rfl
      refine ⟨_, List.mem_filter.mpr ⟨(List.mem_filter.mp hmem).1, ?_⟩, rfl⟩
      exact List.isEmpty_iff.mpr hempty
  have hreturned (hok : x.1.2 = .ok ()) : g' = x.2 := by
    show (dispatch (b.within d) (some q) r t g).2 = _
    rw [dispatch_snd, show (handOver (b.within d) q r t g).1.2 = .ok () from hok]
  rw [hpending]
  constructor
  · intro hempty
    rcases (settled_of_dispatch b d q r t hphase).1 with ⟨hok, -⟩ | ⟨time, r', hs⟩
    · have hok' : x.1.2 = .ok () := hok
      rw [hreturned hok'] at hempty
      exact ⟨hok', hempty⟩
    · have hhead : (g'.answers k).head? = some (time, r') := hs.2.1
      rw [hempty] at hhead
      cases hhead
  · rintro ⟨hok, hempty⟩
    rw [hreturned hok]
    exact hempty

end

/-- The counters of a dispatcher and of its reporting service agree.

The fallback is that of requests without a route, the reporter a service that starts with empty
counters.  At every request of every run, and at its end, if completions alone have given records to
the service: the service has counted as many requests without a route as the dispatcher has, and the
dispatcher has counted each record of the service, each request that was missing, and each request
whose completion nobody has called yet.  A dispatch leaves a request of the last kind if its handler
returns and the completion has not been called by then. -/
theorem counters_agree (b : Behaviours σ) (n : Nat) (user : Behaviour σ α) (header : Bool)
    (clock : Int) (own : σ) (services : List Service) (s : Nat) (sinks : List Reporter)
    (hs : services[s]? = some { sinks := sinks }) :
    let g₀ := { Gateway.fresh .notFound (some (.service s)) header clock own with
      services := services }
    let g := (user.run (b.within n) g₀).2
    let requests := b.requests n user g₀
    (∀ m earlier, m :: earlier <:+ requests → m.gateway.Reserved s →
      CountersAgree s earlier m.gateway) ∧
    (g.Reserved s → CountersAgree s requests g) ∧
    ∀ m ∈ requests, ∀ d q r t,
      let k := m.gateway.completions.length
      let x := handOver (b.within d) q r t m.gateway
      (∃ y ∈ (dispatch (b.within d) (some q) r t m.gateway).2.pending, y.completion = k) ↔
        x.1.2 = .ok () ∧ x.2.answers k = [] := by
  intro g₀ g requests
  have hcounted₀ : g₀.shown.Counted s := ⟨_, hs, Service.counts_nil sinks⟩
  have hinOrder₀ : InOrder s g₀.shown := by
    refine ⟨⟨⟨List.nodup_nil, ?_, ?_⟩, ?_⟩, rfl, rfl, ?_, fun _ => rfl, fun _ => rfl⟩
    · exact fun e he => absurd he List.not_mem_nil
    · exact fun e he => absurd he List.not_mem_nil
    · exact fun e he => absurd he List.not_mem_nil
    · intro k K hK
      have hK' : ([] : List Completion)[k]? = some K := hK
      rw [List.getElem?_nil] at hK'
      cases hK'
  have hsound₀ : g₀.shown.ledger.Sound := ⟨rfl, rfl⟩
  have hphase₀ (k : CompletionId) : Phase.Is k g₀.shown .idle := .inl ⟨Nat.zero_le k, rfl, rfl, rfl⟩
  have htally := lasting_tallied.since b n user (g := g₀) rfl
  have hseen (m : Moment σ) (hm : m ∈ requests) : m.gateway.Counted s ∧
      Agreement s none m.gateway ∧ m.gateway.ledger.Sound ∧
      ∀ k, ∃ p, Phase.Is k m.gateway p := by
    obtain ⟨-, hcounted⟩ := (enduring_counted s).requests b n user (i := ()) hcounted₀ m hm
    obtain ⟨-, hinOrder⟩ := (enduring_agreement s).requests b n user (i := ()) hinOrder₀ m hm
    obtain ⟨-, hsound⟩ := enduring_sound.requests b n user (i := ()) hsound₀ m hm
    refine ⟨hcounted, (inOrder_shown.mp hinOrder).2, hsound, fun k => ?_⟩
    obtain ⟨p, hp⟩ := (enduring_phase k).requests b n user (hphase₀ k) m hm
    exact ⟨p, hp.congr rfl rfl⟩
  refine ⟨fun m earlier hm hres => ?_, fun hres => ?_, fun m hm d q r t => ?_⟩
  · obtain ⟨hcounted, hagree, hsound, hphase⟩ := hseen m (hm.subset List.mem_cons_self)
    exact countersAgree hcounted hagree hsound hphase (htally.1 m earlier hm) hres
  · have hcounted : g.shown.Counted s := (enduring_counted s).run b n user hcounted₀ (i := ())
    have hinOrder : InOrder s g.shown := (enduring_agreement s).run b n user hinOrder₀ (i := ())
    have hsound : g.shown.ledger.Sound := enduring_sound.run b n user hsound₀ (i := ())
    refine countersAgree hcounted (inOrder_shown.mp hinOrder).2 hsound (fun k => ?_) htally.2 hres
    have hp : Phase.Is k g.shown .idle := (enduring_phase k).run b n user (hphase₀ k)
    exact ⟨.idle, hp.congr rfl rfl⟩
  · obtain ⟨-, -, hsound, hphase⟩ := hseen m hm
    obtain ⟨p, hp⟩ := hphase m.gateway.completions.length
    exact pending_of_dispatch b d q r t hsound (idle_of_length_le hp (Nat.le_refl _))

/-- Handlers that keep every request for later, and a sink that fails. -/
def tardy : Behaviours Unit where
  build api := do
    let h ← Behaviour.require (.create (Handler.create api.contextPath none .outside))
    pure (some h)
  call
    | .record .. => .fail .foreign
    | _ => .give ()

/-- A request that is missing, one that no API serves, and one that is kept for later. -/
def visits : Behaviour Unit Unit := do
  Behaviour.require (.deploy { id := "shop", contextPath := "/shop" })
  Behaviour.require (.dispatch none none (some 0))
  Behaviour.require (.dispatch (some { path := "/blog" }) none (some 0))
  Behaviour.require (.dispatch (some { path := "/shop" }) none (some 0))

theorem counters_agree_tardy :
    let g₀ := { Gateway.fresh .notFound (some (.service 0)) true 0 () with
      services := [{ sinks := [.outside 0] }] }
    let g := (visits.run (tardy.within 2) g₀).2
    g.Reserved 0 ∧ g.dispatcher.stats = { dispatched := 3, notFound := 1, deployed := 1 } ∧
      g.pending.length = 1 ∧
      CountersAgree 0 (tardy.requests 2 visits g₀) g := by
  have hagree := (counters_agree tardy 2 visits true 0 () [{ sinks := [.outside 0] }] 0
    [.outside 0] rfl).2.1
  intro g₀ g
  have hreserved : g.Reserved 0 := by
    unfold Gateway.Reserved
    decide +kernel
  have hcounts : g.dispatcher.stats = { dispatched := 3, notFound := 1, deployed := 1 } ∧
      g.pending.length = 1 := by
    decide +kernel
  exact ⟨hreserved, hcounts.1, hcounts.2, hagree hreserved⟩

end Run
end ApiGateway
