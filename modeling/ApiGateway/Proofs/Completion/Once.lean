import ApiGateway.Proofs.Completion.Concern

/-!
# A request is answered once

A completion passes its first call on and no other.  Reporters and receivers may call it again
before they return, so a completion may be found half way, and then whoever is in control
leaves it there: `Phase.Is k` is an enduring family.

* `Run.answer_first`       the first call of a completion is passed on to the end;
* `Run.enduring_phase`     every operation keeps the phase of a completion;
* `Run.answered_exactly_once`   at every moment of every run, and at its end.
-/

namespace ApiGateway

variable {σ τ α β : Type}

namespace Run

/-! ### The layers, one by one -/

section
variable (c : Collaborators σ) {k : CompletionId} {g : Gateway σ} {K : Completion}

theorem answer_completion (r : Option Response) :
    answer c (.completion k) r g = (match g.completions[k]? with
      | some K => pass c k K.receiver K.layers r (write (.answer k g.clock r) g).2
      | none => (.ok (), g)) := by
  unfold answer
  dsimp only
  rw [get_bind_apply]
  cases g.completions[k]? <;> rfl

theorem pass_once (id : String) (t : Option Nat) (inner : List Layer) (r : Option Response) :
    pass c k t (.once id :: inner) r g =
      if (g.completions[k]?.map (·.fired)).getD true then (.ok (), (notify (.repeated id) g).2)
      else pass c k t inner (some (r.getD .serverError))
        (if r.isSome then (fire k g).2 else (notify (.unanswered id) (fire k g).2).2) := by
  show (if (g.completions[k]?.map (·.fired)).getD true then _ else _ :
    Run σ (Except Fault Unit)) g = _
  by_cases h : (g.completions[k]?.map (·.fired)).getD true
  · rw [if_pos h, if_pos h]
    rfl
  · rw [if_neg h, if_neg h]
    cases r <;> rfl

theorem pass_timed (q : Request) (header : Bool) (t : Option Nat) (inner : List Layer)
    (r : Option Response) :
    pass c k t (.timed q header :: inner) r g =
      (match pass c k t inner (r.map (·.stamped (g.clock - q.receivedAt) header)) g with
        | (.error f, g') => (.error f, g')
        | (.ok (), g') =>
          (.ok (), (notify (.completed q.id ((g'.clock - q.receivedAt).tdiv 1000)) g').2)) := by
  rw [pass, get_bind_apply, bind_apply]
  generalize pass c k t inner (r.map (·.stamped (g.clock - q.receivedAt) header)) g = x
  obtain ⟨f | u, g'⟩ := x
  · rfl
  · rfl

end

/-! ### The first call -/

theorem concerns_phase (k : CompletionId) : Concerns k fun p g => Phase.Is k g p where
  congr _ _ _ hj hc hg := hg.congr hj hc
  spare _ _ he _ hg := hg.write_spare he
  other _ _ hk _ hg := hg.fire_other hk
  made _ o _ hg := hg.wrap o

section
variable {c : Collaborators τ} {O : τ → Prop} {k : CompletionId} {o : Terms}
  (hc : ∀ p, c.Keep (Both (Phase.Is k · p) O))
include hc

variable (k O o) in
/-- The first call was made at a time, and this came of it so far. -/
abbrev Midway (time : Int) (r : Option Response) (rs : List (Option Nat × Option Response))
    (ps : List (Reporter × AccessRecord)) : Gateway τ → Prop :=
  Both (Phase.Is k · (.underway o time r rs ps)) O

variable {time : Int} {r : Option Response}

theorem report_leads {rep : Reporter} (hrep : o.reporter = some rep) :
    Leads (Midway O k o time r [] []) (Midway O k o time r [] (o.records time r))
      (report c (.completion k) rep (o.dispatch.record (o.response time r))) := by
  unfold report
  rw [reportWithin_eq]
  refine Leads.bind ?_ fun _ => (concerns_phase k).keeps_relay hc _ _ _ _
  rintro g ⟨h, hO⟩
  have hrec : o.records time r = [(rep, o.dispatch.record (o.response time r))] := by
    unfold Terms.records
    rw [hrep]
    rfl
  refine ⟨h.write_underway rfl ?_ List.nil_prefix List.prefix_rfl, hO⟩
  rw [hrec]
  simp [Entry.recordOf?]

theorem respond_leads : Leads (Midway O k o time r [] (o.records time r))
    (Midway O k o time r (o.responses time r) (o.records time r))
    (respond c (.completion k) o.receiver (some (o.response time r))) := by
  refine Leads.bind (Q := Midway O k o time r (o.responses time r) (o.records time r)) ?_
    fun _ => ?_
  · rintro g ⟨h, hO⟩
    refine ⟨h.write_underway ?_ (List.append_nil _) List.prefix_rfl List.prefix_rfl, hO⟩
    simp [Entry.responseOf?, Terms.responses]
  · cases o.receiver with
    | none => exact fun g hg => hg
    | some t => exact (hc _).call _

theorem pass_reported_leads : Leads (Midway O k o time r [] [])
    (Midway O k o time r (o.responses time r) (o.records time r))
    (pass c k o.receiver [.reported o.reporter o.dispatch] (some (o.response time r))) := by
  cases hrep : o.reporter with
  | none =>
    have hnil : o.records time r = [] := by
      unfold Terms.records
      rw [hrep]
      rfl
    have h : Leads (Midway O k o time r [] (o.records time r)) _
      (respond c (.completion k) o.receiver (some (o.response time r))) := respond_leads hc
    rw [hnil] at h ⊢
    exact h
  | some rep =>
    refine Leads.bind (report_leads hc hrep) fun a => ?_
    cases a with
    | ok u => exact respond_leads hc
    | error f => exact Leads.bind ((concerns_phase k).keeps_notify hc _ _) fun _ => respond_leads hc

theorem pass_timed_leads {g : Gateway τ} (hg : Midway O k o g.clock r [] [] g) :
    Midway O k o g.clock r (o.responses g.clock r) (o.records g.clock r)
      (pass c k o.receiver [.timed o.dispatch.request o.header, .reported o.reporter o.dispatch]
        (some (r.getD .serverError)) g).2 := by
  have h := pass_reported_leads hc g hg
  rw [pass_timed]
  show Midway O k o g.clock r _ _ (match pass c k o.receiver
    [.reported o.reporter o.dispatch] (some (o.response g.clock r)) g with
    | (.error f, g') => (.error f, g')
    | (.ok (), g') => (.ok (), (notify _ g').2) : Except Fault Unit × Gateway τ).2
  generalize pass c k o.receiver [.reported o.reporter o.dispatch]
    (some (o.response g.clock r)) g = x at h ⊢
  obtain ⟨f | u, g'⟩ := x
  · exact h
  · exact (concerns_phase k).keeps_notify hc _ _ g' h

theorem answer_first {g : Gateway τ} (hK : g.completions[k]? = some (o.completion false))
    (hu : Untouched k g) (hO : O g.own) (r : Option Response) :
    Midway O k o g.clock r (o.responses g.clock r) (o.records g.clock r)
      (answer c (.completion k) r g).2 := by
  have hfire : Midway O k o g.clock r [] [] (fire k (write (.answer k g.clock r) g).2).2 :=
    ⟨Phase.Is.fire hK hu g.clock r, hO⟩
  have hK' : (write (.answer k g.clock r) g).2.completions[k]? = some (o.completion false) := hK
  rw [answer_completion, hK]
  show Midway O k o g.clock r _ _ (pass c k o.receiver (.once o.dispatch.request.id :: _) r _).2
  rw [pass_once, hK', if_neg (by simp [Terms.completion])]
  -- without a response the layer complains, and passes a server error on
  cases r with
  | some r => exact pass_timed_leads hc hfire
  | none => exact pass_timed_leads hc ((concerns_phase k).keeps_notify hc _ _ _ hfire)

theorem answer_again {g : Gateway τ} {rs : List (Option Nat × Option Response)}
    {ps : List (Reporter × AccessRecord)} (h : Midway O k o time r rs ps g)
    (r' : Option Response) :
    Midway O k o time r rs ps (answer c (.completion k) r' g).2 := by
  have hK : g.completions[k]? = some (o.completion true) := h.1.1
  rw [answer_completion, hK]
  have hK' : (write (.answer k g.clock r') g).2.completions[k]? = some (o.completion true) := hK
  show Midway O k o time r rs ps (pass c k o.receiver (.once o.dispatch.request.id :: _) r' _).2
  rw [pass_once, hK', if_pos (by simp [Terms.completion])]
  exact (concerns_phase k).keeps_notify hc _ _ _ ⟨h.1.answer_again g.clock r', h.2⟩

theorem answer_resting {g : Gateway τ} (h : Both (Phase.Is k · (.resting o)) O g)
    (r : Option Response) :
    Both (Phase.Is k · (.resting o)) O (answer c (.completion k) r g).2 := by
  obtain ⟨⟨hK, hu⟩ | ⟨time, r', hs⟩, hO⟩ := h
  · obtain ⟨h1, h2⟩ := answer_first hc hK hu hO r
    exact ⟨.of_settled (Phase.is_underway_iff.mp h1), h2⟩
  · obtain ⟨h1, h2⟩ := answer_again hc ⟨Phase.is_underway_iff.mpr hs, hO⟩ r
    exact ⟨.of_settled (Phase.is_underway_iff.mp h1), h2⟩

theorem keeps_answer (p : Phase) (r : Option Response) :
    Keeps (Both (Phase.Is k · p) O) (answer c (.completion k) r) := by
  intro g h
  cases p with
  | resting o => exact answer_resting hc h r
  | underway o time r' rs ps => exact answer_again hc h r
  | idle =>
    obtain ⟨⟨hlen, hu⟩ | ⟨o, ho⟩, hO⟩ := h
    · rw [answer_completion, List.getElem?_eq_none (show g.completions.length ≤ k from hlen)]
      exact ⟨.inl ⟨hlen, hu⟩, hO⟩
    · obtain ⟨h1, h2⟩ := answer_resting hc ⟨ho, hO⟩ r
      exact ⟨.inr ⟨o, h1⟩, h2⟩

end

/-- Every operation keeps the phase of a completion. -/
theorem enduring_phase (k : CompletionId) : Enduring fun p g => Phase.Is k g p :=
  (concerns_phase k).enduring fun _ _ hc p r => keeps_answer hc p r

/-! ### At every moment -/

section
variable {k : CompletionId} {p : Phase} {g : Gateway σ} {o : Terms}

theorem at_most_once (h : Phase.Is k g p) :
    (g.responses k).length ≤ 1 ∧ (g.records k).length ≤ 1 := by
  have hu (h : Untouched k g) : (g.responses k).length ≤ 1 ∧ (g.records k).length ≤ 1 := by
    obtain ⟨-, hr, hp⟩ := h
    rw [hr, hp]
    exact ⟨Nat.zero_le _, Nat.zero_le _⟩
  rcases h.cases with ⟨-, h⟩ | ⟨o, -, h⟩ | ⟨o, time, r, rs, ps, -, -, ⟨rfl, rfl⟩, hrs, hps⟩
  · exact hu h
  · exact hu h
  · exact ⟨hrs.length_le, Nat.le_trans hps.length_le (o.length_records_le time r)⟩

theorem exists_terms (h : Phase.Is k g p) {K : Completion} (hK : g.completions[k]? = some K) :
    ∃ o fired, K = Terms.completion o fired := by
  rcases h.cases with ⟨hlen, -⟩ | ⟨o, hc, -⟩ | ⟨o, time, r, rs, ps, hc, -⟩
  · rw [List.getElem?_eq_none hlen] at hK
    cases hK
  · rw [hK, Option.some.injEq] at hc
    exact ⟨o, false, hc⟩
  · rw [hK, Option.some.injEq] at hc
    exact ⟨o, true, hc⟩

theorem idle_of_length_le (h : Phase.Is k g p) (hlen : g.completions.length ≤ k) :
    Phase.Is k g .idle := by
  have hnone : g.completions[k]? = none := List.getElem?_eq_none hlen
  rcases h.cases with h | ⟨o, hc, -⟩ | ⟨o, time, r, rs, ps, hc, -⟩
  · exact .inl h
  · cases hnone.symm.trans hc
  · cases hnone.symm.trans hc

theorem untouched_of_unanswered (h : Phase.Is k g p) {fired : Bool}
    (hK : g.completions[k]? = some (o.completion fired)) (ha : g.answers k = []) :
    g.completions[k]? = some (o.completion false) ∧ Untouched k g := by
  rcases h.cases with ⟨hlen, -⟩ | ⟨o', hc, hu⟩ | ⟨o', time, r, rs, ps, -, hhead, -⟩
  · rw [List.getElem?_eq_none hlen] at hK
    cases hK
  · rw [hK, Option.some.injEq] at hc
    rw [hK, (Phase.completion_inj hc).2]
    exact ⟨rfl, hu⟩
  · rw [ha] at hhead
    cases hhead

end

section
variable (b : Behaviours σ) (d : Nat) {k : CompletionId} {g : Gateway σ} {o : Terms}

theorem keep_phase (k : CompletionId) (p : Phase) :
    (b.within d).Keep (Both (Phase.Is k · p) fun _ => True) :=
  (enduring_phase k).within b d p

/-- The first call of a completion settles it, and whatever follows leaves it settled. -/
theorem settled_of_answer (hK : g.completions[k]? = some (o.completion false))
    (hu : Untouched k g) (r : Option Response) (d' : Nat) (u : Behaviour σ α) :
    Settled k o g.clock r
      (u.run (b.within d') (answer (b.within d) (.completion k) r g).2).2 := by
  have h := (answer_first (keep_phase b d k) hK hu trivial r).1
  exact Phase.is_underway_iff.mp ((enduring_phase k).run b d' u h)

omit d in
/-- The terms of the completion for a request that is dispatched now. -/
def termsFor (g : Gateway σ) (q : Request) (t : Option Nat) : Terms :=
  ⟨g.dispatchFor q, g.dispatcher.reporter, g.dispatcher.timeHeader, t⟩

omit d in
theorem completions_offered (g : Gateway σ) (q : Request) (t : Option Nat) :
    (offered q t g).completions = g.completions ++ [(termsFor g q t).completion false] := by
  unfold offered
  rw [completions_prepared]
  rfl

omit d in
theorem offered_resting (h : Phase.Is g.completions.length g .idle) (q : Request)
    (t : Option Nat) :
    Phase.Is g.completions.length (offered q t g) (.resting (termsFor g q t)) := by
  have hK : (offered q t g).completions[g.completions.length]? =
      some ((termsFor g q t).completion false) := by
    rw [completions_offered]
    exact List.getElem?_concat_length
  have hidle : Phase.Is g.completions.length (offered q t g) .idle := by
    have h' := (concerns_phase _).keeps_offer (O := fun _ : σ => True) (fun p => .idle _) .idle q t
      g ⟨h, trivial⟩
    rw [offer_eq] at h'
    exact h'.1
  rcases hidle.cases with ⟨hlen, -⟩ | ⟨o, -, hu⟩ | ⟨o, time, r, rs, ps, hc, -⟩
  · rw [List.getElem?_eq_none hlen] at hK
    cases hK
  · exact .inl ⟨hK, hu⟩
  · rw [hK, Option.some.injEq] at hc
    cases (Phase.completion_inj hc).2

variable (q : Request) (r : Option Response) (t : Option Nat)

/-- When the handler's call is over, the completion is as it was made or settled. -/
theorem handOver_resting (h : Phase.Is g.completions.length g .idle) :
    Phase.Resting g.completions.length (termsFor g q t) (handOver (b.within d) q r t g).2 := by
  have hc := keep_phase b d g.completions.length
  have T := (concerns_phase _).tolerates hc (.resting (termsFor g q t))
  have hanswer (done : Callback) (r : Option Response) :=
    (concerns_phase _).keeps_answer hc (.resting (termsFor g q t)) (keeps_answer hc) done r
  rw [handOver_eq]
  exact ((Alike.serve T (spares_gateway _ _) fun r => (hanswer _ r).alike).keeps
    (offered q t g) ⟨offered_resting h q t, trivial⟩).1

/-- A dispatched request is answered once if the handler called the completion or failed. -/
theorem settled_of_dispatch (h : Phase.Is g.completions.length g .idle) :
    let k := g.completions.length
    let x := handOver (b.within d) q r t g
    let g' := (dispatch (b.within d) (some q) r t g).2
    (x.1.2 = .ok () ∧ g'.completions[k]? = some ((termsFor g q t).completion false) ∧
        Untouched k g' ∨
      ∃ time r', Settled k (termsFor g q t) time r' g') ∧
    ∀ f, x.1.2 = .error f → x.2.answers k = [] →
      Settled k (termsFor g q t) x.2.clock (some .serverError) g' := by
  intro k x g'
  have hrest : Phase.Resting k (termsFor g q t) x.2 := handOver_resting b d q r t h
  have hk : x.1.1 = k := by
    show (handOver (b.within d) q r t g).1.1 = k
    rw [handOver_eq]
  have hg' : g' = _ := dispatch_snd (b.within d) q r t g
  rw [show (handOver (b.within d) q r t g).1.1 = k from hk] at hg'
  cases hx : x.1.2 with
  | ok u =>
    rw [show (handOver (b.within d) q r t g).1.2 = .ok u from hx] at hg'
    rw [hg']
    refine ⟨?_, fun f hf => by cases hf⟩
    rcases hrest with hu | hs
    · exact .inl ⟨rfl, hu⟩
    · exact .inr hs
  | error f =>
    -- the dispatcher calls the completion itself: the first call if nobody was before it
    rw [show (handOver (b.within d) q r t g).1.2 = .error f from hx] at hg'
    have hnote := (concerns_phase k).keeps_notify (keep_phase b d k)
      (.resting (termsFor g q t)) (.handlerFailed f) x.2 ⟨hrest, trivial⟩
    rcases hnote.1 with ⟨hc, hu⟩ | ⟨time, r', hs⟩
    · have hs := settled_of_answer b d hc hu (some .serverError) 0 (.give ())
      rw [hg']
      exact ⟨.inr ⟨_, _, hs⟩, fun _ _ _ => hs⟩
    · have hagain := answer_again (keep_phase b d k) ⟨Phase.is_underway_iff.mpr hs, trivial⟩
        (some .serverError)
      rw [hg']
      refine ⟨.inr ⟨time, r', Phase.is_underway_iff.mp hagain.1⟩, fun _ _ ha => ?_⟩
      have hhead := hs.2.1
      have hnil : ((notify (.handlerFailed f) x.2).2).answers k = [] := ha
      rw [show ((notify (.handlerFailed f) x.2).2.shown).answers k = [] from hnil] at hhead
      cases hhead

end

/-- A request that was dispatched is answered exactly once, however its completion is called.

At every moment of every run, a completion has given its receiver at most one response and its
reporter at most one record.  Whoever calls a completion first finds it settled when the call
returns, and settled it stays, whatever anyone does.  A dispatch leaves its completion settled if
the handler called it or failed, with a server error if it failed before any call.  When a run is
over, every completion is as it was made or settled.  The one response is what the first call gave,
or a 500 without header fields and body in its place, with the elapsed time in it. -/
theorem answered_exactly_once (b : Behaviours σ) (n : Nat) (user : Behaviour σ α)
    (fallback : Responder) (reporter : Option Reporter) (header : Bool) (clock : Int) (own : σ) :
    let g₀ := Gateway.fresh fallback reporter header clock own
    (∀ m ∈ b.moments n user g₀, ∀ k,
      ((m.gateway.responses k).length ≤ 1 ∧ (m.gateway.records k).length ≤ 1) ∧
      ∀ K, m.gateway.completions[k]? = some K → ∃ o fired, K = Terms.completion o fired ∧
        (m.gateway.answers k = [] → ∀ d r d' (u : Behaviour σ β), Settled k o m.gateway.clock r
          (u.run (b.within d') (answer (b.within d) (.completion k) r m.gateway).2).2)) ∧
    (∀ m ∈ b.moments n user g₀, ∀ d q r t,
      let k := m.gateway.completions.length
      let o := termsFor m.gateway q t
      let x := handOver (b.within d) q r t m.gateway
      let g := (dispatch (b.within d) (some q) r t m.gateway).2
      (x.1.2 = .ok () ∧ g.completions[k]? = some (o.completion false) ∧ Untouched k g ∨
        ∃ time r', Settled k o time r' g) ∧
      ∀ f, x.1.2 = .error f → x.2.answers k = [] →
        Settled k o x.2.clock (some .serverError) g) ∧
    (∀ k, let g := (user.run (b.within n) g₀).2
      ∀ K, g.completions[k]? = some K → ∃ o, K = Terms.completion o false ∧ Untouched k g ∨
        ∃ time r, Settled k o time r g) ∧
    ∀ (o : Terms) time (r : Option Response),
      (r.getD { status := 500, headers := {}, body := "" }).Timed
        (time - o.dispatch.request.receivedAt) o.header (o.response time r) := by
  intro g₀
  have hfresh (k : CompletionId) : Phase.Is k g₀.shown .idle :=
    .inl ⟨Nat.zero_le k, rfl, rfl, rfl⟩
  have hmoment (k : CompletionId) := (enduring_phase k).moments b n user (hfresh k)
  refine ⟨fun m hm k => ?_, fun m hm d q r t => ?_, fun k => ?_, Terms.timed_response⟩
  · obtain ⟨p, hp⟩ := hmoment k m hm
    refine ⟨at_most_once hp, fun K hK => ?_⟩
    obtain ⟨o, fired, rfl⟩ := exists_terms hp hK
    refine ⟨o, fired, rfl, fun ha d r d' u => ?_⟩
    obtain ⟨hc, hu⟩ := untouched_of_unanswered hp hK ha
    exact settled_of_answer b d hc hu r d' u
  · obtain ⟨p, hp⟩ := hmoment m.gateway.completions.length m hm
    exact settled_of_dispatch b d q r t (idle_of_length_le hp (Nat.le_refl _))
  · intro g K hK
    have hend : Phase.Is k g .idle := (enduring_phase k).run b n user (hfresh k)
    rcases hend with ⟨hlen, -⟩ | ⟨o, h⟩
    · rw [List.getElem?_eq_none hlen] at hK
      cases hK
    · refine ⟨o, h.imp (fun ⟨hc, hu⟩ => ⟨?_, hu⟩) id⟩
      rw [hK, Option.some.injEq] at hc
      exact hc

/-- The handler answers and then fails; the reporter and the receiver answer again. -/
def insistent : Behaviours Unit where
  build api := do
    return some (← .require (.create (.create api.contextPath api.virtualHost .outside)))
  call
    | .handle _ _ r done => do
      Behaviour.require (.answer done (some { r with status := 201 }))
      Behaviour.fail .foreign
    | .record .. => do
      Behaviour.require (.answer (.completion 0) none)
      Behaviour.fail (.failed "disk full")
    | .respond .. => .require (.answer (.completion 0) (some { status := 418 }))
    | _ => .give ()

/-- The dispatcher is the last of four to call the completion. -/
theorem answered_exactly_once_insistent :
    let q : Request := { id := "r1", path := "/shop/cart", receivedAt := -7000000 }
    let user : Behaviour Unit Unit := do
      Behaviour.require (.deploy { id := "shop", contextPath := "/shop" })
      Behaviour.require (.dispatch (some q) none (some 0))
    let g := (user.run (insistent.within 3)
      (.fresh .notFound (some (.outside 0)) true 0 ())).2
    (g.answers 0).map (·.2.map (·.status)) = [some 201, none, some 418, some 500] ∧
      ∃ final : Response, g.responses 0 = [(some 0, some final)] ∧ final.status = 201 ∧
        final.headers.get? "x-gatehouse-response-time" = some "7" ∧
        g.records 0 = [(.outside 0, Dispatch.record ⟨q, "", "/shop/"⟩ final)] := by
  intro q user g
  let o : Terms := ⟨⟨q, "", "/shop/"⟩, some (.outside 0), true, some 0⟩
  obtain ⟨hanswers, hfirst, hK⟩ :
      (g.answers 0).map (·.2.map (·.status)) = [some 201, none, some 418, some 500] ∧
        (g.answers 0).head? = some (0, some { status := 201 }) ∧
        g.completions[0]? = some (o.completion true) := by
    decide +kernel
  obtain ⟨-, -, hend, htimed⟩ := answered_exactly_once (β := Unit) insistent 3 user .notFound
    (some (.outside 0)) true 0 ()
  obtain ⟨o', ⟨hfalse, -⟩ | ⟨time, r, hc, hhead, hresponses, hrecords⟩⟩ := hend 0 _ hK
  · cases (Phase.completion_inj hfalse).2
  · obtain ⟨rfl, -⟩ := Phase.completion_inj (Option.some.inj (hK.symm.trans hc))
    obtain ⟨rfl, rfl⟩ := Prod.mk.inj (Option.some.inj (hfirst.symm.trans hhead))
    have h := htimed o 0 (some { status := 201 })
    exact ⟨hanswers, _, hresponses, h.status,
      (h.field rfl (Headers.ordered_ofList [])).found _ (by decide +kernel), hrecords⟩

end Run
end ApiGateway
