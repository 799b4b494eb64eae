import ApiGateway.Proofs.Access.Counted
import ApiGateway.Proofs.Completion.Boundary
import ApiGateway.Proofs.Route.Keyed
import ApiGateway.Proofs.Route.Selection

/-!
# A dispatcher and its reporting service count alike

A dispatcher counts a request as missed when it selects the fallback, its reporting service when it
gets a record with status 404 and no context path.  In between, the fallback answers, and nobody
else is called.

* `Gateway.Reserved`      completions alone give records to the service;
* `Agreement s owed g`    what the service got is what completions were answered with, and what
  was missed but for the record that is still owed;
* `offered_agreement`, `Agreement.settle`   a dispatch to the fallback owes a record, and its first
  answer pays;
* `enduring_agreement`    when a collaborator is called, nothing is owed.
-/

namespace ApiGateway

variable {σ τ : Type}

/-- Someone who is no completion gives a record to the service. -/
def Entry.trespasses (s : Nat) : Entry → Bool
  | call (.completion _) _ => false
  | call _ (.record (.service s') _) => s' == s
  | _ => false

/-- Completions alone have given records to the service. -/
def Gateway.Reserved (s : Nat) (g : Gateway σ) : Prop :=
  ∀ e ∈ g.journal, e.trespasses s = false

theorem Gateway.Reserved.of_write {s : Nat} {e : Entry} {g : Gateway σ}
    (h : (Run.write e g).2.Reserved s) : g.Reserved s :=
  fun e he => h e (List.mem_cons_of_mem _ he)

structure Agreement (s : Nat) (owed : Option CompletionId) (g : Gateway σ) : Prop where
  fallback : g.dispatcher.fallback = .notFound
  reporter : g.dispatcher.reporter = some (.service s)
  /-- Who is still to be answered has a handler, or is owed the record of a miss. -/
  completions : ∀ k K, g.completions[k]? = some K → ∃ o fired, K = Terms.completion o fired ∧
    o.reporter = some (.service s) ∧
    (fired = false → o.dispatch.contextPath = "" → owed = some k)
  records : g.Reserved s → (g.recordsAt s).length = g.completions.countP (·.fired)
  notFound : g.Reserved s →
    (g.recordsAt s).countP (·.isNotFound) + owed.toList.length = g.dispatcher.stats.notFound

/-- The entry is no record that a completion gives to the service. -/
def Entry.Unpaid (s : Nat) (e : Entry) : Prop :=
  ∀ k r, e ≠ .call (.completion k) (.record (.service s) r)

namespace Entry

variable (s : Nat)

theorem unpaid_notice (n : Notice) : (notice n).Unpaid s := fun _ _ => nofun

theorem unpaid_answer (k : CompletionId) (t : Int) (r : Option Response) :
    (answer k t r).Unpaid s := fun _ _ => nofun

theorem unpaid_respond (o : Origin) (t : Option Nat) (r : Option Response) :
    (call o (.respond t r)).Unpaid s := fun _ _ => nofun

variable {s}

/-- Such an entry is a record for the service only if someone trespasses. -/
theorem Unpaid.recordAt?_eq_none {e : Entry} (he : e.Unpaid s) (hown : e.trespasses s = false) :
    e.recordAt? s = none := by
  cases hrec : e.recordAt? s with
  | none => rfl
  | some r =>
    obtain ⟨o, rfl⟩ := eq_of_recordAt? hrec
    have hself : (s == s) = true := beq_self_eq_true s
    cases o with
    | completion k => exact absurd rfl (he k r)
    | gateway | outside | service s' n => cases hself.symm.trans hown

end Entry

namespace Agreement

variable {s : Nat} {owed : Option CompletionId} {g : Gateway σ}

theorem congr {g' : Gateway τ} (h : Agreement s owed g) (hset : g.settings = g'.settings)
    (hj : g.journal = g'.journal) (hc : g.completions = g'.completions)
    (hm : g.dispatcher.stats.notFound = g'.dispatcher.stats.notFound) : Agreement s owed g' := by
  obtain ⟨hf, hr, hk, hrec, hnot⟩ := h
  have hfallback : g.dispatcher.fallback = g'.dispatcher.fallback := congrArg (·.1) hset
  have hreporter : g.dispatcher.reporter = g'.dispatcher.reporter := congrArg (·.2.1) hset
  have hreserved : g'.Reserved s → g.Reserved s := fun h e he => h e (hj ▸ he)
  have hrecords : g'.recordsAt s = g.recordsAt s := by
    unfold Gateway.recordsAt
    rw [hj]
  refine ⟨hfallback ▸ hf, hreporter ▸ hr, hc ▸ hk, fun h => ?_, fun h => ?_⟩
  · rw [hrecords, ← hc]
    exact hrec (hreserved h)
  · rw [hrecords, ← hm]
    exact hnot (hreserved h)

theorem write (h : Agreement s owed g) {e : Entry} (he : e.Unpaid s) :
    Agreement s owed (Run.write e g).2 := by
  have hspare (hres : (Run.write e g).2.Reserved s) : (Run.write e g).2.recordsAt s =
      g.recordsAt s :=
    Gateway.recordsAt_write_spare g (he.recordAt?_eq_none (hres e List.mem_cons_self))
  refine ⟨h.fallback, h.reporter, h.completions, fun hres => ?_, fun hres => ?_⟩
  · rw [hspare hres]
    exact h.records hres.of_write
  · rw [hspare hres]
    exact h.notFound hres.of_write

theorem notify (h : Agreement s owed g) (n : Notice) : Agreement s owed (Run.notify n g).2 :=
  h.write (Entry.unpaid_notice s n)

end Agreement

/-! ### A completion is called for the first time -/

theorem countP_fired_fire {k : CompletionId} {o : Terms} {g : Gateway σ}
    (hK : g.completions[k]? = some (o.completion false)) :
    (Run.fire k g).2.completions.countP (·.fired) = g.completions.countP (·.fired) + 1 := by
  obtain ⟨hlt, hget⟩ := List.getElem?_eq_some_iff.mp hK
  obtain ⟨before, K, after, hsplit, hlen, hmod⟩ :=
    List.exists_of_modify (fun K : Completion => { K with fired := true }) hlt
  have hKeq : K = o.completion false := by
    rw [← hget]
    simp [hsplit, ← hlen]
  show (g.completions.modify k _).countP _ = _
  rw [hmod, hsplit, List.countP_append, List.countP_append, List.countP_cons, List.countP_cons,
    hKeq]
  simp [Terms.completion]
  omega

namespace Agreement

variable {s : Nat} {owed : Option CompletionId} {g : Gateway σ}

/-- The record of a first call pays what is owed, if it is owed by the completion that is called. -/
theorem settle (h : Agreement s owed g) {k : CompletionId} {o : Terms} {r : AccessRecord}
    (hK : g.completions[k]? = some (o.completion false)) (howed : ∀ k', owed = some k' → k' = k)
    (hr : r.isNotFound = owed.isSome) :
    Agreement s none (Run.write (.call (.completion k) (.record (.service s) r))
      (Run.fire k g).2).2 := by
  have hrecords : (Run.write (.call (.completion k) (.record (.service s) r))
      (Run.fire k g).2).2.recordsAt s = g.recordsAt s ++ [r] := by
    rw [Gateway.recordsAt_write]
    simp only [Entry.recordAt?, if_pos, Option.toList_some]
    rfl
  refine ⟨h.fallback, h.reporter, fun k' K hK' => ?_, fun hres => ?_, fun hres => ?_⟩
  · have hmod : (g.completions[k']?.map fun K : Completion =>
        if k = k' then { K with fired := true } else K) = some K := by
      have h' : (g.completions.modify k ({ · with fired := true }))[k']? = some K := hK'
      rw [List.getElem?_modify] at h'
      exact h'
    obtain ⟨K₀, hK₀, rfl⟩ := Option.map_eq_some_iff.mp hmod
    obtain ⟨o', fired, rfl, hrep, hblank⟩ := h.completions k' K₀ hK₀
    by_cases heq : k = k'
    · rw [if_pos heq]
      exact ⟨o', true, rfl, hrep, fun hf => by cases hf⟩
    · rw [if_neg heq]
      refine ⟨o', fired, rfl, hrep, fun hf hpath => ?_⟩
      exact absurd (howed k' (hblank hf hpath)).symm heq
  · have hres' : g.Reserved s := hres.of_write
    rw [hrecords, List.length_append, h.records hres']
    exact (countP_fired_fire hK).symm
  · have hres' : g.Reserved s := hres.of_write
    have hbefore := h.notFound hres'
    rw [hrecords, List.countP_append, List.countP_singleton, hr]
    show _ = g.dispatcher.stats.notFound
    rw [← hbefore]
    cases owed <;> rfl

/-- A completion is an earlier one, or the one that was just made. -/
theorem getElem?_wrap {new K : Completion} {k : CompletionId}
    (hK : (Run.wrap new g).2.completions[k]? = some K) :
    g.completions[k]? = some K ∨ k = g.completions.length ∧ K = new := by
  replace hK : (g.completions ++ [new])[k]? = some K := hK
  rcases Nat.lt_or_ge k g.completions.length with hlt | hge
  · rw [List.getElem?_append_left hlt] at hK
    exact .inl hK
  · rw [List.getElem?_append_right hge, List.getElem?_singleton] at hK
    by_cases hk : k - g.completions.length = 0
    · rw [if_pos hk, Option.some.injEq] at hK
      exact .inr ⟨Nat.le_antisymm (Nat.sub_eq_zero_iff_le.mp hk) hge, hK.symm⟩
    · rw [if_neg hk] at hK
      cases hK

/-- A completion is made for a request that has a handler. -/
theorem wrap (h : Agreement s none g) {o : Terms} (hrep : o.reporter = some (.service s))
    (hpath : o.dispatch.contextPath ≠ "") :
    Agreement s none (Run.wrap (o.completion false) g).2 := by
  refine ⟨h.fallback, h.reporter, fun k K hK => ?_, fun hres => ?_, h.notFound⟩
  · rcases getElem?_wrap hK with hold | ⟨-, rfl⟩
    · exact h.completions k K hold
    · exact ⟨o, false, rfl, hrep, fun _ h' => absurd h' hpath⟩
  · show _ = (g.completions ++ [o.completion false]).countP _
    rw [List.countP_append]
    exact h.records hres

/-- A completion is made for a request that the fallback gets. -/
theorem wrap_missed (h : Agreement s none g) {o : Terms}
    (hrep : o.reporter = some (.service s)) :
    Agreement s (some g.completions.length)
      (Run.wrap (o.completion false) (Run.countMissed g).2).2 := by
  refine ⟨h.fallback, h.reporter, fun k K hK => ?_, fun hres => ?_, fun hres => ?_⟩
  · rcases getElem?_wrap hK with hold | ⟨hlast, rfl⟩
    · obtain ⟨o', fired, hKeq, hrep', hblank⟩ := h.completions k K hold
      exact ⟨o', fired, hKeq, hrep', fun hf hpath => by cases hblank hf hpath⟩
    · exact ⟨o, false, rfl, hrep, fun _ _ => congrArg some hlast.symm⟩
  · show _ = (g.completions ++ [o.completion false]).countP _
    rw [List.countP_append]
    exact h.records hres
  · have hbefore := h.notFound hres
    show _ = g.dispatcher.stats.notFound + 1
    rw [← hbefore]
    rfl

end Agreement

namespace Run

/-! ### Operations -/

/-- The routes are in order, and nothing is owed. -/
def InOrder (s : Nat) (g : Gateway σ) : Prop :=
  (g.Keyed ∧ g.Rooted) ∧ Agreement s none g

section
variable {s : Nat} {g : Gateway σ}

theorem Agreement.looked {owed : Option CompletionId} (h : Agreement s owed g)
    (path host : String) : Agreement s owed (looked path host g) := by
  unfold Run.looked
  by_cases hempty : !g.table.routes.entries.isEmpty
  · rw [if_pos hempty]
    exact h.notify _
  · rw [if_neg hempty]
    exact h

theorem inOrder_shown : InOrder s g.shown ↔ InOrder s g :=
  ⟨fun ⟨⟨hkeyed, hrooted⟩, hagree⟩ =>
      ⟨⟨hkeyed.congr rfl rfl, hrooted⟩, hagree.congr rfl rfl rfl rfl⟩,
    fun ⟨⟨hkeyed, hrooted⟩, hagree⟩ =>
      ⟨⟨hkeyed.congr rfl rfl, hrooted⟩, hagree.congr rfl rfl rfl rfl⟩⟩

/-- A route of a handler is never on an empty path. -/
theorem contextPath_ne_of_selected (hk : g.Keyed) (hr : g.Rooted) {path host : String}
    {h : HandlerId} (hsel : g.selected path host = some h) : (g.handler h).contextPath ≠ "" := by
  obtain ⟨e, he, rfl⟩ := Option.map_eq_some_iff.mp hsel
  have hmem : e ∈ g.table.routes.entries := Routes.mem_of_select? he
  intro hempty
  have hvalid := hr e hmem
  rw [hk.path e hmem, hempty] at hvalid
  revert hvalid
  decide

/-- Before its handler is called, a request has a completion that reports to the service. -/
theorem offered_agreement (h : InOrder s g) {q : Request} {hid : HandlerId}
    (hsel : g.selected q.path q.host = some hid) (t : Option Nat) :
    Agreement s none (offered q t g) := by
  obtain ⟨⟨hkeyed, hrooted⟩, hagree⟩ := h
  let x := (notify (.receiving q.id q.path) (countDispatched g).2).2
  have hcount : Agreement s none (countDispatched g).2 := hagree.congr rfl rfl rfl rfl
  have hx : Agreement s none x := hcount.notify _
  have hsel' : x.selected q.path q.host = some hid := hsel
  show Agreement s none (wrap ((termsFor x q t).completion false) (chosen q x)).2
  unfold chosen
  rw [hsel', if_pos Option.isSome_some]
  refine (Agreement.looked hx q.path q.host).wrap hx.reporter ?_
  show (x.dispatchFor q).contextPath ≠ ""
  unfold Gateway.dispatchFor
  rw [hsel']
  exact contextPath_ne_of_selected hkeyed hrooted hsel

/-- For a request that the fallback gets, the service is owed a record. -/
theorem offered_owes (h : InOrder s g) {q : Request} (hsel : g.selected q.path q.host = none)
    (t : Option Nat) : Agreement s (some g.completions.length) (offered q t g) := by
  obtain ⟨-, hagree⟩ := h
  let x := (notify (.receiving q.id q.path) (countDispatched g).2).2
  have hcount : Agreement s none (countDispatched g).2 := hagree.congr rfl rfl rfl rfl
  have hx : Agreement s none x := hcount.notify _
  have hsel' : ¬ (x.selected q.path q.host).isSome = true := by
    show ¬ (g.selected q.path q.host).isSome = true
    rw [hsel]
    nofun
  have hlen : (looked q.path q.host x).completions = g.completions := by
    rw [looked_eq]
    rfl
  show Agreement s _ (wrap ((termsFor x q t).completion false) (chosen q x)).2
  unfold chosen
  rw [if_neg hsel', ← hlen]
  exact (Agreement.looked hx q.path q.host).wrap_missed hx.reporter

end

section
variable {s : Nat} {O : τ → Prop} {c : Collaborators τ}
  (hc : c.Keep (Both (InOrder s) O))
include hc

omit hc in
theorem alike_inOrder {α : Type} {f : Gateway τ → α × Gateway τ}
    (h : ∀ g, g.handlers = (f g).2.handlers ∧ g.table = (f g).2.table ∧
      g.settings = (f g).2.settings ∧ g.journal = (f g).2.journal ∧
      g.completions = (f g).2.completions ∧
      g.dispatcher.stats.notFound = (f g).2.dispatcher.stats.notFound ∧ g.own = (f g).2.own) :
    Alike (Holding (Both (InOrder s) O)) (f : Run τ α) f := by
  refine Keeps.alike fun g ⟨⟨⟨hkeyed, hrooted⟩, hagree⟩, hO⟩ => ?_
  obtain ⟨hh, ht, hset, hj, hk, hm, ho⟩ := h g
  refine ⟨⟨⟨hkeyed.congr hh.symm (ht ▸ rfl), fun e he => hrooted e ?_⟩,
    hagree.congr hset hj hk hm⟩, ho ▸ hO⟩
  have he' : e ∈ (f g).2.table.routes.entries := he
  rwa [← ht] at he'

omit hc in
theorem keeps_inOrder_write {e : Entry} (he : e.Unpaid s) :
    Keeps (Both (InOrder s) O) (write e) := by
  rintro g ⟨⟨⟨hkeyed, hrooted⟩, hagree⟩, hO⟩
  exact ⟨⟨⟨hkeyed.congr rfl rfl, hrooted⟩, hagree.write he⟩, hO⟩

omit hc in
theorem alike_countAt_inOrder (s' : Nat) (r : AccessRecord) :
    Alike (Holding (Both (InOrder s) O)) (countAt s' r) (countAt s' r) :=
  alike_inOrder fun _ => ⟨rfl, rfl, rfl, rfl, rfl, rfl, rfl⟩

theorem tolerates_inOrder : Tolerates (Holding (Both (InOrder s) O)) (Entry.Unpaid s) c c :=
  hc.tolerates (Entry.unpaid_notice s) fun _ he => keeps_inOrder_write he

/-- Records that completions do not give leave everything in order. -/
theorem reports_inOrder {o : Origin} (ho : ∀ k, o ≠ .completion k) :
    Reports (Holding (Both (InOrder s) O)) (Entry.Unpaid s) o :=
  .of_free (tolerates_inOrder hc).toJournals alike_countAt_inOrder
    fun _ _ k _ h => ho k (Entry.call.inj h).1

/-- A first call pays what its completion owes. -/
theorem answer_pays {g : Gateway τ} {owed : Option CompletionId} {k : CompletionId} {o : Terms}
    {r : Option Response} (hroutes : g.Keyed ∧ g.Rooted) (hagree : Agreement s owed g)
    (hO : O g.own)
    (hK : g.completions[k]? = some (o.completion false))
    (howed : ∀ k', owed = some k' → k' = k)
    (hr : (o.dispatch.record (o.response g.clock r)).isNotFound = owed.isSome) :
    Both (InOrder s) O (answer c (.completion k) r g).2 := by
  have T := tolerates_inOrder hc
  have hrep : o.reporter = some (.service s) := by
    obtain ⟨o', fired, heq, hrep, -⟩ := hagree.completions k _ hK
    rw [(Phase.completion_inj heq).1]
    exact hrep
  let resp := o.response g.clock r
  -- notices apart, all that precedes the record is that the completion is marked
  have hreporting (y : Gateway τ) (hroutes : y.Keyed ∧ y.Rooted) (hagree : Agreement s owed y)
      (hO : O y.own)
      (hK : y.completions[k]? = some (o.completion false)) :
      Both (InOrder s) O (reporting c k o.reporter o.dispatch resp (fire k y).2).2 := by
    have hsettled : Both (InOrder s) O (write (.call (.completion k)
        (.record (.service s) (o.dispatch.record resp))) (fire k y).2).2 :=
      ⟨inOrder_shown.mpr ⟨⟨hroutes.1.congr rfl rfl, hroutes.2⟩, hagree.settle hK howed hr⟩, hO⟩
    have hrelay := (Alike.relay T alike_countAt_inOrder
      (fun _ _ => reports_inOrder hc fun _ => nofun) c.depth (.service s)
      (o.dispatch.record resp)).keeps _ hsettled
    have habsorb (a : Except Fault Unit) : Keeps (Both (InOrder s) O) (absorb o.dispatch a) := by
      cases a with
      | ok u => exact fun g hg => hg
      | error f => exact keeps_inOrder_write (Entry.unpaid_notice s _)
    rw [hrep]
    show Both (InOrder s) O (absorb o.dispatch _ (report c (.completion k) (.service s)
      (o.dispatch.record resp) (fire k y).2).2).2
    unfold report
    rw [reportWithin_eq]
    exact habsorb _ _ hrelay
  have happroach : Both (InOrder s) O (approach c k o r g).2 := by
    have hanswer : Agreement s owed (write (.answer k g.clock r) g).2 :=
      hagree.write (Entry.unpaid_answer s _ _ _)
    cases r with
    | some r =>
      exact hreporting (write (.answer k g.clock (some r)) g).2
        ⟨hroutes.1.congr rfl rfl, hroutes.2⟩ hanswer hO hK
    | none =>
      exact hreporting (notify (.unanswered o.dispatch.request.id)
        (write (.answer k g.clock none) g).2).2
        ⟨hroutes.1.congr rfl rfl, hroutes.2⟩ (hanswer.notify _) hO hK
  have hrespond := (Alike.respond T (Entry.unpaid_respond s (.completion k)) o.receiver
    (some resp)).keeps _ happroach
  rw [answer_unfired c hK]
  generalize respond c (.completion k) o.receiver (some (o.response g.clock r))
    (approach c k o r g).2 = x at hrespond ⊢
  obtain ⟨f | u, g'⟩ := x
  · exact hrespond
  · exact keeps_inOrder_write (Entry.unpaid_notice s _) _ hrespond

theorem keeps_answer_inOrder (done : Callback) (r : Option Response) :
    Keeps (Both (InOrder s) O) (answer c done r) := by
  have T := tolerates_inOrder hc
  intro g hg
  cases done with
  | receiver t => exact (Alike.respond T (Entry.unpaid_respond s .gateway) t r).keeps g hg
  | completion k =>
    cases hK : g.completions[k]? with
    | none =>
      rw [answer_completion, hK]
      exact hg
    | some K =>
      obtain ⟨o, fired, rfl, hrep, hblank⟩ := hg.1.2.completions k K hK
      cases fired with
      | true =>
        -- a later call leaves a notice
        have hanswered : Both (InOrder s) O (write (.answer k g.clock r) g).2 :=
          keeps_inOrder_write (Entry.unpaid_answer s _ _ _) g hg
        have hagain : (((write (.answer k g.clock r) g).2.completions[k]?.map (·.fired)).getD true)
            = true := by
          show ((g.completions[k]?.map (·.fired)).getD true) = true
          rw [hK]
          rfl
        rw [answer_completion, hK]
        show Both (InOrder s) O (pass c k o.receiver (.once o.dispatch.request.id :: _) r _).2
        rw [pass_once, if_pos hagain]
        exact keeps_inOrder_write (Entry.unpaid_notice s _) _ hanswered
      | false =>
        obtain ⟨hroutes, hagree⟩ := inOrder_shown.mp hg.1
        refine answer_pays hc hroutes hagree hg.2 hK nofun ?_
        have hpath : o.dispatch.contextPath ≠ "" := fun h => nomatch hblank rfl h
        show (_ && o.dispatch.contextPath.isEmpty) = false
        rw [Bool.and_eq_false_iff]
        exact .inr (by simpa using hpath)

omit hc in
theorem routes_noted {q : Request} {g : Gateway τ} (hg : g.Keyed ∧ g.Rooted) (r : Option Response)
    (t : Option Nat) : (noted q r t g).Keyed ∧ (noted q r t g).Rooted := by
  have htable : (noted q r t g).table = g.table := by
    rw [noted_eq]
  have hhandlers : (noted q r t g).handlers = g.handlers := by
    rw [noted_eq]
  refine ⟨hg.1.congr hhandlers (congrArg (·.routes.entries) htable), fun e he => ?_⟩
  rw [htable] at he
  exact hg.2 e he

/-- The fallback answers at once, and so pays what is owed for the request. -/
theorem dispatch_missed_inOrder {q : Request} {g : Gateway τ} (hg : Both (InOrder s) O g)
    (hsel : g.selected q.path q.host = none) (r : Option Response) (t : Option Nat) :
    Both (InOrder s) O (dispatch c (some q) r t g).2 := by
  have hin : InOrder s g := inOrder_shown.mp hg.1
  let k := g.completions.length
  let o := termsFor g q t
  let resp := (r.getD {}).asNotFound
  let x := (notify (.unclaimed q.id q.path) (noted q r t g)).2
  have htarget : g.target q.path q.host = .fallback := by
    unfold Gateway.target
    rw [hsel]
  have hroutes := routes_noted hin.1 r t (q := q)
  have hnoted : Agreement s (some k) (noted q r t g) :=
    (offered_owes hin hsel t).write fun _ _ => nofun
  have hK : x.completions[k]? = some (o.completion false) := by
    show (offered q t g).completions[k]? = _
    rw [completions_offered]
    exact List.getElem?_concat_length
  have hrecord : (o.dispatch.record (o.response x.clock (some resp))).isNotFound = true := by
    show (_ && (g.dispatchFor q).contextPath.isEmpty) = true
    unfold Gateway.dispatchFor
    rw [hsel]
    rfl
  have hpaid : Both (InOrder s) O (answer c (.completion k) (some resp) x).2 := by
    refine answer_pays hc ⟨hroutes.1.congr rfl rfl, hroutes.2⟩ (hnoted.notify _) ?_ hK
      (fun _ h => (Option.some.inj h).symm) hrecord
    show O (noted q r t g).own
    rw [own_noted]
    exact hg.2
  have hattend : attend c .fallback q (r.getD {}) (.completion k) (noted q r t g) =
      answer c (.completion k) (some resp) x := by
    unfold attend
    have hfallback : (noted q r t g).responder .fallback = .notFound := hnoted.fallback
    rw [get_bind_apply, hfallback]
    rfl
  rw [dispatch_undertake, htarget]
  unfold undertake
  rw [bind_apply, hattend]
  generalize answer c (.completion k) (some resp) x = y at hpaid ⊢
  obtain ⟨f | u, g'⟩ := y
  · have hfailed : Both (InOrder s) O (notify (.handlerFailed f) g').2 :=
      keeps_inOrder_write (Entry.unpaid_notice s _) g' hpaid
    exact keeps_answer_inOrder hc (.completion k) (some .serverError) _ hfailed
  · exact hpaid

theorem keeps_dispatch_inOrder (q : Option Request) (r : Option Response) (t : Option Nat) :
    Keeps (Both (InOrder s) O) (dispatch c q r t) := by
  have T := tolerates_inOrder hc
  have hanswer (done : Callback) (r : Option Response) :=
    (keeps_answer_inOrder hc done r).alike
  cases q with
  | none =>
    have hcount : Alike (Holding (Both (InOrder s) O)) countDispatched countDispatched :=
      alike_inOrder fun _ => ⟨rfl, rfl, rfl, rfl, rfl, rfl, rfl⟩
    refine (Alike.bind hcount fun _ => Alike.bind (T.notify _) fun _ => ?_).keeps
    exact Alike.ite (Alike.respond T (Entry.unpaid_respond s .gateway) t _) (Alike.pure _)
  | some q =>
    intro g hg
    cases hsel : g.selected q.path q.host with
    | none => exact dispatch_missed_inOrder hc hg hsel r t
    | some hid =>
      have hin : InOrder s g := inOrder_shown.mp hg.1
      have hnoted : Both (InOrder s) O (noted q r t g) := by
        refine ⟨inOrder_shown.mpr ⟨routes_noted hin.1 r t,
          (offered_agreement hin hsel t).write fun _ _ => nofun⟩, ?_⟩
        rw [own_noted]
        exact hg.2
      rw [dispatch_undertake]
      exact (Alike.undertake T q _ _ (hanswer _)).keeps _ hnoted

end

theorem atoms_inOrder {s : Nat} {O : τ → Prop} : Atoms (Holding (Both (InOrder s) O)) := by
  have hagree : Atoms (Holding (Both (Agreement s none) O)) :=
    .of_same fun g g' h hg =>
      ⟨hg.1.congr h.settings h.journal h.completions h.notFound, h.own ▸ hg.2⟩
  have heq : Both (InOrder s) O = fun g => (Both Gateway.Keyed O g ∧ Both Gateway.Rooted O g) ∧
      Both (Agreement s none) O g := by
    funext g
    exact propext ⟨fun ⟨⟨⟨h1, h2⟩, h3⟩, hO⟩ => ⟨⟨⟨h1, hO⟩, h2, hO⟩, h3, hO⟩,
      fun ⟨⟨⟨h1, hO⟩, h2, _⟩, h3, _⟩ => ⟨⟨⟨h1, h2⟩, h3⟩, hO⟩⟩
  rw [heq]
  exact (robust_keyed.toAtoms.and atoms_rooted).and hagree

theorem enduring_agreement (s : Nat) : Enduring fun (_ : Unit) g => InOrder s g where
  note _ fields g hg :=
    ⟨⟨hg.1.1.congr rfl rfl, hg.1.2⟩, hg.2.write fun _ _ => nofun⟩
  perform O c hc a i := by
    have hc' := hc i
    have T := tolerates_inOrder hc'
    have hanswer (done : Callback) (r : Option Response) :=
      (keeps_answer_inOrder hc' done r).alike
    exact (atoms_inOrder.perform T (fun _ _ _ _ _ => nofun) (fun _ _ _ => nofun)
      (fun _ _ _ _ _ => nofun) (Alike.report T (fun _ _ => reports_inOrder hc' fun _ => nofun)
        (reports_inOrder hc' fun _ => nofun))
      (fun _ _ _ done => Alike.serve T (fun _ _ => nofun) (hanswer done)) hanswer a
      fun q r t _ => (keeps_dispatch_inOrder hc' q r t).alike).keeps

end Run
end ApiGateway
