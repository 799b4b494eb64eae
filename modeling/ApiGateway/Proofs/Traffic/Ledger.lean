import ApiGateway.Proofs.Run.Keeps
import ApiGateway.Proofs.Run.Dispatch

/-!
# The ledger of requests

The gateway hands a request over once a target is selected and a completion is made for it.  The
ledger lists what it has handed over, next to the count of completions and the count of misses.

* `Gateway.ledger`      the ledger, read off the journal and the two counts;
* `Ledger.book`         one more request is handed over;
* `ledger_noted`        a dispatch books its request before the handler is called;
* `enduring_ledger`     operations and collaborators do no more to the ledger than book requests.
-/

namespace ApiGateway

variable {σ τ α : Type}

/-- The call of a target on behalf of the gateway. -/
structure Handover where
  completion : CompletionId
  target : Target
  request : Request
  response : Response
deriving DecidableEq, Repr, Inhabited

def Entry.handover? : Entry → Option Handover
  | call .gateway (.handle t q r (.completion k)) => some ⟨k, t, q, r⟩
  | _ => none

structure Ledger where
  made : Nat
  missed : Nat
  /-- Oldest first. -/
  handovers : List Handover
deriving DecidableEq, Repr, Inhabited

namespace Ledger

variable (L : Ledger)

/-- One more request is handed over, with a completion of its own. -/
def book (t : Target) (q : Request) (r : Response) : Ledger where
  made := L.made + 1
  missed := L.missed + if t = .fallback then 1 else 0
  handovers := L.handovers ++ [⟨L.made, t, q, r⟩]

/-- What was handed over with a completion. -/
def ofCompletion (k : CompletionId) : List Handover :=
  L.handovers.filter (·.completion = k)

/-- As many requests were missed as the fallback got, and every completion belongs to one
handover. -/
structure Sound : Prop where
  missed : L.missed = L.handovers.countP (·.target = .fallback)
  each : L.handovers.map (·.completion) = List.range L.made

variable {L}

theorem Sound.book (h : L.Sound) (t : Target) (q : Request) (r : Response) :
    (L.book t q r).Sound := by
  refine ⟨?_, ?_⟩
  · show L.missed + _ = (L.handovers ++ [_]).countP _
    rw [h.missed, List.countP_append, List.countP_singleton]
    simp
  · show (L.handovers ++ [_]).map _ = List.range (L.made + 1)
    rw [List.map_append, h.each, List.range_succ]
    rfl

theorem Sound.lt_made (h : L.Sound) {x : Handover} (hx : x ∈ L.handovers) :
    x.completion < L.made := by
  have hmem : x.completion ∈ L.handovers.map (·.completion) := List.mem_map_of_mem hx
  rw [h.each] at hmem
  exact List.mem_range.mp hmem

theorem Sound.ofCompletion_made (h : L.Sound) : L.ofCompletion L.made = [] := by
  unfold ofCompletion
  rw [List.filter_eq_nil_iff]
  intro x hx heq
  exact Nat.ne_of_lt (h.lt_made hx) (of_decide_eq_true heq)

theorem ofCompletion_book (t : Target) (q : Request) (r : Response) :
    (L.book t q r).ofCompletion L.made = L.ofCompletion L.made ++ [⟨L.made, t, q, r⟩] := by
  unfold ofCompletion book
  rw [List.filter_append]
  simp

theorem ofCompletion_book_of_lt {k : CompletionId} (hk : k < L.made) (t : Target) (q : Request)
    (r : Response) : (L.book t q r).ofCompletion k = L.ofCompletion k := by
  unfold ofCompletion book
  rw [List.filter_append]
  simp [Nat.ne_of_gt hk]

end Ledger

def Gateway.ledger (g : Gateway σ) : Ledger where
  made := g.completions.length
  missed := g.dispatcher.stats.notFound
  handovers := (g.journal.filterMap Entry.handover?).reverse

namespace Run

/-! ### A dispatch -/

theorem ledger_write (e : Entry) (g : Gateway σ) : (write e g).2.ledger =
    { g.ledger with handovers := g.ledger.handovers ++ e.handover?.toList } :=
  congrArg (Ledger.mk g.completions.length g.dispatcher.stats.notFound)
    (filterMap_write Entry.handover? e g)

theorem ledger_write_spare {e : Entry} (he : e.handover? = none) (g : Gateway σ) :
    (write e g).2.ledger = g.ledger := by
  rw [ledger_write, he, Option.toList_none, List.append_nil]

theorem ledger_fire (k : CompletionId) (g : Gateway σ) : (fire k g).2.ledger = g.ledger := by
  have hlen : (fire k g).2.completions.length = g.completions.length := List.length_modify _ _ _
  exact congrArg (Ledger.mk · g.dispatcher.stats.notFound _) hlen

theorem ledger_looked (path host : String) (g : Gateway σ) :
    (looked path host g).ledger = g.ledger := by
  unfold looked
  by_cases h : !g.table.routes.entries.isEmpty
  · rw [if_pos h]
    exact ledger_write_spare rfl g
  · rw [if_neg h]

theorem ledger_prepared (q : Request) (t : Option Nat) (g : Gateway σ) :
    (prepared q g t).ledger = { g.ledger with
      made := g.ledger.made + 1
      missed := g.ledger.missed + if g.target q.path q.host = .fallback then 1 else 0 } := by
  have hmade : (prepared q g t).completions.length = g.completions.length + 1 := by
    rw [completions_prepared, List.length_append]
    rfl
  have hmissed : (prepared q g t).dispatcher.stats.notFound =
      g.dispatcher.stats.notFound + if g.target q.path q.host = .fallback then 1 else 0 := by
    unfold prepared Gateway.target
    rw [chosen_eq]
    cases g.selected q.path q.host <;> rfl
  have hhanded : (prepared q g t).ledger.handovers = g.ledger.handovers := by
    rw [← ledger_looked q.path q.host g]
    unfold prepared
    rw [chosen_eq]
    rfl
  show Ledger.mk _ _ (prepared q g t).ledger.handovers = _
  rw [hmade, hmissed, hhanded]
  rfl

theorem ledger_noted (q : Request) (r : Option Response) (t : Option Nat) (g : Gateway σ) :
    (noted q r t g).ledger = g.ledger.book (g.target q.path q.host) q (r.getD {}) := by
  have hoffered : (offered q t g).ledger = { g.ledger with
      made := g.ledger.made + 1
      missed := g.ledger.missed + if g.target q.path q.host = .fallback then 1 else 0 } :=
    ledger_prepared q t (notify (.receiving q.id q.path) (countDispatched g).2).2
  unfold noted
  rw [ledger_write, hoffered]
  rfl

/-! ### All operations -/

variable {ι : Type} {Q : ι → Ledger → Prop} {O : τ → Prop} {c : Collaborators τ}

theorem ofTraffic_ledger (i : ι) : OfTraffic fun g => Q i g.ledger := by
  intro g g' hj hc hm hg
  have heq : g'.ledger = g.ledger := by
    unfold Gateway.ledger
    rw [hj, hc, hm]
  rwa [heq]

theorem keeps_write_ledger (i : ι) {e : Entry} (he : e.handover? = none) :
    Keeps (Both (fun g => Q i g.ledger) O) (write e) := by
  rintro g ⟨hg, ho⟩
  refine ⟨?_, ho⟩
  show Q i (write e g.shown).2.ledger
  rwa [ledger_write_spare he]

theorem atoms_ledger (i : ι) : Atoms (Holding (Both (fun g => Q i g.ledger) O)) :=
  atoms_of_traffic (ofTraffic_ledger i)

section
variable (hc : ∀ i, c.Keep (Both (fun g => Q i g.ledger) O)) (i : ι)
include hc

theorem tolerates_ledger :
    Tolerates (Holding (Both (fun g => Q i g.ledger) O)) (·.handover? = none) c c :=
  (hc i).tolerates (fun _ => rfl) fun _ he => keeps_write_ledger i he

theorem alike_report_ledger (o : Origin) (rep : Reporter) (r : AccessRecord) :
    Alike (Holding (Both (fun g => Q i g.ledger) O)) (report c o rep r) (report c o rep r) := by
  have hreports (o : Origin) :
      Reports (Holding (Both (fun g => Q i g.ledger) O)) (·.handover? = none) o :=
    .of_free (tolerates_ledger hc i).toJournals (alike_countAt_of_traffic (ofTraffic_ledger i))
      fun _ _ => by cases o <;> rfl
  exact Alike.report (tolerates_ledger hc i) (fun _ _ => hreports _) (hreports o) rep r

theorem alike_answer_ledger (done : Callback) (r : Option Response) :
    Alike (Holding (Both (fun g => Q i g.ledger) O)) (answer c done r) (answer c done r) := by
  have hfire (k : CompletionId) : Keeps (Both (fun g => Q i g.ledger) O) (fire k) := by
    rintro g ⟨hg, ho⟩
    refine ⟨?_, ho⟩
    show Q i (fire k g.shown).2.ledger
    rwa [ledger_fire]
  refine Alike.reply (tolerates_ledger hc i) ⟨fun _ _ _ => rfl, fun o _ _ => ?_⟩
    (fun _ => alike_report_ledger hc i _) (fun k => (hfire k).alike) done r
  cases o <;> rfl

theorem keeps_undertake_ledger (q : Request) (r : Response) (p : Target × CompletionId) :
    Keeps (Both (fun g => Q i g.ledger) O) (undertake c q r p) :=
  (Alike.undertake (tolerates_ledger hc i) q r p (alike_answer_ledger hc i _)).keeps

/-- A dispatch books its request, and then no more than other operations do. -/
theorem alike_dispatch_ledger (hQ : ∀ i L t q r, Q i L → Q i (Ledger.book L t q r))
    (q : Option Request) (r : Option Response) (t : Option Nat) :
    Alike (Holding (Both (fun g => Q i g.ledger) O)) (dispatch c q r t) (dispatch c q r t) := by
  cases q with
  | none =>
    have T := tolerates_ledger hc i
    have hcount : Keeps (Both (fun g => Q i g.ledger) O) countDispatched := fun _ hg => hg
    refine Alike.bind hcount.alike fun _ => Alike.bind (T.notify _) fun _ => ?_
    exact Alike.ite (Alike.respond T (fun _ _ => rfl) t _) (Alike.pure _)
  | some q =>
    refine Keeps.alike fun g hg => ?_
    -- between the count of misses and the entry for the target the books do not balance
    have hnoted : Both (fun g => Q i g.ledger) O (noted q r t g) := by
      refine ⟨?_, ?_⟩
      · show Q i (noted q r t g).ledger
        rw [ledger_noted]
        exact hQ i _ _ _ _ hg.1
      · rw [own_noted]
        exact hg.2
    rw [dispatch_undertake]
    exact keeps_undertake_ledger hc i q (r.getD {}) _ _ hnoted

/-- What booking keeps is kept by all operations. -/
theorem keeps_perform_ledger (hQ : ∀ i L t q r, Q i L → Q i (Ledger.book L t q r)) (a : Action) :
    Keeps (Both (fun g => Q i g.ledger) O) (perform c a) := by
  have T := tolerates_ledger hc i
  exact (Atoms.perform T (atoms_ledger i) (fun _ _ _ => rfl) (fun _ => rfl) (fun _ _ _ => rfl)
    (alike_report_ledger hc i .outside)
    (fun t q r done => Alike.serve T rfl (alike_answer_ledger hc i done))
    (alike_answer_ledger hc i) a fun q r t _ => alike_dispatch_ledger hc i hQ q r t).keeps

end

theorem enduring_ledger (hQ : ∀ i L t q r, Q i L → Q i (Ledger.book L t q r)) :
    Enduring fun i g => Q i g.ledger where
  note i fields g hg := by
    show Q i (write (.note fields) g).2.ledger
    rwa [ledger_write_spare rfl]
  perform O c hc a i := keeps_perform_ledger hc i hQ a

end Run
end ApiGateway
