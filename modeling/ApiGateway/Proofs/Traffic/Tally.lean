import ApiGateway.Proofs.Run.Dispatch
import ApiGateway.Proofs.Run.Requests

/-!
# How many requests were dispatched

A dispatch counts its request before anything else, and makes a completion for it unless there is
no request.

* `Tallied`          the dispatched requests are those that were missing and those with a completion;
* `tally_requests`   so it is at every request of every run, and at its end.
-/

namespace ApiGateway

variable {σ α : Type}

namespace Moment

/-- Someone asks to dispatch nothing. -/
def lacksRequest (m : Moment σ) : Bool :=
  match m.asked? with
  | some (.dispatch none _ _) => true
  | _ => false

end Moment

def Tallied (earlier : List (Moment σ)) (g : Gateway σ) : Prop :=
  g.dispatcher.stats.dispatched = earlier.countP Moment.lacksRequest + g.completions.length

namespace Run

theorem alike_tallied {f : Gateway (Watched σ) → α × Gateway (Watched σ)}
    (h : ∀ g, g.own = (f g).2.own ∧
      g.dispatcher.stats.dispatched = (f g).2.dispatcher.stats.dispatched ∧
      g.completions.length = (f g).2.completions.length) :
    Alike (Holding (Since Tallied)) (f : Run (Watched σ) α) f := by
  refine Keeps.alike fun g hg => hg.step (congrArg _ (h g).1.symm) ?_
  obtain ⟨ho, hd, hlen⟩ := h g
  have hnow : g.dispatcher.stats.dispatched = _ + g.completions.length := hg.now
  show (f g).2.dispatcher.stats.dispatched = List.countP _ (f g).2.own.moments + _
  rw [← ho, ← hd, hnow]
  exact congrArg _ hlen

theorem atoms_tallied : Atoms (Holding (Since (Tallied (σ := σ)))) :=
  .of_same fun g g' h hg => by
    refine hg.step (congrArg _ h.own.symm) ?_
    have hnow : g.dispatcher.stats.dispatched = _ + g.completions.length := hg.now
    show g'.dispatcher.stats.dispatched = List.countP _ g'.own.moments + g'.completions.length
    rw [← h.own, ← h.dispatched, ← h.completions]
    exact hnow

section
variable {c : Collaborators (Watched σ)} (hc : c.Keep (Since Tallied))
include hc

theorem tolerates_tallied : Tolerates (Holding (Since Tallied)) (fun _ => True) c c :=
  hc.tolerates (fun _ => trivial) fun _ _ => (alike_tallied fun _ => ⟨rfl, rfl, rfl⟩).keeps

theorem alike_report_tallied (o : Origin) (rep : Reporter) (r : AccessRecord) :
    Alike (Holding (Since Tallied)) (report c o rep r) (report c o rep r) := by
  have hreports (o : Origin) : Reports (Holding (Since Tallied)) (fun _ => True) o :=
    .of_free (tolerates_tallied hc).toJournals (fun _ _ => alike_tallied fun _ => ⟨rfl, rfl, rfl⟩)
      fun _ _ => trivial
  exact Alike.report (tolerates_tallied hc) (fun _ _ => hreports _) (hreports o) rep r

theorem alike_answer_tallied (done : Callback) (r : Option Response) :
    Alike (Holding (Since Tallied)) (answer c done r) (answer c done r) :=
  Alike.reply (tolerates_tallied hc) FreeCalls.all.toFreeAnswers
    (fun _ => alike_report_tallied hc _)
    (fun _ => alike_tallied fun _ => ⟨rfl, rfl, (List.length_modify _ _ _).symm⟩) done r

/-- A request and its completion are counted together. -/
theorem keeps_dispatch_tallied (q : Request) (r : Option Response) (t : Option Nat) :
    Keeps (Since Tallied) (dispatch c (some q) r t) := by
  intro g hg
  have hdispatched : (noted q r t g).dispatcher.stats.dispatched =
      g.dispatcher.stats.dispatched + 1 := by
    rw [noted_eq]
  have hlen : (noted q r t g).completions.length = g.completions.length + 1 := by
    rw [noted_eq]
    exact List.length_append
  have hnoted : Since Tallied (noted q r t g) := by
    have hown := own_noted q r t g
    refine hg.step (congrArg _ hown) ?_
    have hnow : g.dispatcher.stats.dispatched = _ + g.completions.length := hg.now
    show (noted q r t g).dispatcher.stats.dispatched =
      List.countP _ (noted q r t g).own.moments + (noted q r t g).completions.length
    rw [hown, hdispatched, hlen, hnow]
    exact Nat.add_assoc _ _ 1
  rw [dispatch_undertake]
  exact (Alike.undertake (tolerates_tallied hc) q _ _ (alike_answer_tallied hc _)).keeps _ hnoted

/-- A request that is missing has been noted as such when it is counted. -/
theorem dispatch_missing_tallied {g : Gateway (Watched σ)} (hg : Since Tallied g)
    (r : Option Response) (t : Option Nat) :
    Since Tallied (dispatch c none r t (g.requested (.dispatch none r t))).2 := by
  have T := tolerates_tallied hc
  have hcounted : Since Tallied (countDispatched (g.requested (.dispatch none r t))).2 := by
    refine ⟨?_, hg.seen_requested _⟩
    have hnow : g.dispatcher.stats.dispatched = _ + g.completions.length := hg.now
    show g.dispatcher.stats.dispatched + 1 =
      List.countP Moment.lacksRequest (⟨.asked (.dispatch none r t) :: g.own.stack, g.bare⟩ ::
        g.own.moments) + g.completions.length
    have hlacks : (Moment.mk (.asked (.dispatch none r t) :: g.own.stack) g.bare).lacksRequest =
        true := rfl
    rw [List.countP_cons_of_pos hlacks, hnow]
    omega
  exact (Alike.bind (T.notify .requestMissing) fun _ => Alike.ite
    (Alike.respond T (fun _ _ => trivial) t _) (Alike.pure _)).keeps _ hcounted

end

theorem lasting_tallied : Lasting fun _ : Unit => Since (Tallied (σ := σ)) where
  stack _ _ _ hg := hg.step rfl hg.now
  own _ _ _ hg := hg.step rfl hg.now
  note _ _ := (alike_tallied fun _ => ⟨rfl, rfl, rfl⟩).keeps
  perform c hc a _ g hg := by
    have hc' := hc ()
    have T := tolerates_tallied hc'
    by_cases ha : ∃ r t, a = .dispatch none r t
    · obtain ⟨r, t, rfl⟩ := ha
      exact dispatch_missing_tallied hc' hg r t
    · have hother : (Moment.mk (.asked a :: g.own.stack) g.bare).lacksRequest = false := by
        unfold Moment.lacksRequest Moment.asked?
        split
        · next r t heq =>
          rw [Option.some.injEq] at heq
          exact absurd ⟨r, t, heq⟩ ha
        · rfl
      have hrequested : Since Tallied (g.requested a) := by
        refine ⟨?_, hg.seen_requested a⟩
        show _ = List.countP _ (Moment.mk (.asked a :: g.own.stack) g.bare :: g.own.moments) + _
        rw [List.countP_cons_of_neg (by rw [hother]; exact Bool.false_ne_true)]
        exact hg.now
      refine (atoms_tallied.perform T (fun _ _ _ => trivial) (fun _ => trivial)
        (fun _ _ _ => trivial) (alike_report_tallied hc' .outside)
        (fun _ _ _ done => Alike.serve T trivial (alike_answer_tallied hc' done))
        (alike_answer_tallied hc') a fun q r t heq => ?_).keeps _ hrequested
      cases q with
      | none => exact absurd ⟨r, t, heq⟩ ha
      | some q => exact (keeps_dispatch_tallied hc' q r t).alike

end Run
end ApiGateway
