import ApiGateway.Proofs.Completion.History
import ApiGateway.Proofs.Run.Dispatch

/-!
# What concerns one completion

Of all that is asked of a gateway, most has nothing to do with a given completion.  A family of
predicates about the completion survives it, and only a call of the completion itself remains to
be looked at.

* `Concerns k P`         the members of `P` are about the completion `k` alone;
* `Concerns.tolerates`, `Concerns.relay`, `Concerns.offer`   what they survive;
* `Concerns.enduring`    such a family endures if every call of the completion keeps it.
-/

namespace ApiGateway

variable {τ ι : Type}

namespace Run

theorem spares_gateway (k : CompletionId) (i : Invocation) : (Entry.call .gateway i).Spares k :=
  Entry.spares_call (fun _ h => Origin.noConfusion h) i

/-- The predicates look at the journal and the completions alone, and survive the entries that tell
nothing of the completion, the first calls of others and the making of new ones. -/
structure Concerns (k : CompletionId) (P : ι → Gateway Unit → Prop) : Prop where
  congr : ∀ i g g', g.journal = g'.journal → g.completions = g'.completions → P i g → P i g'
  spare : ∀ i e, e.Spares k → Keeps (P i) (write e)
  other : ∀ i k', k' ≠ k → Keeps (P i) (fire k')
  made : ∀ i (o : Terms), Keeps (P i) (wrap (o.completion false))

namespace Concerns

variable {k : CompletionId} {P : ι → Gateway Unit → Prop} (C : Concerns k P)
include C

theorem ofTraffic (i : ι) : OfTraffic (P i) :=
  fun g g' hj hc _ => C.congr i g g' hj hc

section
variable {c : Collaborators τ} {O : τ → Prop} (hc : ∀ i, c.Keep (Both (P i) O)) (i : ι)
include hc

theorem tolerates : Tolerates (Holding (Both (P i) O)) (Entry.Spares k) c c :=
  (hc i).tolerates (Entry.spares_notice k) fun e he => (C.spare i e he).write

theorem keeps_notify (n : Notice) : Keeps (Both (P i) O) (notify n) :=
  ((C.tolerates hc i).notify n).keeps

theorem reports {o : Origin} (ho : o ≠ .completion k) :
    Reports (Holding (Both (P i) O)) (Entry.Spares k) o := by
  refine .of_free (C.tolerates hc i).toJournals (alike_countAt_of_traffic (C.ofTraffic i))
    fun rep r => ?_
  cases o with
  | completion k' => exact Entry.spares_call_other (fun h => ho (congrArg _ h)) _
  | gateway => exact Entry.spares_call (fun _ h => Origin.noConfusion h) _
  | outside => exact Entry.spares_call (fun _ h => Origin.noConfusion h) _
  | service s n => exact Entry.spares_call (fun _ h => Origin.noConfusion h) _

theorem keeps_relay (n : Nat) (rep : Reporter) (r : AccessRecord) :
    Keeps (Both (P i) O) (relay c n rep r) :=
  (Alike.relay (C.tolerates hc i) (alike_countAt_of_traffic (C.ofTraffic i))
    (fun _ _ => C.reports hc i nofun) n rep r).keeps

/-! ### Requests -/

omit hc in
theorem alike_tally (f : DispatchStats → DispatchStats) :
    Alike (Holding (Both (P i) O)) (tally f) (tally f) :=
  Keeps.alike fun g hg => ⟨C.congr i g.shown _ rfl rfl hg.1, hg.2⟩

omit hc in
theorem alike_wrap (d : Dispatch) (rep : Option Reporter) (header : Bool) (t : Option Nat) :
    Alike (Holding (Both (P i) O)) (wrap (.ofDispatch d rep header t))
      (wrap (.ofDispatch d rep header t)) :=
  Keeps.alike fun g hg => ⟨C.made i ⟨d, rep, header, t⟩ g.shown hg.1, hg.2⟩

/-- Everything before the handler's call. -/
theorem keeps_offer (q : Request) (t : Option Nat) : Keeps (Both (P i) O) (offer q t) := by
  have T := C.tolerates hc i
  exact (Alike.bind (C.alike_tally i _) fun _ => Alike.bind (T.notify _) fun _ =>
    Alike.prepare T (C.alike_tally i _) (C.alike_wrap i) q t).keeps

variable (hanswer : ∀ i r, Keeps (Both (P i) O) (answer c (.completion k) r))
include hanswer

theorem keeps_answer (done : Callback) (r : Option Response) :
    Keeps (Both (P i) O) (answer c done r) := by
  have T := C.tolerates hc i
  cases done with
  | receiver t =>
    exact (Alike.respond T
      (fun _ _ => Entry.spares_call (fun _ h => Origin.noConfusion h) _) t r).keeps
  | completion k' =>
    by_cases hk : k' = k
    · rw [hk]
      exact hanswer i r
    · refine (Alike.answer T (Entry.spares_answer_other hk) ?_ r).keeps
      have hfire : Keeps (Both (P i) O) (fire k') :=
        fun g hg => ⟨C.other i k' hk g.shown hg.1, hg.2⟩
      refine Alike.pass T hfire.alike (fun rep r => ?_) fun _ _ => Entry.spares_call_other hk _
      exact Alike.report T (fun _ _ => C.reports hc i nofun)
        (C.reports hc i fun h => hk (Origin.completion.inj h)) rep r

theorem keeps_perform (a : Action) : Keeps (Both (P i) O) (perform c a) := by
  have T := C.tolerates hc i
  have hany (done : Callback) (r : Option Response) := (C.keeps_answer hc i hanswer done r).alike
  refine (Atoms.perform T (atoms_of_traffic (C.ofTraffic i)) (fun _ _ _ => spares_gateway k _)
    (Entry.spares_build k) (fun _ _ _ => spares_gateway k _) ?_ ?_ hany a ?_).keeps
  · exact Alike.report T (fun _ _ => C.reports hc i nofun) (C.reports hc i nofun)
  · intro t q r done
    exact Alike.serve T (Entry.spares_call (fun _ h => Origin.noConfusion h) _) (hany done)
  · intro q r t _
    exact Alike.dispatch T (C.alike_tally i _) (C.alike_wrap i) (C.alike_tally i _)
      (Alike.respond T fun _ _ => spares_gateway k _)
      (fun q r p => Alike.entrust T q r p (spares_gateway k _) (hany _)) q r t

end

/-- Such a family endures if every call of the completion keeps it. -/
theorem enduring (hanswer : ∀ {τ : Type} (O : τ → Prop) (c : Collaborators τ),
    (∀ i, c.Keep (Both (P i) O)) → ∀ i r, Keeps (Both (P i) O) (answer c (.completion k) r)) :
    Enduring P where
  note i fields := C.spare i _ (Entry.spares_note k fields)
  perform O c hc a i := C.keeps_perform hc i (hanswer O c hc) a

end Concerns
end Run
end ApiGateway
