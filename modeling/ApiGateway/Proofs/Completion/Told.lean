import ApiGateway.Proofs.Completion.Boundary

/-!
# What a completion tells, in order

A completion gives a record to its reporter and a response to its receiver.  Both are calls, and
either party may call back before it returns; still the record goes first.

* `Gateway.told`         the records and the responses of a completion as they went out;
* `Reported`             no record went out behind a response;
* `Run.enduring_tells`   that is so whatever is asked of the gateway;
* `Run.told_of_settled`  what a completion told once it is settled.
-/

namespace ApiGateway

variable {σ τ α : Type}

/-- A record with the reporter that gets it, or a response with its receiver. -/
abbrev Telling := (Reporter × AccessRecord) ⊕ (Option Nat × Option Response)

/-- What a completion told someone. -/
def Entry.toldOf? (k : CompletionId) (e : Entry) : Option Telling :=
  match e.recordOf? k with
  | some p => some (.inl p)
  | none => (e.responseOf? k).map .inr

/-- What a completion told so far. -/
def Gateway.told (g : Gateway σ) (k : CompletionId) : List Telling :=
  (g.journal.filterMap (·.toldOf? k)).reverse

theorem Gateway.told_write (g : Gateway σ) (e : Entry) (k : CompletionId) :
    (Run.write e g).2.told k = g.told k ++ (e.toldOf? k).toList :=
  Run.filterMap_write _ e g

theorem told_of_untouched {k : CompletionId} {g : Gateway σ} (h : Untouched k g) :
    g.told k = [] := by
  obtain ⟨-, hresponses, hrecords⟩ := h
  have hrec := List.filterMap_eq_nil_iff.mp (List.reverse_eq_nil_iff.mp hrecords)
  have hres := List.filterMap_eq_nil_iff.mp (List.reverse_eq_nil_iff.mp hresponses)
  unfold Gateway.told
  rw [List.reverse_eq_nil_iff, List.filterMap_eq_nil_iff]
  intro e he
  unfold Entry.toldOf?
  rw [hrec e he, hres e he]
  rfl

/-- The records of a completion went out before its responses. -/
def Reported (k : CompletionId) (g : Gateway σ) : Prop :=
  g.told k = (g.records k).map .inl ++ (g.responses k).map .inr

namespace Reported

variable {k : CompletionId} {g : Gateway σ} {e : Entry}

theorem write_unrecorded (h : Reported k g) (he : e.recordOf? k = none) :
    Reported k (Run.write e g).2 := by
  have htold : (e.toldOf? k).toList = (e.responseOf? k).toList.map .inr := by
    unfold Entry.toldOf?
    rw [he]
    cases e.responseOf? k <;> rfl
  unfold Reported at *
  rw [Gateway.told_write, Gateway.records_write, Gateway.responses_write, h, htold, he]
  simp

/-- As long as nothing has gone to the receiver, a record may. -/
theorem write_unanswered (h : Reported k g) (hnone : g.responses k = [])
    (he : e.responseOf? k = none) : Reported k (Run.write e g).2 := by
  cases hrec : e.recordOf? k with
  | none => exact h.write_unrecorded hrec
  | some p =>
    have htold : (e.toldOf? k).toList = [.inl p] := by
      unfold Entry.toldOf?
      rw [hrec]
      rfl
    unfold Reported at *
    rw [Gateway.told_write, Gateway.records_write, Gateway.responses_write, h, htold, hrec, he,
      hnone]
    simp

end Reported

/-! ### How far a completion is -/

/-- The completion has let its first call through. -/
def Fired (k : CompletionId) (g : Gateway σ) : Prop :=
  ∃ o : Terms, g.completions[k]? = some (o.completion true)

/-- The completion has let no call through, or is not there yet, and its receiver got nothing. -/
def Silent (k : CompletionId) (g : Gateway σ) : Prop :=
  g.responses k = [] ∧
    (g.completions.length ≤ k ∨ ∃ o : Terms, g.completions[k]? = some (o.completion false))

/-- What the completion told is in order, and if it is not known to have let a call through it may
still be silent. -/
def Tells (k : CompletionId) (fired : Bool) (g : Gateway σ) : Prop :=
  Reported k g ∧ (Fired k g ∨ fired = false ∧ Silent k g)

namespace Tells

variable {k : CompletionId} {fired : Bool} {g : Gateway σ}

theorem of_fired (h : Tells k true g) : Tells k fired g :=
  ⟨h.1, .inl (h.2.resolve_right fun h => Bool.noConfusion h.1)⟩

theorem congr {g' : Gateway τ} (hj : g.journal = g'.journal)
    (hc : g.completions = g'.completions) (h : Tells k fired g) : Tells k fired g' := by
  have ht : g.told k = g'.told k := by unfold Gateway.told; rw [hj]
  have hr : g.responses k = g'.responses k := by unfold Gateway.responses; rw [hj]
  have hp : g.records k = g'.records k := by unfold Gateway.records; rw [hj]
  simpa only [Tells, Reported, Fired, Silent, ht, hr, hp, hc] using h

theorem write_spare {e : Entry} (he : e.Spares k) (h : Tells k fired g) :
    Tells k fired (Run.write e g).2 := by
  refine ⟨h.1.write_unrecorded he.2.2, h.2.imp_right (And.imp_right fun hs => ⟨?_, hs.2⟩)⟩
  rw [Gateway.responses_write, he.2.1, hs.1]
  rfl

theorem fire_other {k' : CompletionId} (hk : k' ≠ k) (h : Tells k fired g) :
    Tells k fired (Run.fire k' g).2 := by
  have hc : (Run.fire k' g).2.completions[k]? = g.completions[k]? := by
    show (g.completions.modify k' _)[k]? = _
    rw [List.getElem?_modify]
    simp [hk]
  have hlen : (Run.fire k' g).2.completions.length = g.completions.length :=
    List.length_modify _ _ _
  have hreported : Reported k (Run.fire k' g).2 := h.1
  have hr : (Run.fire k' g).2.responses k = g.responses k := rfl
  refine ⟨hreported, ?_⟩
  simpa only [Fired, Silent, hc, hlen, hr] using h.2

theorem wrap (o : Terms) (h : Tells k fired g) :
    Tells k fired (Run.wrap (o.completion false) g).2 := by
  have hc {K : Completion} (hK : g.completions[k]? = some K) :
      (Run.wrap (o.completion false) g).2.completions[k]? = some K :=
    (List.getElem?_append_left (List.getElem?_eq_some_iff.mp hK).1).trans hK
  refine ⟨h.1, h.2.imp (Exists.imp fun _ => hc) (And.imp_right fun ⟨hr, hs⟩ => ⟨hr, ?_⟩)⟩
  rcases hs with hlen | ⟨o', hK⟩
  · rcases Nat.lt_or_eq_of_le hlen with hlt | heq
    · refine .inl ?_
      show (g.completions ++ [_]).length ≤ k
      rw [List.length_append]
      exact hlt
    · refine .inr ⟨o, ?_⟩
      show (g.completions ++ [_])[k]? = _
      rw [← heq, List.getElem?_concat_length]
  · exact .inr ⟨o', hc hK⟩

end Tells

namespace Run

/-! ### A call of the completion -/

theorem concerns_tells (k : CompletionId) : Concerns k (Tells k) where
  congr _ _ _ hj hc hg := hg.congr hj hc
  spare _ _ he _ hg := hg.write_spare he
  other _ _ hk _ hg := hg.fire_other hk
  made _ o _ hg := hg.wrap o

section
variable {c : Collaborators τ} {O : τ → Prop} {k : CompletionId}
  (hc : ∀ fired, c.Keep (Both (Tells k fired) O))
include hc

variable (O k) in
/-- The first call is on its way to the receiver. -/
abbrev Approaching : Gateway τ → Prop :=
  Both (fun g => Reported k g ∧ Fired k g ∧ g.responses k = []) O

omit hc in
theorem keeps_notify_approaching (n : Notice) : Keeps (Approaching O k) (notify n) := by
  refine Keeps.write ?_
  rintro g ⟨h, hfired, hnone⟩
  refine ⟨h.write_unrecorded rfl, hfired, ?_⟩
  rw [Gateway.responses_write, hnone]
  rfl

/-- The reporter is called while nothing has gone to the receiver. -/
theorem reporting_leads_tells (rep : Option Reporter) (d : Dispatch) (r : Response) :
    Leads (Approaching O k) (Both (Tells k true) O) (reporting c k rep d r) := by
  cases rep with
  | none => exact fun g hg => ⟨⟨hg.1.1, .inl hg.1.2.1⟩, hg.2⟩
  | some rep =>
    have hreport : Leads (Approaching O k) (Both (Tells k true) O)
        (report c (.completion k) rep (d.record r)) := by
      unfold report
      rw [reportWithin_eq]
      refine Leads.bind (Q := Both (Tells k true) O) ?_ fun _ => ?_
      · rintro g ⟨⟨h, hfired, hnone⟩, hO⟩
        exact ⟨⟨h.write_unanswered hnone rfl, .inl hfired⟩, hO⟩
      · exact (concerns_tells k).keeps_relay hc true _ _ _
    refine Leads.bind hreport fun a => ?_
    cases a with
    | ok u => exact fun g hg => hg
    | error f => exact (concerns_tells k).keeps_notify hc true _

theorem approach_tells {g : Gateway τ} {o : Terms} (hg : Both (Tells k false) O g)
    (hK : g.completions[k]? = some (o.completion false)) (r : Option Response) :
    Both (Tells k true) O (approach c k o r g).2 := by
  have hsilent : g.responses k = [] := by
    have hfar : Fired k g ∨ false = false ∧ Silent k g := hg.1.2
    rcases hfar with ⟨o', hK'⟩ | ⟨-, hs⟩
    · rw [hK, Option.some.injEq] at hK'
      cases (Phase.completion_inj hK').2
    · exact hs.1
  have hfire : Approaching O k (fire k (write (.answer k g.clock r) g).2).2 := by
    refine ⟨⟨?_, ⟨o, ?_⟩, ?_⟩, hg.2⟩
    · exact hg.1.1.write_unrecorded rfl
    · show (g.completions.modify k _)[k]? = _
      rw [List.getElem?_modify, hK]
      simp [Terms.completion]
    · show (write (.answer k g.clock r) g).2.responses k = []
      rw [Gateway.responses_write, hsilent]
      rfl
  have hreporting := reporting_leads_tells hc o.reporter o.dispatch (o.response g.clock r)
  cases r with
  | some r => exact hreporting _ hfire
  | none =>
    -- the complaint about a missing response goes to neither
    exact hreporting _ (keeps_notify_approaching (.unanswered o.dispatch.request.id) _ hfire)

theorem keeps_respond_tells (t : Option Nat) (r : Option Response) :
    Keeps (Both (Tells k true) O) (respond c (.completion k) t r) := by
  refine Keeps.bind ?_ fun _ => ?_
  · rintro g ⟨h, hO⟩
    have hfired : Fired k g := h.2.resolve_right fun h => Bool.noConfusion h.1
    exact ⟨⟨h.1.write_unrecorded rfl, .inl hfired⟩, hO⟩
  · cases t with
    | none => exact fun g hg => hg
    | some t => exact (hc true).call _

theorem keeps_answer_tells (fired : Bool) (r : Option Response) :
    Keeps (Both (Tells k fired) O) (answer c (.completion k) r) := by
  intro g hg
  have hfar : Fired k g ∨ fired = false ∧ Silent k g := hg.1.2
  rcases hfar with ⟨o, hK⟩ | ⟨rfl, -, hlen | ⟨o, hK⟩⟩
  · -- a later call is noted, and that is all
    have hK' : (write (.answer k g.clock r) g).2.completions[k]? = some (o.completion true) := hK
    rw [answer_completion, hK]
    show Both _ O (pass c k o.receiver (.once o.dispatch.request.id :: _) r _).2
    rw [pass_once, hK', if_pos (by simp [Terms.completion])]
    refine (concerns_tells k).keeps_notify hc fired _ _ ⟨⟨hg.1.1.write_unrecorded rfl, ?_⟩, hg.2⟩
    exact .inl ⟨o, hK⟩
  · rw [answer_completion, List.getElem?_eq_none hlen]
    exact hg
  · have hrespond := keeps_respond_tells hc o.receiver (some (o.response g.clock r)) _
      (approach_tells hc hg hK r)
    rw [answer_unfired c hK]
    generalize respond c (.completion k) o.receiver _ _ = x at hrespond
    obtain ⟨f | u, g'⟩ := x
    · exact ⟨hrespond.1.of_fired, hrespond.2⟩
    · have h := (concerns_tells k).keeps_notify hc true (.completed o.dispatch.request.id
        ((g'.clock - o.dispatch.request.receivedAt).tdiv 1000)) g' hrespond
      exact ⟨h.1.of_fired, h.2⟩

end

/-- Every operation keeps the records of a completion before its responses. -/
theorem enduring_tells (k : CompletionId) : Enduring (Tells k) :=
  (concerns_tells k).enduring fun _ _ hc fired r => keeps_answer_tells hc fired r

/-- A completion that is settled told its reporter first and its receiver then, and nobody else. -/
theorem told_of_settled {k : CompletionId} {o : Terms} {time : Int} {r : Option Response}
    {g : Gateway σ} {fired : Bool} (h : Tells k fired g) (hs : Settled k o time r g) :
    g.told k = (o.records time r).map .inl ++ (o.responses time r).map .inr := by
  obtain ⟨-, -, hresponses, hrecords⟩ := hs
  rw [h.1, hrecords, hresponses]

end Run
end ApiGateway
