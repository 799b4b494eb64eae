import ApiGateway.Proofs.Http.Fields
import ApiGateway.Proofs.Run.Keeps

/-!
# The history of a completion

What became of a completion is read off the journal: who called it, which response its receiver got
and which records its reporter got, oldest first.

* `Response.Timed`   a response with a time in it;
* `Terms`        what is fixed when the completion of a request is made;
* `Gateway.answers`, `Gateway.responses`, `Gateway.records`   the three histories;
* `Settled`      the completion was called and passed its first call on, once, on its terms;
* `Phase.Is`     how far the completion is, as an operation or a collaborator may find it.
-/

namespace ApiGateway

variable {σ τ α β : Type}

namespace Entry

/-- The call of a completion: when, and with what. -/
def answerOf? (k : CompletionId) : Entry → Option (Int × Option Response)
  | answer k' t r => if k' = k then some (t, r) else none
  | _ => none

/-- The call of the receiver behind a completion. -/
def responseOf? (k : CompletionId) : Entry → Option (Option Nat × Option Response)
  | call (.completion k') (.respond t r) => if k' = k then some (t, r) else none
  | _ => none

/-- The record that a completion gave to its reporter. -/
def recordOf? (k : CompletionId) : Entry → Option (Reporter × AccessRecord)
  | call (.completion k') (.record rep r) => if k' = k then some (rep, r) else none
  | _ => none

/-- The entry tells nothing of a completion. -/
def Spares (k : CompletionId) (e : Entry) : Prop :=
  e.answerOf? k = none ∧ e.responseOf? k = none ∧ e.recordOf? k = none

theorem spares_notice (k : CompletionId) (n : Notice) : (notice n).Spares k := ⟨rfl, rfl, rfl⟩
theorem spares_build (k : CompletionId) (api : Api) : (build api).Spares k := ⟨rfl, rfl, rfl⟩
theorem spares_note (k : CompletionId) (fields : List String) : (note fields).Spares k :=
  ⟨rfl, rfl, rfl⟩

theorem spares_call {k : CompletionId} {o : Origin} (h : ∀ k', o ≠ .completion k')
    (i : Invocation) : (call o i).Spares k := by
  cases o with
  | completion k' => exact absurd rfl (h k')
  | gateway => exact ⟨rfl, rfl, rfl⟩
  | outside => exact ⟨rfl, rfl, rfl⟩
  | service s n => exact ⟨rfl, rfl, rfl⟩

theorem spares_call_other {k k' : CompletionId} (h : k' ≠ k) (i : Invocation) :
    (call (.completion k') i).Spares k := by
  cases i <;> simp [Spares, answerOf?, responseOf?, recordOf?, h]

theorem spares_answer_other {k k' : CompletionId} (h : k' ≠ k) (t : Int) (r : Option Response) :
    (answer k' t r).Spares k := by
  simp [Spares, answerOf?, responseOf?, recordOf?, h]

end Entry

/-- `r'` is `r` with the elapsed time in it, as a header field too if there is to be one.  The field
shows whole milliseconds, and the rest of a negative time is dropped as well. -/
structure Response.Timed (r : Response) (elapsed : Int) (header : Bool) (r' : Response) : Prop where
  status : r'.status = r.status
  body : r'.body = r.body
  time : r'.responseTime = elapsed
  plain : header = false → r'.headers = r.headers
  field : header = true → r.headers.Ordered →
    r.headers.Sets timeField (toString (elapsed.tdiv 1000000)) r'.headers

theorem Response.timed_stamped (r : Response) (elapsed : Int) (header : Bool) :
    r.Timed elapsed header (r.stamped elapsed header) where
  status := rfl
  body := rfl
  time := rfl
  plain hplain := if_neg (by rw [hplain]; exact Bool.false_ne_true)
  field hfield ho := by
    show r.headers.Sets _ _ (if header then _ else _)
    rw [if_pos hfield]
    exact Headers.sets_insert ho _ _

/-- What is fixed when the completion of a request is made. -/
structure Terms where
  dispatch : Dispatch
  reporter : Option Reporter
  header : Bool
  receiver : Option Nat
deriving DecidableEq, Repr, Inhabited

namespace Terms

/-- The completion, before or after its first call. -/
def completion (o : Terms) (fired : Bool) : Completion :=
  { Completion.ofDispatch o.dispatch o.reporter o.header o.receiver with fired := fired }

/-- The response for a first call at a time: what it was called with, or a server error in its
place, with the elapsed time in it. -/
def response (o : Terms) (time : Int) (r : Option Response) : Response :=
  (r.getD .serverError).stamped (time - o.dispatch.request.receivedAt) o.header

/-- What the receiver gets for a first call. -/
def responses (o : Terms) (time : Int) (r : Option Response) :
    List (Option Nat × Option Response) :=
  [(o.receiver, some (o.response time r))]

/-- What the reporter gets for a first call, if there is a reporter. -/
def records (o : Terms) (time : Int) (r : Option Response) : List (Reporter × AccessRecord) :=
  o.reporter.toList.map fun rep => (rep, o.dispatch.record (o.response time r))

theorem timed_response (o : Terms) (time : Int) (r : Option Response) :
    (r.getD { status := 500, headers := {}, body := "" }).Timed
      (time - o.dispatch.request.receivedAt) o.header (o.response time r) :=
  Response.timed_stamped _ _ _

theorem length_records_le (o : Terms) (time : Int) (r : Option Response) :
    (o.records time r).length ≤ 1 := by
  unfold records
  rw [List.length_map]
  cases o.reporter <;> simp

end Terms

namespace Gateway

/-- The calls of a completion so far. -/
def answers (g : Gateway σ) (k : CompletionId) : List (Int × Option Response) :=
  (g.journal.filterMap (·.answerOf? k)).reverse

/-- What the receiver behind a completion got so far. -/
def responses (g : Gateway σ) (k : CompletionId) : List (Option Nat × Option Response) :=
  (g.journal.filterMap (·.responseOf? k)).reverse

/-- What the reporter behind a completion got so far. -/
def records (g : Gateway σ) (k : CompletionId) : List (Reporter × AccessRecord) :=
  (g.journal.filterMap (·.recordOf? k)).reverse

section
variable (g : Gateway σ) (e : Entry) (k : CompletionId)

theorem answers_write : (Run.write e g).2.answers k = g.answers k ++ (e.answerOf? k).toList :=
  Run.filterMap_write _ e g

theorem responses_write :
    (Run.write e g).2.responses k = g.responses k ++ (e.responseOf? k).toList :=
  Run.filterMap_write _ e g

theorem records_write : (Run.write e g).2.records k = g.records k ++ (e.recordOf? k).toList :=
  Run.filterMap_write _ e g

end
end Gateway

/-- Nothing has happened to the completion. -/
def Untouched (k : CompletionId) (g : Gateway σ) : Prop :=
  g.answers k = [] ∧ g.responses k = [] ∧ g.records k = []

/-- The completion was first called at a time, and its receiver and its reporter got what its
terms say for that call, and nothing else. -/
def Settled (k : CompletionId) (o : Terms) (time : Int) (r : Option Response) (g : Gateway σ) :
    Prop :=
  g.completions[k]? = some (o.completion true) ∧ (g.answers k).head? = some (time, r) ∧
    g.responses k = o.responses time r ∧ g.records k = o.records time r

/-- How far a completion is. -/
inductive Phase
  /-- It is there, and no call of it is under way. -/
  | resting (terms : Terms)
  /-- It may not be there yet; no call of it is under way. -/
  | idle
  /-- Its first call was made at a time; so far its receiver and its reporter got this. -/
  | underway (terms : Terms) (time : Int) (response : Option Response)
      (responses : List (Option Nat × Option Response)) (records : List (Reporter × AccessRecord))

namespace Phase

def Resting (k : CompletionId) (o : Terms) (g : Gateway σ) : Prop :=
  (g.completions[k]? = some (o.completion false) ∧ Untouched k g) ∨
    ∃ time r, Settled k o time r g

/-- The completion is in the phase. -/
def Is (k : CompletionId) (g : Gateway σ) : Phase → Prop
  | resting o => Resting k o g
  | idle => (g.completions.length ≤ k ∧ Untouched k g) ∨ ∃ o, Resting k o g
  | underway o time r rs ps =>
    g.completions[k]? = some (o.completion true) ∧ (g.answers k).head? = some (time, r) ∧
      (g.responses k = rs ∧ g.records k = ps) ∧ rs <+: o.responses time r ∧ ps <+: o.records time r

section
variable {k : CompletionId} {o : Terms} {time : Int} {r : Option Response} {g : Gateway σ}

/-- A completion whose first call is through is settled, and one that is settled rests. -/
theorem is_underway_iff :
    Is k g (underway o time r (o.responses time r) (o.records time r)) ↔ Settled k o time r g := by
  constructor
  · rintro ⟨hc, ha, ⟨hr, hp⟩, -⟩
    exact ⟨hc, ha, hr, hp⟩
  · rintro ⟨hc, ha, hr, hp⟩
    exact ⟨hc, ha, ⟨hr, hp⟩, List.prefix_rfl, List.prefix_rfl⟩

theorem Resting.of_settled (h : Settled k o time r g) : Resting k o g :=
  .inr ⟨time, r, h⟩

theorem completion_inj {o o' : Terms} {b b' : Bool} (h : o.completion b = o'.completion b') :
    o = o' ∧ b = b' := by
  obtain ⟨d, rep, header, t⟩ := o
  obtain ⟨d', rep', header', t'⟩ := o'
  simp only [Terms.completion, Completion.ofDispatch, Completion.mk.injEq, List.cons.injEq,
    Layer.timed.injEq, Layer.reported.injEq] at h
  obtain ⟨⟨-, ⟨-, rfl⟩, ⟨rfl, rfl⟩, -⟩, rfl, rfl⟩ := h
  exact ⟨rfl, rfl⟩

theorem Is.cases {p : Phase} (h : Is k g p) :
    (g.completions.length ≤ k ∧ Untouched k g) ∨
      (∃ o : Terms, g.completions[k]? = some (o.completion false) ∧ Untouched k g) ∨
      ∃ o time r rs ps, Is k g (underway o time r rs ps) := by
  have hrest {o : Terms} (h : Resting k o g) :
      (∃ o : Terms, g.completions[k]? = some (o.completion false) ∧ Untouched k g) ∨
        ∃ o time r rs ps, Is k g (underway o time r rs ps) := by
    rcases h with h | ⟨time, r, h⟩
    · exact .inl ⟨o, h⟩
    · exact .inr ⟨o, time, r, _, _, is_underway_iff.mpr h⟩
  cases p with
  | resting o => exact .inr (hrest h)
  | idle =>
    rcases h with h | ⟨o, h⟩
    · exact .inl h
    · exact .inr (hrest h)
  | underway o time r rs ps => exact .inr (.inr ⟨o, time, r, rs, ps, h⟩)

end

/-! ### Steps that leave a completion where it is -/

section
variable {k : CompletionId} {p : Phase}

theorem Is.congr {g : Gateway σ} {g' : Gateway τ} (hj : g.journal = g'.journal)
    (hc : g.completions = g'.completions) (h : Is k g p) : Is k g' p := by
  have ha : g.answers k = g'.answers k := by unfold Gateway.answers; rw [hj]
  have hr : g.responses k = g'.responses k := by unfold Gateway.responses; rw [hj]
  have hp : g.records k = g'.records k := by unfold Gateway.records; rw [hj]
  cases p <;> simpa only [Is, Resting, Settled, Untouched, ha, hr, hp, hc] using h

theorem Is.write_spare {g : Gateway σ} {e : Entry} (he : e.Spares k) (h : Is k g p) :
    Is k (Run.write e g).2 p := by
  obtain ⟨h1, h2, h3⟩ := he
  have ha := Gateway.answers_write g e k
  have hr := Gateway.responses_write g e k
  have hp := Gateway.records_write g e k
  rw [h1, Option.toList_none, List.append_nil] at ha
  rw [h2, Option.toList_none, List.append_nil] at hr
  rw [h3, Option.toList_none, List.append_nil] at hp
  have hc : (Run.write e g).2.completions = g.completions := rfl
  cases p <;> simpa only [Is, Resting, Settled, Untouched, ha, hr, hp, hc] using h

theorem Is.fire_other {g : Gateway σ} {k' : CompletionId} (hk : k' ≠ k) (h : Is k g p) :
    Is k (Run.fire k' g).2 p := by
  have hc : (Run.fire k' g).2.completions[k]? = g.completions[k]? := by
    show (g.completions.modify k' _)[k]? = _
    rw [List.getElem?_modify]
    simp [hk]
  have hl : (Run.fire k' g).2.completions.length = g.completions.length :=
    List.length_modify _ _ _
  have ha : (Run.fire k' g).2.answers k = g.answers k := rfl
  have hr : (Run.fire k' g).2.responses k = g.responses k := rfl
  have hp : (Run.fire k' g).2.records k = g.records k := rfl
  cases p <;> simpa only [Is, Resting, Settled, Untouched, ha, hr, hp, hc, hl] using h

theorem Is.write_underway {g : Gateway σ} {o : Terms} {time : Int} {r : Option Response}
    {rs rs' : List (Option Nat × Option Response)} {ps ps' : List (Reporter × AccessRecord)}
    (h : Is k g (underway o time r rs ps)) {e : Entry}
    (hrs : rs ++ (e.responseOf? k).toList = rs') (hps : ps ++ (e.recordOf? k).toList = ps')
    (hrs' : rs' <+: o.responses time r) (hps' : ps' <+: o.records time r) :
    Is k (Run.write e g).2 (underway o time r rs' ps') := by
  obtain ⟨hc, ha, ⟨hr, hp⟩, -⟩ := h
  refine ⟨hc, ?_, ⟨?_, ?_⟩, hrs', hps'⟩
  · rw [Gateway.answers_write, List.head?_append, ha]
    rfl
  · rw [Gateway.responses_write, hr, hrs]
  · rw [Gateway.records_write, hp, hps]

theorem Is.answer_again {g : Gateway σ} {o : Terms} {time : Int} {r : Option Response}
    {rs : List (Option Nat × Option Response)} {ps : List (Reporter × AccessRecord)}
    (h : Is k g (underway o time r rs ps)) (t : Int) (r' : Option Response) :
    Is k (Run.write (.answer k t r') g).2 (underway o time r rs ps) :=
  h.write_underway (List.append_nil _) (List.append_nil _) h.2.2.2.1 h.2.2.2.2

theorem Is.fire {g : Gateway σ} {o : Terms} (hK : g.completions[k]? = some (o.completion false))
    (hu : Untouched k g) (time : Int) (r : Option Response) :
    Is k (Run.fire k (Run.write (.answer k time r) g).2).2 (underway o time r [] []) := by
  obtain ⟨ha, hr, hp⟩ := hu
  refine ⟨?_, ?_, ⟨?_, ?_⟩, List.nil_prefix, List.nil_prefix⟩
  · show (g.completions.modify k _)[k]? = _
    rw [List.getElem?_modify, hK]
    simp [Terms.completion]
  · show ((Run.write (.answer k time r) g).2.answers k).head? = _
    rw [Gateway.answers_write, ha]
    simp [Entry.answerOf?]
  · show (Run.write (.answer k time r) g).2.responses k = _
    rw [Gateway.responses_write, hr]
    rfl
  · show (Run.write (.answer k time r) g).2.records k = _
    rw [Gateway.records_write, hp]
    rfl

theorem Is.wrap {g : Gateway σ} (o : Terms) (h : Is k g p) :
    Is k (Run.wrap (o.completion false) g).2 p := by
  have hc {K : Completion} (hK : g.completions[k]? = some K) :
      (Run.wrap (o.completion false) g).2.completions[k]? = some K :=
    (List.getElem?_append_left (List.getElem?_eq_some_iff.mp hK).1).trans hK
  have hrest {o' : Terms} (h : Resting k o' g) :
      Resting k o' (Run.wrap (o.completion false) g).2 := by
    rcases h with ⟨hK, hu⟩ | ⟨time, r, hK, hrest⟩
    · exact .inl ⟨hc hK, hu⟩
    · exact .inr ⟨time, r, hc hK, hrest⟩
  cases p with
  | resting o' => exact hrest h
  | idle =>
    rcases h with ⟨hlen, hu⟩ | ⟨o', h⟩
    · rcases Nat.lt_or_eq_of_le hlen with hlt | heq
      · refine .inl ⟨?_, hu⟩
        show (g.completions ++ [_]).length ≤ k
        rw [List.length_append]
        exact hlt
      · refine .inr ⟨o, .inl ⟨?_, hu⟩⟩
        show (g.completions ++ [_])[k]? = _
        rw [← heq, List.getElem?_concat_length]
    · exact .inr ⟨o', hrest h⟩
  | underway o' time r rs ps =>
    obtain ⟨hK, hrest⟩ := h
    exact ⟨hc hK, hrest⟩

end
end Phase
end ApiGateway
