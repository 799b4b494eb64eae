import ApiGateway.Proofs.Completion.Once

/-!
# Which faults leave a dispatch

Four parties may fail while a request is dispatched: the handler, the reporter, the receiver, and
whoever they call in turn.  Of a request that was given, only a fault of the receiver gets out, and
only if the gateway itself calls the receiver, for a handler that failed before any answer.

* `Run.Declines`         the receiver fails when it is called with a response;
* `Run.approach`         all that a first call does before the receiver is called;
* `Run.answer_fresh`     a first call comes to what the receiver comes to;
* `Run.dispatch_fails_iff`   when a dispatch fails, and with which fault.
-/

namespace ApiGateway

variable {σ α : Type}

namespace Run

/-- The receiver fails when it is called with a response; an empty one always does. -/
def Declines (c : Collaborators σ) (o : Origin) (t : Option Nat) (r : Response) (g : Gateway σ)
    (f : Fault) : Prop :=
  match t with
  | none => f = .emptyCallback
  | some n =>
    (c.call (.respond (some n) (some r)) (write (.call o (.respond (some n) (some r))) g).2).1 =
      .error f

theorem respond_error_iff (c : Collaborators σ) (o : Origin) (t : Option Nat) (r : Response)
    (g : Gateway σ) (f : Fault) :
    (respond c o t (some r) g).1 = .error f ↔ Declines c o t r g f := by
  cases t with
  | none =>
    show (Except.error Fault.emptyCallback : Except Fault Unit) = .error f ↔ f = .emptyCallback
    rw [Except.error.injEq]
    exact eq_comm
  | some n => exact Iff.rfl

/-- A fault of a reporter is noted and goes no further. -/
def absorb (d : Dispatch) : Except Fault Unit → Run σ Unit
  | .ok () => return ()
  | .error f => notify (.reportFailed d.request.id f)

/-- What the innermost layer of a completion does before the receiver is called. -/
def reporting (c : Collaborators σ) (k : CompletionId) (rep : Option Reporter) (d : Dispatch)
    (r : Response) : Run σ Unit :=
  match rep with
  | none => return ()
  | some rep => report c (.completion k) rep (d.record r) >>= absorb d

/-- Everything that the first call of a completion does before the receiver is called. -/
def approach (c : Collaborators σ) (k : CompletionId) (o : Terms) (r : Option Response) :
    Run σ Unit := do
  let time := (← get).clock
  write (.answer k time r)
  fire k
  if r.isNone then notify (.unanswered o.dispatch.request.id)
  reporting c k o.reporter o.dispatch (o.response time r)

section
variable (c : Collaborators σ) {k : CompletionId} {g : Gateway σ} {o : Terms}

theorem pass_reported (t : Option Nat) (rep : Option Reporter) (d : Dispatch) (r : Response) :
    pass c k t [.reported rep d] (some r) g =
      respond c (.completion k) t (some r) (reporting c k rep d r g).2 := by
  cases rep with
  | none => rfl
  | some rep =>
    show _ = respond c (.completion k) t (some r)
      ((report c (.completion k) rep (d.record r) >>= absorb d) g).2
    rw [pass, bind_apply, bind_apply]
    generalize report c (.completion k) rep (d.record r) g = x
    obtain ⟨f | u, g'⟩ := x
    · rfl
    · rfl

/-- A first call reaches the receiver after all that is done before, and is noted as completed
unless the receiver fails. -/
theorem answer_unfired (hK : g.completions[k]? = some (o.completion false))
    (r : Option Response) :
    answer c (.completion k) r g =
      (match respond c (.completion k) o.receiver (some (o.response g.clock r))
          (approach c k o r g).2 with
        | (.error f, g') => (.error f, g')
        | (.ok (), g') => (.ok (), (notify (.completed o.dispatch.request.id
            ((g'.clock - o.dispatch.request.receivedAt).tdiv 1000)) g').2)) := by
  have hK' : (write (.answer k g.clock r) g).2.completions[k]? = some (o.completion false) := hK
  have hfirst : ¬ (((write (.answer k g.clock r) g).2.completions[k]?.map (·.fired)).getD true)
      = true := by
    rw [hK']
    simp [Terms.completion]
  rw [answer_completion, hK]
  show pass c k o.receiver (.once o.dispatch.request.id :: _) r _ = _
  rw [pass_once, if_neg hfirst, pass_timed, Option.map_some, pass_reported]
  cases r with
  | none => rfl
  | some r => rfl

/-- The first call of a completion comes to what its receiver comes to. -/
theorem answer_fresh (hK : g.completions[k]? = some (o.completion false)) (r : Option Response) :
    (answer c (.completion k) r g).1 =
      (respond c (.completion k) o.receiver (some (o.response g.clock r))
        (approach c k o r g).2).1 := by
  rw [answer_unfired c hK]
  generalize respond c (.completion k) o.receiver _ _ = x
  obtain ⟨f | u, g'⟩ := x
  · rfl
  · rfl

/-- A later call comes to nothing. -/
theorem answer_fired (hK : g.completions[k]? = some (o.completion true)) (r : Option Response) :
    (answer c (.completion k) r g).1 = .ok () := by
  have hK' : (write (.answer k g.clock r) g).2.completions[k]? = some (o.completion true) := hK
  have hagain : (((write (.answer k g.clock r) g).2.completions[k]?.map (·.fired)).getD true)
      = true := by
    rw [hK']
    rfl
  rw [answer_completion, hK]
  show (pass c k o.receiver (.once o.dispatch.request.id :: _) r _).1 = _
  rw [pass_once, if_pos hagain]

end

/-! ### Dispatches -/

section
variable (b : Behaviours σ) (d : Nat) {g : Gateway σ} (r : Option Response) (t : Option Nat)
  (f : Fault)

/-- What the gateway notes when a dispatch lacks its request. -/
def missing (g : Gateway σ) : Gateway σ :=
  (notify .requestMissing (countDispatched g).2).2

/-- The receiver of a dispatch without a request gets a server error, and its fault gets out. -/
theorem dispatch_missing_fails_iff (c : Collaborators σ) (g : Gateway σ) :
    (dispatch c none r t g).1 = .error f ↔
      t.isSome = true ∧ Declines c .gateway t { r.getD {} with status := 500 } (missing g) f := by
  cases t with
  | none =>
    show (Except.ok () : Except Fault Unit) = .error f ↔ _
    simp
  | some n =>
    show (respond c .gateway (some n) (some _) (missing g)).1 = .error f ↔ _
    rw [respond_error_iff]
    simp

/-- The fault of a handler is the gateway's to answer for unless an answer was made before. -/
theorem dispatch_given_fails_iff (q : Request) (h : Phase.Is g.completions.length g .idle) :
    let c := b.within d
    let k := g.completions.length
    let o := termsFor g q t
    let x := handOver c q r t g
    (dispatch c (some q) r t g).1 = .error f ↔
      ∃ f', x.1.2 = .error f' ∧ x.2.answers k = [] ∧
        Declines c (.completion k) t (o.response x.2.clock (some .serverError))
          (approach c k o (some .serverError) (notify (.handlerFailed f') x.2).2).2 f := by
  intro c k o x
  have hrest : Phase.Resting k o x.2 := handOver_resting b d q r t h
  have hk : x.1.1 = k := by
    show (handOver c q r t g).1.1 = k
    rw [handOver_eq]
  have hx : dispatch c (some q) r t g = (match x.1.2 with
      | .ok () => (.ok (), x.2)
      | .error f' => answer c (.completion x.1.1) (some .serverError)
          (notify (.handlerFailed f') x.2).2) := dispatch_apply c q r t g
  rw [hx, hk]
  cases hfault : x.1.2 with
  | ok u => simp
  | error f' =>
    rw [show ∀ p : Fault → Prop, (∃ f'', (Except.error f' : Except Fault Unit) = .error f'' ∧ p f'')
      ↔ p f' by simp]
    rcases hrest with ⟨hK, hnone, -⟩ | ⟨time, r', hK, hhead, -⟩
    · rw [answer_fresh c (g := (notify (.handlerFailed f') x.2).2) hK, respond_error_iff]
      exact ⟨fun h => ⟨hnone, h⟩, fun h => h.2⟩
    · -- an answer was made before, so the server error goes nowhere
      rw [answer_fired c (g := (notify (.handlerFailed f') x.2).2) hK]
      constructor
      · intro h
        cases h
      · rintro ⟨hnone, -⟩
        rw [hnone] at hhead
        cases hhead

end

/-- A dispatch fails with a fault of the receiver, and with no other.

Without a request it fails if there is a receiver and the receiver fails on the server error.  With
a request it fails if the handler failed before the completion it was given was called for the
first time, and the receiver is empty or fails on the server error that the gateway then answers
with.  So a fault of a reporter never gets out, nor does the fault of a handler itself, even if it
is the receiver's that the handler met with when it answered. -/
theorem dispatch_fails_iff (b : Behaviours σ) (n : Nat) (user : Behaviour σ α)
    (fallback : Responder) (reporter : Option Reporter) (header : Bool) (clock : Int) (own : σ) :
    ∀ m ∈ b.moments n user (Gateway.fresh fallback reporter header clock own), ∀ d r t f,
      let c := b.within d
      let g := m.gateway
      ((dispatch c none r t g).1 = .error f ↔
        t.isSome = true ∧ Declines c .gateway t { r.getD {} with status := 500 } (missing g) f) ∧
      ∀ q,
        let k := g.completions.length
        let o := termsFor g q t
        let x := handOver c q r t g
        (dispatch c (some q) r t g).1 = .error f ↔
          ∃ f', x.1.2 = .error f' ∧ x.2.answers k = [] ∧
            Declines c (.completion k) t (o.response x.2.clock (some .serverError))
              (approach c k o (some .serverError) (notify (.handlerFailed f') x.2).2).2 f := by
  intro m hm d r t f c g
  refine ⟨dispatch_missing_fails_iff r t f c g, fun q => dispatch_given_fails_iff b d r t f q ?_⟩
  have hfresh : Phase.Is g.completions.length
      (Gateway.fresh fallback reporter header clock own).shown .idle :=
    .inl ⟨Nat.zero_le _, rfl, rfl, rfl⟩
  obtain ⟨p, hp⟩ := (enduring_phase g.completions.length).moments b n user hfresh m hm
  exact idle_of_length_le hp (Nat.le_refl _)

/-- A handler that fails without an answer, and a receiver that fails in turn. -/
theorem dispatch_fails_iff_unanswered :
    let b : Behaviours Unit := ⟨fun _ => .give none, fun
      | .handle .. => .fail .foreign
      | _ => .fail (.failed "gone")⟩
    let g := Gateway.fresh .outside none true 0 ()
    (dispatch (b.within 1) (some {}) none (some 0) g).1 = .error (.failed "gone") := by
  intro b g
  have hm : (⟨[], g⟩ : Moment Unit) ∈ b.moments 0 (.give ()) g := List.mem_singleton.mpr rfl
  exact ((dispatch_fails_iff b 0 (.give ()) .outside none true 0 () ⟨[], g⟩ hm 1 none (some 0)
    (.failed "gone")).2 {}).mpr ⟨.foreign, rfl, rfl, rfl⟩

end Run
end ApiGateway
