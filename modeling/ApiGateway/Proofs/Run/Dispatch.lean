import ApiGateway.Proofs.Run.Alike

/-!
# What a dispatch does, step by step

A dispatch selects a target, makes a completion, hands the request over, and answers for a handler
that failed.

* `Gateway.target`   whom a request goes to, as the routes are now;
* `prepare_eq`       everything before the handler is called, as one change of the gateway;
* `dispatch_eq`      a dispatch is a handing over, with a server error for a handler that failed.
-/

namespace ApiGateway

variable {σ : Type}

namespace Gateway

/-- The handler that serves a path on a host, as the routes and the handlers are now. -/
def selected (g : Gateway σ) (path host : String) : Option HandlerId :=
  (g.table.routes.select? g.handler path host).map (·.handler)

/-- Whom a request goes to. -/
def target (g : Gateway σ) (path host : String) : Target :=
  match g.selected path host with
  | some h => .handler h
  | none => .fallback

/-- What is fixed about a request that goes there. -/
def dispatchFor (g : Gateway σ) (q : Request) : Dispatch :=
  match g.selected q.path q.host with
  | some h => ⟨q, q.host, (g.handler h).contextPath⟩
  | none => ⟨q, q.host, ""⟩

end Gateway

namespace Run

/-- The gateway after a selection: at most a notice is new. -/
def looked (path host : String) (g : Gateway σ) : Gateway σ :=
  if !g.table.routes.entries.isEmpty then
    (notify (selectionNotice g.table.routes g.handler path host) g).2
  else g

theorem select_eq (path host : String) (g : Gateway σ) :
    select path host g = (g.selected path host, looked path host g) := by
  unfold looked
  show ((if !g.table.routes.entries.isEmpty then
      (do notify (selectionNotice g.table.routes g.handler path host); pure (g.selected path host))
    else pure (g.selected path host) : Run σ (Option HandlerId)) g) = _
  by_cases h : !g.table.routes.entries.isEmpty
  · rw [if_pos h, if_pos h]
    rfl
  · rw [if_neg h, if_neg h]
    rfl

theorem lookup_eq (path host : String) (g : Gateway σ) :
    lookup path host g = (g.target path host, looked path host g) := by
  unfold lookup Gateway.target
  rw [bind_apply, select_eq]
  cases g.selected path host <;> rfl

theorem bestTarget_eq (q : Request) (g : Gateway σ) :
    bestTarget q g = (g.target q.path q.host, looked q.path q.host g) :=
  lookup_eq q.path q.host g

theorem looked_eq (path host : String) (g : Gateway σ) :
    looked path host g = { g with journal := (looked path host g).journal } := by
  unfold looked
  by_cases h : !g.table.routes.entries.isEmpty
  · rw [if_pos h]
    rfl
  · rw [if_neg h]

theorem handler_looked (path host : String) (g : Gateway σ) :
    (looked path host g).handler = g.handler := by
  rw [looked_eq]
  rfl

/-- The gateway after a choice: a request for the fallback is counted. -/
def chosen (q : Request) (g : Gateway σ) : Gateway σ :=
  if (g.selected q.path q.host).isSome then looked q.path q.host g
  else (countMissed (looked q.path q.host g)).2

theorem choose_eq (q : Request) (g : Gateway σ) :
    choose q g = ((g.target q.path q.host, g.dispatchFor q), chosen q g) := by
  have h : choose q = (select q.path q.host >>= fun
    | some h => do return (Target.handler h, ⟨q, q.host, ((← get).handler h).contextPath⟩)
    | none => do countMissed; return (.fallback, ⟨q, q.host, ""⟩) : Run σ (Target × Dispatch)) :=
    rfl
  unfold Gateway.target Gateway.dispatchFor chosen
  rw [h, bind_apply, select_eq]
  cases g.selected q.path q.host with
  | none => rfl
  | some h =>
    show ((Target.handler h, Dispatch.mk q q.host
      ((looked q.path q.host g).handler h).contextPath), looked q.path q.host g) = _
    rw [handler_looked]
    rfl

section
variable (q : Request) (g : Gateway σ)

theorem chosen_eq : chosen q g =
    { g with
      journal := (looked q.path q.host g).journal
      dispatcher := { g.dispatcher with
        stats := { g.dispatcher.stats with
          notFound := g.dispatcher.stats.notFound +
            if (g.selected q.path q.host).isSome then 0 else 1 } } } := by
  unfold chosen
  by_cases h : (g.selected q.path q.host).isSome
  · rw [if_pos h, if_pos h]
    exact looked_eq q.path q.host g
  · rw [if_neg h, if_neg h, looked_eq]
    rfl

/-- The terms of a completion as `prepare` makes it are those of the dispatcher. -/
def prepared (t : Option Nat) : Gateway σ :=
  (wrap (.ofDispatch (g.dispatchFor q) g.dispatcher.reporter g.dispatcher.timeHeader t)
    (chosen q g)).2

theorem prepare_eq (t : Option Nat) :
    prepare q t g = ((g.target q.path q.host, g.completions.length), prepared q g t) := by
  show (choose q >>= fun p => do
    let d := (← get).dispatcher
    let k ← wrap (.ofDispatch p.2 d.reporter d.timeHeader t)
    return (p.1, k) : Run σ (Target × CompletionId)) g = _
  rw [bind_apply, choose_eq]
  unfold prepared
  rw [chosen_eq]
  rfl

theorem completions_prepared (t : Option Nat) :
    (prepared q g t).completions = g.completions ++
      [.ofDispatch (g.dispatchFor q) g.dispatcher.reporter g.dispatcher.timeHeader t] := by
  unfold prepared
  rw [chosen_eq]
  rfl

end

/-- The gateway that a handler finds when a request is handed to it. -/
def offered (q : Request) (t : Option Nat) (g : Gateway σ) : Gateway σ :=
  prepared q (notify (.receiving q.id q.path) (countDispatched g).2).2 t

/-- Everything before the handler's call. -/
def offer (q : Request) (t : Option Nat) : Run σ (Target × CompletionId) := do
  countDispatched
  notify (.receiving q.id q.path)
  prepare q t

theorem offer_eq (q : Request) (t : Option Nat) (g : Gateway σ) :
    offer q t g = ((g.target q.path q.host, g.completions.length), offered q t g) :=
  prepare_eq q (notify (.receiving q.id q.path) (countDispatched g).2).2 t

/-- Everything up to the end of the handler's call: the completion that was made for the request,
and what became of the call. -/
def handOver (c : Collaborators σ) (q : Request) (r : Option Response) (t : Option Nat) :
    Run σ (CompletionId × Except Fault Unit) := do
  let p ← offer q t
  let a ← serve c .gateway p.1 q (r.getD {}) (.completion p.2)
  return (p.2, a)

theorem handOver_eq (c : Collaborators σ) (q : Request) (r : Option Response) (t : Option Nat)
    (g : Gateway σ) : handOver c q r t g =
      let x := serve c .gateway (g.target q.path q.host) q (r.getD {})
        (.completion g.completions.length) (offered q t g)
      ((g.completions.length, x.1), x.2) := by
  unfold handOver
  rw [bind_apply, offer_eq]
  rfl

/-- A dispatch hands the request over, and answers with a server error for a handler that
failed. -/
theorem dispatch_eq (c : Collaborators σ) (q : Request) (r : Option Response) (t : Option Nat) :
    dispatch c (some q) r t = (do
      let (k, a) ← handOver c q r t
      match a with
      | .ok () => return .ok ()
      | .error f =>
        notify (.handlerFailed f)
        answer c (.completion k) (some .serverError)) := rfl

theorem dispatch_apply (c : Collaborators σ) (q : Request) (r : Option Response)
    (t : Option Nat) (g : Gateway σ) : dispatch c (some q) r t g =
      match (handOver c q r t g).1.2 with
      | .ok () => (.ok (), (handOver c q r t g).2)
      | .error f => answer c (.completion (handOver c q r t g).1.1) (some .serverError)
          (notify (.handlerFailed f) (handOver c q r t g).2).2 := by
  rw [dispatch_eq, bind_apply]
  generalize handOver c q r t g = x
  obtain ⟨⟨k, f | u⟩, g'⟩ := x
  · rfl
  · rfl

theorem dispatch_snd (c : Collaborators σ) (q : Request) (r : Option Response) (t : Option Nat)
    (g : Gateway σ) : (dispatch c (some q) r t g).2 =
      match (handOver c q r t g).1.2 with
      | .ok () => (handOver c q r t g).2
      | .error f => (answer c (.completion (handOver c q r t g).1.1) (some .serverError)
          (notify (.handlerFailed f) (handOver c q r t g).2).2).2 := by
  rw [dispatch_apply]
  cases (handOver c q r t g).1.2 <;> rfl

/-- The gateway once it is noted that the selected target gets the request. -/
def noted (q : Request) (r : Option Response) (t : Option Nat) (g : Gateway σ) : Gateway σ :=
  (write (.call .gateway (.handle (g.target q.path q.host) q (r.getD {})
    (.completion g.completions.length))) (offered q t g)).2

/-- Notices apart, a completion has been made and the request has been counted. -/
theorem noted_eq (q : Request) (r : Option Response) (t : Option Nat) (g : Gateway σ) :
    noted q r t g = { g with
      journal := (noted q r t g).journal
      completions := g.completions ++
        [.ofDispatch (g.dispatchFor q) g.dispatcher.reporter g.dispatcher.timeHeader t]
      dispatcher := { g.dispatcher with
        stats := { g.dispatcher.stats with
          dispatched := g.dispatcher.stats.dispatched + 1
          notFound := g.dispatcher.stats.notFound +
            if (g.selected q.path q.host).isSome then 0 else 1 } } } := by
  unfold noted offered prepared
  rw [chosen_eq]
  rfl

theorem own_noted (q : Request) (r : Option Response) (t : Option Nat) (g : Gateway σ) :
    (noted q r t g).own = g.own := by
  rw [noted_eq]

theorem dispatch_undertake (c : Collaborators σ) (q : Request) (r : Option Response)
    (t : Option Nat) (g : Gateway σ) : dispatch c (some q) r t g =
      undertake c q (r.getD {}) (g.target q.path q.host, g.completions.length) (noted q r t g) := by
  have h : dispatch c (some q) r t = (offer q t >>= fun p => entrust c q (r.getD {}) p) := rfl
  rw [h, bind_apply, offer_eq, entrust_eq]
  rfl

end Run
end ApiGateway
