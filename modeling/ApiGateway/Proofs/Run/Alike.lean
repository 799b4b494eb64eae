import ApiGateway.Behaviour

/-!
# Operations on related gateways

The gateway's operations take their collaborators as an argument and never look at what those keep
for themselves.  So an operation does the same on two gateways that agree in everything but that,
if only the collaborators do.

* `Alike S x y`    from gateways related by `S`, the runs `x` and `y` give the same answer and
                   leave related gateways;
* `Alike.bind`, `Alike.get`   how such runs are put together;
* `Journals S free`   the own states apart, related gateways agree, and `S` survives the entries
                   `free`;
* `Tolerates S free c c'`   what an operation needs of `S`: besides, it survives the calls of the
                   collaborators;
* `Inert S`, `Unrouted S`, `Atoms S`, `Robust S`   `S` survives the changes that operations are
                   made of: more of them from one to the next;
* `Still S`, `StillRoutes S`, `StillEvents S`   the first three for an `S` that may care for the
                   sinks of the services.

Every operation has its lemma here, with the parts that it is made of as hypotheses.  If `S` is the
identity up to own states, this says that a run can be watched without being changed; if `S` is the
identity on gateways with a property, it says that an operation keeps the property.
-/

namespace ApiGateway

variable {σ τ α β : Type}

namespace Gateway

/-- The gateway with something else in the hands of the collaborators. -/
def withOwn (g : Gateway σ) (o : τ) : Gateway τ where
  clock := g.clock
  journal := g.journal
  handlers := g.handlers
  completions := g.completions
  services := g.services
  bus := g.bus
  table := g.table
  dispatcher := g.dispatcher
  own := o

variable (g : Gateway σ) (o : τ)

@[simp] theorem withOwn_completions : (g.withOwn o).completions = g.completions := rfl
@[simp] theorem withOwn_bus : (g.withOwn o).bus = g.bus := rfl
@[simp] theorem withOwn_table : (g.withOwn o).table = g.table := rfl
@[simp] theorem withOwn_dispatcher : (g.withOwn o).dispatcher = g.dispatcher := rfl
@[simp] theorem withOwn_handler : (g.withOwn o).handler = g.handler := rfl
@[simp] theorem withOwn_responder : (g.withOwn o).responder = g.responder := by
  funext t; cases t <;> rfl

end Gateway

namespace Action

/-- The actions that may change the routes. -/
def OfRoutes : Action → Prop
  | insertRoute .. | eraseRoute _ | clearRoutes | apply _ | deploy _ | update _ | undeploy _
  | undeployAll | damage .. => True
  | _ => False

/-- The actions that may change or use the subscriptions. -/
def OfEvents : Action → Prop
  | subscribe _ | unsubscribe _ | publish _ | start | stop | shutDown => True
  | _ => False

end Action

namespace Run

theorem bind_apply (x : Run σ α) (f : α → Run σ β) (g : Gateway σ) :
    (x >>= f) g = f (x g).1 (x g).2 := rfl

theorem get_bind_apply (f : Gateway σ → Run σ β) (g : Gateway σ) : (get >>= f) g = f g g := rfl

theorem modifyGet_bind_apply (x : Gateway σ → α × Gateway σ) (f : α → Run σ β) (g : Gateway σ) :
    ((modifyGet x : Run σ α) >>= f) g = f (x g).1 (x g).2 := rfl

/-- What a reading of a list that is newest first makes of a new entry. -/
theorem reverse_filterMap_cons {ε : Type} (f : ε → Option α) (e : ε) (l : List ε) :
    ((e :: l).filterMap f).reverse = (l.filterMap f).reverse ++ (f e).toList := by
  rw [List.filterMap_cons]
  cases f e with
  | none => exact (List.append_nil _).symm
  | some a => exact List.reverse_cons

theorem filterMap_write (f : Entry → Option α) (e : Entry) (g : Gateway σ) :
    ((write e g).2.journal.filterMap f).reverse =
      (g.journal.filterMap f).reverse ++ (f e).toList :=
  reverse_filterMap_cons f e g.journal

/-- The runs give the same answer on gateways related by `S`, and leave related gateways. -/
def Alike (S : Gateway σ → Gateway τ → Prop) (x : Run σ α) (y : Run τ α) : Prop :=
  ∀ g g', S g g' → (x g).1 = (y g').1 ∧ S (x g).2 (y g').2

/-- Related gateways differ in the collaborators' own state alone. -/
def Apart (S : Gateway σ → Gateway τ → Prop) : Prop :=
  ∀ g g', S g g' → ∃ o, g' = g.withOwn o

section
variable {S : Gateway σ → Gateway τ → Prop}

theorem Alike.pure (a : α) : Alike S (pure a) (pure a) :=
  fun _ _ h => ⟨rfl, h⟩

theorem Alike.bind {x : Run σ α} {y : Run τ α} {f : α → Run σ β} {f' : α → Run τ β}
    (hx : Alike S x y) (hf : ∀ a, Alike S (f a) (f' a)) : Alike S (x >>= f) (y >>= f') := by
  intro g g' h
  obtain ⟨ha, h1⟩ := hx g g' h
  rw [bind_apply, bind_apply, ← ha]
  exact hf _ _ _ h1

theorem Alike.ite {p : Prop} [Decidable p] {x x' : Run σ α} {y y' : Run τ α}
    (h : Alike S x y) (h' : Alike S x' y') :
    Alike S (if p then x else x') (if p then y else y') := by
  by_cases hp : p
  · rw [if_pos hp, if_pos hp]
    exact h
  · rw [if_neg hp, if_neg hp]
    exact h'

/-- What an operation does may depend on what it sees, since both gateways show the same. -/
theorem Alike.get {f : Gateway σ → Run σ α} {f' : Gateway τ → Run τ α} (hS : Apart S)
    (hf : ∀ g o, S g (g.withOwn o) → Alike S (f g) (f' (g.withOwn o))) :
    Alike S (get >>= f) (get >>= f') := by
  intro g g' h
  obtain ⟨o, rfl⟩ := hS g g' h
  exact hf g o h _ _ h

theorem Alike.sure {x : Run σ α} {y : Run τ α} (hx : Alike S x y) :
    Alike S (sure x) (sure y) :=
  Alike.bind hx fun _ => Alike.pure _

theorem Alike.modify {f : Gateway σ → Gateway σ} {f' : Gateway τ → Gateway τ}
    (h : ∀ g g', S g g' → S (f g) (f' g')) : Alike S (modify f) (modify f') :=
  fun g g' hs => ⟨rfl, h g g' hs⟩

end

/-- The relation survives the entries `free`, and all notices are among them. -/
structure Journals (S : Gateway σ → Gateway τ → Prop) (free : Entry → Prop) : Prop where
  apart : Apart S
  write : ∀ e, free e → Alike S (write e) (write e)
  notice : ∀ n, free (.notice n)

/-- What an operation needs of a relation: it survives the entries `free`, all notices and the
calls of the collaborators. -/
structure Tolerates (S : Gateway σ → Gateway τ → Prop) (free : Entry → Prop)
    (c : Collaborators σ) (c' : Collaborators τ) : Prop extends Journals S free where
  build : ∀ api, Alike S (c.build api) (c'.build api)
  call : ∀ i, Alike S (c.call i) (c'.call i)
  depth : c.depth = c'.depth

section
variable {S : Gateway σ → Gateway τ → Prop} {free : Entry → Prop} {c : Collaborators σ}
  {c' : Collaborators τ}

theorem Journals.notify (J : Journals S free) (n : Notice) :
    Alike S (notify n) (notify n) :=
  J.write _ (J.notice n)

theorem Tolerates.invoke (T : Tolerates S free c c') {o : Origin} {i : Invocation}
    (h : free (.call o i)) : Alike S (invoke c o i) (invoke c' o i) :=
  Alike.bind (T.write _ h) fun _ => T.call i

theorem Tolerates.buildHandler (T : Tolerates S free c c') {api : Api} (h : free (.build api)) :
    Alike S (Run.build c api) (Run.build c' api) :=
  Alike.bind (T.write _ h) fun _ => T.build api

/-! ### Reports and answers -/

/-- What happens to a record once it is noted that a reporter gets it. -/
def relay (c : Collaborators σ) : Nat → Reporter → AccessRecord → Run σ (Except Fault Unit)
  | _, .log, _ => return .ok ()
  | _, .outside k, r => c.call (.record (.outside k) r)
  | 0, .service s, r => do
    let _ ← countAt s r
    return .ok ()
  | n + 1, .service s, r => do
    let service ← countAt s r
    fanOut (reportWithin c n (.service s service.records)) r service.sinks
    return .ok ()

theorem reportWithin_eq (c : Collaborators σ) (n : Nat) (o : Origin) (rep : Reporter)
    (r : AccessRecord) :
    reportWithin c n o rep r = (do write (.call o (.record rep r)); relay c n rep r) := by
  cases rep <;> cases n <;> rfl

theorem Alike.fanOut (T : Tolerates S free c c')
    {pass : Reporter → AccessRecord → Run σ (Except Fault Unit)}
    {pass' : Reporter → AccessRecord → Run τ (Except Fault Unit)}
    (hp : ∀ rep r, Alike S (pass rep r) (pass' rep r)) (r : AccessRecord) (l : List Reporter) :
    Alike S (Run.fanOut pass r l) (Run.fanOut pass' r l) := by
  induction l with
  | nil => exact Alike.pure ()
  | cons sink rest ih =>
    refine Alike.bind (hp sink r) fun a => ?_
    cases a with
    | ok u => exact ih
    | error f => exact Alike.bind (T.notify _) fun _ => ih

/-- Notes that a reporting service gets a record, and counts it there. -/
def enter (o : Origin) (s : Nat) (r : AccessRecord) : Run σ Service := do
  write (.call o (.record (.service s) r))
  countAt s r

theorem reportWithin_service (c : Collaborators σ) (n : Nat) (o : Origin) (s : Nat)
    (r : AccessRecord) : reportWithin c n o (.service s) r = (do
      let service ← enter o s r
      match n with
      | 0 => return .ok ()
      | n + 1 =>
        fanOut (reportWithin c n (.service s service.records)) r service.sinks
        return .ok ()) := by
  cases n <;> rfl

/-- The relation survives that records are given to reporters on someone's behalf. -/
structure Reports (S : Gateway σ → Gateway τ → Prop) (free : Entry → Prop) (o : Origin) :
    Prop where
  log : ∀ r, free (.call o (.record .log r))
  outside : ∀ k r, free (.call o (.record (.outside k) r))
  enter : ∀ s r, Alike S (enter o s r) (enter o s r)

theorem Reports.of_free (J : Journals S free) {o : Origin}
    (hcount : ∀ s r, Alike S (countAt s r) (countAt s r))
    (ho : ∀ rep r, free (.call o (.record rep r))) : Reports S free o :=
  ⟨ho .log, fun k => ho (.outside k),
    fun s r => Alike.bind (J.write _ (ho _ r)) fun _ => hcount s r⟩

theorem Alike.reportWithin (T : Tolerates S free c c')
    (hservice : ∀ s k, Reports S free (.service s k)) {o : Origin} (ho : Reports S free o)
    (n : Nat) (rep : Reporter) (r : AccessRecord) :
    Alike S (Run.reportWithin c n o rep r) (Run.reportWithin c' n o rep r) := by
  -- on how deep services may report to services; the last one reports to nobody
  induction n generalizing o rep r with
  | zero =>
    cases rep with
    | log => exact Alike.bind (T.write _ (ho.log r)) fun _ => Alike.pure _
    | outside k => exact T.invoke (ho.outside k r)
    | service s =>
      rw [reportWithin_service, reportWithin_service]
      exact Alike.bind (ho.enter s r) fun _ => Alike.pure _
  | succ n ih =>
    cases rep with
    | log => exact Alike.bind (T.write _ (ho.log r)) fun _ => Alike.pure _
    | outside k => exact T.invoke (ho.outside k r)
    | service s =>
      rw [reportWithin_service, reportWithin_service]
      refine Alike.bind (ho.enter s r) fun service => ?_
      exact Alike.bind (Alike.fanOut T (fun rep r => ih (hservice _ _) rep r) _ _) fun _ =>
        Alike.pure _

theorem Alike.report (T : Tolerates S free c c')
    (hservice : ∀ s k, Reports S free (.service s k)) {o : Origin} (ho : Reports S free o)
    (rep : Reporter) (r : AccessRecord) :
    Alike S (Run.report c o rep r) (Run.report c' o rep r) := by
  unfold Run.report
  rw [← T.depth]
  exact Alike.reportWithin T hservice ho _ rep r

theorem Alike.relay (T : Tolerates S free c c')
    (hcount : ∀ s r, Alike S (countAt s r) (countAt s r))
    (hservice : ∀ s k, Reports S free (.service s k)) (n : Nat) (rep : Reporter)
    (r : AccessRecord) : Alike S (Run.relay c n rep r) (Run.relay c' n rep r) := by
  cases rep with
  | log => cases n <;> exact Alike.pure _
  | outside k => cases n <;> exact T.call _
  | service s =>
    cases n with
    | zero => exact Alike.bind (hcount s r) fun _ => Alike.pure _
    | succ n =>
      refine Alike.bind (hcount s r) fun service => ?_
      refine Alike.bind (Alike.fanOut T (fun rep r => ?_) _ _) fun _ => Alike.pure _
      exact Alike.reportWithin T hservice (hservice _ _) n rep r

theorem Alike.respond (T : Tolerates S free c c') {o : Origin}
    (ho : ∀ t r, free (.call o (.respond t r))) (t : Option Nat) (r : Option Response) :
    Alike S (Run.respond c o t r) (Run.respond c' o t r) := by
  refine Alike.bind (T.write _ (ho t r)) fun _ => ?_
  cases t with
  | none => exact Alike.pure _
  | some t => exact T.call _

/-- The layer that lets one call through remembers that it did. -/
def fire (k : CompletionId) : Run σ Unit :=
  modify fun g => { g with completions := g.completions.modify k ({ · with fired := true }) }

section
variable (T : Tolerates S free c c') {k : CompletionId} (hfire : Alike S (fire k) (fire k))
  (hreport : ∀ rep r,
    Alike S (Run.report c (.completion k) rep r) (Run.report c' (.completion k) rep r))
  (hrespond : ∀ t r, free (.call (.completion k) (.respond t r)))
include T hfire hreport hrespond

theorem Alike.pass (t : Option Nat) (layers : List Layer) (r : Option Response) :
    Alike S (Run.pass c k t layers r) (Run.pass c' k t layers r) := by
  -- each layer may change the response before it is passed on, so for every response
  induction layers generalizing r with
  | nil => exact Alike.respond T hrespond t r
  | cons layer inner ih =>
    cases layer with
    | once id =>
      refine Alike.get T.apart fun g o _ => ?_
      rw [Gateway.withOwn_completions]
      refine Alike.ite (Alike.bind (T.notify _) fun _ => Alike.pure _) ?_
      refine Alike.bind hfire fun _ => ?_
      cases r with
      | none => exact Alike.bind (T.notify _) fun _ => ih _
      | some r => exact ih _
    | timed request header =>
      refine Alike.get T.apart fun g o _ => Alike.bind (ih _) fun a => ?_
      cases a with
      | error f => exact Alike.pure _
      | ok u =>
        refine Alike.get T.apart fun g' o' _ => ?_
        exact Alike.bind (T.notify _) fun _ => Alike.pure _
    | reported reporter dispatch =>
      cases reporter with
      | none => exact ih r
      | some reporter =>
        cases r with
        | none => exact ih none
        | some r =>
          refine Alike.bind (hreport _ _) fun a => ?_
          cases a with
          | ok u => exact ih (some r)
          | error f => exact Alike.bind (T.notify _) fun _ => ih (some r)

end

theorem Alike.answer (T : Tolerates S free c c') {k : CompletionId}
    (hanswer : ∀ t r, free (.answer k t r))
    (hpass : ∀ t layers r, Alike S (Run.pass c k t layers r) (Run.pass c' k t layers r))
    (r : Option Response) :
    Alike S (Run.answer c (.completion k) r) (Run.answer c' (.completion k) r) := by
  refine Alike.get T.apart fun g o _ => ?_
  rw [Gateway.withOwn_completions]
  cases g.completions[k]? with
  | none => exact Alike.pure _
  | some completion =>
    refine Alike.get T.apart fun g' o' _ => ?_
    exact Alike.bind (T.write _ (hanswer _ _)) fun _ => hpass _ _ _

/-- Every entry about an answer is free. -/
structure FreeAnswers (free : Entry → Prop) : Prop where
  answer : ∀ k t r, free (.answer k t r)
  respond : ∀ o t r, free (.call o (.respond t r))

theorem Alike.reply (T : Tolerates S free c c') (F : FreeAnswers free)
    (hreport : ∀ k rep r,
      Alike S (Run.report c (.completion k) rep r) (Run.report c' (.completion k) rep r))
    (hfire : ∀ k, Alike S (fire k) (fire k)) (done : Callback) (r : Option Response) :
    Alike S (Run.answer c done r) (Run.answer c' done r) := by
  cases done with
  | receiver t => exact Alike.respond T (F.respond _) t r
  | completion k =>
    refine Alike.answer T (F.answer k) ?_ r
    exact Alike.pass T (hfire k) (hreport k) (F.respond _)

/-! ### Requests -/

/-- What happens to a request once it is noted that a target gets it. -/
def attend (c : Collaborators σ) (t : Target) (q : Request) (r : Response) (done : Callback) :
    Run σ (Except Fault Unit) := do
  match (← get).responder t with
  | .notFound =>
    notify (.unclaimed q.id q.path)
    answer c done (some r.asNotFound)
  | .fixed text => answer c done (some (r.asText text))
  | .outside => c.call (.handle t q r done)

theorem Alike.attend (T : Tolerates S free c c') {t : Target} {q : Request} {r : Response}
    {done : Callback} (hanswer : ∀ r, Alike S (Run.answer c done r) (Run.answer c' done r)) :
    Alike S (Run.attend c t q r done) (Run.attend c' t q r done) := by
  refine Alike.get T.apart fun g o _ => ?_
  rw [Gateway.withOwn_responder]
  cases g.responder t with
  | notFound => exact Alike.bind (T.notify _) fun _ => hanswer _
  | fixed text => exact hanswer _
  | outside => exact T.call _

theorem Alike.serve (T : Tolerates S free c c') {o : Origin} {t : Target} {q : Request}
    {r : Response} {done : Callback} (ho : free (.call o (.handle t q r done)))
    (hanswer : ∀ r, Alike S (Run.answer c done r) (Run.answer c' done r)) :
    Alike S (Run.serve c o t q r done) (Run.serve c' o t q r done) :=
  Alike.bind (T.write _ ho) fun _ => Alike.attend T hanswer

theorem Alike.select (T : Tolerates S free c c') (path host : String) :
    Alike S (Run.select path host) (Run.select path host) := by
  refine Alike.get T.apart fun g o _ => ?_
  rw [Gateway.withOwn_table, Gateway.withOwn_handler]
  exact Alike.ite (Alike.bind (T.notify _) fun _ => Alike.pure _) (Alike.pure _)

/-- Counts a request that no route serves. -/
def countMissed : Run σ Unit :=
  tally fun s => { s with notFound := s.notFound + 1 }

/-- Counts a request. -/
def countDispatched : Run σ Unit :=
  tally fun s => { s with dispatched := s.dispatched + 1 }

theorem Alike.choose (T : Tolerates S free c c') (hmissed : Alike S countMissed countMissed)
    (q : Request) : Alike S (Run.choose q) (Run.choose q) := by
  refine Alike.bind (Alike.select T _ _) fun a => ?_
  cases a with
  | none => exact Alike.bind hmissed fun _ => Alike.pure _
  | some h =>
    refine Alike.get T.apart fun g o _ => ?_
    rw [Gateway.withOwn_handler]
    exact Alike.pure _

section
variable (T : Tolerates S free c c') (hmissed : Alike S countMissed countMissed)
  (hwrap : ∀ d rep header t,
    Alike S (wrap (.ofDispatch d rep header t)) (wrap (.ofDispatch d rep header t)))
include T hmissed hwrap

/-- Everything up to the call of the handler: whom the request goes to, and the completion that
will answer it. -/
def prepare (q : Request) (t : Option Nat) : Run σ (Target × CompletionId) := do
  let (target, dispatch) ← choose q
  let d := (← get).dispatcher
  let k ← wrap (.ofDispatch dispatch d.reporter d.timeHeader t)
  return (target, k)

theorem Alike.prepare (q : Request) (t : Option Nat) :
    Alike S (Run.prepare q t) (Run.prepare q t) := by
  refine Alike.bind (Alike.choose T hmissed q) fun a => ?_
  refine Alike.get T.apart fun g o _ => ?_
  rw [Gateway.withOwn_dispatcher]
  exact Alike.bind (hwrap _ _ _ _) fun k => Alike.pure _

/-- The call of the handler, with a server error in its place if it fails. -/
def entrust (c : Collaborators σ) (q : Request) (r : Response) (p : Target × CompletionId) :
    Run σ (Except Fault Unit) := do
  match ← serve c .gateway p.1 q r (.completion p.2) with
  | .ok () => return .ok ()
  | .error f =>
    notify (.handlerFailed f)
    answer c (.completion p.2) (some .serverError)

/-- The same once it is noted that the handler gets the request. -/
def undertake (c : Collaborators σ) (q : Request) (r : Response) (p : Target × CompletionId) :
    Run σ (Except Fault Unit) := do
  match ← attend c p.1 q r (.completion p.2) with
  | .ok () => return .ok ()
  | .error f =>
    notify (.handlerFailed f)
    answer c (.completion p.2) (some .serverError)

omit T hmissed hwrap in
theorem entrust_eq (c : Collaborators σ) (q : Request) (r : Response)
    (p : Target × CompletionId) : Run.entrust c q r p = (do
      write (.call .gateway (.handle p.1 q r (.completion p.2)))
      undertake c q r p) := rfl

omit T hmissed hwrap in
theorem Alike.undertake (T : Tolerates S free c c') (q : Request) (r : Response)
    (p : Target × CompletionId)
    (hanswer : ∀ r, Alike S (Run.answer c (.completion p.2) r) (Run.answer c' (.completion p.2) r)) :
    Alike S (Run.undertake c q r p) (Run.undertake c' q r p) := by
  refine Alike.bind (Alike.attend T hanswer) fun a => ?_
  cases a with
  | ok u => exact Alike.pure _
  | error f => exact Alike.bind (T.notify _) fun _ => hanswer _

omit T hmissed hwrap in
theorem Alike.entrust (T : Tolerates S free c c') (q : Request) (r : Response)
    (p : Target × CompletionId)
    (hhandle : free (.call .gateway (.handle p.1 q r (.completion p.2))))
    (hanswer : ∀ r, Alike S (Run.answer c (.completion p.2) r) (Run.answer c' (.completion p.2) r)) :
    Alike S (Run.entrust c q r p) (Run.entrust c' q r p) := by
  rw [entrust_eq, entrust_eq]
  exact Alike.bind (T.write _ hhandle) fun _ => Alike.undertake T q r p hanswer

omit T hmissed hwrap in
theorem dispatch_some (c : Collaborators σ) (q : Request) (r : Option Response) (t : Option Nat) :
    Run.dispatch c (some q) r t = (do
      countDispatched
      notify (.receiving q.id q.path)
      let p ← Run.prepare q t
      Run.entrust c q (r.getD {}) p) := rfl

theorem Alike.dispatch (hcount : Alike S countDispatched countDispatched)
    (hreceiver : ∀ t r, Alike S (Run.respond c .gateway t r) (Run.respond c' .gateway t r))
    (hentrust : ∀ q r p, Alike S (Run.entrust c q r p) (Run.entrust c' q r p))
    (q : Option Request) (r : Option Response) (t : Option Nat) :
    Alike S (Run.dispatch c q r t) (Run.dispatch c' q r t) := by
  cases q with
  | none =>
    refine Alike.bind hcount fun _ => Alike.bind (T.notify _) fun _ => ?_
    exact Alike.ite (hreceiver _ _) (Alike.pure _)
  | some q =>
    rw [dispatch_some, dispatch_some]
    refine Alike.bind hcount fun _ => Alike.bind (T.notify _) fun _ => ?_
    exact Alike.bind (Alike.prepare T hmissed hwrap q t) fun p => hentrust _ _ _

end

/-! ### Handlers and routes -/

/-- What happens to a hook once it is noted that it runs. -/
def runHook (c : Collaborators σ) (m : Move) (h : HandlerId) (seen : LifecycleState) :
    Run σ (Except Fault Unit) := do
  let handler := (← get).handler h
  match handler.responder, m with
  | .outside, _ => c.call (.hook m h seen)
  | .fixed _, .start => notify (.fixedStarted handler.contextPath); return .ok ()
  | .fixed _, .stop => notify (.fixedStopped handler.contextPath); return .ok ()
  | .notFound, _ => return .ok ()

theorem hook_eq (c : Collaborators σ) (m : Move) (h : HandlerId) (seen : LifecycleState) :
    Run.hook c m h seen = (do write (.call .gateway (.hook m h seen)); runHook c m h seen) := rfl

theorem Alike.runHook (J : Journals S free) {m : Move} {h : HandlerId} {s : LifecycleState}
    (hcall : Alike S (c.call (.hook m h s)) (c'.call (.hook m h s))) :
    Alike S (Run.runHook c m h s) (Run.runHook c' m h s) := by
  refine Alike.get J.apart fun g o _ => ?_
  rw [Gateway.withOwn_handler]
  dsimp only
  cases (g.handler h).responder with
  | outside => exact hcall
  | notFound => exact Alike.pure _
  | fixed text =>
    cases m with
    | start => exact Alike.bind (J.notify _) fun _ => Alike.pure _
    | stop => exact Alike.bind (J.notify _) fun _ => Alike.pure _

theorem Alike.move (J : Journals S free) (m : Move) (h : HandlerId)
    (hcall : ∀ s, Alike S (c.call (.hook m h s)) (c'.call (.hook m h s)))
    (hfree : ∀ s, free (.call .gateway (.hook m h s)))
    (hset : ∀ s, Alike S (setState h s) (setState h s)) :
    Alike S (Run.move c m h) (Run.move c' m h) := by
  refine Alike.get J.apart fun g o _ => ?_
  rw [Gateway.withOwn_handler]
  dsimp only
  cases m.hookState? (g.handler h).state with
  | none => exact Alike.pure _
  | some seen =>
    have hhook : Alike S (Run.hook c m h seen) (Run.hook c' m h seen) := by
      rw [hook_eq, hook_eq]
      exact Alike.bind (J.write _ (hfree seen)) fun _ => Alike.runHook J (hcall seen)
    refine Alike.bind (hset _) fun _ => Alike.bind hhook fun a => ?_
    exact Alike.bind (hset _) fun _ => Alike.pure _

/-- Takes the route of an API out of the route table, and tells what became of it. -/
def takeRoute (api : String) : Run σ Removal :=
  modifyGet fun g =>
    let (removal, table) := g.table.erase api
    (removal, { g with table := table })

theorem Alike.eraseRoute (J : Journals S free) {api : String}
    (htake : Alike S (takeRoute api) (takeRoute api)) :
    Alike S (Run.eraseRoute api) (Run.eraseRoute api) := by
  refine Alike.bind htake fun removal => ?_
  cases removal with
  | absent => exact Alike.pure _
  | stale path => exact Alike.bind (J.notify _) fun _ => Alike.pure _
  | removed h => exact Alike.pure _

/-- A change of the counters that leaves those of requests alone. -/
def SparesTraffic (f : DispatchStats → DispatchStats) : Prop :=
  ∀ s, (f s).dispatched = s.dispatched ∧ (f s).notFound = s.notFound

section
variable (J : Journals S free)
  (htally : ∀ f, SparesTraffic f → Alike S (tally f) (tally f))
include J htally

theorem Alike.deployFailed (n : Notice) : Alike S (Run.deployFailed n) (Run.deployFailed n) :=
  Alike.bind (htally _ fun _ => ⟨rfl, rfl⟩) fun _ => J.notify n

theorem Alike.retire {api : String} {h : HandlerId}
    (hmove : Alike S (Run.move c .stop h) (Run.move c' .stop h)) :
    Alike S (Run.retire c api h) (Run.retire c' api h) := by
  refine Alike.bind hmove fun a => ?_
  cases a with
  | ok u => exact Alike.pure _
  | error e => exact Alike.bind (htally _ fun _ => ⟨rfl, rfl⟩) fun _ => J.notify _

theorem Alike.publishHandler {api : String} {h : HandlerId}
    (hinsert : Alike S (insertRoute api (some h)) (insertRoute api (some h)))
    (hretire : Alike S (Run.retire c api h) (Run.retire c' api h)) :
    Alike S (Run.publishHandler c api h) (Run.publishHandler c' api h) := by
  refine Alike.bind hinsert fun a => ?_
  cases a with
  | some r =>
    refine Alike.get J.apart fun g o _ => ?_
    rw [Gateway.withOwn_handler]
    exact Alike.bind (Alike.deployFailed J htally _) fun _ => hretire
  | none =>
    refine Alike.bind (htally _ fun _ => ⟨rfl, rfl⟩) fun _ => Alike.get J.apart fun g o _ => ?_
    rw [Gateway.withOwn_handler]
    exact J.notify _

theorem Alike.deploy {api : Api}
    (hbuild : Alike S (Run.build c api) (Run.build c' api))
    (hstart : ∀ h, Alike S (Run.move c .start h) (Run.move c' .start h))
    (hpublish : ∀ h, Alike S (Run.publishHandler c api.id h) (Run.publishHandler c' api.id h)) :
    Alike S (Run.deploy c api) (Run.deploy c' api) := by
  refine Alike.ite (Alike.bind hbuild fun a => ?_) (J.notify _)
  cases a with
  | error f => exact Alike.deployFailed J htally _
  | ok h =>
    cases h with
    | none => exact Alike.deployFailed J htally _
    | some h =>
      refine Alike.bind (hstart h) fun a => ?_
      cases a with
      | error e => exact Alike.deployFailed J htally _
      | ok u => exact hpublish h

theorem Alike.undeploy {api : String}
    (htake : Alike S (takeRoute api) (takeRoute api))
    (hretire : ∀ h, Alike S (Run.retire c api h) (Run.retire c' api h)) :
    Alike S (Run.undeploy c api) (Run.undeploy c' api) := by
  refine Alike.bind (Alike.eraseRoute J htake) fun a => ?_
  cases a with
  | none => exact J.notify _
  | some h =>
    refine Alike.bind (htally _ fun _ => ⟨rfl, rfl⟩) fun _ => Alike.bind (hretire h) fun _ => ?_
    exact J.notify _

end

theorem Alike.retireAll (htally : ∀ f, SparesTraffic f → Alike S (tally f) (tally f))
    (hretire : ∀ api h, Alike S (Run.retire c api h) (Run.retire c' api h)) (l : List Route) :
    Alike S (Run.retireAll c l) (Run.retireAll c' l) := by
  induction l with
  | nil => exact Alike.pure _
  | cons r rest ih =>
    exact Alike.bind (htally _ fun _ => ⟨rfl, rfl⟩) fun _ => Alike.bind (hretire _ _) fun _ => ih

theorem Alike.undeployAll (J : Journals S free) (hclear : Alike S clearRoutes clearRoutes)
    (hretire : ∀ l, Alike S (Run.retireAll c l) (Run.retireAll c' l)) :
    Alike S (Run.undeployAll c) (Run.undeployAll c') := by
  refine Alike.bind hclear fun l => Alike.bind (hretire l) fun _ => ?_
  exact Alike.ite (J.notify _) (Alike.pure _)

theorem Alike.update (J : Journals S free) {api : Api}
    (hundeploy : Alike S (Run.undeploy c api.id) (Run.undeploy c' api.id))
    (hdeploy : Alike S (Run.deploy c api) (Run.deploy c' api)) :
    Alike S (Run.update c api) (Run.update c' api) := by
  refine Alike.get J.apart fun g o _ => ?_
  rw [Gateway.withOwn_table]
  exact Alike.ite (Alike.bind hundeploy fun _ => hdeploy)
    (Alike.bind (J.notify _) fun _ => hdeploy)

theorem Alike.apply {e : ApiEvent}
    (hdeploy : Alike S (Run.deploy c e.api) (Run.deploy c' e.api))
    (hupdate : Alike S (Run.update c e.api) (Run.update c' e.api))
    (hundeploy : Alike S (Run.undeploy c e.api.id) (Run.undeploy c' e.api.id)) :
    Alike S (Run.apply c e) (Run.apply c' e) := by
  unfold Run.apply
  cases e.kind with
  | deploy => exact hdeploy
  | update => exact hupdate
  | undeploy => exact hundeploy
  | other n => exact Alike.pure _

/-! ### Events -/

/-- Sets what a dispatcher knows of its own state. -/
def adjust (f : Dispatcher → Dispatcher) : Run σ Unit :=
  modify fun g => { g with dispatcher := f g.dispatcher }

/-- A change of no more than whether a dispatcher runs and what it is subscribed to. -/
def SparesSettings (f : Dispatcher → Dispatcher) : Prop :=
  ∀ d, ∃ running subscription, f d = { d with running := running, subscription := subscription }

theorem Alike.hear (T : Tolerates S free c c') {e : ApiEvent} {s : Subscription}
    (hfree : free (.call .gateway (.deliver s.id s.listener e)))
    (happly : Alike S (Run.apply c e) (Run.apply c' e)) :
    Alike S (Run.hear c e s) (Run.hear c' e s) := by
  refine Alike.bind (T.write _ hfree) fun _ => ?_
  cases s.listener with
  | gateway => exact Alike.bind happly fun _ => Alike.pure _
  | outside l => exact T.call _
  | empty => exact Alike.pure _

theorem Alike.deliver (T : Tolerates S free c c') {e : ApiEvent}
    (hhear : ∀ s, Alike S (Run.hear c e s) (Run.hear c' e s)) (l : List Subscription) :
    Alike S (Run.deliver c e l) (Run.deliver c' e l) := by
  induction l with
  | nil => exact Alike.pure _
  | cons s rest ih =>
    refine Alike.get T.apart fun g o _ => ?_
    rw [Gateway.withOwn_bus]
    refine Alike.ite (Alike.bind (hhear s) fun a => ?_) ih
    cases a with
    | ok u => exact ih
    | error f => exact Alike.bind (T.notify _) fun _ => ih

theorem Alike.publish (T : Tolerates S free c c') {e : ApiEvent}
    (hhear : ∀ s, Alike S (Run.hear c e s) (Run.hear c' e s)) :
    Alike S (Run.publish c e) (Run.publish c' e) := by
  refine Alike.get T.apart fun g o _ => Alike.bind (T.notify _) fun _ => ?_
  exact Alike.deliver T hhear _

theorem Alike.start (T : Tolerates S free c c')
    (hsubscribe : Alike S (subscribe .gateway) (subscribe .gateway))
    (hadjust : ∀ f, SparesSettings f → Alike S (adjust f) (adjust f)) :
    Alike S Run.start Run.start := by
  refine Alike.get T.apart fun g o _ => ?_
  rw [Gateway.withOwn_dispatcher]
  refine Alike.ite (Alike.bind hsubscribe fun id => ?_) (Alike.pure _)
  exact Alike.bind (hadjust (fun d => { d with subscription := some id, running := true })
    fun _ => ⟨_, _, rfl⟩) fun _ => T.notify _

theorem Alike.stop (T : Tolerates S free c c')
    (hunsubscribe : ∀ id, Alike S (unsubscribe id) (unsubscribe id))
    (hadjust : ∀ f, SparesSettings f → Alike S (adjust f) (adjust f))
    (hall : Alike S (Run.undeployAll c) (Run.undeployAll c')) :
    Alike S (Run.stop c) (Run.stop c') := by
  have hend : Alike S endSubscription endSubscription := by
    refine Alike.get T.apart fun g o _ => ?_
    rw [Gateway.withOwn_dispatcher]
    cases g.dispatcher.subscription with
    | none => exact Alike.pure _
    | some id =>
      refine Alike.bind (hunsubscribe id) fun _ => ?_
      exact hadjust (fun d => { d with subscription := none }) fun _ => ⟨_, _, rfl⟩
  refine Alike.get T.apart fun g o _ => ?_
  rw [Gateway.withOwn_dispatcher]
  refine Alike.ite (Alike.bind hend fun _ => Alike.bind hall fun _ => ?_) (Alike.pure _)
  exact Alike.bind (hadjust (fun d => { d with running := false }) fun _ => ⟨_, _, rfl⟩)
    fun _ => T.notify _

theorem Alike.shutDown (hstop : Alike S (Run.stop c) (Run.stop c'))
    (hall : Alike S (Run.undeployAll c) (Run.undeployAll c')) :
    Alike S (Run.shutDown c) (Run.shutDown c') :=
  Alike.bind hstop fun _ => hall

end

/-! ### All operations -/

/-- The relation does not care for the clock, for new services, the handlers and the counters. -/
structure Still (S : Gateway σ → Gateway τ → Prop) : Prop where
  advance : ∀ ns, Alike S (advance ns) (advance ns)
  addService : Alike S addService addService
  tally : ∀ f, SparesTraffic f → Alike S (tally f) (tally f)
  create : ∀ h, Alike S (create h) (create h)
  setState : ∀ h s, Alike S (setState h s) (setState h s)

/-- Nor does it care for the sinks of the services. -/
structure Inert (S : Gateway σ → Gateway τ → Prop) : Prop extends Still S where
  addSink : ∀ s r, Alike S (addSink s r) (addSink s r)

/-- The relation cares neither for these nor for the routes; it may care for the sinks. -/
structure StillRoutes (S : Gateway σ → Gateway τ → Prop) : Prop extends Still S where
  insertRoute : ∀ api h, Alike S (insertRoute api h) (insertRoute api h)
  takeRoute : ∀ api, Alike S (takeRoute api) (takeRoute api)
  clearRoutes : Alike S clearRoutes clearRoutes
  damage : ∀ path owner, Alike S (damage path owner) (damage path owner)

/-- The relation cares neither for the sinks nor for the routes. -/
structure Unrouted (S : Gateway σ → Gateway τ → Prop) : Prop extends StillRoutes S, Inert S

/-- Besides the routes, the relation does not care for the subscriptions and what the dispatcher
knows of itself; it may care for the sinks. -/
structure StillEvents (S : Gateway σ → Gateway τ → Prop) : Prop extends StillRoutes S where
  subscribe : ∀ l, Alike S (subscribe l) (subscribe l)
  unsubscribe : ∀ id, Alike S (unsubscribe id) (unsubscribe id)
  adjust : ∀ f, SparesSettings f → Alike S (adjust f) (adjust f)

/-- The relation cares for none of these. -/
structure Atoms (S : Gateway σ → Gateway τ → Prop) : Prop extends StillEvents S, Unrouted S

section
variable {S : Gateway σ → Gateway τ → Prop} {free : Entry → Prop} {c : Collaborators σ}
  {c' : Collaborators τ}

section
variable (T : Tolerates S free c c') (A : Still S)
  (hhook : ∀ m h s, free (.call .gateway (.hook m h s)))
include T A hhook

theorem Still.move (m : Move) (h : HandlerId) : Alike S (Run.move c m h) (Run.move c' m h) :=
  Alike.move T.toJournals m h (fun _ => T.call _) (hhook m h) (A.setState h)

theorem Still.retire (api : String) (h : HandlerId) :
    Alike S (Run.retire c api h) (Run.retire c' api h) :=
  Alike.retire T.toJournals A.tally (A.move T hhook .stop h)

theorem Still.retireAll (l : List Route) : Alike S (Run.retireAll c l) (Run.retireAll c' l) :=
  Alike.retireAll A.tally (A.retire T hhook) l

/-- For such a relation the sinks, the reports and the operations on requests, on routes and on
events remain to be looked at. -/
theorem Still.perform
    (hreport : ∀ rep r, Alike S (Run.report c .outside rep r) (Run.report c' .outside rep r))
    (hserve : ∀ t q r done, Alike S (Run.serve c .outside t q r done)
      (Run.serve c' .outside t q r done))
    (hanswer : ∀ done r, Alike S (Run.answer c done r) (Run.answer c' done r)) (a : Action)
    (hsink : ∀ s r, a = .addSink s r → Alike S (addSink s r) (addSink s r))
    (hdispatch : ∀ q r t, a = .dispatch q r t →
      Alike S (Run.dispatch c q r t) (Run.dispatch c' q r t))
    (hroutes : a.OfRoutes → Alike S (Run.perform c a) (Run.perform c' a))
    (hevents : a.OfEvents → Alike S (Run.perform c a) (Run.perform c' a)) :
    Alike S (Run.perform c a) (Run.perform c' a) := by
  cases a with
  | advance ns => exact Alike.sure (A.advance ns)
  | create h => exact Alike.sure (A.create h)
  | move m h => exact Alike.sure (A.move T hhook m h)
  | handle t q r done => exact hserve t q r done
  | answer done r => exact hanswer done r
  | addService => exact Alike.sure A.addService
  | addSink s r => exact Alike.sure (hsink s r rfl)
  | report rep r => exact hreport rep r
  | select path host => exact Alike.sure (Alike.select T path host)
  | dispatch q r t => exact hdispatch q r t rfl
  | insertRoute | eraseRoute | clearRoutes | apply | deploy | update | undeploy | undeployAll
  | damage => exact hroutes trivial
  | subscribe | unsubscribe | publish | start | stop | shutDown => exact hevents trivial

end

section
variable (T : Tolerates S free c c') (A : StillRoutes S)
  (hhook : ∀ m h s, free (.call .gateway (.hook m h s))) (hbuild : ∀ api, free (.build api))
include T A hhook

theorem StillRoutes.publishHandler (api : String) (h : HandlerId) :
    Alike S (Run.publishHandler c api h) (Run.publishHandler c' api h) :=
  Alike.publishHandler T.toJournals A.tally (A.insertRoute _ _) (A.retire T hhook _ h)

theorem StillRoutes.undeployAll : Alike S (Run.undeployAll c) (Run.undeployAll c') :=
  Alike.undeployAll T.toJournals A.clearRoutes (A.retireAll T hhook)

theorem StillRoutes.undeploy (api : String) : Alike S (Run.undeploy c api) (Run.undeploy c' api) :=
  Alike.undeploy T.toJournals A.tally (A.takeRoute api) (A.retire T hhook api)

include hbuild

theorem StillRoutes.deploy (api : Api) : Alike S (Run.deploy c api) (Run.deploy c' api) :=
  Alike.deploy T.toJournals A.tally (T.buildHandler (hbuild api)) (A.move T hhook .start)
    (A.publishHandler T hhook _)

theorem StillRoutes.update (api : Api) : Alike S (Run.update c api) (Run.update c' api) :=
  Alike.update T.toJournals (A.undeploy T hhook api.id) (A.deploy T hhook hbuild api)

theorem StillRoutes.apply (e : ApiEvent) : Alike S (Run.apply c e) (Run.apply c' e) :=
  Alike.apply (A.deploy T hhook hbuild e.api) (A.update T hhook hbuild e.api)
    (A.undeploy T hhook e.api.id)

theorem StillRoutes.perform {a : Action} (ha : a.OfRoutes) :
    Alike S (Run.perform c a) (Run.perform c' a) := by
  cases a with
  | insertRoute api h => exact Alike.sure (A.insertRoute api h)
  | eraseRoute api => exact Alike.sure (Alike.eraseRoute T.toJournals (A.takeRoute api))
  | clearRoutes => exact Alike.sure A.clearRoutes
  | apply e => exact Alike.sure (A.apply T hhook hbuild e)
  | deploy api => exact Alike.sure (A.deploy T hhook hbuild api)
  | update api => exact Alike.sure (A.update T hhook hbuild api)
  | undeploy api => exact Alike.sure (A.undeploy T hhook api)
  | undeployAll => exact Alike.sure (A.undeployAll T hhook)
  | damage path owner => exact Alike.sure (A.damage path owner)
  | _ => exact absurd ha id

end

section
variable (T : Tolerates S free c c') (A : StillEvents S)
  (hhook : ∀ m h s, free (.call .gateway (.hook m h s))) (hbuild : ∀ api, free (.build api))
include T A hhook

theorem StillEvents.events {a : Action} (ha : a.OfEvents)
    (hpublish : ∀ e, a = .publish e → Alike S (Run.publish c e) (Run.publish c' e)) :
    Alike S (Run.perform c a) (Run.perform c' a) := by
  have hall := A.undeployAll T hhook
  have hstop := Alike.stop T A.unsubscribe A.adjust hall
  cases a with
  | subscribe l => exact Alike.sure (A.subscribe l)
  | unsubscribe id => exact Alike.sure (A.unsubscribe id)
  | publish e => exact Alike.sure (hpublish e rfl)
  | start => exact Alike.sure (Alike.start T (A.subscribe _) A.adjust)
  | stop => exact Alike.sure hstop
  | shutDown => exact Alike.sure (Alike.shutDown hstop hall)
  | _ => exact absurd ha id

include hbuild

/-- For such a relation only sinks, reports and the operations on requests remain to be looked
at. -/
theorem StillEvents.perform (hdeliver : ∀ id l e, free (.call .gateway (.deliver id l e)))
    (hreport : ∀ rep r, Alike S (Run.report c .outside rep r) (Run.report c' .outside rep r))
    (hserve : ∀ t q r done, Alike S (Run.serve c .outside t q r done)
      (Run.serve c' .outside t q r done))
    (hanswer : ∀ done r, Alike S (Run.answer c done r) (Run.answer c' done r)) (a : Action)
    (hsink : ∀ s r, a = .addSink s r → Alike S (addSink s r) (addSink s r))
    (hdispatch : ∀ q r t, a = .dispatch q r t →
      Alike S (Run.dispatch c q r t) (Run.dispatch c' q r t)) :
    Alike S (Run.perform c a) (Run.perform c' a) := by
  have hpublish (e : ApiEvent) : Alike S (Run.publish c e) (Run.publish c' e) :=
    Alike.publish T fun _ => Alike.hear T (hdeliver _ _ _) (A.apply T hhook hbuild e)
  exact A.toStill.perform T hhook hreport hserve hanswer a hsink hdispatch
    (A.toStillRoutes.perform T hhook hbuild) fun ha => A.events T hhook ha fun e _ => hpublish e

end

/-- For a relation that does not care for the sinks, only reports and the operations on requests
remain. -/
theorem Atoms.perform (T : Tolerates S free c c') (A : Atoms S)
    (hhook : ∀ m h s, free (.call .gateway (.hook m h s))) (hbuild : ∀ api, free (.build api))
    (hdeliver : ∀ id l e, free (.call .gateway (.deliver id l e)))
    (hreport : ∀ rep r, Alike S (Run.report c .outside rep r) (Run.report c' .outside rep r))
    (hserve : ∀ t q r done, Alike S (Run.serve c .outside t q r done)
      (Run.serve c' .outside t q r done))
    (hanswer : ∀ done r, Alike S (Run.answer c done r) (Run.answer c' done r)) (a : Action)
    (hdispatch : ∀ q r t, a = .dispatch q r t →
      Alike S (Run.dispatch c q r t) (Run.dispatch c' q r t)) :
    Alike S (Run.perform c a) (Run.perform c' a) :=
  A.toStillEvents.perform T hhook hbuild hdeliver hreport hserve hanswer a
    (fun s r _ => A.addSink s r) hdispatch

end

/-- The relation does not care for the completions and the counters of requests and of records. -/
structure Trafficless (S : Gateway σ → Gateway τ → Prop) : Prop where
  fire : ∀ k, Alike S (fire k) (fire k)
  missed : Alike S countMissed countMissed
  dispatched : Alike S countDispatched countDispatched
  wrap : ∀ d rep header t,
    Alike S (wrap (.ofDispatch d rep header t)) (wrap (.ofDispatch d rep header t))
  countAt : ∀ s r, Alike S (countAt s r) (countAt s r)

/-- Every entry about a hook, a request, a record or an answer is free. -/
structure FreeCalls (free : Entry → Prop) : Prop extends FreeAnswers free where
  record : ∀ o rep r, free (.call o (.record rep r))
  hook : ∀ m h s, free (.call .gateway (.hook m h s))
  handle : ∀ o t q r done, free (.call o (.handle t q r done))

theorem FreeCalls.all : FreeCalls fun _ => True :=
  ⟨⟨fun _ _ _ => trivial, fun _ _ _ => trivial⟩, fun _ _ _ => trivial, fun _ _ _ => trivial,
    fun _ _ _ _ _ => trivial⟩

section
variable {S : Gateway σ → Gateway τ → Prop} {free : Entry → Prop} {c : Collaborators σ}
  {c' : Collaborators τ} (T : Tolerates S free c c') (B : Trafficless S) (F : FreeCalls free)
include T B F

theorem Trafficless.report (o : Origin) (rep : Reporter) (r : AccessRecord) :
    Alike S (Run.report c o rep r) (Run.report c' o rep r) := by
  have hreports (o : Origin) : Reports S free o := .of_free T.toJournals B.countAt (F.record o)
  exact Alike.report T (fun _ _ => hreports _) (hreports o) rep r

theorem Trafficless.answer (done : Callback) (r : Option Response) :
    Alike S (Run.answer c done r) (Run.answer c' done r) :=
  Alike.reply T F.toFreeAnswers (fun _ => B.report T F _) B.fire done r

theorem Trafficless.dispatch (q : Option Request) (r : Option Response) (t : Option Nat) :
    Alike S (Run.dispatch c q r t) (Run.dispatch c' q r t) :=
  Alike.dispatch T B.missed B.wrap B.dispatched (Alike.respond T (F.respond _))
    (fun q r p => Alike.entrust T q r p (F.handle _ _ _ _ _) (B.answer T F _)) q r t

/-- For a relation that does not care for requests either, the operations on routes and on events
remain to be looked at. -/
theorem Trafficless.perform (A : Inert S) (a : Action)
    (hroutes : a.OfRoutes → Alike S (Run.perform c a) (Run.perform c' a))
    (hevents : a.OfEvents → Alike S (Run.perform c a) (Run.perform c' a)) :
    Alike S (Run.perform c a) (Run.perform c' a) :=
  A.toStill.perform T F.hook (B.report T F .outside)
    (fun _ _ _ done => Alike.serve T (F.handle _ _ _ _ _) (B.answer T F done)) (B.answer T F) a
    (fun s r _ => A.addSink s r) (fun q r t _ => B.dispatch T F q r t) hroutes hevents

end

/-- The relation survives every change that an operation makes of the gateway. -/
structure Robust (S : Gateway σ → Gateway τ → Prop) : Prop extends Atoms S, Trafficless S

section
variable {S : Gateway σ → Gateway τ → Prop} {c : Collaborators σ} {c' : Collaborators τ}
  (B : Robust S) (T : Tolerates S (fun _ => True) c c')
include B T

theorem Robust.perform (a : Action) : Alike S (Run.perform c a) (Run.perform c' a) := by
  have hbuild (api : Api) : (fun _ : Entry => True) (.build api) := trivial
  have hpublish (e : ApiEvent) : Alike S (Run.publish c e) (Run.publish c' e) :=
    Alike.publish T fun _ => Alike.hear T trivial (B.apply T FreeCalls.all.hook hbuild e)
  exact B.toTrafficless.perform T .all B.toInert a
    (B.toUnrouted.perform T FreeCalls.all.hook hbuild)
    fun ha => B.toStillEvents.events T FreeCalls.all.hook ha fun e _ => hpublish e

end
end Run
end ApiGateway
