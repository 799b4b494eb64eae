import ApiGateway.Proofs.Independence.Board
import ApiGateway.Proofs.Route.Keyed
import ApiGateway.Proofs.Run.Aloof

/-!
# Collaborators that go by the definition

A steady factory has the same answer for a definition every time, and the hooks of the handler that
it makes do the same every time.  With such collaborators, what an event does to a gateway is told
by its board.

* `Steady.behaviours`   the collaborators; they never call back;
* `Gateway.board`       the routes of a gateway, with how their handlers are, and its counters;
* `Gateway.Shows`       the gateway shows a board;
* `move_shows`          a move of a handler without a route is not to be seen;
* `deploy_shows`, `undeploy_shows`, `apply_shows`   an operation on the gateway is one on the board.
-/

namespace ApiGateway

variable {σ : Type}

/-! ### Steady collaborators -/

structure Steady where
  /-- A fault, no handler, or who answers for a new handler made from the definition. -/
  build : Api → Except Fault (Option Responder)
  /-- What the hooks of such a handler come to. -/
  hook : Api → Move → Except Fault Unit

/-- What the hooks of each handler come to, and the number of the next handler. -/
structure Habits where
  next : HandlerId
  hook : HandlerId → Move → Except Fault Unit

/-- A new handler has its hooks. -/
def Habits.add (o : Habits) (hook : Move → Except Fault Unit) : Habits :=
  ⟨o.next + 1, Function.update o.hook o.next hook⟩

/-- What a move comes to; only a handler from outside has hooks that can fail. -/
def Responder.outcome (r : Responder) (hook : Move → Except Fault Unit) (m : Move) :
    Except Fault Unit :=
  match r with
  | .outside => hook m
  | .fixed _ => .ok ()
  | .notFound => .ok ()

/-- A handler can be stopped as long as it is started. -/
theorem Handler.isStarted_eq (h : Handler) :
    h.isStarted = (Move.stop.hookState? h.state).isSome := by
  unfold isStarted
  cases h.state <;> rfl

namespace Steady

variable (s : Steady)

def aloof : Aloof Habits where
  build api o :=
    match s.build api with
    | .error f => (.error f, o)
    | .ok none => (.ok none, o)
    | .ok (some responder) => (.ok (some responder), o.add (s.hook api))
  hook m h o := (o.hook h m, o)

def behaviours : Behaviours Habits :=
  s.aloof.behaviours

/-- What comes of a definition. -/
def launch (api : Api) : Board.Launch :=
  if api.enabled then
    match s.build api with
    | .ok (some responder) =>
      match responder.outcome (s.hook api) .start with
      | .error _ => .failed
      | .ok _ => .site
          { api := api.id
            host := (Handler.create api.contextPath api.virtualHost responder).virtualHost
            started := true
            stops := (responder.outcome (s.hook api) .stop).isOk }
    | _ => .failed
  else .skipped

theorem launch_unbuilt {api : Api} (henabled : api.enabled = true)
    (h : ∀ responder, s.build api ≠ .ok (some responder)) : s.launch api = .failed := by
  unfold launch
  rw [if_pos henabled]
  split
  · next responder hbuild => exact absurd hbuild (h responder)
  · rfl

theorem runHook_aloof (m : Move) (h : HandlerId) (o : Habits) (r : Responder) :
    s.aloof.runHook m h o r = (r.outcome (o.hook h) m, o) := by
  cases r <;> rfl

end Steady

/-! ### The board of a gateway -/

namespace Gateway

variable {g g' : Gateway Habits} {b : Board} {i : HandlerId}

/-- The handler is started, and its stop hook does not fail. -/
def stops (g : Gateway Habits) (h : HandlerId) : Bool :=
  (g.handler h).isStarted && ((g.handler h).responder.outcome (g.own.hook h) .stop).isOk

def site (g : Gateway Habits) (e : Route) : Site where
  api := e.api
  host := (g.handler e.handler).virtualHost
  started := (g.handler e.handler).isStarted
  stops := g.stops e.handler

def board (g : Gateway Habits) : Board where
  site p := (g.table.routes.at? p).map g.site
  path := g.table.routes.pathOf?
  stats := g.dispatcher.stats

/-- The gateway shows the board, and its collaborators know which handler is the next. -/
structure Shows (g : Gateway Habits) (b : Board) : Prop where
  keyed : g.Keyed
  next : g.own.next = g.handlers.length
  board : g.board = b

/-- The handler is made, but has no route. -/
def Spare (g : Gateway Habits) (h : HandlerId) : Prop :=
  h < g.handlers.length ∧ ∀ e ∈ g.table.routes.entries, e.handler ≠ h

theorem Spare.setState (hi : g.Spare i) (s : LifecycleState) (journal : List Entry) :
    ({ (Run.setState i s g).2 with journal := journal } : Gateway Habits).Spare i :=
  ⟨Nat.lt_of_lt_of_eq hi.1 (List.length_modify _ _ _).symm, hi.2⟩

/-- A gateway with the same routes shows the same if their handlers are as they were. -/
theorem board_congr (ht : g'.table.routes = g.table.routes)
    (hs : g'.dispatcher.stats = g.dispatcher.stats)
    (hsite : ∀ e ∈ g.table.routes.entries, g'.site e = g.site e) : g'.board = g.board := by
  have hsites : (fun p => (g'.table.routes.at? p).map g'.site) =
      fun p => (g.table.routes.at? p).map g.site := by
    funext p
    rw [ht]
    cases hat : g.table.routes.at? p with
    | none => rfl
    | some e => exact congrArg some (hsite e (Routes.mem_of_at?_eq_some hat).1)
  unfold board
  rw [hsites, ht, hs]

namespace Shows

theorem congr (h : g.Shows b) (ho : g'.own = g.own) (hh : g'.handlers = g.handlers)
    (ht : g'.table.routes = g.table.routes) (hs : g'.dispatcher.stats = g.dispatcher.stats) :
    g'.Shows b := by
  have hhandler : g'.handler = g.handler := by
    unfold handler
    rw [hh]
  refine ⟨h.keyed.congr hh (congrArg Routes.entries ht), ?_, ?_⟩
  · rw [ho, hh]
    exact h.next
  · rw [← h.board]
    refine board_congr ht hs fun e _ => ?_
    simp only [site, stops, hhandler, ho]

theorem tally (h : g.Shows b) {f : DispatchStats → DispatchStats} {d : DispatchStats}
    (hf : ∀ s, f s = s + d) : (Run.tally f g).2.Shows (b.count d) := by
  refine ⟨h.keyed.congr rfl rfl, h.next, ?_⟩
  rw [← h.board]
  show { g.board with stats := f g.dispatcher.stats } = g.board.count d
  rw [hf]
  rfl

theorem notify (h : g.Shows b) (n : Notice) : (Run.notify n g).2.Shows b :=
  h.congr rfl rfl rfl rfl

theorem setState (h : g.Shows b) (hi : g.Spare i) (s : LifecycleState) :
    (Run.setState i s g).2.Shows b := by
  refine ⟨h.keyed.setState i s, h.next.trans (List.length_modify _ _ _).symm, ?_⟩
  rw [← h.board]
  refine board_congr rfl rfl fun e he => ?_
  have hother : (Run.setState i s g).2.handler e.handler = g.handler e.handler :=
    g.handler_setState_other (hi.2 e he).symm s
  have hown : (Run.setState i s g).2.own = g.own := rfl
  simp only [site, stops, hother, hown]

theorem create (h : g.Shows b) (hook : Move → Except Fault Unit) (new : Handler) :
    (Run.create new (g.withOwn (g.own.add hook))).2.Shows b := by
  have hkeyed : (g.withOwn (g.own.add hook)).Keyed := h.keyed.congr rfl rfl
  refine ⟨hkeyed.create new, ?_, ?_⟩
  · show g.own.next + 1 = (g.handlers ++ [new]).length
    rw [h.next, List.length_append]
    rfl
  · rw [← h.board]
    refine board_congr rfl rfl fun e he => ?_
    have hlen : e.handler < g.handlers.length := h.keyed.made e he
    have hold : (Run.create new (g.withOwn (g.own.add hook))).2.handler e.handler =
        g.handler e.handler := Gateway.handler_create (g.withOwn (g.own.add hook)) hlen new
    have hhook : (Run.create new (g.withOwn (g.own.add hook))).2.own.hook e.handler =
        g.own.hook e.handler := by
      refine Function.update_of_ne ?_ _ _
      rw [h.next]
      exact Nat.ne_of_lt hlen
    simp only [site, stops, hold, hhook]

end Shows

/-! ### Routes that come and go -/

/-- A handler gets a route on its path. -/
theorem board_added {a : String} (hat : g.table.routes.at? (g.handler i).contextPath = none)
    (hof : g.table.routes.pathOf? a = none) :
    ({ g with table := g.table.added g.handler a i } : Gateway Habits).board =
      { g.board with
        site := Function.update g.board.site (g.handler i).contextPath
          (some (g.site ⟨(g.handler i).contextPath, a, i⟩))
        path := Function.update g.board.path a (some (g.handler i).contextPath) } := by
  have hat' := Routes.at?_insert (e := ⟨(g.handler i).contextPath, a, i⟩) hat
  have hof' := Routes.pathOf?_insert (e := ⟨(g.handler i).contextPath, a, i⟩) hof
  show Board.mk (Option.map g.site ∘ (g.table.routes.insert _).at?)
    (g.table.routes.insert _).pathOf? _ = _
  rw [hat', hof', Function.comp_update]
  rfl

/-- What is on a path goes, and what the index has for an API. -/
theorem board_removed (a p : String) :
    ({ g with table := g.table.removed a p } : Gateway Habits).board =
      { g.board with
        site := Function.update g.board.site p none
        path := Function.update g.board.path a none } := by
  show Board.mk (Option.map g.site ∘ ((g.table.routes.forget a).vacate p).at?)
    (g.table.routes.forget a).pathOf? _ = _
  rw [Routes.at?_vacate, Routes.pathOf?_forget, Function.comp_update]
  rfl

end Gateway

namespace Run

variable (s : Steady) (n : Nat) {g : Gateway Habits} {b : Board} {i : HandlerId}

/-! ### Moves -/

/-- An allowed move is its hook between two changes of the handler's state.  Of a handler without a
route nothing of this is to be seen. -/
theorem move_shows (h : g.Shows b) (hi : g.Spare i) {m : Move} {seen : LifecycleState}
    (hm : m.hookState? (g.handler i).state = some seen) :
    let x := m.settle ((g.handler i).responder.outcome (g.own.hook i) m)
    ∃ g', move (s.behaviours.within (n + 1)) m i g = (x.2, g') ∧ g'.Shows b ∧ g'.Spare i ∧
      g'.own = g.own ∧ g'.handler i = { g.handler i with state := x.1 } := by
  intro x
  obtain ⟨journal, hrun⟩ := runHook_aloof s.aloof n
    (write (.call .gateway (.hook m i seen)) (setState i seen g).2).2 m i seen
  have hseen : (setState i seen g).2.handler i = { g.handler i with state := seen } :=
    g.handler_setState_self hi.1 seen
  have hnoted : (write (.call .gateway (.hook m i seen)) (setState i seen g).2).2.handler i =
      { g.handler i with state := seen } := hseen
  rw [hnoted, s.runHook_aloof] at hrun
  let g₁ : Gateway Habits := { (setState i seen g).2 with journal := journal }
  have hspare : g₁.Spare i := hi.setState seen journal
  have hshows : g₁.Shows b := (h.setState hi seen).congr rfl rfl rfl rfl
  refine ⟨(setState i x.1 g₁).2, ?_, hshows.setState hspare _,
    hspare.setState _ journal, rfl, ?_⟩
  · rw [move_eq, hm]
    show ((m.settle (runHook (s.aloof.behaviours.within (n + 1)) m i seen _).1).2, (setState i
      (m.settle (runHook (s.aloof.behaviours.within (n + 1)) m i seen _).1).1
      (runHook (s.aloof.behaviours.within (n + 1)) m i seen _).2).2) = _
    rw [hrun]
    rfl
  · have hsame : g₁.handler i = { g.handler i with state := seen } := hseen
    rw [g₁.handler_setState_self hspare.1, hsame]

/-- A spare handler is stopped, which may fail. -/
theorem stop_shows (h : g.Shows b) (hi : g.Spare i) :
    (move (s.behaviours.within (n + 1)) .stop i g).1.isOk = g.stops i ∧
      (move (s.behaviours.within (n + 1)) .stop i g).2.Shows b := by
  unfold Gateway.stops
  rw [Handler.isStarted_eq]
  cases hm : Move.stop.hookState? (g.handler i).state with
  | none =>
    rw [move_eq, hm]
    exact ⟨rfl, h⟩
  | some seen =>
    obtain ⟨g', hmove, hshows, -⟩ := move_shows s n h hi hm
    rw [hmove]
    refine ⟨?_, hshows⟩
    cases (g.handler i).responder.outcome (g.own.hook i) .stop <;> rfl

/-- A handler without a route is stopped; that this fails is counted. -/
theorem retire_shows (h : g.Shows b) (hi : g.Spare i) (a : String) :
    (retire (s.behaviours.within (n + 1)) a i g).2.Shows
      (b.count { stopFailures := (!g.stops i).toNat }) := by
  obtain ⟨hok, hstopped⟩ := stop_shows s n h hi
  unfold retire
  rw [Run.bind_apply, ← hok]
  cases (move (s.behaviours.within (n + 1)) .stop i g).1 with
  | ok u => exact hstopped
  | error f =>
    have hcounted := hstopped.tally (f := fun s => { s with stopFailures := s.stopFailures + 1 })
      (d := { stopFailures := 1 }) fun _ => rfl
    exact hcounted.notify (.notStopped a f)

/-! ### Deployments -/

theorem deployFailed_shows (h : g.Shows b) (x : Notice) :
    (deployFailed x g).2.Shows (b.count { deployFailures := 1 }) :=
  (h.tally (f := fun s => { s with deployFailures := s.deployFailures + 1 }) fun _ => rfl).notify x

theorem accepts_iff (hstart : (g.handler i).isStarted = true) (a : String) :
    g.board.Accepts (g.handler i).contextPath a ↔
      g.table.rejection? g.handler a i = none := by
  have hsite : g.board.site (g.handler i).contextPath = none ↔
      g.table.routes.at? (g.handler i).contextPath = none := Option.map_eq_none_iff
  rw [RouteTable.rejection?_eq_none_iff, hstart, Board.Accepts, hsite]
  exact and_congr_left' (and_congr_right' (and_iff_left rfl).symm)

/-- A started handler is published, or stopped again. -/
theorem publish_shows (h : g.Shows b) (hi : g.Spare i) (hstart : (g.handler i).isStarted = true)
    (a : String) :
    (publishHandler (s.behaviours.within (n + 1)) a i g).2.Shows
      (b.deploy (g.handler i).contextPath a
        (.site (g.site ⟨(g.handler i).contextPath, a, i⟩))) := by
  obtain rfl := h.board
  have hkeyed := h.keyed.insertRoute a (some i)
  have hiff := accepts_iff hstart a
  unfold publishHandler
  rw [Run.bind_apply]
  rw [insertRoute_eq] at hkeyed ⊢
  rcases g.table.insert_cases g.handler a i with ⟨w, hw, hins⟩ | ⟨hnone, hins⟩
  · have hrefused : ¬ g.board.Accepts (g.handler i).contextPath a := by
      rw [hiff, hw]
      nofun
    rw [hins, Board.deploy_refused hrefused]
    have hrejected : ({ g with table := g.table.reject } : Gateway Habits).Shows g.board :=
      h.congr rfl rfl rfl rfl
    exact retire_shows s n
      (deployFailed_shows hrejected (.notPublished a (g.handler i).contextPath w)) hi a
  · rw [hins] at hkeyed ⊢
    rw [Board.deploy_accepted (hiff.mpr hnone)]
    obtain ⟨-, hat, hof⟩ := (RouteTable.rejection?_eq_none_iff _ _ _).mp hnone
    have hadded : ({ g with table := g.table.added g.handler a i } : Gateway Habits).Shows _ :=
      ⟨hkeyed, h.next, Gateway.board_added hat hof⟩
    have hcounted := hadded.tally (f := fun s => { s with deployed := s.deployed + 1 })
      (d := { deployed := 1 }) fun _ => rfl
    exact hcounted.notify _

/-- A new handler is started and published. -/
theorem launch_shows (h : g.Shows b) (hi : g.Spare i) {api : Api} {responder : Responder}
    (hnew : g.handler i = Handler.create api.contextPath api.virtualHost responder)
    (hhook : g.own.hook i = s.hook api) (hbuild : s.build api = .ok (some responder))
    (henabled : api.enabled = true) :
    ((do
      match ← move (s.behaviours.within (n + 1)) .start i with
      | .error e => deployFailed (.notStarted api.id e)
      | .ok () => publishHandler (s.behaviours.within (n + 1)) api.id i : Run Habits Unit) g).2.Shows
      (b.deploy (ContextPath.normalize api.contextPath) api.id (s.launch api)) := by
  have hallowed : Move.start.hookState? (g.handler i).state = some .created := by
    rw [hnew]
    rfl
  obtain ⟨g', hmove, hshows, hspare, hown, hhandler⟩ := move_shows s n h hi hallowed
  have hresponder : (g.handler i).responder = responder := by
    rw [hnew]
    rfl
  rw [hresponder, hhook] at hmove hhandler
  unfold Steady.launch
  rw [Run.bind_apply, hmove, if_pos henabled, hbuild]
  dsimp only
  cases hstart : responder.outcome (s.hook api) .start with
  | error f =>
    rw [Board.deploy_failed]
    exact deployFailed_shows hshows (.notStarted api.id (.startFailed f))
  | ok u =>
    rw [hstart, hnew] at hhandler
    have hstarted : (g'.handler i).isStarted = true := by
      rw [hhandler]
      rfl
    have hpublish := publish_shows s n hshows hspare hstarted api.id
    have hsite : g'.site ⟨(g'.handler i).contextPath, api.id, i⟩ =
        { api := api.id
          host := (Handler.create api.contextPath api.virtualHost responder).virtualHost
          started := true
          stops := (responder.outcome (s.hook api) .stop).isOk } := by
      unfold Gateway.site Gateway.stops
      rw [hstarted, hown, hhook, hhandler]
      rfl
    rw [hsite, hhandler] at hpublish
    exact hpublish

theorem build_steady (api : Api) (g : Gateway Habits) :
    build (s.behaviours.within (n + 1)) api g =
      let noted := (write (.build api) g).2
      match s.build api with
      | .error f => (.error f, noted)
      | .ok none => (.ok none, noted)
      | .ok (some responder) => (.ok (some g.handlers.length),
          (create (.create api.contextPath api.virtualHost responder)
            (noted.withOwn (noted.own.add (s.hook api)))).2) := by
  have h : build (s.behaviours.within (n + 1)) api g = _ :=
    build_aloof s.aloof n (write (.build api) g).2 api
  rw [h]
  unfold Steady.aloof
  dsimp only
  rcases s.build api with f | _ | responder
  · rfl
  · rfl
  · rfl

/-- A definition is deployed as far as the collaborators go along. -/
theorem deploy_shows (h : g.Shows b) (api : Api) :
    (deploy (s.behaviours.within (n + 1)) api g).2.Shows
      (b.deploy (ContextPath.normalize api.contextPath) api.id (s.launch api)) := by
  unfold deploy
  cases henabled : api.enabled with
  | false =>
    have hlaunch : s.launch api = .skipped := by
      unfold Steady.launch
      rw [henabled]
      rfl
    rw [if_neg Bool.false_ne_true, hlaunch, Board.deploy_skipped]
    exact h.notify _
  | true =>
    have hnoted : (write (.build api) g).2.Shows b := h.congr rfl rfl rfl rfl
    rw [if_pos rfl, Run.bind_apply, build_steady]
    cases hbuild : s.build api with
    | error f =>
      rw [s.launch_unbuilt henabled (by simp [hbuild]), Board.deploy_failed]
      exact deployFailed_shows hnoted (.notBuilt api.id f)
    | ok made =>
      cases made with
      | none =>
        rw [s.launch_unbuilt henabled (by simp [hbuild]), Board.deploy_failed]
        exact deployFailed_shows hnoted (.nothingBuilt api.id)
      | some responder =>
        have hcreated := hnoted.create (s.hook api)
          (.create api.contextPath api.virtualHost responder)
        refine launch_shows s n hcreated ⟨?_, ?_⟩ ?_ ?_ hbuild henabled
        · show g.handlers.length < (g.handlers ++ [_]).length
          rw [List.length_append]
          exact Nat.lt_succ_self _
        · intro e he
          exact Nat.ne_of_lt (h.keyed.made e he)
        · exact Gateway.handler_create_self _ _
        · show Function.update g.own.hook g.own.next (s.hook api) g.handlers.length = _
          rw [h.next, Function.update_self]

/-- What an API has is taken down. -/
theorem undeploy_shows (h : g.Shows b) (a : String) :
    (undeploy (s.behaviours.within (n + 1)) a g).2.Shows (b.undeploy a) := by
  obtain rfl := h.board
  unfold undeploy
  rw [Run.bind_apply]
  rcases eraseRoute_cases g a with ⟨hnone, herase⟩ | ⟨p, hp, hh, herase⟩ |
    ⟨e, he, hp, hown, hat, herase⟩
  · rw [herase, Board.undeploy_of_none hnone]
    exact h.notify _
  · have hother (x : Site) (hx : g.board.site p = some x) : x.api ≠ a := by
      obtain ⟨e, hat, rfl⟩ := Option.map_eq_some_iff.mp hx
      intro hapi
      have hfound := Routes.handlerOf?_eq_some_iff.mpr ⟨p, e, hp, hat, hapi, rfl⟩
      cases hh.symm.trans hfound
    rw [herase, Board.undeploy_stale hp hother]
    have hforgotten : ({ g with table := { g.table with
        routes := g.table.routes.forget a, version := g.table.version + 1 } } :
        Gateway Habits).Shows { g.board with path := Function.update g.board.path a none } := by
      refine ⟨h.keyed.congr rfl rfl, h.next, ?_⟩
      show Board.mk _ (g.table.routes.forget a).pathOf? _ = _
      rw [Routes.pathOf?_forget]
      rfl
    exact (hforgotten.notify (.staleIndex a p)).notify (.nothingToRemove a)
  · have hsite : g.board.site e.path = some (g.site e) := by
      show (g.table.routes.at? e.path).map g.site = _
      rw [hat]
      rfl
    rw [herase, Board.undeploy_owned hp hsite hown]
    have hremoved : ({ g with table := g.table.removed a e.path } : Gateway Habits).Shows _ :=
      ⟨h.keyed.filter _ List.filter_sublist, h.next, Gateway.board_removed a e.path⟩
    have hcounted := hremoved.tally (f := fun s => { s with undeployed := s.undeployed + 1 })
      (d := { undeployed := 1 }) fun _ => rfl
    have hspare : (tally (fun s => { s with undeployed := s.undeployed + 1 })
        ({ g with table := g.table.removed a e.path } : Gateway Habits)).2.Spare e.handler := by
      refine ⟨h.keyed.made e he, fun e' he' heq => ?_⟩
      -- a handler has one path, and nothing is left there
      obtain ⟨hmem, hpath⟩ := List.mem_filter.mp he'
      refine bne_iff_ne.mp hpath ?_
      rw [h.keyed.path e' hmem, heq, h.keyed.path e he]
    exact (retire_shows s n hcounted hspare a).notify (.removed a)

/-- An event does to the gateway what it does to the board. -/
theorem apply_shows (h : g.Shows b) (e : ApiEvent) :
    (apply (s.behaviours.within (n + 1)) e g).2.Shows (b.apply s.launch e) := by
  have hundeploy := undeploy_shows s n h e.api.id
  unfold apply Board.apply Board.lower Board.raise
  cases e.kind with
  | deploy => exact deploy_shows s n h e.api
  | undeploy =>
    show Gateway.Shows _ (Board.deploy _ _ .skipped _)
    rw [Board.deploy_skipped]
    exact hundeploy
  | other code =>
    show Gateway.Shows _ (Board.deploy _ _ .skipped _)
    rw [Board.deploy_skipped]
    exact h
  | update =>
    show ((if (g.table.routes.pathOf? e.api.id).isSome then
        undeploy (s.behaviours.within (n + 1)) e.api.id >>= fun _ =>
          deploy (s.behaviours.within (n + 1)) e.api
      else notify (.notYetDeployed e.api.id) >>= fun _ =>
        deploy (s.behaviours.within (n + 1)) e.api : Run Habits Unit) g).2.Shows _
    cases hpath : g.table.routes.pathOf? e.api.id with
    | some p => exact deploy_shows s n hundeploy e.api
    | none =>
      have hstay : b.undeploy e.api.id = b := by
        refine Board.undeploy_of_none ?_
        rw [← h.board]
        exact hpath
      show (deploy (s.behaviours.within (n + 1)) e.api _).2.Shows
        (Board.deploy _ _ (s.launch e.api) (b.undeploy e.api.id))
      rw [hstay]
      exact deploy_shows s n (h.notify _) e.api

end Run
end ApiGateway
