import Mathlib.Data.List.Find
import Mathlib.Data.List.Nodup
import Mathlib.Data.List.Perm.Basic
import ApiGateway.Proofs.Registry.Machine
import ApiGateway.Proofs.Run.Deploy

/-!
# The gateway refines a registry

With collaborators that never call back, deploying, updating and removing APIs is what the registry
does: the same APIs are served, by the same handlers, and the same is counted.

* `Live l g`            the started handlers are those of a list;
* `Refines r spare g`   the gateway shows what the registry holds, with `Refines.arranged` for its
                        routes in another order;
* `deploy_refines`, `undeploy_refines`, `undeployAll_refines`   the operations, one by one;
* `gateway_refines_registry`   every list of commands.
-/

namespace ApiGateway

variable {σ : Type}

namespace Served

def route (e : Served) : Route := ⟨e.path, e.api, e.handler⟩

/-- The handler of a served API, in a state. -/
def inState (e : Served) (s : LifecycleState) : Handler :=
  ⟨e.path, e.host, e.responder, s⟩

theorem handler_setState {e : Served} {g : Gateway σ} (hlen : e.handler < g.handlers.length)
    {s : LifecycleState} (he : g.handler e.handler = e.inState s) (s' : LifecycleState) :
    (Run.setState e.handler s' g).2.handler e.handler = e.inState s' := by
  rw [g.handler_setState_self hlen, he]
  rfl

end Served

/-! ### The started handlers -/

structure Live (l : List Served) (g : Gateway σ) : Prop where
  handler : ∀ e ∈ l, g.handler e.handler = e.inState .started
  nodup : (l.map (·.handler)).Nodup
  started : ∀ h, (g.handler h).state = .started → h ∈ l.map (·.handler)

namespace Live

variable {l l' : List Served} {g g' : Gateway σ} {e : Served} {h : HandlerId} {s : LifecycleState}

theorem congr (hl : Live l g) (hh : g'.handlers = g.handlers) : Live l g' := by
  have hhandler : g'.handler = g.handler := by
    unfold Gateway.handler
    rw [hh]
  refine ⟨?_, hl.nodup, ?_⟩ <;> rw [hhandler]
  · exact hl.handler
  · exact hl.started

theorem perm (hl : Live l g) (hp : l.Perm l') : Live l' g :=
  ⟨fun e he => hl.handler e (hp.mem_iff.mpr he), (hp.map _).nodup_iff.mp hl.nodup,
    fun h hs => (hp.map _).mem_iff.mp (hl.started h hs)⟩

theorem lt_length (hl : Live l g) (he : e ∈ l) : e.handler < g.handlers.length :=
  g.lt_length_of_started (congrArg Handler.state (hl.handler e he))

theorem not_mem (hl : Live l g) (hh : (g.handler h).state ≠ .started) :
    h ∉ l.map (·.handler) := by
  intro hmem
  obtain ⟨e, he, rfl⟩ := List.mem_map.mp hmem
  rw [hl.handler e he] at hh
  exact hh rfl

theorem settle (hl : Live l g) (hh : (g.handler h).state ≠ .started) (hs : s ≠ .started) :
    Live l (Run.setState h s g).2 := by
  have hmem := hl.not_mem hh
  refine ⟨fun e he => ?_, hl.nodup, fun h' hs' => ?_⟩
  · have hne : h ≠ e.handler := fun heq => hmem (heq ▸ List.mem_map_of_mem he)
    rw [g.handler_setState_other hne]
    exact hl.handler e he
  · by_cases heq : h = h'
    · subst heq
      exact absurd (g.state_setState hs') hs
    · rw [g.handler_setState_other heq] at hs'
      exact hl.started h' hs'

theorem stopped (hl : Live (e :: l) g) (hs : s ≠ .started) :
    Live l (Run.setState e.handler s g).2 := by
  obtain ⟨hmem, hnodup⟩ := List.nodup_cons.mp hl.nodup
  refine ⟨fun e' he' => ?_, hnodup, fun h hs' => ?_⟩
  · have hne : e.handler ≠ e'.handler := fun heq => hmem (List.mem_map.mpr ⟨e', he', heq.symm⟩)
    rw [g.handler_setState_other hne]
    exact hl.handler e' (List.mem_cons_of_mem e he')
  · by_cases heq : e.handler = h
    · subst heq
      exact absurd (g.state_setState hs') hs
    · rw [g.handler_setState_other heq] at hs'
      exact (List.mem_cons.mp (hl.started h hs')).resolve_left (Ne.symm heq)

theorem launched (hl : Live l g) (hlen : e.handler < g.handlers.length)
    (he : g.handler e.handler = e.inState s) (hs : s ≠ .started) :
    Live (e :: l) (Run.setState e.handler .started g).2 := by
  have hmem : e.handler ∉ l.map (·.handler) := hl.not_mem (by rwa [he])
  refine ⟨fun e' he' => ?_, List.nodup_cons.mpr ⟨hmem, hl.nodup⟩, fun h hs' => ?_⟩
  · rcases List.mem_cons.mp he' with rfl | he'
    · exact Served.handler_setState hlen he .started
    · have hne : e.handler ≠ e'.handler := fun heq => hmem (heq ▸ List.mem_map_of_mem he')
      rw [g.handler_setState_other hne]
      exact hl.handler e' he'
  · by_cases heq : e.handler = h
    · exact heq ▸ List.mem_cons_self
    · rw [g.handler_setState_other heq] at hs'
      exact List.mem_cons_of_mem _ (hl.started h hs')

theorem create (hl : Live l g) {new : Handler} (hnew : new.state ≠ .started) :
    Live l (Run.create new g).2 := by
  refine ⟨fun e he => ?_, hl.nodup, fun h hs => ?_⟩
  · rw [g.handler_create (hl.lt_length he)]
    exact hl.handler e he
  · have hlen := Gateway.lt_length_of_started _ hs
    rw [show (Run.create new g).2.handlers = g.handlers ++ [new] from rfl,
      List.length_append] at hlen
    rcases Nat.lt_succ_iff_lt_or_eq.mp hlen with hlen | rfl
    · rw [g.handler_create hlen] at hs
      exact hl.started h hs
    · rw [g.handler_create_self] at hs
      exact absurd hs hnew

end Live

/-- The gateway shows what the registry holds.  Next to the served handlers, only spare ones are
started: those that have no route yet, or have none any more. -/
structure Refines (r : Registry σ) (spare : List Served) (g : Gateway σ) : Prop where
  own : g.own = r.own
  made : g.handlers.length = r.made
  entries : g.table.routes.entries = r.served.map Served.route
  index : ∀ api, g.table.routes.pathOf? api = (r.served.find? (·.api = api)).map (·.path)
  stats : g.dispatcher.stats = r.stats
  live : Live (spare ++ r.served) g
  apis : (r.served.map (·.api)).Nodup
  paths : (r.served.map (·.path)).Nodup

namespace Refines

variable {r : Registry σ} {spare : List Served} {g g' : Gateway σ} {e : Served}

theorem congr (hr : Refines r spare g) {o : σ} (ho : g'.own = o) (hh : g'.handlers = g.handlers)
    (ht : g'.table.routes = g.table.routes) (hs : g'.dispatcher.stats = g.dispatcher.stats) :
    Refines { r with own := o } spare g' where
  own := ho
  made := hh ▸ hr.made
  entries := ht ▸ hr.entries
  index := ht ▸ hr.index
  stats := hs.trans hr.stats
  live := hr.live.congr hh
  apis := hr.apis
  paths := hr.paths

theorem notify (hr : Refines r spare g) (n : Notice) : Refines r spare (Run.notify n g).2 :=
  hr.congr hr.own rfl rfl rfl

theorem count (hr : Refines r spare g) (f : DispatchStats → DispatchStats) :
    Refines (r.count f) spare (Run.tally f g).2 :=
  { hr with stats := congrArg f hr.stats, live := hr.live.congr rfl }

theorem deployFailed (hr : Refines r spare g) (n : Notice) :
    Refines r.deployFailed spare (Run.deployFailed n g).2 :=
  (hr.count _).notify n

theorem setState (hr : Refines r spare g) {h : HandlerId} {s : LifecycleState}
    {spare' : List Served} (hl : Live (spare' ++ r.served) (Run.setState h s g).2) :
    Refines r spare' (Run.setState h s g).2 :=
  { hr with made := (List.length_modify _ _ _).trans hr.made, live := hl }

theorem create (hr : Refines r spare g) {new : Handler} (hnew : new.state ≠ .started) :
    Refines { r with made := r.made + 1 } spare (Run.create new g).2 :=
  { hr with
    made := List.length_append.trans (congrArg (· + 1) hr.made)
    live := hr.live.create hnew }

/-! ### Routes -/

/-- A started handler is published if the registry accepts it. -/
theorem rejection?_eq_none_iff (hr : Refines r spare g)
    (he : g.handler e.handler = e.inState .started)
    (hpath : ∃ s, e.path = ContextPath.normalize s) :
    g.table.rejection? g.handler e.api e.handler = none ↔ r.Accepts e := by
  obtain ⟨s, hs⟩ := hpath
  have hvalid : ContextPath.valid e.path = true ↔
      1 ≤ e.path.utf8ByteSize ∧ e.path.utf8ByteSize ≤ 1024 := by
    rw [hs]
    exact ContextPath.valid_normalize_iff s
  have hat : g.table.routes.at? e.path = none ↔ ∀ e' ∈ r.served, e'.path ≠ e.path := by
    rw [Routes.at?_eq_none_iff, hr.entries]
    simp [Served.route]
  have hof : g.table.routes.pathOf? e.api = none ↔ ∀ e' ∈ r.served, e'.api ≠ e.api := by
    rw [hr.index, Option.map_eq_none_iff, List.find?_eq_none]
    simp
  rw [RouteTable.rejection?_eq_none_iff, he, RouteTable.validApiId_iff]
  show (_ ∧ ContextPath.valid e.path = true ∧ true = true) ∧
    g.table.routes.at? e.path = none ∧ _ ↔ _
  rw [hvalid, hat, hof]
  unfold Registry.Accepts
  constructor
  · rintro ⟨⟨hid, hlen, -⟩, hfree⟩
    exact ⟨hid, hlen, hfree⟩
  · rintro ⟨hid, hlen, hfree⟩
    exact ⟨⟨hid, hlen, rfl⟩, hfree⟩

theorem insert (hr : Refines r (e :: spare) g) (hacc : r.Accepts e) :
    Refines { r with served := r.served ++ [e] } spare
      { g with table := g.table.added g.handler e.api e.handler } := by
  obtain ⟨_, _, hpath, hapi⟩ := hacc
  have he : g.handler e.handler = e.inState .started := hr.live.handler e List.mem_cons_self
  refine ⟨hr.own, hr.made, ?_, ?_, hr.stats, (hr.live.perm ?_).congr rfl, ?_, ?_⟩
  · show g.table.routes.entries ++ [⟨(g.handler e.handler).contextPath, e.api, e.handler⟩] = _
    rw [hr.entries, he, List.map_append]
    rfl
  · intro api
    have hone : [(e.api, e.path)].lookup api = ([e].find? (·.api = api)).map (·.path) :=
      Routes.lookup_index [e] (·.api) (·.path) api
    show (g.table.routes.index ++ [(e.api, (g.handler e.handler).contextPath)]).lookup api = _
    rw [he, List.lookup_append, List.find?_append, Option.map_or, ← hone, ← hr.index]
    rfl
  · show (e :: spare ++ r.served).Perm (spare ++ (r.served ++ [e]))
    rw [← List.append_assoc]
    exact (List.perm_append_singleton e _).symm
  · simpa [List.nodup_append, hr.apis] using hapi
  · simpa [List.nodup_append, hr.paths] using hpath

theorem eq_of_api (hr : Refines r spare g) {e' : Served} (he : e ∈ r.served) (he' : e' ∈ r.served)
    (h : e'.api = e.api) : e' = e :=
  List.inj_on_of_nodup_map hr.apis he' he h

theorem eq_of_path (hr : Refines r spare g) {e' : Served} (he : e ∈ r.served)
    (he' : e' ∈ r.served) (h : e'.path = e.path) : e' = e :=
  List.inj_on_of_nodup_map hr.paths he' he h

theorem at?_eq (hr : Refines r spare g) (he : e ∈ r.served) :
    g.table.routes.at? e.path = some e.route := by
  have hmem : e.path ∈ g.table.routes.entries.map (·.path) := by
    rw [hr.entries]
    exact List.mem_map_of_mem (List.mem_map_of_mem he)
  obtain ⟨x, hx⟩ := Option.ne_none_iff_exists'.mp (mt Routes.at?_eq_none_iff.mp (not_not.mpr hmem))
  obtain ⟨hin, hp⟩ := Routes.mem_of_at?_eq_some hx
  rw [hr.entries] at hin
  obtain ⟨e', he', rfl⟩ := List.mem_map.mp hin
  rw [hx, hr.eq_of_path he he' hp]

/-- A served API is taken out; its handler is to spare now. -/
theorem remove (hr : Refines r spare g) (he : e ∈ r.served) :
    Refines { r with served := r.served.filter (·.api ≠ e.api) } (e :: spare)
      { g with table := g.table.removed e.api e.path } := by
  have hsub : List.Sublist (r.served.filter (·.api ≠ e.api)) r.served := List.filter_sublist
  refine ⟨hr.own, hr.made, ?_, ?_, hr.stats, (hr.live.perm ?_).congr rfl,
    hr.apis.sublist (hsub.map _), hr.paths.sublist (hsub.map _)⟩
  · show g.table.routes.entries.filter (·.path != e.path) = _
    rw [hr.entries, List.filter_map]
    refine congrArg (List.map _) (List.filter_congr fun e' he' => ?_)
    by_cases h : e'.api = e.api
    · simp [hr.eq_of_api he he' h, Served.route]
    · have hp : e'.path ≠ e.path := fun hp => h (hr.eq_of_path he he' hp ▸ rfl)
      simp [h, hp, Served.route]
  · intro api
    show (g.table.routes.forget e.api).pathOf? api = _
    rw [Routes.pathOf?_forget, List.find?_filter]
    by_cases h : api = e.api
    · rw [h, Function.update_self, eq_comm, Option.map_eq_none_iff, List.find?_eq_none]
      simp
    · rw [Function.update_of_ne h, hr.index]
      refine congrArg (Option.map _ <| List.find? · r.served) (funext fun e' => ?_)
      by_cases he' : e'.api = api <;> simp [he', h]
  · have hperm : r.served.Perm (e :: r.served.filter (·.api ≠ e.api)) := by
      have hnodup : r.served.Nodup := hr.apis.of_map _
      have hnot : e ∉ r.served.filter (·.api ≠ e.api) := by simp
      rw [List.perm_ext_iff_of_nodup hnodup (List.nodup_cons.mpr ⟨hnot, hnodup.sublist hsub⟩)]
      intro e'
      rw [List.mem_cons, List.mem_filter, decide_eq_true_iff]
      constructor
      · intro he'
        by_cases h : e'.api = e.api
        · exact .inl (hr.eq_of_api he he' h)
        · exact .inr ⟨he', h⟩
      · rintro (rfl | ⟨he', -⟩)
        · exact he
        · exact he'
    exact (hperm.append_left spare).trans List.perm_middle

/-- Whatever the order of the routes, a registry with the same APIs is shown. -/
theorem arranged (hr : Refines r spare g) (a : Arrangement) :
    ∃ served, served.Perm r.served ∧
      Refines { r with served := served } spare { g with table := g.table.arranged a } := by
  have hp : (g.table.arranged a).routes.entries.Perm (r.served.map Served.route) := by
    rw [← hr.entries]
    exact a.perm _ _
  obtain ⟨served, hentries, hserved⟩ :=
    (congrFun₂ (List.eq_map_comp_perm Served.route) _ _).mpr hp
  refine ⟨served, hserved, hr.own, hr.made, hentries, fun api => ?_, hr.stats,
    (hr.live.perm (hserved.symm.append_left spare)).congr rfl,
    (hserved.map _).nodup_iff.mpr hr.apis, (hserved.map _).nodup_iff.mpr hr.paths⟩
  have hfind : r.served.find? (·.api = api) = served.find? (·.api = api) := by
    refine List.find?_eq_find?_of_perm hserved.symm fun e he e' he' => ?_
    have hapi : e.api = api := of_decide_eq_true he.2
    have hapi' : e'.api = api := of_decide_eq_true he'.2
    exact hr.eq_of_api he'.1 he.1 (hapi.trans hapi'.symm)
  show g.table.routes.pathOf? api = _
  rw [hr.index, hfind]

end Refines

namespace Run

variable (a : Aloof σ) (n : Nat) {r : Registry σ} {spare : List Served} {g : Gateway σ}
  {e : Served}

/-! ### Moves -/

theorem hook_refines (hr : Refines r spare g) (m : Move) (h : HandlerId) (seen : LifecycleState) :
    let x := a.runHook m h r.own (g.handler h).responder
    ∃ g', runHook (a.behaviours.within (n + 1)) m h seen
        (write (.call .gateway (.hook m h seen)) g).2 = (x.1, g') ∧
      g'.handlers = g.handlers ∧ Refines { r with own := x.2 } spare g' := by
  intro x
  obtain ⟨journal, hrun⟩ := runHook_aloof a n (write (.call .gateway (.hook m h seen)) g).2 m h seen
  rw [show (write (.call .gateway (.hook m h seen)) g).2.own = r.own from hr.own] at hrun
  exact ⟨_, hrun, rfl, hr.congr rfl rfl rfl rfl⟩

/-- A move is its hook between two changes of the handler's state. -/
theorem move_refines {m : Move} {before seen : LifecycleState}
    (he : g.handler e.handler = e.inState before) (hlen : e.handler < g.handlers.length)
    (hm : m.hookState? before = some seen) (hr : Refines r spare (setState e.handler seen g).2) :
    let x := a.runHook m e.handler r.own e.responder
    ∃ g', move (a.behaviours.within (n + 1)) m e.handler g =
        ((m.settle x.1).2, (setState e.handler (m.settle x.1).1 g').2) ∧
      e.handler < g'.handlers.length ∧ g'.handler e.handler = e.inState seen ∧
      Refines { r with own := x.2 } spare g' := by
  intro x
  have hseen := Served.handler_setState hlen he seen
  obtain ⟨g', hrun, hsame, hr'⟩ := hook_refines a n hr m e.handler seen
  rw [hseen] at hrun hr'
  refine ⟨g', ?_, ?_, ?_, hr'⟩
  · have hcases := move_eq g (a.behaviours.within (n + 1)) m e.handler
    rw [show (g.handler e.handler).state = before from congrArg Handler.state he, hm] at hcases
    refine hcases.trans ?_
    show ((m.settle (runHook _ m e.handler seen _).1).2, (setState e.handler
      (m.settle (runHook _ m e.handler seen _).1).1 (runHook _ m e.handler seen _).2).2) = _
    rw [hrun]
    rfl
  · rw [hsame]
    exact Nat.lt_of_lt_of_eq hlen (List.length_modify _ _ _).symm
  · unfold Gateway.handler at hseen ⊢
    rw [hsame, hseen]

/-- A new handler is started, and is then a spare one, or comes to nothing. -/
theorem start_refines (hr : Refines r spare g) (hlen : e.handler < g.handlers.length)
    (he : g.handler e.handler = e.inState .created) :
    let x := a.runHook .start e.handler r.own e.responder
    ∃ g', move (a.behaviours.within (n + 1)) .start e.handler g = ((Move.start.settle x.1).2, g') ∧
      match x.1 with
      | .ok () => Refines { r with own := x.2 } (e :: spare) g'
      | .error _ => Refines { r with own := x.2 } spare g' := by
  intro x
  have h1 : Refines r spare (setState e.handler .created g).2 :=
    hr.setState (hr.live.settle (by rw [he]; nofun) nofun)
  obtain ⟨g', hmove, hlen', he', hr'⟩ := move_refines a n (m := .start) he hlen rfl h1
  refine ⟨_, hmove, ?_⟩
  match x.1 with
  | .ok () => exact hr'.setState (hr'.live.launched hlen' he' nofun)
  | .error _ => exact hr'.setState (hr'.live.settle (by rw [he']; nofun) nofun)

theorem stop_refines (hr : Refines r (e :: spare) g) :
    let x := a.runHook .stop e.handler r.own e.responder
    ∃ g', move (a.behaviours.within (n + 1)) .stop e.handler g = ((Move.stop.settle x.1).2, g') ∧
      Refines { r with own := x.2 } spare g' := by
  intro x
  have he : g.handler e.handler = e.inState .started := hr.live.handler e List.mem_cons_self
  obtain ⟨g', hmove, hlen', he', hr'⟩ := move_refines a n (m := .stop) he
    (hr.live.lt_length List.mem_cons_self) rfl (hr.setState (hr.live.stopped (s := .stopped) nofun))
  refine ⟨_, hmove, hr'.setState (hr'.live.settle (by rw [he']; nofun) ?_)⟩
  cases x.1 <;> nofun

/-! ### Steps of a deployment -/

/-- A handler that has no route any more is stopped. -/
theorem retire_refines (hr : Refines r (e :: spare) g) (api : String) :
    Refines (r.halt a e) spare (retire (a.behaviours.within (n + 1)) api e.handler g).2 := by
  obtain ⟨g', hmove, hr'⟩ := stop_refines a n hr
  unfold retire Registry.halt
  rw [Run.bind_apply, hmove]
  revert hr'
  obtain ⟨result, o⟩ := a.runHook .stop e.handler r.own e.responder
  intro hr'
  cases result with
  | ok => exact hr'
  | error f => exact (hr'.count _).notify _

theorem publish_refines (hr : Refines r (e :: spare) g)
    (hpath : ∃ s, e.path = ContextPath.normalize s) :
    Refines (if r.Accepts e then
        { r with served := r.served ++ [e] }.count fun s => { s with deployed := s.deployed + 1 }
      else r.deployFailed.halt a e) spare
      (publishHandler (a.behaviours.within (n + 1)) e.api e.handler g).2 := by
  have hif := hr.rejection?_eq_none_iff (hr.live.handler e List.mem_cons_self) hpath
  unfold publishHandler
  rw [Run.bind_apply, insertRoute_eq]
  rcases g.table.insert_cases g.handler e.api e.handler with ⟨w, hw, hins⟩ | ⟨hnone, hins⟩
  · rw [if_neg (fun hacc => by rw [hif.mpr hacc] at hw; cases hw), hins]
    have h1 : Refines r (e :: spare) { g with table := g.table.reject } :=
      hr.congr hr.own rfl rfl rfl
    exact retire_refines a n (h1.deployFailed _) e.api
  · rw [if_pos (hif.mp hnone), hins]
    exact ((hr.insert (hif.mp hnone)).count _).notify _

theorem launch_refines (hr : Refines r spare g) (hlen : e.handler < g.handlers.length)
    (he : g.handler e.handler = e.inState .created)
    (hpath : ∃ s, e.path = ContextPath.normalize s) :
    Refines (r.launch a e) spare ((do
      match ← move (a.behaviours.within (n + 1)) .start e.handler with
      | .error f => deployFailed (.notStarted e.api f)
      | .ok () => publishHandler (a.behaviours.within (n + 1)) e.api e.handler :
        Run σ Unit) g).2 := by
  obtain ⟨g', hmove, hr'⟩ := start_refines a n hr hlen he
  rw [Run.bind_apply, hmove]
  unfold Registry.launch
  revert hr'
  obtain ⟨result, o⟩ := a.runHook .start e.handler r.own e.responder
  intro hr'
  cases result with
  | ok => exact publish_refines a n hr' hpath
  | error f => exact hr'.deployFailed _

/-! ### Operations -/

theorem deploy_refines (hr : Refines r [] g) (api : Api) :
    Refines (r.deploy a api) [] (deploy (a.behaviours.within (n + 1)) api g).2 := by
  unfold deploy Registry.deploy
  cases api.enabled with
  | false => exact hr.notify _
  | true =>
    have hbuild := build_aloof a n (write (.build api) g).2 api
    rw [show (write (.build api) g).2.own = r.own from hr.own,
      show (write (.build api) g).2.handlers.length = r.made from hr.made] at hbuild
    rw [if_pos rfl, if_pos rfl, Run.bind_apply]
    rw [show build (a.behaviours.within (n + 1)) api g = _ from hbuild]
    have h1 : Refines { r with own := (a.build api r.own).2 } []
        ((write (.build api) g).2.withOwn (a.build api r.own).2) := hr.congr rfl rfl rfl rfl
    revert h1
    obtain ⟨result, o⟩ := a.build api r.own
    intro h1
    match result with
    | .error f => exact h1.deployFailed _
    | .ok none => exact h1.deployFailed _
    | .ok (some responder) =>
      have hnew : (Handler.create api.contextPath api.virtualHost responder).state ≠ .started :=
        nofun
      have h2 := h1.create hnew
      refine launch_refines a n (e := .ofApi api r.made responder) h2 ?_ ?_ ⟨api.contextPath, rfl⟩
      · exact Nat.lt_of_lt_of_eq (Nat.lt_succ_self _) h2.made.symm
      · exact hr.made ▸ Gateway.handler_create_self _ _

theorem undeploy_refines (hr : Refines r [] g) (api : String) :
    Refines (r.undeploy a api) [] (undeploy (a.behaviours.within (n + 1)) api g).2 := by
  have hpath := hr.index api
  unfold undeploy Registry.undeploy
  rw [Run.bind_apply]
  cases hfind : r.served.find? (·.api = api) with
  | none =>
    rw [hfind] at hpath
    rcases eraseRoute_cases g api with ⟨-, herase⟩ | ⟨p, hp, -⟩ | ⟨x, -, hp, -⟩
    · rw [herase]
      exact hr.notify _
    · cases hpath.symm.trans hp
    · cases hpath.symm.trans hp
  | some e =>
    have he := List.mem_of_find?_eq_some hfind
    have hapi : e.api = api := by simpa using List.find?_some hfind
    subst hapi
    have hat := hr.at?_eq he
    rw [hfind] at hpath
    -- the index of a registry is never stale, so the route of the API goes
    rcases eraseRoute_cases g e.api with ⟨hp, -⟩ | ⟨p, -, hh, -⟩ | ⟨x, -, hp, -, hx, herase⟩
    · cases hpath.symm.trans hp
    · have hof := Routes.handlerOf?_eq_some_iff.mpr ⟨e.path, e.route, hpath, hat, rfl, rfl⟩
      cases hof.symm.trans hh
    · have hxp : e.path = x.path := Option.some.inj (hpath.symm.trans hp)
      rw [← hxp, hat] at hx
      obtain rfl := Option.some.inj hx
      rw [herase]
      exact (retire_refines a n ((hr.remove he).count _) e.api).notify _

theorem update_refines (hr : Refines r [] g) (api : Api) :
    Refines (r.update a api) [] (update (a.behaviours.within (n + 1)) api g).2 := by
  have hpath := hr.index api.id
  have hundeploy := undeploy_refines a n hr api.id
  show Refines _ [] ((if (g.table.routes.pathOf? api.id).isSome then
      undeploy (a.behaviours.within (n + 1)) api.id >>= fun _ =>
        deploy (a.behaviours.within (n + 1)) api
    else notify (.notYetDeployed api.id) >>= fun _ =>
      deploy (a.behaviours.within (n + 1)) api : Run σ Unit) g).2
  cases hfind : r.served.find? (·.api = api.id) with
  | none =>
    rw [hfind] at hpath
    have hstay : r.undeploy a api.id = r := by
      unfold Registry.undeploy
      rw [hfind]
    unfold Registry.update
    rw [hpath, if_neg (by simp), hstay]
    exact deploy_refines a n (hr.notify _) api
  | some e =>
    rw [hfind] at hpath
    rw [hpath, if_pos (by rfl)]
    exact deploy_refines a n hundeploy api

/-- Handlers whose routes were taken out are gone through. -/
theorem retireAll_refines (rest : List Served) {r : Registry σ} {g : Gateway σ}
    (hr : Refines r rest g) : Refines (r.haltAll a rest) []
      (retireAll (a.behaviours.within (n + 1)) (rest.map Served.route) g).2 := by
  -- the spare handlers are those that are still to be stopped
  induction rest generalizing r g with
  | nil => exact hr
  | cons e rest ih => exact ih (retire_refines a n (hr.count _) e.api)

theorem undeployAll_refines (hr : Refines r [] g) :
    Refines (r.clear a) [] (undeployAll (a.behaviours.within (n + 1)) g).2 := by
  have hcleared : Refines { r with served := [] } r.served { g with table := g.table.clear.2 } :=
    ⟨hr.own, hr.made, rfl, fun _ => rfl, hr.stats, (hr.live.perm (by simp)).congr rfl,
      List.nodup_nil, List.nodup_nil⟩
  have hall := retireAll_refines a n r.served hcleared
  unfold undeployAll
  rw [Run.bind_apply, clearRoutes_eq, Run.bind_apply, hr.entries]
  by_cases hempty : (r.served.map Served.route).isEmpty
  · rw [if_neg (by simpa using hempty)]
    exact hall
  · rw [if_pos (by simpa using hempty)]
    exact hall.notify _

/-! ### Commands -/

theorem tell_refines (hr : Refines r [] g) (x : Command) :
    Refines (x.step a r) [] (x.tell (a.behaviours.within (n + 1)) g).2 := by
  cases x with
  | clear => exact undeployAll_refines a n hr
  | event e =>
    show Refines (Registry.apply a e r) [] (apply (a.behaviours.within (n + 1)) e g).2
    unfold Registry.apply apply
    cases e.kind with
    | deploy => exact deploy_refines a n hr e.api
    | update => exact update_refines a n hr e.api
    | undeploy => exact undeploy_refines a n hr e.api.id
    | other => exact hr

theorem foldl_refines (commands : List Command) {r : Registry σ} {g : Gateway σ}
    (hr : Refines r [] g) : Refines (commands.foldl (fun r x => x.step a r) r) []
      (commands.foldl (fun g x => (x.tell (a.behaviours.within (n + 1)) g).2) g) := by
  induction commands generalizing r g with
  | nil => exact hr
  | cons x rest ih => exact ih (tell_refines a n hr x)

theorem refines_fresh (fallback : Responder) (reporter : Option Reporter) (timeHeader : Bool)
    (clock : Int) (own : σ) :
    Refines { own := own } [] (.fresh fallback reporter timeHeader clock own) where
  own := rfl
  made := rfl
  entries := rfl
  index _ := rfl
  stats := rfl
  live := ⟨nofun, List.nodup_nil, nofun⟩
  apis := List.nodup_nil
  paths := List.nodup_nil

/-- After any commands, a gateway whose collaborators never call back serves and has counted what
the registry does, and called the same collaborators; exactly the served handlers are started, and
no command fails.  An API is served on the normal form of its context path. -/
theorem gateway_refines_registry (fallback : Responder) (reporter : Option Reporter)
    (timeHeader : Bool) (clock : Int) (own : σ) (commands : List Command) :
    let c := a.behaviours.within (n + 1)
    let g := commands.foldl (fun g x => (x.tell c g).2)
      (.fresh fallback reporter timeHeader clock own)
    let r := commands.foldl (fun r x => x.step a r) { own := own }
    g.routes = r.routes ∧ g.dispatcher.stats = r.stats ∧ g.own = r.own ∧
      (∀ h, (g.handler h).state = .started ↔ h ∈ r.served.map (·.handler)) ∧
      (∀ x : Command, (x.tell c g).1 = .ok ()) ∧
      ∀ api h t, ContextPath.Normal api.contextPath.toList (Served.ofApi api h t).path.toList := by
  intro c g r
  have hr : Refines r [] g :=
    foldl_refines a n commands (refines_fresh fallback reporter timeHeader clock own)
  refine ⟨?_, hr.stats, hr.own, fun h => ⟨hr.live.started h, fun hmem => ?_⟩, fun x => ?_,
    fun api _ _ => ContextPath.normal_normalize api.contextPath⟩
  · unfold Gateway.routes Registry.routes
    rw [hr.entries, List.map_map]
    refine List.map_congr_left fun e he => ?_
    show (e.api, e.path, (g.handler e.handler).virtualHost, e.handler) = _
    rw [hr.live.handler e he]
    rfl
  · obtain ⟨e, he, rfl⟩ := List.mem_map.mp hmem
    rw [hr.live.handler e he]
    rfl
  · cases x <;> rfl

/-- Collaborators that count their calls.  There is no handler for one API and a fault for another;
the third start fails, and so does the first stop. -/
def flaky : Aloof (Nat × Nat) where
  build api o := (match api.id with
    | "ghost" => .ok none
    | "broken" => .error (.failed "no such thing")
    | _ => .ok (some .outside), o)
  hook
    | .start, _, (starts, stops) =>
      (if starts = 2 then .error (.failed "not today") else .ok (), starts + 1, stops)
    | .stop, _, (starts, stops) =>
      (if stops = 0 then .error .foreign else .ok (), starts, stops + 1)

def deploying (id path : String) : Command :=
  .event ⟨.deploy, { id := id, contextPath := path }⟩

/-- Commands with a taken path in another spelling, faults in the build and in both hooks, an
update of a served API and one of an unknown API. -/
def eventful : List Command :=
  [deploying "shop" "/shop", deploying "store" "shop/", deploying "ghost" "/g",
    deploying "broken" "/b", .event ⟨.update, { id := "shop", contextPath := "/late" }⟩,
    deploying "shop" "shop", .event ⟨.undeploy, { id := "nobody" }⟩, .clear,
    .event ⟨.update, { id := "cart", contextPath := "cart", virtualHost := some "Cart.Example" }⟩]

theorem gateway_refines_registry_flaky :
    let c := flaky.behaviours.within 1
    let g := eventful.foldl (fun g x => (x.tell c g).2) (.fresh .notFound none true 0 (0, 0))
    g.routes = [("cart", "/cart/", some "cart.example", 4)] ∧
      g.dispatcher.stats =
        { deployed := 3, deployFailures := 4, undeployed := 2, stopFailures := 1 } ∧
      (∀ h, (g.handler h).state = .started ↔ h = 4) ∧
      ∀ x : Command, (x.tell c g).1 = .ok () := by
  obtain ⟨hroutes, hstats, -, hstarted, hfine, -⟩ :=
    gateway_refines_registry flaky 0 .notFound none true 0 (0, 0) eventful
  let r := eventful.foldl (fun r x => x.step flaky r) { own := (0, 0) }
  have hr : r.routes = [("cart", "/cart/", some "cart.example", 4)] ∧ r.stats =
      { deployed := 3, deployFailures := 4, undeployed := 2, stopFailures := 1 } ∧
      r.served.map (·.handler) = [4] := by decide +kernel
  exact ⟨hroutes.trans hr.1, hstats.trans hr.2.1,
    fun h => (hstarted h).trans (by rw [hr.2.2, List.mem_singleton]), hfine⟩

end Run
end ApiGateway
