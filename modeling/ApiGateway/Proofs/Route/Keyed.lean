import ApiGateway.Proofs.Run.Keeps
import ApiGateway.Proofs.Run.Deploy

/-!
# Routes are keyed by the context paths of their handlers

* `Gateway.Keyed`    every route is on the context path of its handler, and no two share a path;
* `enduring_keyed`   whatever is asked of the gateway, its routes stay so;
* `Gateway.Rooted`   every route is on a path that a handler may be published on.
-/

namespace ApiGateway

variable {σ τ α : Type}

namespace Gateway

structure Keyed (g : Gateway σ) : Prop where
  paths : (g.table.routes.entries.map (·.path)).Nodup
  made : ∀ e ∈ g.table.routes.entries, e.handler < g.handlers.length
  path : ∀ e ∈ g.table.routes.entries, e.path = (g.handler e.handler).contextPath

theorem keyed_fresh (fallback : Responder) (reporter : Option Reporter) (timeHeader : Bool)
    (clock : Int) (own : σ) : (fresh fallback reporter timeHeader clock own).Keyed :=
  ⟨List.nodup_nil, fun _ he => absurd he List.not_mem_nil, fun _ he => absurd he List.not_mem_nil⟩

namespace Keyed

variable {g : Gateway σ}

theorem congr (hg : g.Keyed) {g' : Gateway τ} (hh : g'.handlers = g.handlers)
    (ht : g'.table.routes.entries = g.table.routes.entries) : g'.Keyed := by
  have hhandler : g'.handler = g.handler := by
    unfold handler
    rw [hh]
  refine ⟨?_, ?_, ?_⟩ <;> rw [ht]
  · exact hg.paths
  · rw [hh]
    exact hg.made
  · rw [hhandler]
    exact hg.path

theorem create (hg : g.Keyed) (new : Handler) : (Run.create new g).2.Keyed := by
  refine ⟨hg.paths, fun e he => ?_, fun e he => ?_⟩
  · show e.handler < (g.handlers ++ [new]).length
    rw [List.length_append]
    exact Nat.lt_succ_of_lt (hg.made e he)
  · rw [g.handler_create (hg.made e he)]
    exact hg.path e he

theorem setState (hg : g.Keyed) (h : HandlerId) (s : LifecycleState) :
    (Run.setState h s g).2.Keyed := by
  refine ⟨hg.paths, fun e he => ?_, fun e he => ?_⟩
  · exact Nat.lt_of_lt_of_eq (hg.made e he) (List.length_modify _ _ _).symm
  · rw [hg.path e he]
    by_cases heq : h = e.handler
    · rw [heq, g.handler_setState_self (hg.made e he)]
    · rw [g.handler_setState_other heq]

theorem retable (hg : g.Keyed) (t : RouteTable)
    (hpaths : List.Sublist (t.routes.entries.map (·.path)) (g.table.routes.entries.map (·.path)))
    (hold : ∀ e ∈ t.routes.entries, ∃ e' ∈ g.table.routes.entries,
      e'.path = e.path ∧ e'.handler = e.handler) : Keyed { g with table := t } := by
  refine ⟨hg.paths.sublist hpaths, fun e he => ?_, fun e he => ?_⟩
  · obtain ⟨e', he', -, hh⟩ := hold e he
    exact hh ▸ hg.made e' he'
  · obtain ⟨e', he', hp, hh⟩ := hold e he
    rw [← hp, ← hh]
    exact hg.path e' he'

theorem filter (hg : g.Keyed) (t : RouteTable)
    (ht : List.Sublist t.routes.entries g.table.routes.entries) : Keyed { g with table := t } :=
  hg.retable t (ht.map _) fun e he => ⟨e, ht.subset he, rfl, rfl⟩

theorem insertRoute (hg : g.Keyed) (api : String) (h : Option HandlerId) :
    (Run.insertRoute api h g).2.Keyed := by
  rw [Run.insertRoute_eq]
  cases h with
  | none => exact hg.congr rfl rfl
  | some h =>
    rcases g.table.insert_cases g.handler api h with ⟨w, -, hins⟩ | ⟨hnone, hins⟩
    · rw [hins]
      exact hg.congr rfl rfl
    · rw [hins]
      obtain ⟨⟨-, -, hstart⟩, hfree, -⟩ := (RouteTable.rejection?_eq_none_iff _ _ _).mp hnone
      have hlen := g.lt_length_of_started (beq_iff_eq.mp hstart)
      refine ⟨?_, fun e he => ?_, fun e he => ?_⟩
      · show ((g.table.routes.entries ++ [_]).map _).Nodup
        rw [List.map_append, List.nodup_append]
        refine ⟨hg.paths, by simp, fun p hp p' hp' heq => ?_⟩
        rw [heq, List.mem_singleton.mp hp'] at hp
        exact Routes.at?_eq_none_iff.mp hfree hp
      · rcases List.mem_append.mp he with he | he
        · exact hg.made e he
        · rw [List.mem_singleton.mp he]
          exact hlen
      · rcases List.mem_append.mp he with he | he
        · exact hg.path e he
        · rw [List.mem_singleton.mp he]
          rfl

theorem takeRoute (hg : g.Keyed) (api : String) : (Run.takeRoute api g).2.Keyed := by
  show Gateway.Keyed { g with table := (g.table.erase api).2 }
  rcases g.table.erase_cases api with ⟨-, he⟩ | ⟨p, -, -, he⟩ | ⟨e, -, -, -, -, he⟩
  · rw [he]
    exact hg
  · rw [he]
    exact hg.congr rfl rfl
  · rw [he]
    exact hg.filter _ List.filter_sublist

theorem damage (hg : g.Keyed) (path : String) (owner : Option String) :
    (Run.damage path owner g).2.Keyed := by
  cases owner with
  | none => exact hg.filter _ List.filter_sublist
  | some owner =>
    have hsame (e : Route) : (if e.path = path then { e with api := owner } else e).path = e.path ∧
        (if e.path = path then { e with api := owner } else e).handler = e.handler := by
      by_cases h : e.path = path
      · rw [if_pos h]
        exact ⟨rfl, rfl⟩
      · rw [if_neg h]
        exact ⟨rfl, rfl⟩
    have hpaths : (g.table.routes.damaged path (some owner)).entries.map (·.path) =
        g.table.routes.entries.map (·.path) :=
      List.map_map.trans (List.map_congr_left fun e _ => (hsame e).1)
    refine hg.retable _ (hpaths ▸ List.Sublist.refl _) fun e he => ?_
    obtain ⟨e', he', rfl⟩ := List.mem_map.mp he
    exact ⟨e', he', (hsame e').1.symm, (hsame e').2.symm⟩

end Keyed
end Gateway

namespace Run

variable {O : τ → Prop}

theorem Keeps.keyed {x : Run τ α} (hx : ∀ g : Gateway τ, g.Keyed → (x g).2.Keyed)
    (ho : ∀ g, (x g).2.own = g.own) : Keeps (Both Gateway.Keyed O) x := by
  rintro g ⟨hg, hown⟩
  refine ⟨(hx g (hg.congr rfl rfl)).congr rfl rfl, ?_⟩
  rw [ho]
  exact hown

theorem robust_keyed : Robust (Holding (Both Gateway.Keyed O)) := by
  have plain {α : Type} {x : Run τ α} (h : ∀ g, (x g).2.handlers = g.handlers ∧
      (x g).2.table.routes.entries = g.table.routes.entries ∧ (x g).2.own = g.own) :
      Alike (Holding (Both Gateway.Keyed O)) x x :=
    (Keeps.keyed (fun g hg => hg.congr (h g).1 (h g).2.1) fun g => (h g).2.2).alike
  exact
    { advance := fun _ => plain fun _ => ⟨rfl, rfl, rfl⟩
      countAt := fun _ _ => plain fun _ => ⟨rfl, rfl, rfl⟩
      addService := plain fun _ => ⟨rfl, rfl, rfl⟩
      addSink := fun _ _ => plain fun _ => ⟨rfl, rfl, rfl⟩
      subscribe := fun _ => plain fun _ => ⟨rfl, rfl, rfl⟩
      unsubscribe := fun _ => plain fun _ => ⟨rfl, rfl, rfl⟩
      adjust := fun _ _ => plain fun _ => ⟨rfl, rfl, rfl⟩
      tally := fun _ _ => plain fun _ => ⟨rfl, rfl, rfl⟩
      create := fun h => (Keeps.keyed (fun _ hg => hg.create h) fun _ => rfl).alike
      setState := fun h s => (Keeps.keyed (fun _ hg => hg.setState h s) fun _ => rfl).alike
      insertRoute := fun api h =>
        (Keeps.keyed (fun _ hg => hg.insertRoute api h) fun _ => rfl).alike
      takeRoute := fun api => (Keeps.keyed (fun _ hg => hg.takeRoute api) fun _ => rfl).alike
      clearRoutes :=
        (Keeps.keyed (fun _ hg => hg.filter _ (List.nil_sublist _)) fun _ => rfl).alike
      damage := fun path owner =>
        (Keeps.keyed (fun _ hg => hg.damage path owner) fun _ => rfl).alike
      fire := fun _ => plain fun _ => ⟨rfl, rfl, rfl⟩
      missed := plain fun _ => ⟨rfl, rfl, rfl⟩
      dispatched := plain fun _ => ⟨rfl, rfl, rfl⟩
      wrap := fun _ _ _ _ => plain fun _ => ⟨rfl, rfl, rfl⟩ }

theorem enduring_keyed : Enduring fun (_ : Unit) g => Gateway.Keyed g where
  note _ _ g hg := hg.congr rfl rfl
  perform O c hc a i := by
    have hwrite (e : Entry) : Keeps (Both Gateway.Keyed O) (write e) :=
      Keeps.keyed (fun _ hg => hg.congr rfl rfl) fun _ => rfl
    have T : Tolerates (Holding (Both Gateway.Keyed O)) (fun _ => True) _ _ :=
      (hc i).tolerates (fun _ => trivial) fun e _ => hwrite e
    exact (robust_keyed.perform T a).keeps

end Run

/-! ### Valid paths -/

namespace Gateway

def Rooted (g : Gateway σ) : Prop :=
  ∀ e ∈ g.table.routes.entries, ContextPath.valid e.path = true

variable {g : Gateway σ}

theorem Rooted.insertRoute (hg : g.Rooted) (api : String) (h : Option HandlerId) :
    (Run.insertRoute api h g).2.Rooted := by
  rw [Run.insertRoute_eq]
  cases h with
  | none => exact hg
  | some h =>
    rcases g.table.insert_cases g.handler api h with ⟨w, -, hins⟩ | ⟨hnone, hins⟩
    · rw [hins]
      exact hg
    · rw [hins]
      obtain ⟨⟨-, hvalid, -⟩, -⟩ := (RouteTable.rejection?_eq_none_iff _ _ _).mp hnone
      intro e he
      rcases List.mem_append.mp he with he | he
      · exact hg e he
      · rw [List.mem_singleton.mp he]
        exact hvalid

theorem Rooted.takeRoute (hg : g.Rooted) (api : String) : (Run.takeRoute api g).2.Rooted := by
  show Gateway.Rooted { g with table := (g.table.erase api).2 }
  rcases g.table.erase_cases api with ⟨-, he⟩ | ⟨p, -, -, he⟩ | ⟨e, -, -, -, -, he⟩
  · rw [he]
    exact hg
  · rw [he]
    exact hg
  · rw [he]
    exact fun e he => hg e (List.mem_filter.mp he).1

theorem Rooted.damage (hg : g.Rooted) (path : String) (owner : Option String) :
    (Run.damage path owner g).2.Rooted := by
  cases owner with
  | none => exact fun e he => hg e (List.mem_filter.mp he).1
  | some owner =>
    intro e he
    obtain ⟨e', he', rfl⟩ := List.mem_map.mp he
    have hvalid := hg e' he'
    by_cases h : e'.path = path
    · rw [if_pos h]
      exact hvalid
    · rw [if_neg h]
      exact hvalid

end Gateway

theorem Run.atoms_rooted {O : τ → Prop} : Atoms (Holding (Both Gateway.Rooted O)) where
  toInert := .of_same fun _ _ h hg => ⟨fun e he => hg.1 e (h.table ▸ he), h.own ▸ hg.2⟩
  insertRoute api h := Keeps.alike fun _ hg => ⟨hg.1.insertRoute api h, hg.2⟩
  takeRoute api := Keeps.alike fun _ hg => ⟨hg.1.takeRoute api, hg.2⟩
  clearRoutes := Keeps.alike fun _ hg => ⟨fun _ he => absurd he List.not_mem_nil, hg.2⟩
  damage path owner := Keeps.alike fun _ hg => ⟨hg.1.damage path owner, hg.2⟩
  subscribe _ := Keeps.alike fun _ hg => hg
  unsubscribe _ := Keeps.alike fun _ hg => hg
  adjust _ _ := Keeps.alike fun _ hg => hg

end ApiGateway
