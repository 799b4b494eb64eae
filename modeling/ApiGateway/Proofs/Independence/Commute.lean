import Mathlib.Data.List.Nodup
import ApiGateway.Proofs.Independence.Steady
import ApiGateway.Proofs.Route.Selection

/-!
# Independent events commute

Events of different APIs that do not want each other's paths may come in either order, if the
collaborators go by the definition.  Handlers are then made in another order and routes are in
another order, but the board is the same, and so is all that can be seen of it.

* `Gateway.listed`, `Gateway.claimant`   the routes, and for which API a request is served;
* `exists_twin`, `eligible_twin`   gateways with one board have the same routes;
* `Run.events_commute`   the two orders, at every moment of every run.
-/

namespace ApiGateway

variable {σ α : Type}

namespace Gateway

/-- The routes as they are listed: API id, context path and virtual host. -/
def listed (g : Gateway σ) : List (String × String × Option String) :=
  g.table.routes.entries.map fun e => (e.api, e.path, (g.handler e.handler).virtualHost)

/-- The API that a request is served for. -/
def claimant (g : Gateway σ) (path host : String) : Option String :=
  (g.table.routes.select? g.handler path host).map (·.api)

/-- There is at most one route to choose from. -/
def Unrivalled (g : Gateway σ) (path host : String) : Prop :=
  ∀ e e', g.table.routes.Eligible g.handler path host e →
    g.table.routes.Eligible g.handler path host e' → e = e'

variable {g : Gateway σ}

theorem unrivalled_of_length {path host : String}
    (h : (g.table.routes.candidates g.handler path).length = 1) : g.Unrivalled path host := by
  obtain ⟨x, hx⟩ := List.length_eq_one_iff.mp h
  have hall {e : Route} (he : g.table.routes.Eligible g.handler path host e) : e = x := by
    have hmem := Routes.mem_candidates.mpr (he.elim And.left fun hn => hn.2.1)
    rw [hx] at hmem
    exact List.mem_singleton.mp hmem
  intro e e' he he'
  rw [hall he, hall he']

theorem Keyed.at?_eq (hg : g.Keyed) {e : Route}
    (he : e ∈ g.table.routes.entries) : g.table.routes.at? e.path = some e := by
  cases hat : g.table.routes.at? e.path with
  | none => exact absurd (List.mem_map_of_mem he) (Routes.at?_eq_none_iff.mp hat)
  | some e' =>
    obtain ⟨he', hp⟩ := Routes.mem_of_at?_eq_some hat
    rw [List.inj_on_of_nodup_map hg.paths he' he hp]

/-! ### Gateways with one board -/

section
variable {g g' : Gateway Habits} (hb : g.board = g'.board) (hg : g.Keyed)
include hb hg

/-- Every route has a twin with the same owner, and a handler that is the same to see. -/
theorem exists_twin {e : Route} (he : e ∈ g.table.routes.entries) :
    ∃ e' ∈ g'.table.routes.entries, e'.path = e.path ∧ g'.site e' = g.site e := by
  have hsite : (g.table.routes.at? e.path).map g.site = (g'.table.routes.at? e.path).map g'.site :=
    congrFun (congrArg Board.site hb) e.path
  rw [hg.at?_eq he] at hsite
  obtain ⟨e', hat, hsame⟩ := Option.map_eq_some_iff.mp hsite.symm
  obtain ⟨he', hp⟩ := Routes.mem_of_at?_eq_some hat
  exact ⟨e', he', hp, hsame⟩

theorem mem_listed {x : String × String × Option String} (hx : x ∈ g.listed) : x ∈ g'.listed := by
  obtain ⟨e, he, rfl⟩ := List.mem_map.mp hx
  obtain ⟨e', he', hp, hsame⟩ := exists_twin hb hg he
  have ha : e'.api = e.api := congrArg Site.api hsame
  have hv : (g'.handler e'.handler).virtualHost = (g.handler e.handler).virtualHost :=
    congrArg Site.host hsame
  refine List.mem_map.mpr ⟨e', he', ?_⟩
  rw [ha, hp, hv]

theorem candidate_twin {path : String} {e : Route}
    (he : g.table.routes.Candidate g.handler path e) :
    ∃ e', g'.table.routes.Candidate g'.handler path e' ∧ e'.api = e.api ∧
      (g'.handler e'.handler).virtualHost = (g.handler e.handler).virtualHost := by
  obtain ⟨hmem, hstate, hcovers⟩ := he
  obtain ⟨e', he', hp, hsame⟩ := exists_twin hb hg hmem
  have hstarted : (g'.handler e'.handler).isStarted = (g.handler e.handler).isStarted :=
    congrArg Site.started hsame
  refine ⟨e', ⟨he', ?_, ?_⟩, congrArg Site.api hsame, congrArg Site.host hsame⟩
  · unfold Handler.isStarted at hstarted
    rw [hstate] at hstarted
    exact beq_iff_eq.mp hstarted
  · rw [hp]
    exact hcovers

theorem bound_twin {path host : String} {e : Route}
    (he : g.table.routes.Bound g.handler path host e) :
    ∃ e', g'.table.routes.Bound g'.handler path host e' ∧ e'.api = e.api := by
  obtain ⟨e', he', ha, hv⟩ := candidate_twin hb hg he.1
  exact ⟨e', ⟨he', hv.trans he.2⟩, ha⟩

theorem eligible_twin (hg' : g'.Keyed) {path host : String} {e : Route}
    (he : g.table.routes.Eligible g.handler path host e) :
    ∃ e', g'.table.routes.Eligible g'.handler path host e' ∧ e'.api = e.api := by
  rcases he with hbound | ⟨hnone, hunbound⟩
  · obtain ⟨e', he', ha⟩ := bound_twin hb hg hbound
    exact ⟨e', .inl he', ha⟩
  · obtain ⟨e', he', ha, hv⟩ := candidate_twin hb hg hunbound.1
    refine ⟨e', .inr ⟨fun x hx => ?_, he', hv.trans hunbound.2⟩, ha⟩
    obtain ⟨x', hx', -⟩ := bound_twin hb.symm hg' hx
    exact hnone x' hx'

theorem listed_perm (hg' : g'.Keyed) : g.listed.Perm g'.listed := by
  have hnodup {g : Gateway Habits} (hg : g.Keyed) : g.listed.Nodup := by
    refine List.Nodup.of_map (·.2.1) ?_
    unfold listed
    rw [List.map_map]
    exact hg.paths
  rw [List.perm_ext_iff_of_nodup (hnodup hg) (hnodup hg')]
  intro x
  exact ⟨mem_listed hb hg, mem_listed hb.symm hg'⟩

/-- A request without a choice of routes is served for the same API. -/
theorem claimant_eq (hg' : g'.Keyed) {path host : String} (h : g.Unrivalled path host) :
    g.claimant path host = g'.claimant path host := by
  unfold claimant
  cases hs : g.table.routes.select? g.handler path host with
  | none =>
    cases hs' : g'.table.routes.select? g'.handler path host with
    | none => rfl
    | some e' =>
      obtain ⟨e, he, -⟩ := eligible_twin hb.symm hg' hg (Routes.eligible_of_select? hs')
      exact absurd he (Routes.not_eligible_of_select? hs e)
  | some e =>
    have he := Routes.eligible_of_select? hs
    cases hs' : g'.table.routes.select? g'.handler path host with
    | none =>
      obtain ⟨e', he', -⟩ := eligible_twin hb hg hg' he
      exact absurd he' (Routes.not_eligible_of_select? hs' e')
    | some e' =>
      obtain ⟨x, hx, hxa⟩ := eligible_twin hb.symm hg' hg (Routes.eligible_of_select? hs')
      show some e.api = some e'.api
      rw [h e x he hx, hxa]

end
end Gateway

namespace Run

/-- At every moment of every run.  What the hooks of the handlers come to that are there by then is
given; the handlers that the events make have the hooks of their definitions. -/
theorem events_commute (b : Behaviours σ) (n : Nat) (user : Behaviour σ α) (fallback : Responder)
    (reporter : Option Reporter) (timeHeader : Bool) (clock : Int) (own : σ) (s : Steady) :
    ∀ m ∈ b.moments n user (.fresh fallback reporter timeHeader clock own),
      ∀ (hook : HandlerId → Move → Except Fault Unit) (d : Nat) (e₁ e₂ : ApiEvent),
      e₁.api.id ≠ e₂.api.id →
      ContextPath.normalize e₁.api.contextPath ≠ ContextPath.normalize e₂.api.contextPath →
      m.gateway.table.routes.pathOf? e₂.api.id ≠
        some (ContextPath.normalize e₁.api.contextPath) →
      m.gateway.table.routes.pathOf? e₁.api.id ≠
        some (ContextPath.normalize e₂.api.contextPath) →
      let c := s.behaviours.within (d + 1)
      let g := m.gateway.withOwn ⟨m.gateway.handlers.length, hook⟩
      let g₁₂ := (apply c e₂ (apply c e₁ g).2).2
      let g₂₁ := (apply c e₁ (apply c e₂ g).2).2
      g₁₂.listed.Perm g₂₁.listed ∧ g₁₂.dispatcher.stats = g₂₁.dispatcher.stats ∧
        ∀ path host, g₁₂.Unrivalled path host →
          g₁₂.claimant path host = g₂₁.claimant path host := by
  intro m hm hook d e₁ e₂ hid hpath h₁ h₂ c g g₁₂ g₂₁
  have hempty : (Gateway.fresh fallback reporter timeHeader clock own).shown.Keyed :=
    Gateway.keyed_fresh fallback reporter timeHeader clock ()
  obtain ⟨-, hkeyed⟩ := enduring_keyed.moments b n user (i := ()) hempty m hm
  have hshows : g.Shows g.board := ⟨hkeyed.congr rfl rfl, rfl, rfl⟩
  have h₁₂ : g₁₂.Shows ((g.board.apply s.launch e₁).apply s.launch e₂) :=
    apply_shows s d (apply_shows s d hshows e₁) e₂
  have h₂₁ : g₂₁.Shows ((g.board.apply s.launch e₂).apply s.launch e₁) :=
    apply_shows s d (apply_shows s d hshows e₂) e₁
  have hb : g₁₂.board = g₂₁.board := by
    rw [h₁₂.board, h₂₁.board]
    exact g.board.apply_comm s.launch hid hpath h₁ h₂
  exact ⟨Gateway.listed_perm hb h₁₂.keyed h₂₁.keyed, congrArg Board.stats hb,
    fun path host h => Gateway.claimant_eq hb h₁₂.keyed h₂₁.keyed h⟩

/-- Handlers that start, but do not stop properly. -/
def clinging : Steady where
  build _ := .ok (some .outside)
  hook _
    | .start => .ok ()
    | .stop => .error .foreign

/-- One API is deployed. -/
def shopping : Behaviour Habits Unit :=
  Behaviour.require (.deploy { id := "shop", contextPath := "/shop" })

/-- The API moves to another path. -/
def moving : ApiEvent where
  kind := .update
  api := { id := "shop", contextPath := "/cart" }

/-- Another API is deployed. -/
def joining : ApiEvent where
  kind := .deploy
  api := { id := "news", contextPath := "/news" }

theorem events_commute_moved :
    let c := clinging.behaviours.within 1
    let hook : HandlerId → Move → Except Fault Unit := fun _ => clinging.hook moving.api
    ∃ m ∈ clinging.behaviours.moments 1 shopping (.fresh .notFound none true 0 ⟨0, hook⟩),
      let g := m.gateway.withOwn ⟨m.gateway.handlers.length, hook⟩
      let g₁₂ := (apply c joining (apply c moving g).2).2
      let g₂₁ := (apply c moving (apply c joining g).2).2
      g₁₂.listed = [("shop", "/cart/", none), ("news", "/news/", none)] ∧
        g₁₂.listed.Perm g₂₁.listed ∧
        g₁₂.dispatcher.stats = { deployed := 3, undeployed := 1, stopFailures := 1 } ∧
        g₁₂.dispatcher.stats = g₂₁.dispatcher.stats ∧
        g₁₂.claimant "/cart/1" "" = some "shop" ∧ g₂₁.claimant "/cart/1" "" = some "shop" := by
  intro c hook
  obtain ⟨m, hm, hshop, hnews, hlisted, hstats, hclaimant, hone⟩ :
      ∃ m ∈ clinging.behaviours.moments 1 shopping (.fresh .notFound none true 0 ⟨0, hook⟩),
        let g := m.gateway.withOwn ⟨m.gateway.handlers.length, hook⟩
        let g₁₂ := (apply c joining (apply c moving g).2).2
        m.gateway.table.routes.pathOf? "shop" = some "/shop/" ∧
          m.gateway.table.routes.pathOf? "news" = none ∧
          g₁₂.listed = [("shop", "/cart/", none), ("news", "/news/", none)] ∧
          g₁₂.dispatcher.stats = { deployed := 3, undeployed := 1, stopFailures := 1 } ∧
          g₁₂.claimant "/cart/1" "" = some "shop" ∧
          (g₁₂.table.routes.candidates g₁₂.handler "/cart/1").length = 1 := by
    decide +kernel
  obtain ⟨hperm, hcounts, hserved⟩ := events_commute clinging.behaviours 1 shopping .notFound none
    true 0 ⟨0, hook⟩ clinging m hm hook 0 moving joining (by decide) (by decide +kernel)
    (fun h => by cases hnews.symm.trans h)
    (fun h => absurd (Option.some.inj (hshop.symm.trans h)) (by decide +kernel))
  refine ⟨m, hm, hlisted, hperm, hstats, hcounts, hclaimant, ?_⟩
  rw [← hserved "/cart/1" "" (Gateway.unrivalled_of_length hone)]
  exact hclaimant

end Run
end ApiGateway
