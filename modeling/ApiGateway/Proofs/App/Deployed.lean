import Mathlib.Data.List.Induction
import ApiGateway.Proofs.App.Loaded
import ApiGateway.Proofs.Registry.Refinement

/-!
# Which APIs a session deploys

A session deploys the APIs of its settings one after the other.  One that is switched off is left
out, and one whose id or path is too long or whose path is in use comes to nothing.

* `Deployable ds api`    the API can be deployed after others;
* `deployed apis`        those that are deployed, in their order;
* `mem_deployed_iff`, `mem_deployed_iff_deployable`   which of them an API is;
* `Registers apis r`     a registry serves those that are deployed and has counted the others;
* `Registers.perm`, `Registers.deploy`   so it does in any order, and after one more.
-/

namespace ApiGateway
namespace App

/-- The API is switched on, its id has at most 128 bytes and its context path at most 1024, and none
of the others is on this path. -/
def Deployable (ds : List Api) (api : Api) : Prop :=
  api.enabled = true ∧ api.id.utf8ByteSize ≤ 128 ∧
    (ContextPath.normalize api.contextPath).utf8ByteSize ≤ 1024 ∧
    ∀ d ∈ ds, ContextPath.normalize d.contextPath ≠ ContextPath.normalize api.contextPath

instance (ds : List Api) (api : Api) : Decidable (Deployable ds api) :=
  inferInstanceAs (Decidable (_ ∧ _ ∧ _ ∧ _))

theorem deployable_perm {ds ds' : List Api} (h : ds.Perm ds') {api : Api} :
    Deployable ds api ↔ Deployable ds' api := by
  unfold Deployable
  simp only [h.mem_iff]

/-- The APIs of a list that are deployed. -/
def deployed (apis : List Api) : List Api :=
  apis.foldl (fun ds api => if Deployable ds api then ds ++ [api] else ds) []

theorem deployed_concat (apis : List Api) (api : Api) : deployed (apis ++ [api]) =
    if Deployable (deployed apis) api then deployed apis ++ [api] else deployed apis := by
  unfold deployed
  rw [List.foldl_append]
  rfl

theorem deployed_sublist (apis : List Api) : (deployed apis).Sublist apis := by
  induction apis using List.reverseRecOn with
  | nil => exact List.Sublist.refl _
  | append_singleton apis api ih =>
    rw [deployed_concat]
    by_cases h : Deployable (deployed apis) api
    · rw [if_pos h]
      exact ih.append (List.Sublist.refl _)
    · rw [if_neg h]
      exact ih.trans (List.sublist_append_left _ _)

/-- The factory of a session, and handlers whose hooks never fail. -/
def fixedTexts : Aloof Unit where
  build api o := (.ok (some (.fixed (fixedText api))), o)
  hook _ _ o := (.ok (), o)

/-- The API is served with its fixed text. -/
def Serves (api : Api) (e : Served) : Prop :=
  e = .ofApi api e.handler (.fixed (fixedText api))

theorem deploy_fixedTexts (r : Registry Unit) (api : Api) : r.deploy fixedTexts api =
    if api.enabled then
      let e := Served.ofApi api r.made (.fixed (fixedText api))
      let r' := { r with made := r.made + 1 }
      if r'.Accepts e then
        { r' with served := r.served ++ [e] }.count fun s => { s with deployed := s.deployed + 1 }
      else r'.deployFailed
    else r := rfl

section
variable {ds : List Api} {es : List Served} (h : List.Forall₂ Serves ds es)
include h

theorem map_eq {β : Type} {f : Served → β} {f' : Api → β}
    (hf : ∀ api ∈ ds, ∀ e ∈ es, Serves api e → f e = f' api) : es.map f = ds.map f' := by
  induction h with
  | nil => rfl
  | cons hserves _ ih =>
    rw [List.map_cons, List.map_cons, hf _ List.mem_cons_self _ List.mem_cons_self hserves,
      ih fun api hapi e he => hf api (List.mem_cons_of_mem _ hapi) e (List.mem_cons_of_mem _ he)]

theorem map_path : es.map (·.path) = ds.map (ContextPath.normalize ·.contextPath) :=
  map_eq h fun _ _ _ _ hserves => congrArg Served.path hserves

theorem map_api : es.map (·.api) = ds.map (·.id) :=
  map_eq h fun _ _ _ _ hserves => congrArg Served.api hserves

theorem exists_api {e : Served} (he : e ∈ es) : ∃ api ∈ ds, Serves api e := by
  induction h with
  | nil => exact absurd he List.not_mem_nil
  | cons hserves _ ih =>
    rcases List.mem_cons.mp he with rfl | he
    · exact ⟨_, List.mem_cons_self, hserves⟩
    · obtain ⟨api, hapi, hserves⟩ := ih he
      exact ⟨api, List.mem_cons_of_mem _ hapi, hserves⟩

theorem exists_served {api : Api} (hapi : api ∈ ds) : ∃ e ∈ es, Serves api e := by
  induction h with
  | nil => exact absurd hapi List.not_mem_nil
  | cons hserves _ ih =>
    rcases List.mem_cons.mp hapi with rfl | hapi
    · exact ⟨_, List.mem_cons_self, hserves⟩
    · obtain ⟨e, he, hserves⟩ := ih hapi
      exact ⟨e, List.mem_cons_of_mem _ he, hserves⟩

/-- An API whose id is not in use is accepted if it can be deployed. -/
theorem accepts_iff {r : Registry Unit} (hserved : r.served = es) {api : Api}
    (hstated : api.Stated) (henabled : api.enabled = true) (hid : api.id ∉ ds.map (·.id))
    (n : HandlerId) (t : Responder) : r.Accepts (.ofApi api n t) ↔ Deployable ds api := by
  have hone {s : String} (hs : s ≠ "") : 1 ≤ s.utf8ByteSize :=
    Nat.one_le_iff_ne_zero.mpr fun hzero => hs (String.utf8ByteSize_eq_zero_iff.mp hzero)
  have hpath := ContextPath.normalize_ne_empty hstated.path
  have hpaths : (∀ e ∈ r.served, e.path ≠ ContextPath.normalize api.contextPath) ↔
      ∀ d ∈ ds, ContextPath.normalize d.contextPath ≠ ContextPath.normalize api.contextPath := by
    rw [hserved, ← List.forall_mem_map (f := fun e : Served => e.path)
      (P := (· ≠ ContextPath.normalize api.contextPath)), map_path h, List.forall_mem_map]
  have hapis : ∀ e ∈ r.served, e.api ≠ api.id := by
    intro e he heq
    rw [← map_api h, ← hserved, ← heq] at hid
    exact hid (List.mem_map_of_mem he)
  unfold Registry.Accepts Deployable
  show ((1 ≤ api.id.utf8ByteSize ∧ _) ∧ (1 ≤ (ContextPath.normalize api.contextPath).utf8ByteSize ∧
    _) ∧ (∀ e ∈ r.served, e.path ≠ ContextPath.normalize api.contextPath) ∧
      ∀ e ∈ r.served, e.api ≠ api.id) ↔ _
  rw [hpaths]
  constructor
  · rintro ⟨⟨-, h1⟩, ⟨-, h2⟩, h3, -⟩
    exact ⟨henabled, h1, h2, h3⟩
  · rintro ⟨-, h1, h2, h3⟩
    exact ⟨⟨hone hstated.id, h1⟩, ⟨hone hpath, h2⟩, h3, hapis⟩

end

/-- The registry serves the APIs of a list that are deployed, in some order, and has counted those
that are switched on and were turned away. -/
structure Registers (apis : List Api) (r : Registry Unit) : Prop where
  serves : ∃ ds : List Api, ds.Perm (deployed apis) ∧ List.Forall₂ Serves ds r.served
  counts : ∃ failures, r.stats =
      { deployed := (deployed apis).length, deployFailures := failures } ∧
    (deployed apis).length + failures = apis.countP (·.enabled)

namespace Registers

variable {apis : List Api} {r : Registry Unit}

theorem fresh : Registers [] { own := () } :=
  ⟨⟨[], .refl _, .nil⟩, 0, rfl, rfl⟩

theorem perm (h : Registers apis r) {served : List Served} (hp : served.Perm r.served) :
    Registers apis { r with served := served } := by
  obtain ⟨⟨ds, hds, hserves⟩, hcounts⟩ := h
  obtain ⟨ds', hserves', hds'⟩ := List.perm_comp_forall₂ hp (List.Forall₂.flip hserves)
  exact ⟨⟨ds', hds'.trans hds, hserves'.flip⟩, hcounts⟩

section
variable (h : Registers apis r) {api : Api}
include h

theorem added (hok : Deployable (deployed apis) api) : Registers (apis ++ [api])
    (Registry.count { r with
      made := r.made + 1
      served := r.served ++ [Served.ofApi api r.made (.fixed (fixedText api))] }
        fun s => { s with deployed := s.deployed + 1 }) := by
  obtain ⟨⟨ds, hds, hserves⟩, failures, hstats, hcount⟩ := h
  have hdeployed : deployed (apis ++ [api]) = deployed apis ++ [api] := by
    rw [deployed_concat, if_pos hok]
  refine ⟨⟨ds ++ [api], ?_, List.rel_append hserves (.cons rfl .nil)⟩, failures, ?_, ?_⟩
  · rw [hdeployed]
    exact hds.append_right _
  · rw [hdeployed, List.length_append, List.length_singleton]
    exact congrArg (fun s : DispatchStats => { s with deployed := s.deployed + 1 }) hstats
  · rw [hdeployed, List.length_append, List.length_singleton, List.countP_append,
      List.countP_singleton, if_pos hok.1]
    omega

theorem turnedAway (henabled : api.enabled = true) (hnot : ¬ Deployable (deployed apis) api) :
    Registers (apis ++ [api]) (Registry.deployFailed { r with made := r.made + 1 }) := by
  obtain ⟨⟨ds, hds, hserves⟩, failures, hstats, hcount⟩ := h
  have hdeployed : deployed (apis ++ [api]) = deployed apis := by
    rw [deployed_concat, if_neg hnot]
  refine ⟨⟨ds, ?_, hserves⟩, failures + 1, ?_, ?_⟩
  · rwa [hdeployed]
  · rw [hdeployed]
    exact congrArg (fun s : DispatchStats => { s with deployFailures := s.deployFailures + 1 })
      hstats
  · rw [hdeployed, List.countP_append, List.countP_singleton, if_pos henabled]
    omega

theorem leftOut (hoff : ¬ api.enabled = true) : Registers (apis ++ [api]) r := by
  obtain ⟨hserves, failures, hstats, hcount⟩ := h
  have hdeployed : deployed (apis ++ [api]) = deployed apis := by
    rw [deployed_concat, if_neg fun hok => hoff hok.1]
  refine ⟨?_, failures, ?_, ?_⟩
  · rwa [hdeployed]
  · rwa [hdeployed]
  · rwa [hdeployed, List.countP_append, List.countP_singleton, if_neg hoff]

/-- One more API, with an id that none of the others has. -/
theorem deploy (hn : ((apis ++ [api]).map (·.id)).Nodup) (hstated : api.Stated) :
    Registers (apis ++ [api]) (r.deploy fixedTexts api) := by
  obtain ⟨ds, hds, hserves⟩ := h.serves
  rw [List.map_append, List.nodup_append] at hn
  have hid : api.id ∉ ds.map (·.id) := fun hmem =>
    hn.2.2 _ (((deployed_sublist apis).map _).subset ((hds.map _).subset hmem)) _
      List.mem_cons_self rfl
  rw [deploy_fixedTexts]
  by_cases henabled : api.enabled = true
  · have haccepts := accepts_iff hserves (r := { r with made := r.made + 1 }) rfl hstated henabled
      hid r.made (.fixed (fixedText api))
    rw [deployable_perm hds] at haccepts
    rw [if_pos henabled]
    dsimp only
    by_cases hok : Deployable (deployed apis) api
    · rw [if_pos (haccepts.mpr hok)]
      exact h.added hok
    · rw [if_neg fun hacc => hok (haccepts.mp hacc)]
      exact h.turnedAway henabled hok
  · rw [if_neg henabled]
    exact h.leftOut henabled

end

end Registers

end App
end ApiGateway
