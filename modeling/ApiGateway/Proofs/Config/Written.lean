import ApiGateway.Proofs.Config.Faults
import ApiGateway.Proofs.Config.Sections

/-!
# Settings that are written are read back

Settings are written as a section for the log, one for the reactor and one for each API.  Every key
is written, also where its value is the default, so an empty name stays an empty name.

* `Settings.sections`             the sections that settings are written as;
* `Settings.described_sections`   what these sections describe;
* `Settings.ofText_written`       a text that settings are written as is read as these settings.
-/

namespace ApiGateway

/-- An API that can be written. -/
structure Api.Writable (api : Api) : Prop where
  stated : api.Stated
  id : Ini.Plain api.id.toList
  close : ']' ∉ api.id.toList
  name : Ini.Plain api.name.toList
  version : Ini.Plain api.version.toList
  path : Ini.Plain api.contextPath.toList
  host : ∀ host ∈ api.virtualHost, Ini.Plain host.toList

namespace Settings

/-! ### The sections -/

def logSection (log : LogSettings) : Ini.Section where
  name := "logging"
  entries := [("level", log.level), ("pattern", log.pattern)]

def reactorSection (timeHeader : Bool) : Ini.Section where
  name := "reactor"
  entries := [("response_time_header", word timeHeader)]

def sectionOf (api : Api) : Ini.Section where
  name := "api:" ++ api.id
  entries := [("name", api.name), ("version", api.version), ("enabled", word api.enabled),
    ("context_path", api.contextPath)] ++ api.virtualHost.toList.map fun h => ("virtual_host", h)

def sections (s : Settings) : List Ini.Section :=
  logSection s.logging :: reactorSection s.timeHeader :: s.apis.map sectionOf

/-- The settings can be written: the level of the log is a known word, the ids of the APIs differ,
and every text keeps to its line. -/
structure Writable (s : Settings) : Prop where
  level : (Level.parse? s.logging.level).isSome
  pattern : Ini.Plain s.logging.pattern.toList
  ids : (s.apis.map (·.id)).Nodup
  apis : ∀ api ∈ s.apis, api.Writable

/-- The text is the settings, written line by line with any blanks around the lines, the keys and
the values. -/
def Written (s : Settings) (text : String) : Prop :=
  Ini.Written (s.sections.flatMap Ini.Section.lines) text

/-! ### What they describe -/

theorem boolFaults_word {s : Ini.Section} {key : String} {b : Bool}
    (h : s.get? key = some (word b)) : boolFaults s key = [] ∧
      ∀ default, boolOr default s key = b := by
  unfold boolFaults boolOr
  rw [h]
  cases b with
  | false => exact ⟨by decide, fun _ => show ("false" == "true") = false by decide⟩
  | true => exact ⟨by decide, fun _ => show ("true" == "true") = true by decide⟩

section
variable {api : Api}

theorem get?_sectionOf (api : Api) :
    (sectionOf api).get? "name" = some api.name ∧
    (sectionOf api).get? "version" = some api.version ∧
    (sectionOf api).get? "enabled" = some (word api.enabled) ∧
    (sectionOf api).get? "context_path" = some api.contextPath ∧
    (sectionOf api).get? "virtual_host" = api.virtualHost := by
  have hhost : (api.virtualHost.toList.map fun h => ("virtual_host", h)).lookup "virtual_host" =
      api.virtualHost := by
    cases api.virtualHost <;> simp
  simp [sectionOf, Ini.Section.get?, List.lookup_cons, hhost]

theorem api?_sectionOf (h : api.Stated) :
    apiFaults (sectionOf api) = [] ∧ api? (sectionOf api) = some api := by
  obtain ⟨hname, hversion, henabled, hpath, hhost⟩ := get?_sectionOf api
  obtain ⟨hfaults, hbool⟩ := boolFaults_word henabled
  have hid : apiId? (sectionOf api).name = some api.id := apiId?_append api.id
  have hkept : api.virtualHost.filter (!·.isEmpty) = api.virtualHost := by
    cases hvh : api.virtualHost with
    | none => rfl
    | some host =>
      have hne : host ≠ "" := fun heq => h.host (by rw [hvh, heq])
      simp [Option.filter, hne]
  constructor
  · rw [apiFaults, hid]
    show faultsAs api.id (sectionOf api) = []
    unfold faultsAs path
    rw [hfaults, hpath]
    simp [h.id, h.path]
  · rw [api?, hid, Option.map_some, apiAs, hname, hversion, hbool, path, hpath, hhost, hkept]
    rfl

end

theorem find?_sections (s : Settings) :
    s.sections.find? (·.name == "logging") = some (logSection s.logging) ∧
      s.sections.find? (·.name == "reactor") = some (reactorSection s.timeHeader) := by
  simp [sections, logSection, reactorSection]

theorem log_described {log : LogSettings} (h : (Level.parse? log.level).isSome) :
    loggingFaults (logSection log) = [] ∧ loggingOf (logSection log) = log := by
  have hlevel : level (logSection log) = log.level := by
    simp [level, logSection, Ini.Section.get?]
  constructor
  · rw [loggingFaults, hlevel, if_neg]
    rw [Option.isNone_iff_eq_none, ← Option.not_isSome_iff_eq_none, not_not]
    exact h
  · rw [loggingOf, hlevel]
    simp [logSection, Ini.Section.get?, List.lookup_cons]

theorem reactor_described (timeHeader : Bool) :
    boolFaults (reactorSection timeHeader) "response_time_header" = [] ∧
      ∀ default, boolOr default (reactorSection timeHeader) "response_time_header" = timeHeader :=
  boolFaults_word (by simp [reactorSection, Ini.Section.get?])

theorem names_sections {s : Settings} (hids : (s.apis.map (·.id)).Nodup) :
    (s.sections.map (·.name)).Nodup := by
  have hother {name : String} (hname : apiId? name = none) :
      name ∉ (s.apis.map sectionOf).map (·.name) := by
    intro hmem
    rw [List.map_map, List.mem_map] at hmem
    obtain ⟨api, -, rfl⟩ := hmem
    exact Option.some_ne_none _ ((apiId?_append api.id).symm.trans hname)
  have hinj : Function.Injective ("api:" ++ · : String → String) := by
    intro id id' heq
    rw [← Option.some_inj, ← apiId?_append id, ← apiId?_append id']
    exact congrArg apiId? heq
  have hapis : ((s.apis.map sectionOf).map (·.name)).Nodup := by
    have h := hids.map hinj
    rwa [List.map_map] at h ⊢
  show ("logging" :: "reactor" :: (s.apis.map sectionOf).map (·.name)).Nodup
  refine List.nodup_cons.mpr ⟨fun hmem => ?_, List.nodup_cons.mpr ⟨hother (by decide), hapis⟩⟩
  rcases List.mem_cons.mp hmem with heq | hmem
  · exact absurd heq (by decide)
  · exact hother (by decide) hmem

section
variable {s : Settings} (h : s.Writable)
include h

theorem apis_described : s.sections.flatMap apiFaults = [] ∧
    s.sections.filterMap api? = s.apis := by
  have hlog : apiId? (logSection s.logging).name = none :=
    show apiId? "logging" = none by decide
  have hreactor : apiId? (reactorSection s.timeHeader).name = none :=
    show apiId? "reactor" = none by decide
  have happ : ∀ api ∈ s.apis, apiFaults (sectionOf api) = [] ∧ api? (sectionOf api) = some api :=
    fun api hapi => api?_sectionOf (h.apis api hapi).stated
  constructor
  · rw [sections, List.flatMap_cons, List.flatMap_cons, apiFaults, hlog, apiFaults, hreactor]
    show (s.apis.map sectionOf).flatMap apiFaults = []
    rw [List.flatMap_map, List.flatMap_eq_nil_iff]
    exact fun api hapi => (happ api hapi).1
  · rw [sections, List.filterMap_cons, List.filterMap_cons, api?, hlog, api?, hreactor]
    show (s.apis.map sectionOf).filterMap api? = s.apis
    rw [List.filterMap_map]
    exact (List.filterMap_congr fun api hapi => (happ api hapi).2).trans List.filterMap_some

/-- The sections describe the settings, and there is no fault in them. -/
theorem ofSections_sections : ofSections s.sections = .ok s := by
  have hn := names_sections h.ids
  obtain ⟨hlogging, hreactor⟩ := find?_sections s
  obtain ⟨hlogfaults, hlog⟩ := log_described h.level
  obtain ⟨hboolfaults, hbool⟩ := reactor_described s.timeHeader
  obtain ⟨hapifaults, hapis⟩ := apis_described h
  have hfaults : faults s.sections = [] := by
    unfold faults
    rw [Ini.filter_name hn, Ini.filter_name hn, hlogging, hreactor, hapifaults]
    simp [hlogfaults, hboolfaults]
  have hdescribed : described s.sections = s := by
    unfold described
    rw [hlogging, hreactor, hapis, Option.elim_some, Option.elim_some, hlog, hbool]
  rw [ofSections_eq hn, hfaults, hdescribed]
  rfl

/-! ### The text -/

omit h in
theorem plain_of_level {w : String} (hw : (Level.parse? w).isSome) : Ini.Plain w.toList := by
  unfold Level.parse? at hw
  split at hw
  case h_10 => cases hw
  all_goals decide +kernel

omit h in
theorem plain_word (b : Bool) : Ini.Plain (word b).toList := by
  cases b <;> decide +kernel

omit h in
theorem plain_name {api : Api} (hapi : api.Writable) : Ini.Plain ("api:" ++ api.id).toList := by
  obtain ⟨⟨-, hlast⟩, hbreak⟩ := hapi.id
  have hne : api.id.toList ≠ [] := fun hnil => hapi.stated.id (String.toList_eq_nil_iff.mp hnil)
  have hend : ("api:".toList ++ api.id.toList).getLast? = api.id.toList.getLast? := by
    rw [List.getLast?_append, List.getLast?_eq_some_getLast hne]
    rfl
  rw [String.toList_append]
  refine ⟨⟨?_, ?_⟩, ?_⟩
  · rintro c ⟨⟩
    decide
  · rwa [hend]
  · rw [List.mem_append, not_or]
    exact ⟨by decide, hbreak⟩

/-- The keys of all sections. -/
def keys : List String :=
  ["level", "pattern", "response_time_header", "name", "version", "enabled", "context_path",
    "virtual_host"]

omit h in
theorem writable_section {sec : Ini.Section} (hname : Ini.Plain sec.name.toList)
    (hclose : ']' ∉ sec.name.toList)
    (hentries : ∀ e ∈ sec.entries, e.1 ∈ keys ∧ Ini.Plain e.2.toList) :
    ∀ l ∈ sec.lines, Ini.Writable l := by
  have hkeys : ∀ key ∈ keys, Ini.IsKey key.toList := by decide +kernel
  refine List.forall_mem_cons.mpr ⟨.opening hname hclose, fun l hl => ?_⟩
  obtain ⟨e, he, rfl⟩ := List.mem_map.mp hl
  obtain ⟨hkey, hvalue⟩ := hentries e he
  exact .entry (hkeys e.1 hkey) hvalue

omit h in
theorem writable_sectionOf {api : Api} (hapi : api.Writable) :
    ∀ l ∈ (sectionOf api).lines, Ini.Writable l := by
  have hclose : ']' ∉ ("api:" ++ api.id).toList := by
    rw [String.toList_append, List.mem_append, not_or]
    exact ⟨by decide, hapi.close⟩
  refine writable_section (plain_name hapi) hclose (List.forall_mem_append.mpr ⟨?_, ?_⟩)
  · simp [keys, hapi.name, hapi.version, plain_word, hapi.path]
  · intro e he
    obtain ⟨host, hhost, rfl⟩ := List.mem_map.mp he
    exact ⟨show "virtual_host" ∈ keys by decide, hapi.host host (Option.mem_toList.mp hhost)⟩

theorem writable_lines : ∀ l ∈ s.sections.flatMap Ini.Section.lines, Ini.Writable l := by
  have hlog : ∀ l ∈ (logSection s.logging).lines, Ini.Writable l := by
    refine writable_section (show Ini.Plain "logging".toList by decide +kernel)
      (show ']' ∉ "logging".toList by decide +kernel) ?_
    simp [logSection, keys, plain_of_level h.level, h.pattern]
  have hreactor : ∀ l ∈ (reactorSection s.timeHeader).lines, Ini.Writable l := by
    refine writable_section (show Ini.Plain "reactor".toList by decide +kernel)
      (show ']' ∉ "reactor".toList by decide +kernel) ?_
    simp [reactorSection, keys, plain_word]
  rw [sections, List.flatMap_cons, List.flatMap_cons, List.forall_mem_append,
    List.forall_mem_append]
  refine ⟨hlog, hreactor, fun l hl => ?_⟩
  obtain ⟨sec, hsec, hl⟩ := List.mem_flatMap.mp hl
  obtain ⟨api, hapi, rfl⟩ := List.mem_map.mp hsec
  exact writable_sectionOf (h.apis api hapi) l hl

end

/-- Settings that can be written are read back from every text that they are written as. -/
theorem ofText_written {s : Settings} {text : String} (hs : s.Writable) (hw : s.Written text) :
    ofText text = .ok s := by
  have hparse : Ini.parse? text = some s.sections :=
    Ini.parse?_written hw (writable_lines hs) (List.cons_ne_nil _ _) (names_sections hs.ids)
  unfold ofText
  rw [load_eq hparse, ofSections_sections hs]
  rfl

theorem ofText_written_tabbed :
    ofText (" [logging]\t\n\tlevel  =warning \npattern= [%l]  %v\n[reactor]\n" ++
        "response_time_header =\tfalse\n[api:shop:eu]\nname =\nversion=\t\nenabled = false\n" ++
        "context_path = /shop\nvirtual_host = Shop.Example\n[api:cart]\nname = My cart\n" ++
        "version = 2.0\nenabled = true\ncontext_path = cart/\n") =
      .ok {
        logging := { level := "warning", pattern := "[%l]  %v" }
        timeHeader := false
        apis := [
          { id := "shop:eu", enabled := false, contextPath := "/shop",
            virtualHost := some "Shop.Example" },
          { id := "cart", name := "My cart", version := "2.0", contextPath := "cart/" }] } := by
  have opens (name pre post : String) (hpre : Ini.Blank pre.toList)
      (hpost : Ini.Blank post.toList) : Ini.Writes (.opening name)
        (pre.toList ++ '[' :: (name.toList ++ ']' :: post.toList)) :=
    .opening hpre hpost
  have sets (key value a b c d : String) (hab : Ini.Blank a.toList ∧ Ini.Blank b.toList)
      (hcd : Ini.Blank c.toList ∧ Ini.Blank d.toList) : Ini.Writes (.entry key value)
        ((a.toList ++ key.toList ++ b.toList) ++ '=' :: (c.toList ++ value.toList ++ d.toList)) :=
    .entry hab.1 hab.2 hcd.1 hcd.2
  have spaced (key value : String) := sets key value "" " " " " "" (by decide +kernel)
    (by decide +kernel)
  have hlines := List.Forall₂.cons
    (opens "logging" " " "\t" (by decide +kernel) (by decide +kernel))
    (.cons (sets "level" "warning" "\t" "  " "" " " (by decide +kernel) (by decide +kernel))
    (.cons (sets "pattern" "[%l]  %v" "" "" " " "" (by decide +kernel) (by decide +kernel))
    (.cons (opens "reactor" "" "" (by decide +kernel) (by decide +kernel))
    (.cons (sets "response_time_header" "false" "" " " "\t" "" (by decide +kernel)
      (by decide +kernel))
    (.cons (opens "api:shop:eu" "" "" (by decide +kernel) (by decide +kernel))
    (.cons (sets "name" "" "" " " "" "" (by decide +kernel) (by decide +kernel))
    (.cons (sets "version" "" "" "" "\t" "" (by decide +kernel) (by decide +kernel))
    (.cons (spaced "enabled" "false") (.cons (spaced "context_path" "/shop")
    (.cons (spaced "virtual_host" "Shop.Example")
    (.cons (opens "api:cart" "" "" (by decide +kernel) (by decide +kernel))
    (.cons (spaced "name" "My cart") (.cons (spaced "version" "2.0")
    (.cons (spaced "enabled" "true") (.cons (spaced "context_path" "cart/") .nil)))))))))))))))
  refine ofText_written ⟨by decide, by decide +kernel, by decide, ?_⟩
    ⟨_, hlines, .inr (by decide +kernel)⟩
  simp only [List.forall_mem_cons]
  refine ⟨⟨⟨by decide, by decide, by decide⟩, ?_, ?_, ?_, ?_, ?_, ?_⟩,
    ⟨⟨by decide, by decide, by decide⟩, ?_, ?_, ?_, ?_, ?_, ?_⟩, by simp⟩
  all_goals decide +kernel

end Settings
end ApiGateway
