import ApiGateway.Proofs.Config.Faults
import ApiGateway.Proofs.Config.Readers

/-!
# Which settings are accepted

A text is malformed if one of its section lines is not closed.  Any other text is refused for the
first fault in its sections, and accepted if there is none.

* `Settings.Invalid`        what makes the sections of a text invalid;
* `Settings.From`           settings say what sections say, with defaults for what is not said;
* `Settings.load_eq_error_iff`, `Settings.load_eq_ok_iff`   a text that is not malformed;
* `Settings.load_outcome`   what comes of a text.
-/

namespace ApiGateway

/-- What a section says of its API; a key that is missing has a default. -/
structure Api.From (api : Api) (s : Ini.Section) : Prop where
  id : s.name = "api:" ++ api.id
  name : api.name = (s.get? "name").getD api.id
  version : api.version = (s.get? "version").getD ""
  enabled : (s.get? "enabled").getD "true" = Settings.word api.enabled
  path : s.get? "context_path" = some api.contextPath
  host : ∀ host, api.virtualHost = some host ↔ s.get? "virtual_host" = some host ∧ host ≠ ""

namespace Settings

/-- The key is there, and its value is no truth value. -/
def NoTruth (s : Ini.Section) (key : String) : Prop :=
  ∃ w, s.get? key = some w ∧ w ≠ "true" ∧ w ≠ "false"

/-- What makes the sections of a text invalid. -/
inductive Invalid (sections : List Ini.Section) : Prop
  | level {s : Ini.Section} (hs : s ∈ sections) (hname : s.name = "logging")
    (h : Level.parse? ((s.get? "level").getD "info") = none)
  | header {s : Ini.Section} (hs : s ∈ sections) (hname : s.name = "reactor")
    (h : NoTruth s "response_time_header")
  | api {s : Ini.Section} {id : String} (hs : s ∈ sections) (hname : s.name = "api:" ++ id)
    (h : id = "" ∨ NoTruth s "enabled" ∨ (s.get? "context_path").getD "" = "")

/-- The settings say what the sections say, with defaults for what is not said, and have one API for
each section of an API. -/
structure From (sections : List Ini.Section) (s : Settings) : Prop where
  log : ∀ sec ∈ sections, sec.name = "logging" → s.logging =
    ⟨(sec.get? "level").getD "info", (sec.get? "pattern").getD LogSettings.defaultPattern⟩
  noLog : (∀ sec ∈ sections, sec.name ≠ "logging") → s.logging = {}
  reactor : ∀ sec ∈ sections, sec.name = "reactor" →
    (sec.get? "response_time_header").getD "true" = word s.timeHeader
  noReactor : (∀ sec ∈ sections, sec.name ≠ "reactor") → s.timeHeader = true
  apis : List.Forall₂ Api.From s.apis (sections.filter isApi)

/-! ### Faults -/

section
variable {s : Ini.Section}

theorem boolFaults_eq_nil_iff {key : String} : boolFaults s key = [] ↔ ¬ NoTruth s key := by
  unfold boolFaults NoTruth
  split
  · next h => exact iff_of_false (List.cons_ne_nil _ _) (not_not_intro h)
  · next h => exact iff_of_true rfl h

theorem word_boolOr {key : String} (h : boolFaults s key = []) :
    (s.get? key).getD "true" = word (boolOr true s key) := by
  rw [boolFaults_eq_nil_iff] at h
  unfold boolOr
  cases hvalue : s.get? key with
  | none => rfl
  | some w =>
    show w = word (w == "true")
    by_cases htrue : w = "true"
    · rw [htrue]
      decide
    · by_cases hfalse : w = "false"
      · rw [hfalse]
        decide
      · exact absurd ⟨w, hvalue, htrue, hfalse⟩ h

theorem loggingFaults_eq_nil_iff :
    loggingFaults s = [] ↔ Level.parse? ((s.get? "level").getD "info") ≠ none := by
  show (if (Level.parse? (level s)).isNone = true then _ else _) = [] ↔
    Level.parse? (level s) ≠ none
  cases Level.parse? (level s) <;> simp

theorem apiFaults_eq_nil_iff : apiFaults s = [] ↔ ∀ id, s.name = "api:" ++ id →
    id ≠ "" ∧ ¬ NoTruth s "enabled" ∧ (s.get? "context_path").getD "" ≠ "" := by
  unfold apiFaults
  cases hid : apiId? s.name with
  | none =>
    refine iff_of_true rfl fun id hname => ?_
    rw [apiId?_eq_some_iff.mpr hname] at hid
    cases hid
  | some id =>
    have hfaults : faultsAs id s = [] ↔
        id ≠ "" ∧ ¬ NoTruth s "enabled" ∧ (s.get? "context_path").getD "" ≠ "" := by
      rw [← boolFaults_eq_nil_iff]
      simp [faultsAs, path]
    show faultsAs id s = [] ↔ _
    rw [hfaults]
    constructor
    · intro h id' hname
      obtain rfl : id' = id := by
        rw [apiId?_eq_some_iff.mpr hname] at hid
        exact Option.some_inj.mp hid
      exact h
    · exact fun h => h id (apiId?_eq_some_iff.mp hid)

end

section
variable {sections : List Ini.Section}

theorem faults_eq_nil_iff : faults sections = [] ↔ ¬ Invalid sections := by
  unfold faults
  simp only [List.append_eq_nil_iff, List.flatMap_eq_nil_iff, List.mem_filter, beq_iff_eq,
    loggingFaults_eq_nil_iff, boolFaults_eq_nil_iff, apiFaults_eq_nil_iff]
  constructor
  · rintro ⟨hlog, hreactor, hapis⟩ (⟨hs, hname, h⟩ | ⟨hs, hname, h⟩ | ⟨hs, hname, h⟩)
    · exact hlog _ ⟨hs, hname⟩ h
    · exact hreactor _ ⟨hs, hname⟩ h
    · obtain ⟨hid, henabled, hpath⟩ := hapis _ hs _ hname
      exact h.elim hid (·.elim henabled hpath)
  · intro hvalid
    refine ⟨fun s hs h => hvalid (.level hs.1 hs.2 h), fun s hs h => hvalid (.header hs.1 hs.2 h),
      fun s hs id hname => ⟨fun h => ?_, fun h => ?_, fun h => ?_⟩⟩
    · exact hvalid (.api hs hname (.inl h))
    · exact hvalid (.api hs hname (.inr (.inl h)))
    · exact hvalid (.api hs hname (.inr (.inr h)))

/-! ### What is described -/

theorem api_from {s : Ini.Section} {id : String} (hname : s.name = "api:" ++ id)
    (h : apiFaults s = []) : (apiAs id s).From s := by
  obtain ⟨-, htruth, hpath⟩ := apiFaults_eq_nil_iff.mp h id hname
  refine ⟨hname, rfl, rfl, word_boolOr (boolFaults_eq_nil_iff.mpr htruth), ?_, fun host => ?_⟩
  · show s.get? "context_path" = some ((s.get? "context_path").getD "")
    cases hvalue : s.get? "context_path" with
    | none =>
      rw [hvalue] at hpath
      exact absurd rfl hpath
    | some path => rfl
  · show (s.get? "virtual_host").filter (!·.isEmpty) = some host ↔ _
    rw [Option.filter_eq_some_iff, Bool.not_eq_true', String.isEmpty_eq_false_iff]

theorem apis_from (h : ∀ s ∈ sections, apiFaults s = []) :
    List.Forall₂ Api.From (sections.filterMap api?) (sections.filter isApi) := by
  induction sections with
  | nil => exact .nil
  | cons s rest ih =>
    obtain ⟨hs, hrest⟩ := List.forall_mem_cons.mp h
    rw [List.filterMap_cons, List.filter_cons, api?, isApi]
    cases hid : apiId? s.name with
    | none => exact ih hrest
    | some id => exact .cons (api_from (apiId?_eq_some_iff.mp hid) hs) (ih hrest)

theorem find?_name (hn : (sections.map (·.name)).Nodup) {s : Ini.Section} (hs : s ∈ sections)
    {name : String} (hname : s.name = name) : sections.find? (·.name == name) = some s := by
  rw [← Option.mem_toList, ← Ini.filter_name hn]
  exact List.mem_filter.mpr ⟨hs, beq_iff_eq.mpr hname⟩

theorem find?_unnamed {name : String} (h : ∀ s ∈ sections, s.name ≠ name) :
    sections.find? (·.name == name) = none :=
  List.find?_eq_none.mpr fun s hs heq => h s hs (beq_iff_eq.mp heq)

/-- Sections without faults describe what they say. -/
theorem from_described (hn : (sections.map (·.name)).Nodup) (h : faults sections = []) :
    From sections (described sections) := by
  have hall := h
  unfold faults at hall
  simp only [List.append_eq_nil_iff, List.flatMap_eq_nil_iff, List.mem_filter, beq_iff_eq] at hall
  obtain ⟨-, hreactor, hapis⟩ := hall
  constructor
  case log =>
    intro sec hsec hname
    rw [described, find?_name hn hsec hname]
    rfl
  case noLog =>
    intro hnone
    rw [described, find?_unnamed hnone]
    rfl
  case reactor =>
    intro sec hsec hname
    rw [described, find?_name hn hsec hname]
    exact word_boolOr (hreactor sec ⟨hsec, hname⟩)
  case noReactor =>
    intro hnone
    rw [described, find?_unnamed hnone]
    rfl
  case apis => exact apis_from hapis

end

/-! ### What comes of a text -/

/-- What holds of all settings that are accepted. -/
structure Sound (s : Settings) : Prop where
  level : (Level.parse? s.logging.level).isSome
  apis : ∀ api ∈ s.apis, api.Stated
  ids : (s.apis.map (·.id)).Nodup

section
variable {origin text : String} {sections : List Ini.Section}

theorem load_eq_error_iff (h : Ini.parse? text = some sections) {e : SettingsError} :
    load origin text = .error e ↔
      ∃ f, (faults sections).head? = some f ∧ e = .invalid origin f := by
  have hn := Ini.names_nodup h
  simp only [← outcome_eq_error_iff (a := described sections), ← ofSections_eq hn, load_eq h]
  cases ofSections sections with
  | ok s => simp [Except.mapError]
  | error f => simp [Except.mapError, eq_comm]

theorem load_eq_ok_iff (h : Ini.parse? text = some sections) {s : Settings} :
    load origin text = .ok s ↔ faults sections = [] ∧ described sections = s := by
  have hn := Ini.names_nodup h
  rw [← outcome_eq_ok_iff, ← ofSections_eq hn, load_eq h]
  cases ofSections sections <;> simp [Except.mapError]

theorem malformed_not_mem_faults : .malformed ∉ faults sections := by
  unfold faults
  simp only [List.mem_append, List.mem_flatMap, not_or, not_exists, not_and]
  refine ⟨fun s _ => ?_, fun s _ => ?_, fun s _ => ?_⟩
  · simp [loggingFaults]
  · simp [boolFaults]
  · unfold apiFaults
    cases apiId? s.name <;> simp [faultsAs, boolFaults]

/-- A text that is not malformed is refused for the first fault in its sections. -/
theorem kind_of_error (h : Ini.parse? text = some sections) {e : SettingsError}
    (he : load origin text = .error e) : e.kind = "InvalidValue" := by
  obtain ⟨f, hf, rfl⟩ := (load_eq_error_iff h).mp he
  have hmem : f ∈ faults sections := List.mem_of_mem_head? hf
  cases f with
  | malformed => exact absurd hmem malformed_not_mem_faults
  | _ => rfl

theorem sound_of_load {s : Settings} (h : load origin text = .ok s) : s.Sound := by
  cases hparse : Ini.parse? text with
  | none =>
    rw [load_malformed hparse] at h
    cases h
  | some sections =>
    obtain ⟨hfaults, rfl⟩ := (load_eq_ok_iff hparse).mp h
    have hn := Ini.names_nodup hparse
    have hread : readApis sections = .ok (described sections).apis := by
      rw [readApis_eq, outcome_eq_ok_iff]
      unfold faults at hfaults
      simp only [List.append_eq_nil_iff] at hfaults
      exact ⟨hfaults.2.2, rfl⟩
    obtain ⟨hids, hstated⟩ := readApis_ok hread
    refine ⟨?_, hstated, ?_⟩
    · show (Level.parse? (((sections.find? (·.name == "logging")).elim {} loggingOf).level)).isSome
      cases hfind : sections.find? (·.name == "logging") with
      | none => decide
      | some sec =>
        have hmem := List.mem_of_find?_eq_some hfind
        have hname : sec.name = "logging" := by simpa using List.find?_some hfind
        rw [Option.isSome_iff_ne_none]
        exact fun hnone => faults_eq_nil_iff.mp hfaults (.level hmem hname hnone)
    · rw [hids]
      exact ids_nodup hn

end

/-- What comes of a text whose sections have different names.

It is malformed if a section line is not closed.  If all are closed, it is refused as invalid if its
sections are, and for the first of the faults in them; otherwise it is accepted, and the settings
say what the sections say.  Only the order of the sections of APIs makes a difference, and in text
that readers agree on the reader makes none. -/
theorem load_outcome (origin text : String) (hd : (Ini.names text).Nodup) :
    ((∃ e, load origin text = .error e ∧ e.kind = "Malformed") ↔
      ∃ l ∈ Ini.lines text.toList, Ini.Unclosed l) ∧
    ((∀ l ∈ Ini.lines text.toList, ¬ Ini.Unclosed l) →
      ∃ sections, Ini.parse? text = some sections ∧ sections.map (·.name) = Ini.names text ∧
        ((∃ e, load origin text = .error e ∧ e.kind = "InvalidValue") ↔ Invalid sections) ∧
        (∀ e, load origin text = .error e ↔
          ∃ f, (faults sections).head? = some f ∧ e = .invalid origin f) ∧
        (¬ Invalid sections → ∃ s, load origin text = .ok s ∧ From sections s) ∧
        ∀ text' sections', Ini.parse? text' = some sections' → sections.Perm sections' →
          sections.filter isApi = sections'.filter isApi →
          load origin text' = load origin text) ∧
    (∀ s, load origin text = .ok s → s.Sound) ∧
    ∀ reader : Ini.Reader, reader.Faithful → Covered text →
      load origin text reader = load origin text := by
  refine ⟨?_, fun hclosed => ?_, fun s hs => sound_of_load hs,
    fun reader hreader hcovered => load_faithful hreader hcovered origin⟩
  · rw [← Ini.parse?_eq_none_iff hd]
    constructor
    · rintro ⟨e, he, hkind⟩
      cases hparse : Ini.parse? text with
      | none => rfl
      | some sections =>
        rw [kind_of_error hparse he] at hkind
        exact absurd hkind (by decide)
    · intro hnone
      exact ⟨_, load_malformed hnone, rfl⟩
  · obtain ⟨sections, hparse, hnames⟩ := Ini.parse?_of_regular ⟨hclosed, hd⟩
    have hn := Ini.names_nodup hparse
    refine ⟨sections, hparse, hnames, ?_, fun e => load_eq_error_iff hparse, fun hvalid => ?_, ?_⟩
    · constructor
      · rintro ⟨e, he, -⟩
        by_contra hvalid
        obtain ⟨f, hf, -⟩ := (load_eq_error_iff hparse).mp he
        rw [faults_eq_nil_iff.mpr hvalid] at hf
        cases hf
      · intro hinvalid
        cases hfaults : faults sections with
        | nil => exact absurd hinvalid (faults_eq_nil_iff.mp hfaults)
        | cons f rest =>
          have he : load origin text = .error (.invalid origin f) :=
            (load_eq_error_iff hparse).mpr ⟨f, by rw [hfaults]; rfl, rfl⟩
          exact ⟨_, he, kind_of_error hparse he⟩
    · have hfaults := faults_eq_nil_iff.mpr hvalid
      exact ⟨described sections, (load_eq_ok_iff hparse).mpr ⟨hfaults, rfl⟩,
        from_described hn hfaults⟩
    · intro text' sections' hparse' hperm hapis
      rw [load_eq hparse, load_eq hparse', ofSections_perm hperm hn hapis]

theorem load_outcome_last_first :
    let text := "[api:]\ncontext_path = /x\n[api:shop]\nenabled = maybe\n" ++
      "[reactor]\nresponse_time_header = no\n[logging]\nlevel = loud\n"
    load "gate.ini" text = .error (.invalid "gate.ini" (.unknownLevel "loud")) ∧
      load "gate.ini" text .strict = .error (.invalid "gate.ini" (.unknownLevel "loud")) := by
  intro text
  obtain ⟨-, hclosed, -, hreaders⟩ := load_outcome "gate.ini" text (by decide +kernel)
  obtain ⟨sections, hparse, -, -, herror, -⟩ := hclosed (by decide +kernel)
  have hfound : Ini.parse? text =
      some [⟨"api:", [("context_path", "/x")]⟩, ⟨"api:shop", [("enabled", "maybe")]⟩,
        ⟨"reactor", [("response_time_header", "no")]⟩, ⟨"logging", [("level", "loud")]⟩] := by
    decide +kernel
  obtain rfl := Option.some_inj.mp (hparse.symm.trans hfound)
  have hplain : load "gate.ini" text = .error (.invalid "gate.ini" (.unknownLevel "loud")) :=
    (herror _).mpr ⟨_, by decide +kernel, rfl⟩
  exact ⟨hplain, (hreaders .strict Ini.Reader.faithful_strict (by decide +kernel)).trans hplain⟩

end Settings
end ApiGateway
