import ApiGateway.Proofs.App.Loaded

/-!
# What can be wrong with settings, and in which order

Reading the sections of a text fails with the first of the faults in them.  A fault of the log comes
before one of the reactor, and both come before those of the APIs, wherever the sections stand.  In
the section of an API the id comes first, then the truth value, then the context path.

* `Settings.faults`          all faults of the sections of a text, in this order;
* `Settings.described`       the settings of sections without faults;
* `Settings.ofSections_eq`   reading sections gives the first fault, or what they describe.
-/

namespace ApiGateway

theorem Ini.filter_name {sections : List Section} (hn : (sections.map (·.name)).Nodup)
    (name : String) :
    sections.filter (·.name == name) = (sections.find? (·.name == name)).toList := by
  induction sections with
  | nil => rfl
  | cons s rest ih =>
    rw [List.map_cons, List.nodup_cons] at hn
    rw [List.filter_cons, List.find?_cons]
    by_cases hs : s.name = name
    · have hnone : rest.filter (·.name == name) = [] := by
        refine List.filter_eq_nil_iff.mpr fun s' hs' heq => hn.1 ?_
        rw [hs, ← beq_iff_eq.mp heq]
        exact List.mem_map_of_mem hs'
      rw [beq_iff_eq.mpr hs, if_pos rfl, hnone]
      rfl
    · rw [beq_eq_false_iff_ne.mpr hs, if_neg Bool.false_ne_true]
      exact ih hn.2

namespace Settings

/-! ### Readers that fail with the first of several faults -/

section
variable {α β : Type}

/-- The value, unless there are faults: then the first of them. -/
def outcome (faults : List SettingsFault) (a : α) : Except SettingsFault α :=
  match faults with
  | [] => .ok a
  | f :: _ => .error f

theorem outcome_bind {faults more : List SettingsFault} {a : α} {b : β}
    {next : α → Except SettingsFault β} (h : next a = outcome more b) :
    outcome faults a >>= next = outcome (faults ++ more) b := by
  cases faults with
  | nil => exact h
  | cons f rest => rfl

theorem outcome_map (faults : List SettingsFault) (a : α) (f : α → β) :
    (outcome faults a >>= fun x => pure (f x)) = outcome faults (f a) := by
  cases faults <;> rfl

theorem outcome_eq_error_iff {faults : List SettingsFault} {a : α} {f : SettingsFault} :
    outcome faults a = .error f ↔ faults.head? = some f := by
  cases faults <;> simp [outcome]

theorem outcome_eq_ok_iff {faults : List SettingsFault} {a b : α} :
    outcome faults a = .ok b ↔ faults = [] ∧ a = b := by
  cases faults <;> simp [outcome]

end

theorem refuse_eq {β : Type} {c : Bool} {f : SettingsFault} {more : List SettingsFault} {b : β}
    {next : Unit → Except SettingsFault β} (h : next () = outcome more b) :
    (if c = true then throw f >>= next else next ()) =
      outcome ((if c = true then [f] else []) ++ more) b := by
  cases c with
  | false => exact h
  | true => rfl

/-! ### Truth values -/

/-- The word for a truth value. -/
def word (b : Bool) : String :=
  if b then "true" else "false"

def boolFaults (s : Ini.Section) (key : String) : List SettingsFault :=
  if ∃ w ∈ s.get? key, w ≠ "true" ∧ w ≠ "false" then [.notBoolean] else []

/-- The truth value of a key, or what it is if the key is missing. -/
def boolOr (default : Bool) (s : Ini.Section) (key : String) : Bool :=
  (s.get? key).elim default (· == "true")

theorem readBool_eq (s : Ini.Section) (key : String) (default : Bool) :
    readBool s key default = outcome (boolFaults s key) (boolOr default s key) := by
  unfold readBool boolFaults boolOr
  cases s.get? key with
  | none => rfl
  | some w =>
    by_cases htrue : w = "true"
    · rw [htrue]
      rfl
    · by_cases hfalse : w = "false"
      · rw [hfalse]
        rfl
      · have hword : ∃ w' ∈ some w, w' ≠ "true" ∧ w' ≠ "false" := ⟨w, rfl, htrue, hfalse⟩
        have hnone : Ini.truth? w = none := Ini.truth?.eq_3 w htrue hfalse
        dsimp only
        rw [Ini.Reader.truth_plain, hnone, if_pos hword]
        rfl

/-! ### The log -/

def level (s : Ini.Section) : String :=
  (s.get? "level").getD "info"

def loggingFaults (s : Ini.Section) : List SettingsFault :=
  if (Level.parse? (level s)).isNone then [.unknownLevel (level s)] else []

def loggingOf (s : Ini.Section) : LogSettings where
  level := level s
  pattern := (s.get? "pattern").getD LogSettings.defaultPattern

theorem readLogging_eq (s : Option Ini.Section) : readLogging s =
    outcome (s.toList.flatMap loggingFaults) (s.elim {} loggingOf) := by
  cases s with
  | none => rfl
  | some s =>
    show (if (Level.parse? (level s)).isNone then _ else _) = outcome (loggingFaults s ++ []) _
    rw [List.append_nil, loggingFaults]
    by_cases h : (Level.parse? (level s)).isNone = true
    · rw [if_pos h, if_pos h]
      rfl
    · rw [if_neg h, if_neg h]
      rfl

theorem readTimeHeader_eq (s : Option Ini.Section) : readTimeHeader s =
    outcome (s.toList.flatMap (boolFaults · "response_time_header"))
      (s.elim true (boolOr true · "response_time_header")) := by
  cases s with
  | none => rfl
  | some s =>
    show readBool s _ _ = outcome (boolFaults s _ ++ []) _
    rw [List.append_nil, readBool_eq]
    rfl

/-! ### APIs -/

theorem apiId?_eq_some_iff {name id : String} : apiId? name = some id ↔ name = "api:" ++ id := by
  constructor
  · intro h
    rw [← String.toList_inj, apiId?_eq_some h, String.toList_append]
  · rintro rfl
    have hlist : ("api:" ++ id).toList = "api:".toList ++ id.toList := String.toList_append
    unfold apiId?
    rw [hlist, if_pos (List.isPrefixOf_iff_prefix.mpr (List.prefix_append _ _))]
    exact congrArg some String.ofList_toList

theorem apiId?_append (id : String) : apiId? ("api:" ++ id) = some id :=
  apiId?_eq_some_iff.mpr rfl

def path (s : Ini.Section) : String :=
  (s.get? "context_path").getD ""

def faultsAs (id : String) (s : Ini.Section) : List SettingsFault :=
  (if id.isEmpty then [.apiWithoutId] else []) ++ (boolFaults s "enabled" ++
    if (path s).isEmpty then [.apiWithoutPath id] else [])

/-- The API of a section, under an id. -/
def apiAs (id : String) (s : Ini.Section) : Api where
  id := id
  name := (s.get? "name").getD id
  version := (s.get? "version").getD ""
  enabled := boolOr true s "enabled"
  contextPath := path s
  virtualHost := (s.get? "virtual_host").filter (!·.isEmpty)

theorem readApi_eq (id : String) (s : Ini.Section) :
    readApi id s = outcome (faultsAs id s) (apiAs id s) := by
  have hfaults : faultsAs id s = (if id.isEmpty then [.apiWithoutId] else []) ++
      (boolFaults s "enabled" ++
        ((if (path s).isEmpty then [.apiWithoutPath id] else []) ++ [])) := by
    rw [List.append_nil]
    rfl
  unfold readApi
  rw [hfaults]
  refine refuse_eq ?_
  rw [readBool_eq]
  refine outcome_bind (refuse_eq ?_)
  rfl

/-- What is wrong with a section, if it is one of an API. -/
def apiFaults (s : Ini.Section) : List SettingsFault :=
  (apiId? s.name).elim [] (faultsAs · s)

/-- The API of a section, if it is one of an API. -/
def api? (s : Ini.Section) : Option Api :=
  (apiId? s.name).map (apiAs · s)

theorem readApis_eq (sections : List Ini.Section) :
    readApis sections = outcome (sections.flatMap apiFaults) (sections.filterMap api?) := by
  induction sections with
  | nil => rfl
  | cons s rest ih =>
    rw [readApis, List.flatMap_cons, List.filterMap_cons, apiFaults, api?]
    cases apiId? s.name with
    | none => exact ih
    | some id =>
      show (readApi id s >>= fun api => readApis rest >>= fun more => pure (api :: more)) = _
      rw [readApi_eq, ih]
      exact outcome_bind (outcome_map _ _ _)

/-! ### Settings -/

/-- What is wrong with the sections of a text, in the order in which it is looked for. -/
def faults (sections : List Ini.Section) : List SettingsFault :=
  (sections.filter (·.name == "logging")).flatMap loggingFaults ++
    ((sections.filter (·.name == "reactor")).flatMap (boolFaults · "response_time_header") ++
      sections.flatMap apiFaults)

/-- The settings that sections without faults describe. -/
def described (sections : List Ini.Section) : Settings where
  logging := (sections.find? (·.name == "logging")).elim {} loggingOf
  timeHeader :=
    (sections.find? (·.name == "reactor")).elim true (boolOr true · "response_time_header")
  apis := sections.filterMap api?

theorem ofSections_eq {sections : List Ini.Section} (hn : (sections.map (·.name)).Nodup) :
    ofSections sections = outcome (faults sections) (described sections) := by
  unfold ofSections faults
  rw [Ini.filter_name hn, Ini.filter_name hn, readLogging_eq, readTimeHeader_eq, readApis_eq]
  exact outcome_bind (outcome_bind (outcome_map _ _ _))

/-! ### Where the sections stand -/

/-- The sections of APIs. -/
def isApi (s : Ini.Section) : Bool :=
  (apiId? s.name).isSome

theorem readApis_filter (sections : List Ini.Section) :
    readApis (sections.filter isApi) = readApis sections := by
  induction sections with
  | nil => rfl
  | cons s rest ih =>
    rw [List.filter_cons, isApi]
    cases hid : apiId? s.name with
    | none =>
      rw [Option.isSome_none, if_neg Bool.false_ne_true, ih, readApis, hid]
    | some id =>
      rw [Option.isSome_some, if_pos rfl, readApis, readApis, ih, hid]

theorem ofSections_congr {sections sections' : List Ini.Section}
    (hlogging : sections.find? (·.name == "logging") = sections'.find? (·.name == "logging"))
    (hreactor : sections.find? (·.name == "reactor") = sections'.find? (·.name == "reactor"))
    (hapis : sections.filter isApi = sections'.filter isApi) :
    ofSections sections = ofSections sections' := by
  unfold ofSections
  rw [hlogging, hreactor, ← readApis_filter sections, hapis, readApis_filter]

/-- Only the order of the sections of APIs makes a difference. -/
theorem ofSections_perm {sections sections' : List Ini.Section} (hp : sections.Perm sections')
    (hn : (sections.map (·.name)).Nodup)
    (hapis : sections.filter isApi = sections'.filter isApi) :
    ofSections sections = ofSections sections' := by
  have hn' : (sections'.map (·.name)).Nodup := (hp.map _).nodup_iff.mp hn
  have hfind (name : String) :
      sections.find? (·.name == name) = sections'.find? (·.name == name) := by
    have hperm := hp.filter (·.name == name)
    rw [Ini.filter_name hn, Ini.filter_name hn'] at hperm
    cases hs : sections.find? (·.name == name) with
    | none =>
      rw [hs] at hperm
      exact (Option.toList_eq_nil_iff.mp hperm.nil_eq.symm).symm
    | some s =>
      rw [hs] at hperm
      exact (Option.toList_eq_singleton_iff.mp (List.perm_singleton.mp hperm.symm)).symm
  exact ofSections_congr (hfind "logging") (hfind "reactor") hapis

/-! ### Texts -/

section
variable {origin text : String} {sections : List Ini.Section}

theorem load_malformed (h : Ini.parse? text = none) :
    load origin text = .error (.invalid origin .malformed) := by
  unfold load read
  rw [Ini.Reader.sections_plain, h]

theorem load_eq (h : Ini.parse? text = some sections) :
    load origin text = (ofSections sections).mapError (.invalid origin) := by
  have hread : read text = ofSections sections := by
    unfold read
    rw [Ini.Reader.sections_plain, h]
  unfold load
  rw [hread]
  cases ofSections sections <;> rfl

end
end Settings
end ApiGateway
