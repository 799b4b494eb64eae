import Mathlib.Algebra.GroupWithZero.Nat
import Mathlib.Data.List.Nodup
import ApiGateway.Proofs.Route.Table

/-!
# The accounts of a route table

A route table is used from its beginning by any list of calls.  A book keeps the table beside the
calls and what each of them answered.

* `Routes.Paired`         the routes and the index say the same, and every route may be published;
* `RouteTable.Outcome`    all that a call can do to such a table;
* `TableBook.Sound`       what is in the table and what was handed back is what was added;
* `sound_enter`, `sound_kept`   one call, and every list of calls;
* `table_accounts`        what this says of the table, its counters and its answers.
-/

namespace ApiGateway

variable (made : HandlerId → Handler)

/-- A handler that an API owns. -/
abbrev Owned := String × HandlerId

def Route.owned (e : Route) : Owned := (e.api, e.handler)

/-! ### Routes and index -/

namespace Routes

variable {made} {r : Routes} {e e' : Route} {api path : String}

/-- The routes and the index say the same, with one route for a path and for an API.  `made` gives
the handlers as they were created; only their states change. -/
structure Paired (made : HandlerId → Handler) (r : Routes) : Prop where
  index : r.index = r.entries.map fun e => (e.api, e.path)
  paths : (r.entries.map (·.path)).Nodup
  apis : (r.entries.map (·.api)).Nodup
  keyed : ∀ e ∈ r.entries, e.path = (made e.handler).contextPath
  valid : ∀ e ∈ r.entries, ContextPath.valid e.path = true ∧ RouteTable.validApiId e.api = true

theorem paired_empty : Paired made {} :=
  ⟨rfl, List.nodup_nil, List.nodup_nil, fun _ he => absurd he List.not_mem_nil,
    fun _ he => absurd he List.not_mem_nil⟩

namespace Paired

theorem eq_of_path (h : r.Paired made) (he : e ∈ r.entries) (he' : e' ∈ r.entries)
    (hp : e.path = e'.path) : e = e' :=
  List.inj_on_of_nodup_map h.paths he he' hp

theorem eq_of_api (h : r.Paired made) (he : e ∈ r.entries) (he' : e' ∈ r.entries)
    (ha : e.api = e'.api) : e = e' :=
  List.inj_on_of_nodup_map h.apis he he' ha

theorem at?_eq_some_iff (h : r.Paired made) :
    r.at? path = some e ↔ e ∈ r.entries ∧ e.path = path := by
  refine ⟨mem_of_at?_eq_some, ?_⟩
  rintro ⟨he, rfl⟩
  cases hat : r.at? e.path with
  | none => exact absurd (List.mem_map_of_mem he) (at?_eq_none_iff.mp hat)
  | some e' =>
    obtain ⟨he', hp⟩ := mem_of_at?_eq_some hat
    rw [h.eq_of_path he' he hp]

theorem pathOf?_eq (h : r.Paired made) (api : String) :
    r.pathOf? api = (r.entries.find? (·.api = api)).map (·.path) := by
  unfold pathOf?
  rw [h.index]
  exact lookup_index r.entries (·.api) (·.path) api

theorem pathOf?_eq_none_iff (h : r.Paired made) :
    r.pathOf? api = none ↔ api ∉ r.entries.map (·.api) := by
  rw [h.pathOf?_eq, Option.map_eq_none_iff, List.find?_eq_none]
  simp

theorem pathOf?_eq_some_iff (h : r.Paired made) :
    r.pathOf? api = some path ↔ ∃ e ∈ r.entries, e.api = api ∧ e.path = path := by
  rw [h.pathOf?_eq, Option.map_eq_some_iff]
  constructor
  · rintro ⟨e, he, hp⟩
    exact ⟨e, List.mem_of_find?_eq_some he, by simpa using List.find?_some he, hp⟩
  · rintro ⟨e, he, rfl, hp⟩
    cases hfind : r.entries.find? (·.api = e.api) with
    | none => exact absurd (List.find?_eq_none.mp hfind e he) (by simp)
    | some e' =>
      have ha : e'.api = e.api := by simpa using List.find?_some hfind
      exact ⟨e', rfl, h.eq_of_api (List.mem_of_find?_eq_some hfind) he ha ▸ hp⟩

/-- The index and the routes are inverse to each other. -/
theorem pathOf?_iff_at? (h : r.Paired made) :
    r.pathOf? api = some path ↔ ∃ e, r.at? path = some e ∧ e.api = api := by
  rw [h.pathOf?_eq_some_iff]
  constructor
  · rintro ⟨e, he, ha, hp⟩
    exact ⟨e, h.at?_eq_some_iff.mpr ⟨he, hp⟩, ha⟩
  · rintro ⟨e, he, ha⟩
    obtain ⟨he, hp⟩ := h.at?_eq_some_iff.mp he
    exact ⟨e, he, ha, hp⟩

theorem nodup_index (h : r.Paired made) : (r.index.map (·.1)).Nodup := by
  rw [h.index, List.map_map]
  exact h.apis

theorem isSome_handlerOf? (h : r.Paired made) (api : String) :
    (r.handlerOf? api).isSome = (r.pathOf? api).isSome := by
  cases hp : r.pathOf? api with
  | none => simp [handlerOf?, hp]
  | some p =>
    obtain ⟨e, he, ha⟩ := h.pathOf?_iff_at?.mp hp
    rw [handlerOf?_eq_some_iff.mpr ⟨p, e, hp, he, ha, rfl⟩]
    rfl

theorem insert (h : r.Paired made) (hp : r.at? e.path = none) (ha : r.pathOf? e.api = none)
    (hkey : e.path = (made e.handler).contextPath)
    (hvalid : ContextPath.valid e.path = true ∧ RouteTable.validApiId e.api = true) :
    (r.insert e).Paired made := by
  have hentries : (r.insert e).entries = r.entries ++ [e] := rfl
  refine ⟨?_, ?_, ?_, fun e' he' => ?_, fun e' he' => ?_⟩
  · show r.index ++ [_] = (r.entries ++ [e]).map _
    rw [h.index, List.map_append]
    rfl
  · rw [hentries, List.map_append]
    exact h.paths.append (List.nodup_singleton _)
      (List.disjoint_singleton.mpr (at?_eq_none_iff.mp hp))
  · rw [hentries, List.map_append]
    exact h.apis.append (List.nodup_singleton _)
      (List.disjoint_singleton.mpr (h.pathOf?_eq_none_iff.mp ha))
  · rcases List.mem_append.mp he' with he' | he'
    · exact h.keyed e' he'
    · rwa [List.mem_singleton.mp he']
  · rcases List.mem_append.mp he' with he' | he'
    · exact h.valid e' he'
    · rwa [List.mem_singleton.mp he']

/-- The routes left by an API are those of the other APIs. -/
theorem entries_vacate (h : r.Paired made) (he : e ∈ r.entries) :
    ((r.forget e.api).vacate e.path).entries = r.entries.filter (·.api != e.api) := by
  refine List.filter_congr fun e' he' => ?_
  by_cases heq : e' = e
  · simp [heq]
  · have hp : e'.path ≠ e.path := fun hp => heq (h.eq_of_path he' he hp)
    have ha : e'.api ≠ e.api := fun ha => heq (h.eq_of_api he' he ha)
    rw [bne_iff_ne.mpr hp, bne_iff_ne.mpr ha]

theorem vacate (h : r.Paired made) (he : e ∈ r.entries) :
    ((r.forget e.api).vacate e.path).Paired made := by
  have hentries := h.entries_vacate he
  have hsub : List.Sublist (r.entries.filter (·.api != e.api)) r.entries := List.filter_sublist
  refine ⟨?_, ?_, ?_, ?_, ?_⟩ <;> rw [hentries]
  · show r.index.filter _ = _
    rw [h.index, List.filter_map]
    rfl
  · exact h.paths.sublist (hsub.map _)
  · exact h.apis.sublist (hsub.map _)
  · exact fun e' he' => h.keyed e' (hsub.subset he')
  · exact fun e' he' => h.valid e' (hsub.subset he')

/-- Nothing but the route of the API goes. -/
theorem perm_vacate (h : r.Paired made) (he : e ∈ r.entries) :
    r.entries.Perm (e :: ((r.forget e.api).vacate e.path).entries) := by
  have hnodup : r.entries.Nodup := h.apis.of_map _
  have hnot : e ∉ r.entries.filter (·.api != e.api) := by simp
  rw [h.entries_vacate he, List.perm_ext_iff_of_nodup hnodup
    (List.nodup_cons.mpr ⟨hnot, hnodup.sublist List.filter_sublist⟩)]
  intro e'
  rw [List.mem_cons, List.mem_filter, bne_iff_ne]
  constructor
  · intro he'
    by_cases ha : e'.api = e.api
    · exact .inl (h.eq_of_api he' he ha)
    · exact .inr ⟨he', ha⟩
  · rintro (rfl | he')
    · exact he
    · exact he'.1

end Paired
end Routes

/-! ### Calls and their answers -/

/-- A call on a route table.  With an `insert` come the states of all handlers at that moment. -/
inductive TableCall
  | insert (states : HandlerId → LifecycleState) (api : String) (handler : Option HandlerId)
  | erase (api : String)
  | clear

inductive TableAnswer
  | inserted (rejection : Option Rejection)
  | erased (removal : Removal)
  | cleared (routes : List Route)

namespace RouteTable

/-- The handlers as they were created, in other states. -/
def inStates (states : HandlerId → LifecycleState) (h : HandlerId) : Handler :=
  { made h with state := states h }

/-- What a call answers and the table after it. -/
def call (t : RouteTable) : TableCall → TableAnswer × RouteTable
  | .insert states api h => (t.insert (inStates made states) api h).map .inserted id
  | .erase api => (t.erase api).map .erased id
  | .clear => t.clear.map .cleared id

/-- What a call can do to a table whose index is in order. -/
inductive Outcome (t : RouteTable) : TableCall → TableAnswer × RouteTable → Prop
  | refused (states : HandlerId → LifecycleState) (api : String) (h : Option HandlerId)
      (r : Rejection) : Outcome t (.insert states api h) (.inserted (some r), t.reject)
  | added (states : HandlerId → LifecycleState) (api : String) (h : HandlerId)
      (free : t.routes.at? (made h).contextPath = none) (unrouted : t.routes.pathOf? api = none)
      (path : ContextPath.valid (made h).contextPath = true) (id : validApiId api = true) :
      Outcome t (.insert states api (some h)) (.inserted none, t.added made api h)
  | absent (api : String) (unrouted : t.routes.pathOf? api = none) :
      Outcome t (.erase api) (.erased .absent, t)
  | removed (e : Route) (mem : e ∈ t.routes.entries) :
      Outcome t (.erase e.api) (.erased (.removed e.handler), t.removed e.api e.path)
  | cleared : Outcome t .clear (.cleared t.routes.entries, t.clear.2)

variable {made} {t : RouteTable}

/-- The index of a table in order never leads to a path that the API does not own. -/
theorem erase_ne_stale (h : t.routes.Paired made) (api path : String) :
    (t.erase api).1 ≠ .stale path := by
  intro hstale
  rcases t.erase_cases api with ⟨-, he⟩ | ⟨p, hp, hh, -⟩ | ⟨e, -, -, -, -, he⟩
  · rw [he] at hstale
    cases hstale
  · have hsome := h.isSome_handlerOf? api
    rw [hp, hh] at hsome
    cases hsome
  · rw [he] at hstale
    cases hstale

theorem insert_refused {pool : HandlerId → Handler} {api : String} {h : Option HandlerId}
    {r : Rejection} {t' : RouteTable} (hins : t.insert pool api h = (some r, t')) :
    t'.routes = t.routes ∧ t'.version = t.version := by
  cases h with
  | none =>
    cases hins
    exact ⟨rfl, rfl⟩
  | some h =>
    rcases t.insert_cases pool api h with ⟨w, -, hw⟩ | ⟨-, hw⟩
    · cases hw.symm.trans hins
      exact ⟨rfl, rfl⟩
    · cases hw.symm.trans hins

/-- When no handler is handed back, nothing changes. -/
theorem erase_unremoved (h : t.routes.Paired made) {api : String} {removal : Removal}
    {t' : RouteTable} (herase : t.erase api = (removal, t')) (hnone : removal.handler? = none) :
    t' = t := by
  rcases t.erase_cases api with ⟨-, he⟩ | ⟨p, -, -, he⟩ | ⟨e, -, -, -, -, he⟩
  · cases he.symm.trans herase
    rfl
  · exact absurd (congrArg Prod.fst he) (erase_ne_stale h api p)
  · cases he.symm.trans herase
    cases hnone

theorem call_outcome (h : t.routes.Paired made) (c : TableCall) :
    Outcome made t c (t.call made c) := by
  cases c with
  | insert states api target =>
    show Outcome made t _ ((t.insert (inStates made states) api target).map .inserted id)
    cases target with
    | none => exact .refused states api none .invalid
    | some x =>
      rcases t.insert_cases (inStates made states) api x with ⟨r, -, hins⟩ | ⟨hnone, hins⟩
      · rw [hins]
        exact .refused states api (some x) r
      · obtain ⟨⟨hid, hpath, -⟩, hfree, hunrouted⟩ := (rejection?_eq_none_iff _ _ _).mp hnone
        rw [hins]
        exact .added states api x hfree hunrouted hpath hid
  | erase api =>
    show Outcome made t _ ((t.erase api).map .erased id)
    rcases t.erase_cases api with ⟨hp, he⟩ | ⟨p, -, -, he⟩ | ⟨e, hmem, -, rfl, -, he⟩
    · rw [he]
      exact .absent api hp
    · exact absurd (congrArg Prod.fst he) (erase_ne_stale h api p)
    · rw [he]
      exact .removed e hmem
  | clear => exact .cleared

/-- The index stays in order. -/
theorem Outcome.paired {c : TableCall} {x : TableAnswer × RouteTable} (hx : Outcome made t c x)
    (h : t.routes.Paired made) : x.2.routes.Paired made := by
  cases hx with
  | refused => exact h
  | added states api x hfree hunrouted hpath hid =>
    exact h.insert hfree hunrouted rfl ⟨hpath, hid⟩
  | absent => exact h
  | removed e hmem => exact h.vacate hmem
  | cleared => exact Routes.paired_empty

end RouteTable

/-- A call and what it answered. -/
structure TableEvent where
  call : TableCall
  answer : TableAnswer

namespace TableEvent

/-- The number of `insert` calls that a call is. -/
def inserts (e : TableEvent) : Nat :=
  match e.call with
  | .insert .. => 1
  | _ => 0

def clears (e : TableEvent) : Nat :=
  match e.call with
  | .clear => 1
  | _ => 0

/-- The routes that a clearing call handed back. -/
def cleared (e : TableEvent) : List Route :=
  match e.answer with
  | .cleared routes => routes
  | _ => []

/-- What the call put into the table. -/
def added (e : TableEvent) : List Owned :=
  match e.call, e.answer with
  | .insert _ api h, .inserted none => h.toList.map (api, ·)
  | _, _ => []

/-- What the call handed back. -/
def handedBack (e : TableEvent) : List Owned :=
  match e.call, e.answer with
  | .erase api, .erased removal => removal.handler?.toList.map (api, ·)
  | _, .cleared routes => routes.map Route.owned
  | _, _ => []

end TableEvent

namespace RouteTable

variable {made} {t : RouteTable}

/-- What a table holds. -/
def owned (t : RouteTable) : List Owned :=
  t.routes.entries.map Route.owned

/-- A call hands back exactly what it takes out of the table. -/
theorem Outcome.conserved {c : TableCall} {x : TableAnswer × RouteTable}
    (hx : Outcome made t c x) (h : t.routes.Paired made) :
    ((TableEvent.mk c x.1).handedBack ++ x.2.owned).Perm
      (t.owned ++ (TableEvent.mk c x.1).added) := by
  cases hx with
  | refused => exact List.Perm.of_eq (List.append_nil t.owned).symm
  | added states api x =>
    refine List.Perm.of_eq ?_
    show (t.routes.entries ++ [_]).map Route.owned = _
    rw [List.map_append]
    rfl
  | absent => exact List.Perm.of_eq (List.append_nil t.owned).symm
  | removed e hmem =>
    show (e.owned :: (t.removed e.api e.path).owned).Perm (t.owned ++ [])
    rw [List.append_nil]
    exact ((h.perm_vacate hmem).map Route.owned).symm
  | cleared => exact List.Perm.refl _

/-- How a call moves the counters. -/
theorem Outcome.counted {c : TableCall} {x : TableAnswer × RouteTable}
    (hx : Outcome made t c x) {e : TableEvent} (he : e = ⟨c, x.1⟩) :
    x.2.adds = t.adds + e.added.length ∧
      x.2.removes + e.cleared.length = t.removes + e.handedBack.length ∧
      x.2.clears = t.clears + e.clears ∧
      x.2.adds + x.2.rejections = t.adds + t.rejections + e.inserts ∧
      x.2.version + (t.adds + t.removes + t.clears) =
        t.version + (x.2.adds + x.2.removes + x.2.clears) := by
  subst he
  cases hx with
  | refused => exact ⟨rfl, rfl, rfl, rfl, rfl⟩
  | added =>
    simp only [RouteTable.added]
    refine ⟨rfl, rfl, rfl, ?_, ?_⟩
    · exact Nat.add_right_comm ..
    · omega
  | absent => exact ⟨rfl, rfl, rfl, rfl, rfl⟩
  | removed =>
    simp only [RouteTable.removed]
    refine ⟨rfl, rfl, rfl, rfl, ?_⟩
    omega
  | cleared =>
    simp only [RouteTable.clear]
    refine ⟨rfl, ?_, rfl, rfl, ?_⟩
    · exact congrArg _ (List.length_map _).symm
    · omega

end RouteTable

/-! ### Books -/

structure TableBook where
  table : RouteTable := {}
  /-- Oldest first. -/
  events : List TableEvent := []

namespace TableBook

/-- The book after one more call. -/
def enter (b : TableBook) (c : TableCall) : TableBook where
  table := (b.table.call made c).2
  events := b.events ++ [⟨c, (b.table.call made c).1⟩]

/-- The book of a new table after a list of calls. -/
def kept (calls : List TableCall) : TableBook :=
  calls.foldl (enter made) {}

def inserts (b : TableBook) : Nat :=
  (b.events.map TableEvent.inserts).sum

def clears (b : TableBook) : Nat :=
  (b.events.map TableEvent.clears).sum

def added (b : TableBook) : List Owned :=
  b.events.flatMap TableEvent.added

def handedBack (b : TableBook) : List Owned :=
  b.events.flatMap TableEvent.handedBack

/-- The routes that all clearing calls together handed back. -/
def cleared (b : TableBook) : List Route :=
  b.events.flatMap TableEvent.cleared

/-- The counters count what the book lists, and what is in the table and what was handed back is
what was added. -/
structure Sound (b : TableBook) : Prop where
  paired : b.table.routes.Paired made
  version : b.table.version = b.table.adds + b.table.removes + b.table.clears
  inserts : b.inserts = b.table.adds + b.table.rejections
  clears : b.clears = b.table.clears
  adds : b.added.length = b.table.adds
  removes : b.handedBack.length = b.table.removes + b.cleared.length
  conserved : (b.handedBack ++ b.table.owned).Perm b.added

variable {made} {b : TableBook}

theorem sound_empty : Sound made {} :=
  ⟨Routes.paired_empty, rfl, rfl, rfl, rfl, rfl, List.Perm.nil⟩

theorem sound_enter (h : b.Sound made) (c : TableCall) : (b.enter made c).Sound made := by
  have hx := RouteTable.call_outcome h.paired c
  obtain ⟨hadds, hremoves, hclears, hinserts, hversion⟩ := hx.counted rfl
  obtain ⟨hpaired, hversion', hinserts', hclears', hadds', hremoves', hperm⟩ := h
  have hconserved := hx.conserved hpaired
  have hpaired := hx.paired hpaired
  have hevents : (b.enter made c).events = b.events ++ [⟨c, (b.table.call made c).1⟩] := rfl
  have htable : (b.enter made c).table = (b.table.call made c).2 := rfl
  generalize b.table.call made c = x at *
  have hadded : (b.enter made c).added = b.added ++ (TableEvent.mk c x.1).added := by
    simp [added, hevents]
  have hback : (b.enter made c).handedBack = b.handedBack ++ (TableEvent.mk c x.1).handedBack := by
    simp [handedBack, hevents]
  refine ⟨?_, ?_, ?_, ?_, ?_, ?_, ?_⟩ <;> rw [htable]
  · exact hpaired
  · omega
  · simp only [inserts, hevents, List.map_append, List.sum_append] at hinserts' ⊢
    simp
    omega
  · simp only [clears, hevents, List.map_append, List.sum_append] at hclears' ⊢
    simp
    omega
  · rw [hadded, List.length_append]
    omega
  · have hcleared : (b.enter made c).cleared = b.cleared ++ (TableEvent.mk c x.1).cleared := by
      simp [cleared, hevents]
    rw [hback, hcleared, List.length_append, List.length_append]
    omega
  · rw [hadded, hback, List.append_assoc]
    refine (hconserved.append_left b.handedBack).trans ?_
    rw [← List.append_assoc]
    exact hperm.append_right _

theorem sound_foldl (h : b.Sound made) (calls : List TableCall) :
    (calls.foldl (enter made) b).Sound made := by
  induction calls generalizing b with
  | nil => exact h
  | cons c rest ih => exact ih (sound_enter h c)

theorem sound_kept (calls : List TableCall) : (kept made calls).Sound made :=
  sound_foldl sound_empty calls

theorem Sound.size_eq (h : b.Sound made) :
    b.table.size + b.table.removes + b.cleared.length = b.table.adds := by
  have hlen := h.conserved.length_eq
  have hadds := h.adds
  have hremoves := h.removes
  have hsize : b.table.owned.length = b.table.size := List.length_map _
  rw [List.length_append] at hlen
  omega

/-- What a book shows of the table's routes, its answers and its counters. -/
structure Accounts (made : HandlerId → Handler) (b : TableBook) : Prop extends Sound made b where
  /-- The index leads from an API to a path if the route on the path is the API's. -/
  inverse : ∀ api path, b.table.routes.pathOf? api = some path ↔
    ∃ e, b.table.routes.at? path = some e ∧ e.api = api
  unique : (b.table.routes.entries.map (·.path)).Nodup ∧
    (b.table.routes.entries.map (·.api)).Nodup ∧ (b.table.routes.index.map (·.1)).Nodup
  found : ∀ api, (b.table.routes.handlerOf? api).isSome = (b.table.routes.pathOf? api).isSome
  notStale : ∀ api path, (b.table.erase api).1 ≠ .stale path
  paths : ∀ e ∈ b.table.routes.entries, e.path = (made e.handler).contextPath ∧
    1 ≤ e.path.utf8ByteSize ∧ e.path.utf8ByteSize ≤ 1024 ∧
    e.path.toList.head? = some '/' ∧ e.path.toList.getLast? = some '/'
  apis : ∀ e ∈ b.table.routes.entries, 1 ≤ e.api.utf8ByteSize ∧ e.api.utf8ByteSize ≤ 128
  refused : ∀ states api h r t,
    b.table.insert (RouteTable.inStates made states) api h = (some r, t) →
      t.routes = b.table.routes ∧ t.version = b.table.version
  unremoved : ∀ api removal t, b.table.erase api = (removal, t) → removal.handler? = none →
    t.routes = b.table.routes ∧ t.version = b.table.version
  size : b.table.size + b.table.removes + b.cleared.length = b.table.adds
  /-- A call hands back exactly what it takes out. -/
  exact : ∀ c, ((TableEvent.mk c (b.table.call made c).1).handedBack ++
    (b.table.call made c).2.owned).Perm
      (b.table.owned ++ (TableEvent.mk c (b.table.call made c).1).added)

end TableBook

/-- Routes and index of a table stay inverse to each other and its counters add up, whatever it is
called for. -/
theorem table_accounts (calls : List TableCall) :
    (TableBook.kept made calls).Accounts made := by
  have hs : (TableBook.kept made calls).Sound made := TableBook.sound_kept calls
  generalize TableBook.kept made calls = b at hs
  have hp := hs.paired
  exact
    { toSound := hs
      inverse := fun _ _ => hp.pathOf?_iff_at?
      unique := ⟨hp.paths, hp.apis, hp.nodup_index⟩
      found := hp.isSome_handlerOf?
      notStale := RouteTable.erase_ne_stale hp
      paths := fun e he => ⟨hp.keyed e he, ContextPath.valid_iff.mp (hp.valid e he).1⟩
      apis := fun e he => (RouteTable.validApiId_iff e.api).mp (hp.valid e he).2
      refused := fun _ _ _ _ _ hins => RouteTable.insert_refused hins
      unremoved := fun _ _ _ herase hnone =>
        have ht := RouteTable.erase_unremoved hp herase hnone
        ⟨congrArg _ ht, congrArg _ ht⟩
      size := hs.size_eq
      exact := fun c => (RouteTable.call_outcome hp c).conserved hp }

end ApiGateway
