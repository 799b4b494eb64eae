import Mathlib.Logic.Function.Basic
import ApiGateway.Route.Table

/-!
# What the operations on the route table do

* `ContextPath.Normal`   what normalizing makes of a path;
* `insert_cases`   a handler is turned away, or gets a route at the end on a path that was free;
* `erase_cases`    no route goes, or the one route that an API owns on the path of its index entry;
* `Routes.at?_insert`, `Routes.at?_vacate`   what is on the paths after a change;
* `Routes.pathOf?_insert`, `Routes.pathOf?_forget`   what the index gives after a change.
-/

namespace ApiGateway

namespace ContextPath

/-- A path and its normal form: with a `/` at either end where there was none.  Nothing stays
nothing. -/
inductive Normal : List Char → List Char → Prop
  | nothing : Normal [] []
  | kept {s : List Char} (hfront : s.head? = some '/') (hback : s.getLast? = some '/') : Normal s s
  | front {s : List Char} (hfront : s.head? ≠ some '/') (hback : s.getLast? = some '/') :
    Normal s ('/' :: s)
  | back {s : List Char} (hfront : s.head? = some '/') (hback : s.getLast? ≠ some '/') :
    Normal s (s ++ ['/'])
  | both {s : List Char} (hne : s ≠ []) (hfront : s.head? ≠ some '/')
    (hback : s.getLast? ≠ some '/') : Normal s ('/' :: s ++ ['/'])

theorem normal_normalize (s : String) : Normal s.toList (normalize s).toList := by
  unfold normalize
  cases hs : s.toList with
  | nil => exact .nothing
  | cons c rest =>
    have hlast : ('/' :: c :: rest).getLast? = (c :: rest).getLast? := List.getLast?_cons_cons
    show Normal (c :: rest) (String.ofList (closed (opened (c :: rest)))).toList
    rw [String.toList_ofList]
    unfold opened closed
    by_cases hfront : (c :: rest).head? = some '/'
    · rw [if_pos hfront]
      by_cases hback : (c :: rest).getLast? = some '/'
      · rw [if_pos hback]
        exact .kept hfront hback
      · rw [if_neg hback]
        exact .back hfront hback
    · rw [if_neg hfront, hlast]
      by_cases hback : (c :: rest).getLast? = some '/'
      · rw [if_pos hback]
        exact .front hfront hback
      · rw [if_neg hback]
        exact .both (List.cons_ne_nil _ _) hfront hback

theorem head?_closed {s : List Char} (h : s.head? = some '/') : (closed s).head? = some '/' := by
  unfold closed
  split
  · exact h
  · rw [List.head?_append, h]
    rfl

theorem getLast?_closed (s : List Char) : (closed s).getLast? = some '/' := by
  unfold closed
  split
  · assumption
  · exact List.getLast?_concat

theorem valid_iff {s : String} :
    valid s = true ↔ 1 ≤ s.utf8ByteSize ∧ s.utf8ByteSize ≤ 1024 ∧
      s.toList.head? = some '/' ∧ s.toList.getLast? = some '/' := by
  unfold valid maxLength
  rw [Bool.and_eq_true, Bool.and_eq_true, decide_eq_true_iff, beq_iff_eq, beq_iff_eq]
  constructor
  · rintro ⟨⟨hlen, hhead⟩, hlast⟩
    refine ⟨Nat.one_le_iff_ne_zero.mpr fun hzero => ?_, hlen, hhead, hlast⟩
    rw [String.utf8ByteSize_eq_zero_iff.mp hzero] at hhead
    cases hhead
  · rintro ⟨-, hlen, hhead, hlast⟩
    exact ⟨⟨hlen, hhead⟩, hlast⟩

theorem ofList_closed_ne_empty (s : List Char) : String.ofList (closed s) ≠ "" := by
  intro h
  have hnil := congrArg String.toList h
  rw [String.toList_ofList] at hnil
  have hlast := getLast?_closed s
  rw [hnil] at hlast
  cases hlast

theorem normalize_ne_empty {s : String} (hs : s ≠ "") : normalize s ≠ "" := by
  unfold normalize
  cases hchars : s.toList with
  | nil => exact absurd (String.toList_eq_nil_iff.mp hchars) hs
  | cons c cs => exact ofList_closed_ne_empty _

/-- A normalized path can be published if it has 1 to 1024 bytes. -/
theorem valid_normalize_iff (s : String) :
    valid (normalize s) = true ↔
      1 ≤ (normalize s).utf8ByteSize ∧ (normalize s).utf8ByteSize ≤ 1024 := by
  have hempty : 1 ≤ (normalize s).utf8ByteSize ↔ normalize s ≠ "" := by
    rw [Nat.one_le_iff_ne_zero, Ne, String.utf8ByteSize_eq_zero_iff]
  rw [hempty]
  unfold valid normalize
  cases hs : s.toList with
  | nil => simp
  | cons c cs =>
    have hopened : (opened (c :: cs)).head? = some '/' := by
      unfold opened
      split
      · assumption
      · rfl
    have hne := ofList_closed_ne_empty (opened (c :: cs))
    simp only [String.toList_ofList, head?_closed hopened, getLast?_closed, beq_self_eq_true,
      Bool.and_true, ne_eq, hne, not_false_iff, true_and]
    exact decide_eq_true_iff

end ContextPath

namespace Routes

variable {r : Routes} {path api : String}

/-- An index that lists things in their order gives the path of the first one with a name. -/
theorem lookup_index {α : Type} (l : List α) (name path : α → String) (api : String) :
    (l.map fun e => (name e, path e)).lookup api = (l.find? (name · = api)).map path := by
  induction l with
  | nil => rfl
  | cons e rest ih =>
    rw [List.map_cons, List.lookup_cons, List.find?_cons, ih]
    by_cases heq : name e = api
    · simp [heq]
    · rw [beq_false_of_ne (Ne.symm heq), decide_eq_false heq]

theorem at?_eq_none_iff : r.at? path = none ↔ path ∉ r.entries.map (·.path) := by
  unfold at?
  rw [List.find?_eq_none, List.mem_map]
  constructor
  · rintro h ⟨e, he, rfl⟩
    exact h e he (beq_self_eq_true _)
  · intro h e he hp
    exact h ⟨e, he, beq_iff_eq.mp hp⟩

theorem mem_of_at?_eq_some {e : Route} (h : r.at? path = some e) :
    e ∈ r.entries ∧ e.path = path := by
  unfold at? at h
  have hp := List.find?_some h
  exact ⟨List.mem_of_find?_eq_some h, beq_iff_eq.mp hp⟩

/-- A handler is found for an API if the route on the path of its index entry is its own. -/
theorem handlerOf?_eq_some_iff {h : HandlerId} :
    r.handlerOf? api = some h ↔
      ∃ p e, r.pathOf? api = some p ∧ r.at? p = some e ∧ e.api = api ∧ e.handler = h := by
  unfold handlerOf?
  cases hp : r.pathOf? api with
  | none => simp
  | some p =>
    cases he : r.at? p with
    | none => simp [he]
    | some e => simp [he]

/-- What stays when the one route on a path goes. -/
theorem countP_vacate {l : List Route} (hn : (l.map (·.path)).Nodup) {e : Route} (he : e ∈ l)
    (p : Route → Bool) :
    (l.filter (·.path != e.path)).countP p + (p e).toNat = l.countP p := by
  induction l with
  | nil => cases he
  | cons a l ih =>
    rw [List.map_cons, List.nodup_cons] at hn
    rcases List.mem_cons.mp he with rfl | he
    · have hrest : l.filter (·.path != e.path) = l := by
        rw [List.filter_eq_self]
        intro x hx
        rw [bne_iff_ne]
        exact fun h => hn.1 (List.mem_map.mpr ⟨x, hx, h⟩)
      rw [List.filter_cons_of_neg (by simp), hrest, List.countP_cons]
      cases p e <;> rfl
    · have hne : a.path ≠ e.path := fun h => hn.1 (List.mem_map.mpr ⟨e, he, h.symm⟩)
      rw [List.filter_cons_of_pos (by simpa using hne), List.countP_cons, List.countP_cons,
        ← ih hn.2 he]
      omega

/-! ### The routes and the index as maps -/

theorem at?_insert {e : Route} (h : r.at? e.path = none) :
    (r.insert e).at? = Function.update r.at? e.path (some e) := by
  funext p
  have happend : (r.insert e).at? p = (r.at? p).or ([e].find? (·.path == p)) :=
    List.find?_append
  rw [happend]
  by_cases hp : p = e.path
  · rw [hp, h, Function.update_self]
    simp
  · rw [Function.update_of_ne hp, List.find?_cons_of_neg (by simpa using Ne.symm hp)]
    exact Option.or_none

theorem pathOf?_insert {e : Route} (h : r.pathOf? e.api = none) :
    (r.insert e).pathOf? = Function.update r.pathOf? e.api (some e.path) := by
  funext a
  have happend : (r.insert e).pathOf? a = (r.pathOf? a).or ([(e.api, e.path)].lookup a) :=
    List.lookup_append
  rw [happend]
  by_cases ha : a = e.api
  · rw [ha, h, Function.update_self]
    simp
  · rw [Function.update_of_ne ha, List.lookup_cons, beq_false_of_ne ha]
    exact Option.or_none

variable (r) in
theorem at?_vacate (p : String) : (r.vacate p).at? = Function.update r.at? p none := by
  funext p'
  have hfilter : (r.vacate p).at? p' =
      r.entries.find? fun e => (e.path != p) = true ∧ (e.path == p') = true := List.find?_filter
  rw [hfilter]
  by_cases hp : p' = p
  · rw [hp, Function.update_self, List.find?_eq_none]
    simp
  · rw [Function.update_of_ne hp]
    refine congrArg (List.find? · r.entries) (funext fun e => ?_)
    by_cases he : e.path = p'
    · simp [he, hp]
    · simp [he]

variable (r) in
theorem pathOf?_forget (a : String) : (r.forget a).pathOf? = Function.update r.pathOf? a none := by
  funext a'
  show (r.index.filter (·.1 != a)).lookup a' = Function.update (r.index.lookup ·) a none a'
  induction r.index with
  | nil => by_cases ha : a' = a <;> simp [Function.update, ha]
  | cons x rest ih =>
    obtain ⟨a'', p⟩ := x
    by_cases hx : a'' = a
    · rw [List.filter_cons_of_neg (by simp [hx]), ih]
      by_cases ha : a' = a
      · rw [ha, Function.update_self, Function.update_self]
      · rw [Function.update_of_ne ha, Function.update_of_ne ha, List.lookup_cons,
          beq_false_of_ne (hx ▸ ha)]
    · rw [List.filter_cons_of_pos (by simpa using hx), List.lookup_cons, ih]
      by_cases ha : a' = a
      · rw [ha, Function.update_self, Function.update_self, beq_false_of_ne (Ne.symm hx)]
      · rw [Function.update_of_ne ha, Function.update_of_ne ha, List.lookup_cons]

end Routes

namespace RouteTable

theorem validApiId_iff (id : String) :
    validApiId id = true ↔ 1 ≤ id.utf8ByteSize ∧ id.utf8ByteSize ≤ 128 := by
  unfold validApiId maxApiId String.isEmpty
  rw [Bool.and_eq_true, Nat.one_le_iff_ne_zero]
  simp

variable (t : RouteTable) (pool : HandlerId → Handler) (api : String)

theorem rejection?_eq_none_iff {h : HandlerId} :
    t.rejection? pool api h = none ↔
      (validApiId api = true ∧ ContextPath.valid (pool h).contextPath = true ∧
        (pool h).isStarted = true) ∧
      t.routes.at? (pool h).contextPath = none ∧ t.routes.pathOf? api = none := by
  unfold rejection?
  cases hv : validApiId api <;> cases hc : ContextPath.valid (pool h).contextPath <;>
    cases hs : (pool h).isStarted <;> cases ha : t.routes.at? (pool h).contextPath <;>
    cases hp : t.routes.pathOf? api <;> simp [ha, hc]

/-- The table after a handler got a route. -/
def added (h : HandlerId) : RouteTable :=
  { t with
    routes := t.routes.insert ⟨(pool h).contextPath, api, h⟩
    version := t.version + 1
    adds := t.adds + 1 }

theorem insert_cases (h : HandlerId) :
    (∃ r, t.rejection? pool api h = some r ∧ t.insert pool api (some h) = (some r, t.reject)) ∨
      (t.rejection? pool api h = none ∧
        t.insert pool api (some h) = (none, t.added pool api h)) := by
  cases hr : t.rejection? pool api h with
  | some r =>
    refine .inl ⟨r, rfl, ?_⟩
    simp only [insert, hr]
  | none =>
    refine .inr ⟨rfl, ?_⟩
    simp only [insert, hr, added]

/-- The table after the route on a path, owned by an API, was taken out. -/
def removed (path : String) : RouteTable :=
  { t with
    routes := (t.routes.forget api).vacate path
    version := t.version + 1
    removes := t.removes + 1 }

theorem erase_cases :
    (t.routes.pathOf? api = none ∧ t.erase api = (.absent, t)) ∨
      (∃ p, t.routes.pathOf? api = some p ∧ t.routes.handlerOf? api = none ∧
        t.erase api = (.stale p,
          { t with routes := t.routes.forget api, version := t.version + 1 })) ∨
      ∃ e, e ∈ t.routes.entries ∧ t.routes.pathOf? api = some e.path ∧ e.api = api ∧
        t.routes.at? e.path = some e ∧
        t.erase api = (.removed e.handler, t.removed api e.path) := by
  unfold erase
  cases hp : t.routes.pathOf? api with
  | none => exact .inl ⟨rfl, rfl⟩
  | some p =>
    cases hh : t.routes.handlerOf? api with
    | none => exact .inr (.inl ⟨p, rfl, rfl, rfl⟩)
    | some h =>
      obtain ⟨p', e, hp', he, hapi, rfl⟩ := Routes.handlerOf?_eq_some_iff.mp hh
      rw [hp, Option.some.injEq] at hp'
      subst hp'
      obtain ⟨hmem, rfl⟩ := Routes.mem_of_at?_eq_some he
      exact .inr (.inr ⟨e, hmem, rfl, hapi, he, rfl⟩)

end RouteTable
end ApiGateway
