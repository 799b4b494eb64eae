import ApiGateway.Route.Selection

/-!
# Which route is selected

The selection goes through the routes in their order.  Said without an order: a started route that
covers the path and is bound to the host is taken if there is one, else one bound to no host if
there is one, else none.

* `covers_iff`        a context path covers what begins with it, and itself without its last `/`;
* `Routes.Selects`    a choice is right, whatever the order of the routes;
* `select?_selects`   the choice made by going through the routes in any order;
* `select?_eq_of_unique`   the order does not matter if only one route may be taken.
-/

namespace ApiGateway

theorem ContextPath.covers_iff (context path : String) :
    covers context path = true ↔ context.toList <+: path.toList ∨
      path.toList.getLast? ≠ some '/' ∧ path ++ "/" = context := by
  unfold covers closed
  rw [List.isPrefixOf_iff_prefix]
  by_cases h : path.toList.getLast? = some '/'
  · rw [if_pos h]
    exact ⟨.inl, fun hc => hc.resolve_right fun hn => hn.1 h⟩
  · rw [if_neg h, List.prefix_concat_iff, ← String.toList_inj]
    have happend : (path ++ "/").toList = path.toList ++ ['/'] := String.toList_append
    rw [happend, eq_comm, or_comm]
    exact or_congr_right ⟨fun heq => ⟨h, heq⟩, And.right⟩

namespace Routes

variable (r : Routes) (pool : HandlerId → Handler) (path host : String)

/-- The route is published and started, and its context path is the path, without a `/` at the end
or with one, or begins it. -/
def Candidate (e : Route) : Prop :=
  e ∈ r.entries ∧ (pool e.handler).state = .started ∧
    (e.path.toList <+: path.toList ∨ path.toList.getLast? ≠ some '/' ∧ path ++ "/" = e.path)

/-- A candidate that is bound to the host. -/
def Bound (e : Route) : Prop :=
  r.Candidate pool path e ∧ (pool e.handler).virtualHost = some host

/-- A candidate that is bound to no host. -/
def Unbound (e : Route) : Prop :=
  r.Candidate pool path e ∧ (pool e.handler).virtualHost = none

/-- The route is among those that a choice is made of. -/
def Eligible (e : Route) : Prop :=
  r.Bound pool path host e ∨ (∀ e', ¬ r.Bound pool path host e') ∧ r.Unbound pool path e

/-- The choice is a candidate bound to the host if there is one, else a candidate bound to no host
if there is one, else none. -/
structure Selects (choice : Option Route) : Prop where
  bound : (∃ e, r.Bound pool path host e) → ∃ e, choice = some e ∧ r.Bound pool path host e
  unbound : (∀ e, ¬ r.Bound pool path host e) → (∃ e, r.Unbound pool path e) →
    ∃ e, choice = some e ∧ r.Unbound pool path e
  none : (∀ e, ¬ r.Bound pool path host e) → (∀ e, ¬ r.Unbound pool path e) → choice = none

variable {r pool path host}

theorem mem_candidates {e : Route} : e ∈ r.candidates pool path ↔ r.Candidate pool path e := by
  unfold candidates Candidate Handler.isStarted
  rw [List.mem_filter, Bool.and_eq_true, ContextPath.covers_iff, beq_iff_eq]
  exact and_congr_right fun _ => and_comm

theorem hosted?_eq_some {e : Route} (h : r.hosted? pool path host = some e) :
    r.Bound pool path host e := by
  have hv := List.find?_some h
  exact ⟨mem_candidates.mp (List.mem_of_find?_eq_some h), beq_iff_eq.mp hv⟩

theorem hosted?_eq_none : r.hosted? pool path host = none ↔ ∀ e, ¬ r.Bound pool path host e := by
  unfold hosted?
  rw [List.find?_eq_none]
  constructor
  · intro h e he
    exact h e (mem_candidates.mpr he.1) (beq_iff_eq.mpr he.2)
  · intro h e he hv
    exact h e ⟨mem_candidates.mp he, beq_iff_eq.mp hv⟩

theorem hostless?_eq_some {e : Route} (h : r.hostless? pool path = some e) :
    r.Unbound pool path e := by
  have hv := List.find?_some h
  exact ⟨mem_candidates.mp (List.mem_of_find?_eq_some h), beq_iff_eq.mp hv⟩

theorem hostless?_eq_none : r.hostless? pool path = none ↔ ∀ e, ¬ r.Unbound pool path e := by
  unfold hostless?
  rw [List.find?_eq_none]
  constructor
  · intro h e he
    exact h e (mem_candidates.mpr he.1) (beq_iff_eq.mpr he.2)
  · intro h e he hv
    exact h e ⟨mem_candidates.mp he, beq_iff_eq.mp hv⟩

theorem select?_cases (r : Routes) (pool : HandlerId → Handler) (path host : String) :
    (∃ e, r.select? pool path host = some e ∧ r.Bound pool path host e) ∨
      (∀ e, ¬ r.Bound pool path host e) ∧
        ((∃ e, r.select? pool path host = some e ∧ r.Unbound pool path e) ∨
          (∀ e, ¬ r.Unbound pool path e) ∧ r.select? pool path host = none) := by
  unfold select?
  cases hb : r.hosted? pool path host with
  | some e => exact .inl ⟨e, rfl, hosted?_eq_some hb⟩
  | none =>
    refine .inr ⟨hosted?_eq_none.mp hb, ?_⟩
    cases hu : r.hostless? pool path with
    | some e => exact .inl ⟨e, rfl, hostless?_eq_some hu⟩
    | none => exact .inr ⟨hostless?_eq_none.mp hu, rfl⟩

theorem select?_selects (r : Routes) (pool : HandlerId → Handler) (path host : String) :
    r.Selects pool path host (r.select? pool path host) := by
  rcases r.select?_cases pool path host with
    ⟨e, he, hb⟩ | ⟨hb, ⟨e, he, hu⟩ | ⟨hu, he⟩⟩
  · exact ⟨fun _ => ⟨e, he, hb⟩, fun hn => absurd hb (hn e), fun hn => absurd hb (hn e)⟩
  · exact ⟨fun ⟨e', hb'⟩ => absurd hb' (hb e'), fun _ _ => ⟨e, he, hu⟩,
      fun _ hn => absurd hu (hn e)⟩
  · exact ⟨fun ⟨e', hb'⟩ => absurd hb' (hb e'), fun _ ⟨e', hu'⟩ => absurd hu' (hu e'),
      fun _ _ => he⟩

theorem eligible_of_select? {e : Route} (h : r.select? pool path host = some e) :
    r.Eligible pool path host e := by
  rcases r.select?_cases pool path host with
    ⟨e', he, hb⟩ | ⟨hb, ⟨e', he, hu⟩ | ⟨-, he⟩⟩ <;> rw [h] at he
  · cases he
    exact .inl hb
  · cases he
    exact .inr ⟨hb, hu⟩
  · cases he

theorem mem_of_select? {e : Route} (h : r.select? pool path host = some e) : e ∈ r.entries := by
  rcases eligible_of_select? h with hb | ⟨-, hu⟩
  · exact hb.1.1
  · exact hu.1.1

/-- Nothing is chosen only if nothing is eligible. -/
theorem not_eligible_of_select? (h : r.select? pool path host = none) (e : Route) :
    ¬ r.Eligible pool path host e := by
  intro he
  rcases r.select?_cases pool path host with ⟨e', he', -⟩ | ⟨hb, ⟨e', he', -⟩ | ⟨hu, -⟩⟩
  · rw [h] at he'
    cases he'
  · rw [h] at he'
    cases he'
  · exact he.elim (hb e) fun hn => hu e hn.2

theorem select?_eq_of_unique {e : Route} (h : ∀ e', r.Eligible pool path host e' ↔ e' = e) :
    r.select? pool path host = some e := by
  cases hs : r.select? pool path host with
  | some e' => rw [(h e').mp (eligible_of_select? hs)]
  | none => exact absurd ((h e).mpr rfl) (not_eligible_of_select? hs e)

/-! ### Another order -/

section
variable {r' : Routes} (h : r'.entries.Perm r.entries)
include h

theorem candidate_perm (e : Route) : r'.Candidate pool path e ↔ r.Candidate pool path e :=
  and_congr_left fun _ => h.mem_iff

theorem bound_perm (e : Route) : r'.Bound pool path host e ↔ r.Bound pool path host e :=
  and_congr_left fun _ => candidate_perm h e

theorem unbound_perm (e : Route) : r'.Unbound pool path e ↔ r.Unbound pool path e :=
  and_congr_left fun _ => candidate_perm h e

theorem selects_perm {choice : Option Route} (hs : r'.Selects pool path host choice) :
    r.Selects pool path host choice := by
  obtain ⟨h1, h2, h3⟩ := hs
  simp only [bound_perm h, unbound_perm h] at h1 h2 h3
  exact ⟨h1, h2, h3⟩

theorem eligible_perm (e : Route) : r'.Eligible pool path host e ↔ r.Eligible pool path host e := by
  unfold Eligible
  simp only [bound_perm h, unbound_perm h]

end
end Routes
end ApiGateway
