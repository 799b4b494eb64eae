import ApiGateway.Proofs.Access.Tracked

/-!
# A reporting service counts what it gets

Between the entry for a record and its count nobody else is called, so whoever looks at a service
finds its counters in step with the journal.

* `Gateway.recordsAt`      the records that a service got so far;
* `Service.Counts`         the counters of a service are those of a list of records;
* `enduring_counted`       a service that has counted every record goes on to do so.
-/

namespace ApiGateway

variable {σ τ : Type}

/-- The record that a service got. -/
def Entry.recordAt? (s : Nat) : Entry → Option AccessRecord
  | call _ (.record (.service s') r) => if s' = s then some r else none
  | _ => none

theorem Entry.eq_of_recordAt? {s : Nat} {e : Entry} {r : AccessRecord}
    (h : e.recordAt? s = some r) : ∃ o, e = call o (.record (.service s) r) := by
  unfold recordAt? at h
  split at h
  · next o s' r' =>
    by_cases heq : s' = s
    · rw [if_pos heq, Option.some.injEq] at h
      exact ⟨o, by rw [heq, h]⟩
    · rw [if_neg heq] at h
      cases h
  · cases h

theorem Entry.recordAt?_record (s : Nat) (o : Origin) (rep : Reporter) (r : AccessRecord) :
    (call o (.record rep r)).recordAt? s = if rep = .service s then some r else none := by
  cases rep with
  | service t =>
    show (if t = s then some r else none) = if Reporter.service t = .service s then some r else none
    by_cases heq : t = s
    · rw [if_pos heq, if_pos (congrArg Reporter.service heq)]
    · rw [if_neg heq, if_neg fun h => heq (Reporter.service.inj h)]
  | log => rfl
  | outside k => rfl

theorem Entry.SparesRecords.recordAt?_eq_none {e : Entry} (he : e.SparesRecords) (s : Nat) :
    e.recordAt? s = none := by
  cases hrec : e.recordAt? s with
  | none => rfl
  | some r =>
    obtain ⟨o, rfl⟩ := eq_of_recordAt? hrec
    exact absurd he id

namespace Service

structure Counts (v : Service) (rs : List AccessRecord) : Prop where
  records : v.records = rs.length
  notFound : v.notFound = rs.countP (·.isNotFound)
  serverErrors : v.serverErrors = rs.countP (·.isServerError)

variable {v : Service} {rs : List AccessRecord}

theorem counts_nil (sinks : List Reporter) : Counts { sinks := sinks } [] :=
  ⟨rfl, rfl, rfl⟩

theorem Counts.count (h : v.Counts rs) (r : AccessRecord) : (v.count r).Counts (rs ++ [r]) := by
  have hcount (p : AccessRecord → Bool) :
      (rs ++ [r]).countP p = rs.countP p + (p r).toNat := by
    rw [List.countP_append, List.countP_singleton]
    cases p r <;> rfl
  refine ⟨?_, ?_, ?_⟩
  · show v.records + 1 = _
    rw [h.records, List.length_append]
    rfl
  · show v.notFound + r.isNotFound.toNat = _
    rw [h.notFound, hcount]
  · show v.serverErrors + r.isServerError.toNat = _
    rw [h.serverErrors, hcount]

theorem Counts.add (h : v.Counts rs) (sink : Option Reporter) : (v.add sink).Counts rs := by
  cases sink with
  | none => exact h
  | some sink => exact ⟨h.records, h.notFound, h.serverErrors⟩

end Service

namespace Gateway

/-- The records that a service got so far, oldest first. -/
def recordsAt (g : Gateway σ) (s : Nat) : List AccessRecord :=
  (g.journal.filterMap (·.recordAt? s)).reverse

theorem recordsAt_write (g : Gateway σ) (e : Entry) (s : Nat) :
    (Run.write e g).2.recordsAt s = g.recordsAt s ++ (e.recordAt? s).toList :=
  Run.filterMap_write _ e g

theorem recordsAt_write_spare (g : Gateway σ) {e : Entry} {s : Nat} (he : e.recordAt? s = none) :
    (Run.write e g).2.recordsAt s = g.recordsAt s := by
  rw [recordsAt_write, he, Option.toList_none, List.append_nil]

/-- The service is there, and has counted the records that it got. -/
def Counted (s : Nat) (g : Gateway σ) : Prop :=
  ∃ v, g.services[s]? = some v ∧ v.Counts (g.recordsAt s)

end Gateway

namespace Run

theorem tracks_counts (s : Nat) : Service.Tracks s (fun _ => True) fun v j =>
    v.Counts (j.filterMap (·.recordAt? s)).reverse where
  write {v j e} he h := by
    rwa [List.filterMap_cons_none (he.recordAt?_eq_none s)]
  add sink h := h.add sink
  record {v j o} rep r _ h := by
    rw [reverse_filterMap_cons, Entry.recordAt?_record]
    unfold Service.given
    by_cases hrep : rep = .service s
    · rw [if_pos hrep, if_pos hrep]
      exact h.count r
    · rw [if_neg hrep, if_neg hrep, Option.toList_none, List.append_nil]
      exact h
  others _ := trivial
  number _ := trivial

theorem enduring_counted (s : Nat) : Enduring fun (_ : Unit) g => Gateway.Counted s g :=
  enduring_tracked fun _ => tracks_counts s

end Run
end ApiGateway
