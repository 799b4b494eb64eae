import ApiGateway.Proofs.Access.FanOut

/-!
# What the counters of a reporting service say

A service counts the records that it gets, those that no route served, and those with a status of
500 or more.  The last are the server errors, with the statuses from 500 to 599, and whatever has a
status beyond.

* `Service.Reads`          what the counters say of a list of records;
* `Run.recordsAt_report`   a report is among the records of its service;
* `Run.counters_read`      what the counters say at every request and at the end of a run.
-/

namespace ApiGateway

variable {σ α : Type}

namespace AccessRecord

theorem isNotFound_iff (r : AccessRecord) :
    r.isNotFound = true ↔ r.status = 404 ∧ r.contextPath = "" := by
  unfold isNotFound
  rw [Bool.and_eq_true, beq_iff_eq, String.isEmpty_iff]

/-- The status is a server error. -/
def Is5xx (r : AccessRecord) : Prop :=
  500 ≤ r.status ∧ r.status ≤ 599

instance (r : AccessRecord) : Decidable r.Is5xx :=
  inferInstanceAs (Decidable (_ ∧ _))

theorem isServerError_iff (r : AccessRecord) :
    r.isServerError = true ↔ r.Is5xx ∨ 599 < r.status := by
  unfold isServerError Is5xx
  rw [decide_eq_true_iff]
  omega

theorem countP_isServerError (rs : List AccessRecord) :
    rs.countP (·.isServerError) = rs.countP (·.Is5xx) + rs.countP (599 < ·.status) := by
  induction rs with
  | nil => rfl
  | cons r rest ih =>
    have hr := r.isServerError_iff
    have hone : (if r.isServerError = true then 1 else 0) =
        (if decide r.Is5xx = true then 1 else 0) +
          (if decide (599 < r.status) = true then 1 else 0) := by
      by_cases h1 : r.Is5xx
      · have h2 : ¬ 599 < r.status := Int.not_lt.mpr h1.2
        simp [hr, h1, h2]
      · simp [hr, h1]
    rw [List.countP_cons, List.countP_cons, List.countP_cons, ih, hone]
    omega

end AccessRecord

/-- What the counters of a service say of the records that it got: how many there are, how many have
status 404 and no context path, and how many have a status from 500 to 599 or beyond.  So the server
errors alone are counted as such just if no status is beyond 599. -/
structure Service.Reads (v : Service) (rs : List AccessRecord) : Prop where
  records : v.records = rs.length
  notFound : v.notFound = rs.countP fun r => r.status = 404 ∧ r.contextPath = ""
  serverErrors : v.serverErrors = rs.countP (·.Is5xx) + rs.countP (599 < ·.status)
  proper : v.serverErrors = rs.countP (·.Is5xx) ↔ ∀ r ∈ rs, r.status ≤ 599

theorem Service.Counts.reads {v : Service} {rs : List AccessRecord} (h : v.Counts rs) :
    v.Reads rs := by
  have hserver : v.serverErrors = rs.countP (·.Is5xx) + rs.countP (599 < ·.status) :=
    h.serverErrors.trans (AccessRecord.countP_isServerError rs)
  refine ⟨h.records, ?_, hserver, ?_⟩
  · rw [h.notFound]
    refine List.countP_congr fun r _ => ?_
    rw [decide_eq_true_iff]
    exact r.isNotFound_iff
  · have hbeyond : rs.countP (599 < ·.status) = 0 ↔ ∀ r ∈ rs, r.status ≤ 599 := by
      rw [List.countP_eq_zero]
      refine forall₂_congr fun r _ => ?_
      rw [decide_eq_true_iff, Int.not_lt]
    rw [← hbeyond, hserver]
    omega

/-- The counters of a service say of its records what they should. -/
def Gateway.Readable (s : Nat) (g : Gateway σ) : Prop :=
  ∃ v, g.services[s]? = some v ∧ v.Reads (g.recordsAt s)

namespace Run

/-- A report is among the records of its service, with those that the service gets meanwhile behind
it. -/
theorem recordsAt_report (b : Behaviours σ) (d : Nat) (o : Origin) {s : Nat} (r : AccessRecord)
    {g : Gateway σ} {v : Service} (hv : g.services[s]? = some v) :
    ∃ later, (report (b.within d) o (.service s) r g).2.recordsAt s =
      g.recordsAt s ++ r :: later := by
  cases d with
  | zero =>
    have hrecords := g.recordsAt_write (.call o (.record (.service s) r)) s
    rw [Entry.recordAt?_record, if_pos rfl] at hrecords
    exact ⟨[], hrecords⟩
  | succ d =>
    obtain ⟨-, later, -, hrecords, -⟩ := (fannedOut b (d + 1) d o r hv).counted
    exact ⟨later, hrecords⟩

/-- The counters of a service that starts with none: at every request of every run, and at its end,
it has counted the records that it got, those with status 404 and no context path, and those with a
status of 500 or more; the last are the server errors if no status is beyond 599.  Each record that
is reported to it is among those it got, whatever its sinks do. -/
theorem counters_read (b : Behaviours σ) (n : Nat) (user : Behaviour σ α) (g₀ : Gateway σ) (s : Nat)
    (sinks : List Reporter) (hs : g₀.services[s]? = some { sinks := sinks })
    (hnew : g₀.recordsAt s = []) :
    (∀ m ∈ b.requests n user g₀, m.gateway.Readable s) ∧
    (user.run (b.within n) g₀).2.Readable s ∧
    ∀ d o r (g : Gateway σ) v, g.services[s]? = some v →
      ∃ later, (report (b.within d) o (.service s) r g).2.recordsAt s =
        g.recordsAt s ++ r :: later := by
  have hcounted₀ : g₀.shown.Counted s := by
    refine ⟨_, hs, ?_⟩
    show Service.Counts _ (g₀.recordsAt s)
    rw [hnew]
    exact Service.counts_nil sinks
  refine ⟨fun m hm => ?_, ?_, fun d o r g v hv => recordsAt_report b d o r hv⟩
  · obtain ⟨-, v, hv, hcounts⟩ := (enduring_counted s).requests b n user (i := ()) hcounted₀ m hm
    exact ⟨v, hv, hcounts.reads⟩
  · obtain ⟨v, hv, hcounts⟩ := (enduring_counted s).run b n user hcounted₀ (i := ())
    exact ⟨v, hv, hcounts.reads⟩

/-- Someone reports a record with a status to the first service. -/
def reportStatus (status : Int) : Behaviour Unit Unit :=
  Behaviour.require (.report (.service 0)
    { requestId := "7", method := "GET", path := "/", host := "", status := status })

/-- A gateway with a service whose only sink fails. -/
def oneService : Gateway Unit where
  services := [{ sinks := [.outside 0] }]
  own := ()

/-- Someone reports records with these statuses and context paths to the first service. -/
def reportAll : List (Int × String) → Behaviour Unit Unit
  | [] => .give ()
  | (status, path) :: rest => do
    Behaviour.require (.report (.service 0)
      { requestId := "7", method := "GET", path := "/", host := "", contextPath := path
        status := status })
    reportAll rest

/-- A sink of the first service fails for every record, and reports one of its own to the service
when it gets a 503. -/
def grumbling : Behaviours Unit where
  build _ := .give none
  call
    | .record (.outside 0) r => do
      if r.status = 503 then reportAll [(404, "")]
      Behaviour.fail .foreign
    | _ => .give ()

/-- A gateway with two services, one of them among the sinks of the other. -/
def twoServices : Gateway Unit where
  services := [{ sinks := [.outside 0, .log, .service 1, .outside 1] }, { sinks := [.outside 1] }]
  own := ()

theorem counters_read_failing :
    let user := reportAll [(200, "/shop/"), (404, ""), (404, "/shop/"), (499, ""), (500, "/shop/"),
      (503, ""), (599, "")]
    let g := (user.run (grumbling.within 3) twoServices).2
    (twoServices.services[0]? = some { sinks := [.outside 0, .log, .service 1, .outside 1] } ∧
        twoServices.recordsAt 0 = []) ∧
      (∀ m ∈ grumbling.requests 3 user twoServices, m.gateway.Readable 0) ∧ g.Readable 0 ∧
      g.services.map (fun v => (v.records, v.notFound, v.serverErrors)) =
        [(8, 2, 3), (8, 2, 3)] := by
  intro user g
  have hcounts : g.services.map (fun v => (v.records, v.notFound, v.serverErrors)) =
      [(8, 2, 3), (8, 2, 3)] := by
    decide +kernel
  obtain ⟨hmeanwhile, hend, -⟩ := counters_read grumbling 3 user twoServices 0
    [.outside 0, .log, .service 1, .outside 1] rfl rfl
  exact ⟨⟨rfl, rfl⟩, hmeanwhile, hend, hcounts⟩

/-- A status of 600 is counted among the server errors. -/
theorem server_error_600 :
    let b : Behaviours Unit := ⟨fun _ => .give none, fun _ => .give ()⟩
    let g := ((reportStatus 600).run (b.within 1) oneService).2
    g.services.map (·.serverErrors) = [1] ∧ (g.recordsAt 0).countP (·.Is5xx) = 0 := by
  decide +kernel

end Run
end ApiGateway
