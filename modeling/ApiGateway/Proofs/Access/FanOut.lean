import ApiGateway.Proofs.Access.Counted
import ApiGateway.Proofs.Access.Nesting

/-!
# How a reporting service passes a record on

A service counts a record and gives it to the sinks that it has at that moment, one after the other.
Whatever a sink does, the others have their turn, and the report returns.

* `Gateway.passed`           whom a service gave its `k`-th record;
* `Service.Past`             what is known of a service once it has counted that record;
* `Run.passTo`               a report up to the turn of one of the sinks;
* `FannedOut`                what a report to a service comes to;
* `Run.records_fanned_out`   so it is for every report, and the sinks are those that were added.
-/

namespace ApiGateway

variable {σ τ α : Type}

namespace Entry

/-- Whom a service gave its `k`-th record, and the record. -/
def passed? (s k : Nat) : Entry → Option (Reporter × AccessRecord)
  | call o (.record rep r) => if o = .service s k then some (rep, r) else none
  | _ => none

theorem SparesRecords.passed?_eq_none {e : Entry} (he : e.SparesRecords) (s k : Nat) :
    e.passed? s k = none := by
  cases e with
  | call o i =>
    cases i with
    | record rep r => exact absurd he id
    | _ => rfl
  | _ => rfl

end Entry

/-- Whom a service gave its `k`-th record, and the record, oldest first. -/
def Gateway.passed (g : Gateway σ) (s k : Nat) : List (Reporter × AccessRecord) :=
  (g.journal.filterMap (·.passed? s k)).reverse

/-- The service has counted its `k`-th record, the last of `before`, and has counted each record
since; it passed its `k`-th record on to those in `given`. -/
structure Service.Past (s k : Nat) (before : List AccessRecord)
    (given : List (Reporter × AccessRecord)) (v : Service) (j : List Entry) : Prop where
  counted : ∃ later, (j.filterMap (·.recordAt? s)).reverse = before ++ later ∧
    v.records = k + later.length
  passed : (j.filterMap (·.passed? s k)).reverse = given

namespace Run

section
variable {s k : Nat} {before : List AccessRecord} {given : List (Reporter × AccessRecord)}
  {v : Service} {j : List Entry}

/-- One more record for someone, perhaps for the service itself, perhaps passed on by it. -/
theorem past_record (h : v.Past s k before given j) (o : Origin) (rep : Reporter)
    (r : AccessRecord) : (v.given s rep r).Past s k before
      (given ++ (if o = .service s k then [(rep, r)] else [])) (.call o (.record rep r) :: j) := by
  refine ⟨?_, ?_⟩
  · obtain ⟨later, hrecords, hcount⟩ := h.counted
    rw [reverse_filterMap_cons, hrecords, Entry.recordAt?_record]
    unfold Service.given
    by_cases hrep : rep = .service s
    · rw [if_pos hrep, if_pos hrep]
      refine ⟨later ++ [r], List.append_assoc _ _ _, ?_⟩
      show v.records + 1 = _
      rw [hcount, List.length_append]
      rfl
    · rw [if_neg hrep, if_neg hrep]
      exact ⟨later, List.append_nil _, hcount⟩
  · rw [reverse_filterMap_cons, h.passed]
    refine congrArg (given ++ ·) ?_
    show (if o = .service s k then some (rep, r) else none).toList = _
    by_cases ho : o = .service s k
    · rw [if_pos ho, if_pos ho]
      rfl
    · rw [if_neg ho, if_neg ho]
      rfl

theorem tracks_past (s k : Nat) (before : List AccessRecord)
    (given : List (Reporter × AccessRecord)) :
    Service.Tracks s (· ≠ .service s k) (Service.Past s k before given) where
  write he h := by
    refine ⟨?_, ?_⟩
    · rw [List.filterMap_cons_none (he.recordAt?_eq_none s)]
      exact h.counted
    · rw [List.filterMap_cons_none (he.passed?_eq_none s k)]
      exact h.passed
  add sink h := by
    cases sink with
    | none => exact h
    | some sink => exact ⟨h.counted, h.passed⟩
  record {v j o} rep r ho h := by
    have h' := past_record h o rep r
    rwa [if_neg ho, List.append_nil] at h'
  others ho := ho k
  number h heq := by
    obtain ⟨later, -, hcount⟩ := h.counted
    have hk := (Origin.service.inj heq).2
    omega

end

/-! ### A report, sink by sink -/

/-- A service counts a record and gives it to these sinks. -/
def passTo (c : Collaborators σ) (n : Nat) (o : Origin) (s : Nat) (r : AccessRecord)
    (sinks : List Reporter) : Run σ Unit := do
  let service ← enter o s r
  fanOut (reportWithin c n (.service s service.records)) r sinks

theorem fanOut_concat (pass : Reporter → AccessRecord → Run σ (Except Fault Unit))
    (r : AccessRecord) (before : List Reporter) (sink : Reporter) (g : Gateway σ) :
    (fanOut pass r (before ++ [sink]) g).2 =
      afterTurn r (pass sink r (fanOut pass r before g).2) := by
  induction before generalizing g with
  | nil => exact congrArg Prod.snd (fanOut_cons sink [] g)
  | cons first rest ih =>
    rw [List.cons_append, fanOut_cons, fanOut_cons]
    exact ih _

section
variable {g : Gateway σ} {s : Nat} {v : Service} (hv : g.services[s]? = some v)
  (c : Collaborators σ) (n : Nat) (o : Origin) (r : AccessRecord)
include hv

theorem passTo_eq (sinks : List Reporter) : passTo c n o s r sinks g =
    fanOut (reportWithin c n (.service s (v.records + 1))) r sinks (enter o s r g).2 := by
  show fanOut (reportWithin c n (.service s (enter o s r g).1.records)) r sinks
    (enter o s r g).2 = _
  rw [Gateway.enter_self hv]
  rfl

theorem reportWithin_succ : reportWithin c (n + 1) o (.service s) r g =
    (.ok (), (passTo c n o s r v.sinks g).2) := by
  rw [reportWithin_entered, passTo_eq hv, Gateway.enter_self hv]
  rfl

theorem passTo_concat (before : List Reporter) (sink : Reporter) :
    (passTo c n o s r (before ++ [sink]) g).2 = afterTurn r
      (reportWithin c n (.service s (v.records + 1)) sink r (passTo c n o s r before g).2) := by
  rw [passTo_eq hv, passTo_eq hv]
  exact fanOut_concat _ r before sink _

end

/-- Each sink gets the record in its turn, and nobody else gets it as the `k`-th of the service. -/
theorem fanOut_past {c : Collaborators τ} {O : τ → Prop} {s k : Nat} {before : List AccessRecord}
    (hc : ∀ given, c.Keep (Both (Gateway.Tracked s (Service.Past s k before given)) O))
    (r : AccessRecord) (n : Nat) (sinks : List Reporter) (given : List (Reporter × AccessRecord)) :
    Leads (Both (Gateway.Tracked s (Service.Past s k before given)) O)
      (Both (Gateway.Tracked s (Service.Past s k before (given ++ sinks.map (·, r)))) O)
      (fanOut (reportWithin c n (.service s k)) r sinks) := by
  induction sinks generalizing given with
  | nil =>
    rw [List.map_nil, List.append_nil]
    exact fun g hg => hg
  | cons sink rest ih =>
    have hrecord (v : Service) (j : List Entry) (h : v.Past s k before given j) :
        (v.given s sink r).Past s k before (given ++ [(sink, r)])
          (.call (.service s k) (.record sink r) :: j) := by
      have h' := past_record h (.service s k) sink r
      rwa [if_pos rfl] at h'
    have hturn := Tracks.leads (tracks_past s k before given)
      (tracks_past s k before (given ++ [(sink, r)])) (hc _) hrecord n
    rw [List.map_cons, List.append_cons]
    refine hturn.bind fun a => ?_
    cases a with
    | ok u => exact ih _
    | error f =>
      refine Leads.bind (fun g hg => ⟨hg.1.write fun _ _ => ?_, hg.2⟩) fun _ => ih _
      exact (tracks_past s k before _).write trivial

end Run

/-- What a report to a service comes to.  It returns.  The sinks that the service has when the
report begins get the record, each as often as it was added and in that order; each has its turn
after what the turns before have left behind, and if it fails, one error is logged and the next sink
has its turn.  The service has counted the record, and one more for each report that it got
meanwhile.  Sinks that were added meanwhile are behind the others. -/
structure FannedOut (b : Behaviours σ) (d n : Nat) (o : Origin) (s : Nat) (r : AccessRecord)
    (g : Gateway σ) (v : Service) (x : Except Fault Unit × Gateway σ) : Prop where
  returns : x.1 = .ok ()
  passed : x.2.passed s (v.records + 1) =
    (Run.enter o s r g).2.passed s (v.records + 1) ++ v.sinks.map (·, r)
  ends : x.2 = (Run.passTo (b.within d) n o s r v.sinks g).2
  turn : ∀ before sink after, v.sinks = before ++ sink :: after →
    (Run.passTo (b.within d) n o s r (before ++ [sink]) g).2 =
      Run.afterTurn r (Run.reportWithin (b.within d) n (.service s (v.records + 1)) sink r
        (Run.passTo (b.within d) n o s r before g).2)
  logged : ∀ f, (Notice.sinkFailed r.requestId f).level = .err
  counted : ∃ v' later, x.2.services[s]? = some v' ∧
    x.2.recordsAt s = g.recordsAt s ++ r :: later ∧ v'.records = v.records + 1 + later.length
  sinks : x.2.sinksOf s = v.sinks ++ Moment.added s
    (b.requestsIn d (fun c => Run.reportWithin c (n + 1) o (.service s) r) g)

namespace Run

section
variable (b : Behaviours σ) (d n : Nat) (o : Origin) {s : Nat} (r : AccessRecord) {g : Gateway σ}
  {v : Service} (hv : g.services[s]? = some v)
include hv

theorem past_passTo : (passTo (b.within d) n o s r v.sinks g).2.Tracked s
    (Service.Past s (v.records + 1) (g.recordsAt s ++ [r])
      ((enter o s r g).2.passed s (v.records + 1) ++ v.sinks.map (·, r))) := by
  have hc (given : List (Reporter × AccessRecord)) :=
    (enduring_tracked (tracks_past s (v.records + 1) (g.recordsAt s ++ [r]))).within b d given
  have hentered : (enter o s r g).2.Tracked s (Service.Past s (v.records + 1)
      (g.recordsAt s ++ [r]) ((enter o s r g).2.passed s (v.records + 1))) := by
    refine ⟨_, Gateway.services_enter hv o s r, ⟨[], ?_, ?_⟩, rfl⟩
    · rw [List.append_nil]
      have hrecords := g.recordsAt_write (.call o (.record (.service s) r)) s
      rwa [Entry.recordAt?_record, if_pos rfl] at hrecords
    · unfold Service.given
      rw [if_pos rfl]
      rfl
  rw [passTo_eq hv]
  exact (fanOut_past hc r n v.sinks _ _ ⟨hentered, trivial⟩).1

theorem sinksOf_reportWithin :
    (reportWithin (b.within d) (n + 1) o (.service s) r g).2.sinksOf s = v.sinks ++
      Moment.added s (b.requestsIn d (fun c => reportWithin c (n + 1) o (.service s) r) g) := by
  have hsunk : Since (Sunk s v.sinks) g.watched := by
    refine .watched ?_
    show g.sinksOf s = v.sinks ++ []
    rw [Gateway.sinksOf_eq hv, List.append_nil]
  have hlast := keeps_reportWithin_of_sinks sunk_of_same
    ((lasting_sunk s v.sinks).within b d ()) (n + 1) o (.service s) r g.watched hsunk
  have T := tolerates_recorded b d
  have hreports (o : Origin) : Reports (Bare (σ := σ)) (fun _ => True) o :=
    .of_free T.toJournals robust_bare.countAt fun _ _ => trivial
  have hbare : (reportWithin (b.within d) (n + 1) o (.service s) r g).2 =
      (reportWithin (b.recorded.within d) (n + 1) o (.service s) r g.watched).2.bare :=
    (Alike.reportWithin T (fun _ _ => hreports _) (hreports o) (n + 1) (.service s) r g g.watched
      rfl).2
  rw [hbare]
  exact hlast.now

theorem fannedOut : FannedOut b d n o s r g v
    (reportWithin (b.within d) (n + 1) o (.service s) r g) := by
  have heq := reportWithin_succ hv (b.within d) n o r
  obtain ⟨v', hv', ⟨later, hrecords, hcount⟩, hpassed⟩ := past_passTo b d n o r hv
  have hends : (reportWithin (b.within d) (n + 1) o (.service s) r g).2 =
      (passTo (b.within d) n o s r v.sinks g).2 := congrArg Prod.snd heq
  refine ⟨congrArg Prod.fst heq, ?_, hends, fun before sink _ _ =>
    passTo_concat hv _ n o r before sink, fun _ => rfl, ⟨v', later, ?_, ?_, hcount⟩,
    sinksOf_reportWithin b d n o r hv⟩
  · rw [hends]
    exact hpassed
  · rw [hends]
    exact hv'
  · rw [hends]
    exact hrecords.trans (List.append_assoc _ _ _)

end

/-- Reports to a service return, and reach all of its sinks.

At every request of every run, and at its end, the sinks of a service are those that it had at first
and those that were added since, in that order; to add none changes nothing.  Whatever the
collaborators do, a report to a service gives the record to the sinks that the service has at that
moment, whatever the sinks before have done: they may fail, report to the service again and add
sinks to it.  A sink that is a service gets its report one level down, so the same is true of it.
If no service contains itself, so that services have ranks, and nobody adds a sink that would change
that, it makes no difference how many levels there are, as long as there are more than the rank. -/
theorem records_fanned_out (b : Behaviours σ) (n : Nat) (user : Behaviour σ α) (g₀ : Gateway σ) :
    let requests := b.requests n user g₀
    (∀ m earlier, m :: earlier <:+ requests → ∀ s,
      m.gateway.sinksOf s = g₀.sinksOf s ++ Moment.added s earlier) ∧
    (∀ s, (user.run (b.within n) g₀).2.sinksOf s = g₀.sinksOf s ++ Moment.added s requests) ∧
    (∀ d level o s r g v, g.services[s]? = some v →
      FannedOut b d level o s r g v
        (reportWithin (b.within d) (level + 1) o (.service s) r g)) ∧
    ∀ rank, b.Asks (Action.Nests rank) → ∀ d level level' o s r (g : Gateway σ), g.Nested rank →
      rank s < level → rank s < level' →
      reportWithin (b.within d) level o (.service s) r g =
        reportWithin (b.within d) level' o (.service s) r g := by
  intro requests
  have hsunk (s : Nat) := (lasting_sunk s (g₀.sinksOf s)).since b n user (g := g₀)
    (List.append_nil _).symm
  exact ⟨fun m earlier hm s => (hsunk s).1 m earlier hm, fun s => (hsunk s).2,
    fun d level o s r g v hv => fannedOut b d level o r hv,
    fun rank hb d level level' o s r g hg hlevel hlevel' =>
      reportWithin_levels (keep_nested hb d) hlevel hlevel' hg o r⟩

/-- One sink always fails.  Another adds a sink to its service and reports there again. -/
def quarrel : Behaviours Unit where
  build _ := .give none
  call
    | .record (.outside 0) _ => .fail .foreign
    | .record (.outside 1) r =>
      if r.status = 200 then do
        Behaviour.require (.addSink 0 (some (.outside 2)))
        Behaviour.require (.report (.service 0) { r with status := 500 })
      else .give ()
    | _ => .give ()

theorem quarrel_asks (rank : Nat → Nat) : quarrel.Asks (Action.Nests rank) := by
  refine ⟨fun _ => trivial, fun i => ?_⟩
  unfold quarrel
  dsimp only
  split
  · exact trivial
  · split
    · refine ⟨trivial, fun a => ?_⟩
      cases a with
      | error f => exact trivial
      | ok u => exact ⟨trivial, fun a => by cases a <;> exact trivial⟩
    · exact trivial
  · exact trivial

/-- A service with a sink that was added twice and another service among its sinks. -/
def quarrelling : Gateway Unit where
  services := [{ sinks := [.outside 0, .outside 0, .service 1, .outside 1] }, { sinks := [.log] }]
  own := ()

theorem quarrelling_nested : quarrelling.Nested (1 - ·) := by
  intro s t hmem
  match s with
  | 0 =>
    have heq : t = 1 := by simpa [Gateway.sinksOf, quarrelling] using hmem
    rw [heq]
    decide
  | 1 => simp [Gateway.sinksOf, quarrelling] at hmem
  | s + 2 => simp [Gateway.sinksOf, quarrelling] at hmem

theorem records_fanned_out_quarrel :
    let g := quarrelling
    let r : AccessRecord :=
      { requestId := "7", method := "GET", path := "/", host := "", status := 200 }
    let x := reportWithin (quarrel.within 3) 3 .outside (.service 0) r g
    (∃ v, g.services[0]? = some v ∧ FannedOut quarrel 3 2 .outside 0 r g v x) ∧
      (quarrel.Asks (Action.Nests (1 - ·)) ∧ g.Nested (1 - ·) ∧
        x = reportWithin (quarrel.within 3) 7 .outside (.service 0) r g) ∧
      x.2.passed 0 1 = [(.outside 0, r), (.outside 0, r), (.service 1, r), (.outside 1, r)] ∧
      (x.2.passed 0 2).map Prod.fst =
        [.outside 0, .outside 0, .service 1, .outside 1, .outside 2] ∧
      (x.2.passed 1 1).map Prod.fst = [.log] ∧
      x.2.services.map (·.records) = [2, 2] := by
  intro g r x
  obtain ⟨-, -, hfanned, hlevels⟩ := records_fanned_out quarrel 0 (.give ()) g
  have hpassed : x.2.passed 0 1 =
        [(.outside 0, r), (.outside 0, r), (.service 1, r), (.outside 1, r)] ∧
      (x.2.passed 0 2).map Prod.fst =
        [.outside 0, .outside 0, .service 1, .outside 1, .outside 2] ∧
      (x.2.passed 1 1).map Prod.fst = [.log] ∧ x.2.services.map (·.records) = [2, 2] := by
    decide +kernel
  have hasks := quarrel_asks (1 - ·)
  exact ⟨⟨_, rfl, hfanned 3 2 .outside 0 r g _ rfl⟩,
    ⟨hasks, quarrelling_nested, hlevels (1 - ·) hasks 3 3 7 .outside 0 r g quarrelling_nested
      (by decide) (by decide)⟩, hpassed⟩

end Run
end ApiGateway
