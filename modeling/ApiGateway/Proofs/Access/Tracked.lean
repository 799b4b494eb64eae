import ApiGateway.Proofs.Run.Keeps

/-!
# What is known of a reporting service

A service changes in two ways: it gets another sink, or it counts a record that has just been noted
in the journal.  What survives these two, and the entries that give no record to anyone, is known of
the service at the end of every run.  Some facts survive the records that are given on behalf of
certain parties alone; among those must be every later record of the service itself.

* `Service.Tracks`       a relation of a service and the journal, and the parties it survives;
* `Tracks.leads`         a record that takes one such relation to another;
* `enduring_tracked`     such relations endure.
-/

namespace ApiGateway

variable {σ τ α : Type}

/-- The entry gives no record to a reporter. -/
def Entry.SparesRecords : Entry → Prop
  | call _ (.record ..) => False
  | _ => True

namespace Service

/-- Service `s` once it is noted that a reporter gets a record. -/
def given (s : Nat) (rep : Reporter) (r : AccessRecord) (v : Service) : Service :=
  if rep = .service s then v.count r else v

theorem given_other {s : Nat} {rep : Reporter} (h : rep ≠ .service s) (r : AccessRecord)
    (v : Service) : v.given s rep r = v :=
  if_neg h

/-- A relation of service `s` and the journal that survives more sinks and all entries, but for
records that are given on behalf of someone outside `who`. -/
structure Tracks (s : Nat) (who : Origin → Prop) (R : Service → List Entry → Prop) : Prop where
  write : ∀ {v j e}, e.SparesRecords → R v j → R v (e :: j)
  add : ∀ {v j} sink, R v j → R (v.add sink) j
  record : ∀ {v j o} rep r, who o → R v j → R (v.given s rep r) (.call o (.record rep r) :: j)
  others : ∀ {o}, (∀ k, o ≠ .service s k) → who o
  number : ∀ {v j}, R v j → who (.service s (v.records + 1))

end Service

namespace Gateway

/-- The service is there, and is related to the journal. -/
def Tracked (s : Nat) (R : Service → List Entry → Prop) (g : Gateway σ) : Prop :=
  ∃ v, g.services[s]? = some v ∧ R v g.journal

variable {s : Nat} {R R' : Service → List Entry → Prop} {g : Gateway σ}

theorem Tracked.congr {g' : Gateway τ} (h : g.Tracked s R) (hs : g.services = g'.services)
    (hj : g.journal = g'.journal) : g'.Tracked s R := by
  obtain ⟨v, hv, hR⟩ := h
  exact ⟨v, hs ▸ hv, hj ▸ hR⟩

theorem Tracked.write (h : g.Tracked s R) {e : Entry} (he : ∀ v j, R v j → R' v (e :: j)) :
    (Run.write e g).2.Tracked s R' := by
  obtain ⟨v, hv, hR⟩ := h
  exact ⟨v, hv, he v _ hR⟩

theorem Tracked.addService (h : g.Tracked s R) : (Run.addService g).2.Tracked s R := by
  obtain ⟨v, hv, hR⟩ := h
  have hlt : s < g.services.length := (List.getElem?_eq_some_iff.mp hv).1
  exact ⟨v, (List.getElem?_append_left hlt).trans hv, hR⟩

theorem Tracked.addSink (h : g.Tracked s R) (s' : Nat) {sink : Option Reporter}
    (hadd : ∀ v j, R v j → R (v.add sink) j) : (Run.addSink s' sink g).2.Tracked s R := by
  obtain ⟨v, hv, hR⟩ := h
  have hsink : (Run.addSink s' sink g).2.services[s]? =
      some (if s' = s then v.add sink else v) := by
    show (g.services.modify s' (·.add sink))[s]? = _
    rw [List.getElem?_modify, hv]
    rfl
  refine ⟨_, hsink, ?_⟩
  by_cases heq : s' = s
  · rw [if_pos heq]
    exact hadd v _ hR
  · rw [if_neg heq]
    exact hR

theorem services_enter {v : Service} (hv : g.services[s]? = some v) (o : Origin) (t : Nat)
    (r : AccessRecord) :
    (Run.enter o t r g).2.services[s]? = some (v.given s (.service t) r) := by
  show (g.services.modify t (·.count r))[s]? = _
  rw [List.getElem?_modify, hv]
  refine congrArg some ?_
  show (if t = s then v.count r else v) = if Reporter.service t = .service s then v.count r else v
  by_cases heq : t = s
  · rw [if_pos heq, if_pos (congrArg Reporter.service heq)]
  · rw [if_neg heq, if_neg fun h => heq (Reporter.service.inj h)]

/-- The service that is entered shows itself as it is once it has counted the record. -/
theorem enter_self {v : Service} (hv : g.services[s]? = some v) (o : Origin) (r : AccessRecord) :
    (Run.enter o s r g).1 = v.count r := by
  have hself := services_enter hv o s r
  rw [Service.given, if_pos rfl] at hself
  show (Run.enter o s r g).2.services.getD s {} = _
  rw [List.getD_eq_getElem?_getD, hself]
  rfl

theorem Tracked.enter (h : g.Tracked s R) (o : Origin) (t : Nat) {r : AccessRecord}
    (hrecord : ∀ v j, R v j →
      R' (v.given s (.service t) r) (.call o (.record (.service t) r) :: j)) :
    (Run.enter o t r g).2.Tracked s R' := by
  obtain ⟨v, hv, hR⟩ := h
  exact ⟨_, services_enter hv o t r, hrecord v _ hR⟩

end Gateway

namespace Run

variable {s : Nat} {who : Origin → Prop} {O : τ → Prop} {c : Collaborators τ}

theorem alike_tracked {R : Service → List Entry → Prop} {f : Gateway τ → α × Gateway τ}
    (h : ∀ g, g.services = (f g).2.services ∧ g.journal = (f g).2.journal ∧
      g.own = (f g).2.own) : Alike (Holding (Both (Gateway.Tracked s R) O)) (f : Run τ α) f :=
  Keeps.alike fun g hg => ⟨hg.1.congr (h g).1 (h g).2.1, (h g).2.2 ▸ hg.2⟩

theorem atoms_tracked {R : Service → List Entry → Prop} (hR : Service.Tracks s who R) :
    Atoms (Holding (Both (Gateway.Tracked s R) O)) where
  advance _ := alike_tracked fun _ => ⟨rfl, rfl, rfl⟩
  addService := Keeps.alike fun _ hg => ⟨hg.1.addService, hg.2⟩
  addSink t sink := Keeps.alike fun _ hg => ⟨hg.1.addSink t fun _ _ => hR.add sink, hg.2⟩
  tally _ _ := alike_tracked fun _ => ⟨rfl, rfl, rfl⟩
  create _ := alike_tracked fun _ => ⟨rfl, rfl, rfl⟩
  setState _ _ := alike_tracked fun _ => ⟨rfl, rfl, rfl⟩
  insertRoute _ _ := alike_tracked fun _ => ⟨rfl, rfl, rfl⟩
  takeRoute _ := alike_tracked fun _ => ⟨rfl, rfl, rfl⟩
  clearRoutes := alike_tracked fun _ => ⟨rfl, rfl, rfl⟩
  damage _ _ := alike_tracked fun _ => ⟨rfl, rfl, rfl⟩
  subscribe _ := alike_tracked fun _ => ⟨rfl, rfl, rfl⟩
  unsubscribe _ := alike_tracked fun _ => ⟨rfl, rfl, rfl⟩
  adjust _ _ := alike_tracked fun _ => ⟨rfl, rfl, rfl⟩

theorem tolerates_tracked {R : Service → List Entry → Prop} (hR : Service.Tracks s who R)
    (hc : c.Keep (Both (Gateway.Tracked s R) O)) :
    Tolerates (Holding (Both (Gateway.Tracked s R) O)) Entry.SparesRecords c c :=
  hc.tolerates (fun _ => trivial) fun _ he _ hg => ⟨hg.1.write fun _ _ => hR.write he, hg.2⟩

/-- Once a service has counted a record, it passes the record on as someone who may. -/
theorem Tracks.yields_enter {R R' : Service → List Entry → Prop}
    (hR : Service.Tracks s who R) {o : Origin} {t : Nat} {r : AccessRecord}
    (hrecord : ∀ v j, R v j →
      R' (v.given s (.service t) r) (.call o (.record (.service t) r) :: j)) :
    Yields (Both (Gateway.Tracked s R) O)
      (fun service g => Both (Gateway.Tracked s R') O g ∧ who (.service t service.records))
      (enter o t r) := by
  intro g hg
  refine ⟨⟨hg.1.enter o t hrecord, hg.2⟩, ?_⟩
  by_cases heq : t = s
  · obtain ⟨v, hv, h⟩ := hg.1
    have hself : (enter o t r g).1 = v.count r := heq ▸ Gateway.enter_self hv o r
    rw [hself, heq]
    exact hR.number h
  · exact hR.others fun k h => heq (Origin.service.inj h).1

section
variable {R R' : Service → List Entry → Prop} (hR : Service.Tracks s who R)
  (hR' : Service.Tracks s who R') (hc : c.Keep (Both (Gateway.Tracked s R') O)) {o : Origin}
  {rep : Reporter} {r : AccessRecord}
  (hrecord : ∀ v j, R v j → R' (v.given s rep r) (.call o (.record rep r) :: j))
include hR hR' hc hrecord

omit hR hR' in
/-- A record for a reporter that is no service. -/
theorem Tracks.leads_plain (hrep : ∀ t, rep ≠ .service t) (n : Nat) :
    Leads (Both (Gateway.Tracked s R) O) (Both (Gateway.Tracked s R') O)
      (reportWithin c n o rep r) := by
  have hwrite : Leads (Both (Gateway.Tracked s R) O) (Both (Gateway.Tracked s R') O)
      (write (.call o (.record rep r))) := by
    refine fun g hg => ⟨hg.1.write fun v j h => ?_, hg.2⟩
    have h' := hrecord v j h
    rwa [Service.given_other (hrep s)] at h'
  rw [reportWithin_eq]
  refine hwrite.bind fun _ => ?_
  cases rep with
  | log => cases n <;> exact fun g hg => hg
  | outside k => cases n <;> exact hc.call _
  | service t => exact absurd rfl (hrep t)

/-- A record that takes one relation to another: whatever comes of it keeps the second. -/
theorem Tracks.leads (n : Nat) :
    Leads (Both (Gateway.Tracked s R) O) (Both (Gateway.Tracked s R') O)
      (reportWithin c n o rep r) := by
  have T := tolerates_tracked hR' hc
  -- on how deep services may report to services; what they pass on keeps the second relation
  induction n generalizing R o rep r with
  | zero =>
    by_cases hrep : ∃ t, rep = .service t
    · obtain ⟨t, rfl⟩ := hrep
      rw [reportWithin_service]
      exact fun g hg => ⟨hg.1.enter o t hrecord, hg.2⟩
    · exact Tracks.leads_plain hc hrecord (fun t heq => hrep ⟨t, heq⟩) 0
  | succ n ih =>
    by_cases hrep : ∃ t, rep = .service t
    · obtain ⟨t, rfl⟩ := hrep
      rw [reportWithin_service]
      refine Yields.bind (Tracks.yields_enter hR hrecord) fun service g hg => ?_
      have hpass (rep : Reporter) (r : AccessRecord) :=
        Keeps.alike (ih hR' fun v j h => hR'.record rep r hg.2 h)
      exact (Alike.bind (Alike.fanOut T hpass r service.sinks) fun _ => Alike.pure _).keeps g hg.1
    · exact Tracks.leads_plain hc hrecord (fun t heq => hrep ⟨t, heq⟩) (n + 1)

end

/-- Such relations endure, each while the collaborators keep all. -/
theorem enduring_tracked {ι : Type} {R : ι → Service → List Entry → Prop}
    (hR : ∀ i, Service.Tracks s who (R i)) :
    Enduring fun i g => Gateway.Tracked s (R i) g where
  note i _ _ hg := hg.write fun _ _ => (hR i).write trivial
  perform O c hc a i := by
    have T := tolerates_tracked (hR i) (hc i)
    have hreport {o : Origin} (ho : who o) (rep : Reporter) (r : AccessRecord) :=
      Keeps.alike (Tracks.leads (hR i) (hR i) (hc i)
        (fun v j h => (hR i).record rep r ho h) c.depth)
    have hanswer := Alike.reply T ⟨fun _ _ _ => trivial, fun _ _ _ => trivial⟩
      (fun _ => hreport ((hR i).others fun _ => Origin.noConfusion))
      fun _ => alike_tracked fun _ => ⟨rfl, rfl, rfl⟩
    have hdispatch := Alike.dispatch T (alike_tracked fun _ => ⟨rfl, rfl, rfl⟩)
      (fun _ _ _ _ => alike_tracked fun _ => ⟨rfl, rfl, rfl⟩)
      (alike_tracked fun _ => ⟨rfl, rfl, rfl⟩) (Alike.respond T fun _ _ => trivial)
      fun q r p => Alike.entrust T q r p trivial (hanswer _)
    exact ((atoms_tracked (hR i)).perform T (fun _ _ _ => trivial) (fun _ => trivial)
      (fun _ _ _ => trivial) (hreport ((hR i).others fun _ => Origin.noConfusion))
      (fun _ _ _ done => Alike.serve T trivial (hanswer done)) hanswer a
      fun q r t _ => hdispatch q r t).keeps

end Run
end ApiGateway
