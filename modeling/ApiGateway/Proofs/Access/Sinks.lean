import ApiGateway.Proofs.Run.Requests

/-!
# The sinks of a reporting service

A service gets a sink when someone asks for it, and never loses one.  So at every request of a run
its sinks are those that it had at first and those that were added since, in that order, each as
often as it was added.

* `Gateway.sinksOf`      the sinks of a service;
* `Moment.added`         the sinks that a list of requests adds to it;
* `keeps_perform_of_sinks`   whatever does not add a sink keeps a predicate of the sinks;
* `lasting_sunk`         the sinks are in step with the requests.
-/

namespace ApiGateway

variable {σ τ α : Type}

namespace Gateway

/-- The sinks of a service; there are none if there is no such service. -/
def sinksOf (g : Gateway σ) (s : Nat) : List Reporter :=
  (g.services.getD s {}).sinks

theorem sinksOf_eq {g : Gateway σ} {s : Nat} {v : Service} (hv : g.services[s]? = some v) :
    g.sinksOf s = v.sinks := by
  rw [sinksOf, List.getD_eq_getElem?_getD, hv]
  rfl

theorem sinksOf_modify (g : Gateway σ) (s t : Nat) (f : Service → Service)
    (hf : ∀ v, (f v).sinks = v.sinks) :
    ((g.services.modify t f).getD s {}).sinks = g.sinksOf s := by
  rw [sinksOf, List.getD_eq_getElem?_getD, List.getD_eq_getElem?_getD, List.getElem?_modify]
  cases g.services[s]? with
  | none => rfl
  | some v =>
    show (if t = s then f v else v).sinks = v.sinks
    by_cases heq : t = s
    · rw [if_pos heq, hf]
    · rw [if_neg heq]

end Gateway

namespace Moment

/-- The sink that someone asks to add to a service, if there is such a service and a sink. -/
def added? (s : Nat) (m : Moment σ) : Option Reporter :=
  match m.asked? with
  | some (.addSink t sink) => if t = s ∧ s < m.gateway.services.length then sink else none
  | _ => none

/-- The sinks that were asked for, oldest first. -/
def added (s : Nat) (earlier : List (Moment σ)) : List Reporter :=
  (earlier.filterMap (·.added? s)).reverse

end Moment

/-- The sinks of a service are those it had and those added since. -/
def Sunk (s : Nat) (sinks : List Reporter) (earlier : List (Moment σ)) (g : Gateway σ) : Prop :=
  g.sinksOf s = sinks ++ Moment.added s earlier

/-- The same sinks, and the same in the hands of the collaborators. -/
structure SameSinks (g g' : Gateway τ) : Prop where
  own : g.own = g'.own
  sinks : ∀ s, g.sinksOf s = g'.sinksOf s

namespace Run

variable {s : Nat} {sinks : List Reporter}

theorem sinksOf_countAt (g : Gateway σ) (t : Nat) (r : AccessRecord) :
    (countAt t r g).2.sinksOf s = g.sinksOf s :=
  g.sinksOf_modify s t (·.count r) fun _ => rfl

theorem sinksOf_addService (g : Gateway σ) : (addService g).2.sinksOf s = g.sinksOf s := by
  show ((g.services ++ [({} : Service)]).getD s {}).sinks = (g.services.getD s {}).sinks
  rw [List.getD_eq_getElem?_getD, List.getD_eq_getElem?_getD]
  by_cases hlt : s < g.services.length
  · rw [List.getElem?_append_left hlt]
  · have hle := Nat.le_of_not_lt hlt
    rw [List.getElem?_append_right hle, List.getElem?_eq_none hle, List.getElem?_singleton]
    by_cases hzero : s - g.services.length = 0
    · rw [if_pos hzero]
      rfl
    · rw [if_neg hzero]

/-- A sink is added behind the others of a service that is there. -/
theorem sinksOf_addSink (g : Gateway σ) (t : Nat) (sink : Option Reporter) :
    (addSink t sink g).2.sinksOf s =
      g.sinksOf s ++ (if t = s ∧ s < g.services.length then sink else none).toList := by
  show ((g.services.modify t (·.add sink)).getD s {}).sinks = (g.services.getD s {}).sinks ++ _
  rw [List.getD_eq_getElem?_getD, List.getD_eq_getElem?_getD, List.getElem?_modify]
  by_cases hlt : s < g.services.length
  · rw [List.getElem?_eq_getElem hlt]
    show (if t = s then g.services[s].add sink else g.services[s]).sinks = g.services[s].sinks ++ _
    by_cases heq : t = s
    · rw [if_pos heq, if_pos ⟨heq, hlt⟩]
      cases sink with
      | none => exact (List.append_nil _).symm
      | some rep => rfl
    · rw [if_neg heq, if_neg fun h => heq h.1]
      exact (List.append_nil _).symm
  · rw [List.getElem?_eq_none (Nat.le_of_not_lt hlt), if_neg fun h => hlt h.2]
    rfl

/-! ### Predicates of the sinks -/

section
variable {P : Gateway τ → Prop} (hP : ∀ g g', SameSinks g g' → P g → P g')
include hP

theorem StillEvents.of_sinks : StillEvents (Holding P) := by
  have same {α : Type} {f : Gateway τ → α × Gateway τ} (h : ∀ g, SameSinks g (f g).2) :
      Alike (Holding P) f f :=
    Keeps.alike fun g hg => hP g _ (h g) hg
  exact
    { advance := fun _ => same fun _ => ⟨rfl, fun _ => rfl⟩
      addService := same fun g => ⟨rfl, fun _ => (sinksOf_addService g).symm⟩
      tally := fun _ _ => same fun _ => ⟨rfl, fun _ => rfl⟩
      create := fun _ => same fun _ => ⟨rfl, fun _ => rfl⟩
      setState := fun _ _ => same fun _ => ⟨rfl, fun _ => rfl⟩
      insertRoute := fun _ _ => same fun _ => ⟨rfl, fun _ => rfl⟩
      takeRoute := fun _ => same fun _ => ⟨rfl, fun _ => rfl⟩
      clearRoutes := same fun _ => ⟨rfl, fun _ => rfl⟩
      damage := fun _ _ => same fun _ => ⟨rfl, fun _ => rfl⟩
      subscribe := fun _ => same fun _ => ⟨rfl, fun _ => rfl⟩
      unsubscribe := fun _ => same fun _ => ⟨rfl, fun _ => rfl⟩
      adjust := fun _ _ => same fun _ => ⟨rfl, fun _ => rfl⟩ }

theorem Trafficless.of_sinks : Trafficless (Holding P) where
  fire _ := Keeps.alike fun g => hP g _ ⟨rfl, fun _ => rfl⟩
  missed := Keeps.alike fun g => hP g _ ⟨rfl, fun _ => rfl⟩
  dispatched := Keeps.alike fun g => hP g _ ⟨rfl, fun _ => rfl⟩
  wrap _ _ _ _ := Keeps.alike fun g => hP g _ ⟨rfl, fun _ => rfl⟩
  countAt t r := Keeps.alike fun g => hP g _ ⟨rfl, fun _ => (sinksOf_countAt g t r).symm⟩

section
variable {c : Collaborators τ} (hc : c.Keep P)
include hc

theorem tolerates_of_sinks : Tolerates (Holding P) (fun _ => True) c c :=
  hc.tolerates (fun _ => trivial) fun _ _ g => hP g _ ⟨rfl, fun _ => rfl⟩

theorem keeps_reportWithin_of_sinks (n : Nat) (o : Origin) (rep : Reporter) (r : AccessRecord) :
    Keeps P (reportWithin c n o rep r) := by
  have T := tolerates_of_sinks hP hc
  have hreports (o : Origin) : Reports (Holding P) (fun _ => True) o :=
    .of_free T.toJournals (Trafficless.of_sinks hP).countAt fun _ _ => trivial
  exact (Alike.reportWithin T (fun _ _ => hreports _) (hreports o) n rep r).keeps

/-- Whatever does not add a sink keeps such a predicate. -/
theorem keeps_perform_of_sinks (a : Action)
    (hsink : ∀ t sink, a = .addSink t sink → Keeps P (addSink t sink)) :
    Keeps P (perform c a) := by
  have T := tolerates_of_sinks hP hc
  have B := Trafficless.of_sinks hP
  exact ((StillEvents.of_sinks hP).perform T (fun _ _ _ => trivial) (fun _ => trivial)
    (fun _ _ _ => trivial) (B.report T .all .outside)
    (fun _ _ _ done => Alike.serve T trivial (B.answer T .all done)) (B.answer T .all) a
    (fun t sink heq => (hsink t sink heq).alike) fun q r t _ => B.dispatch T .all q r t).keeps

end
end

/-! ### The sinks at every request -/

theorem sunk_of_same (g g' : Gateway (Watched σ)) (h : SameSinks g g')
    (hg : Since (Sunk s sinks) g) : Since (Sunk s sinks) g' := by
  refine hg.step (congrArg _ h.own.symm) ?_
  have hnow : g.sinksOf s = sinks ++ Moment.added s g.own.moments := hg.now
  show g'.sinksOf s = sinks ++ Moment.added s g'.own.moments
  rw [← h.own, ← h.sinks, hnow]

/-- A sink that is asked for is added to those that were. -/
theorem addSink_sunk {g : Gateway (Watched σ)} (hg : Since (Sunk s sinks) g) (t : Nat)
    (sink : Option Reporter) :
    Since (Sunk s sinks) (addSink t sink (g.requested (.addSink t sink))).2 := by
  refine ⟨?_, hg.seen_requested _⟩
  have hnow : g.sinksOf s = sinks ++ Moment.added s g.own.moments := hg.now
  have hadded : Moment.added s (g.requested (.addSink t sink)).own.moments =
      Moment.added s g.own.moments ++
        (if t = s ∧ s < g.services.length then sink else none).toList :=
    reverse_filterMap_cons (Moment.added? s) _ g.own.moments
  show (addSink t sink (g.requested (.addSink t sink))).2.sinksOf s =
    sinks ++ Moment.added s (g.requested (.addSink t sink)).own.moments
  rw [hadded, ← List.append_assoc, ← hnow]
  exact sinksOf_addSink (g.requested (.addSink t sink)) t sink

theorem lasting_sunk (s : Nat) (sinks : List Reporter) :
    Lasting fun _ : Unit => Since (Sunk (σ := σ) s sinks) where
  stack _ _ _ hg := hg.step rfl hg.now
  own _ _ _ hg := hg.step rfl hg.now
  note _ _ g hg := sunk_of_same g _ ⟨rfl, fun _ => rfl⟩ hg
  perform c hc a _ g hg := by
    by_cases ha : ∃ t sink, a = .addSink t sink
    · obtain ⟨t, sink, rfl⟩ := ha
      exact addSink_sunk hg t sink
    · have hother : (Moment.mk (.asked a :: g.own.stack) g.bare).added? s = none := by
        unfold Moment.added? Moment.asked?
        split
        · next t sink heq =>
          rw [Option.some.injEq] at heq
          exact absurd ⟨t, sink, heq⟩ ha
        · rfl
      have hrequested : Since (Sunk s sinks) (g.requested a) := by
        refine ⟨?_, hg.seen_requested a⟩
        show _ = sinks ++
          Moment.added s (Moment.mk (.asked a :: g.own.stack) g.bare :: g.own.moments)
        rw [Moment.added, List.filterMap_cons_none hother]
        exact hg.now
      exact keeps_perform_of_sinks sunk_of_same (hc ()) a
        (fun t sink heq => absurd ⟨t, sink, heq⟩ ha) _ hrequested

end Run
end ApiGateway
