import ApiGateway.Proofs.Access.Sinks

/-!
# Services among the sinks of services

A service may be a sink of another one.  As long as no service is among its own sinks, directly or
further down, services have ranks, and a service among the sinks of another has the lower one.  Then
it makes no difference how many levels of services a report may go through, if there are more than
the rank of the service.

* `Gateway.Nested`        the sinks respect a rank;
* `Action.Nests`          the sink that is asked for respects it too;
* `reportWithin_levels`   more levels than the rank make no difference to a report.
-/

namespace ApiGateway

variable {σ : Type} {rank : Nat → Nat}

/-- A service among the sinks of another has the lower rank. -/
def Gateway.Nested (rank : Nat → Nat) (g : Gateway σ) : Prop :=
  ∀ s t, .service t ∈ g.sinksOf s → rank t < rank s

/-- If a service is to be a sink of another, it has the lower rank. -/
def Action.Nests (rank : Nat → Nat) : Action → Prop
  | addSink s (some (.service t)) => rank t < rank s
  | _ => True

namespace Run

theorem nested_of_same (g g' : Gateway σ) (h : SameSinks g g') (hg : g.Nested rank) :
    g'.Nested rank := by
  intro s t hmem
  rw [← h.sinks] at hmem
  exact hg s t hmem

theorem keeps_nested_addSink {s : Nat} {sink : Option Reporter}
    (ha : (Action.addSink s sink).Nests rank) :
    Keeps (Gateway.Nested (σ := σ) rank) (addSink s sink) := by
  intro g hg s' t hmem
  rw [sinksOf_addSink, List.mem_append] at hmem
  rcases hmem with hmem | hmem
  · exact hg s' t hmem
  · have hsome := Option.mem_toList.mp hmem
    by_cases hs : s = s' ∧ s' < g.services.length
    · rw [if_pos hs] at hsome
      rw [Option.mem_def.mp hsome] at ha
      rw [← hs.1]
      exact ha
    · rw [if_neg hs] at hsome
      cases hsome

/-- Collaborators that respect the ranks keep the services nested. -/
theorem keep_nested {b : Behaviours σ} (hb : b.Asks (Action.Nests rank)) (n : Nat) :
    (b.within n).Keep (Gateway.Nested rank) := by
  induction n with
  | zero => exact .idle _
  | succ n ih =>
    have hrun {α : Type} (u : Behaviour σ α) (hu : u.Asks (Action.Nests rank)) :
        Keeps (Gateway.Nested rank) (u.run (b.within n)) :=
      u.run_keeps (fun _ _ hg => hg) (fun _ g => nested_of_same g _ ⟨rfl, fun _ => rfl⟩)
        (fun a ha => keeps_perform_of_sinks nested_of_same ih a fun t sink heq =>
          keeps_nested_addSink (heq ▸ ha)) hu
    exact ⟨fun api => hrun _ (hb.build api), fun i => hrun _ (hb.call i)⟩

/-! ### Sinks that do the same -/

/-- What the turn of a sink leaves behind: a fault of the sink is a notice. -/
def afterTurn (r : AccessRecord) : Except Fault Unit × Gateway σ → Gateway σ
  | (.ok (), g) => g
  | (.error f, g) => (notify (.sinkFailed r.requestId f) g).2

section
variable {pass pass' : Reporter → AccessRecord → Run σ (Except Fault Unit)} {r : AccessRecord}

theorem fanOut_cons (sink : Reporter) (rest : List Reporter) (g : Gateway σ) :
    fanOut pass r (sink :: rest) g = fanOut pass r rest (afterTurn r (pass sink r g)) := by
  rw [fanOut, bind_apply]
  cases hx : pass sink r g with
  | mk a g' => cases a <;> rfl

theorem afterTurn_ends {P : Gateway σ → Prop} (hnotice : ∀ n, Keeps P (notify n))
    {x : Except Fault Unit × Gateway σ} (hx : P x.2) : P (afterTurn r x) := by
  obtain ⟨a, g⟩ := x
  cases a with
  | ok u => exact hx
  | error f => exact hnotice _ g hx

/-- Sinks that do the same from each gateway with a property that they keep. -/
theorem fanOut_congr {P : Gateway σ → Prop} (hnotice : ∀ n, Keeps P (notify n))
    {sinks : List Reporter} (hkeeps : ∀ sink ∈ sinks, Keeps P (pass sink r))
    (hsame : ∀ sink ∈ sinks, ∀ g, P g → pass sink r g = pass' sink r g) {g : Gateway σ}
    (hg : P g) : fanOut pass r sinks g = fanOut pass' r sinks g := by
  induction sinks generalizing g with
  | nil => rfl
  | cons sink rest ih =>
    rw [fanOut_cons, fanOut_cons, ← hsame sink List.mem_cons_self g hg]
    exact ih (fun s hs => hkeeps s (List.mem_cons_of_mem _ hs))
      (fun s hs => hsame s (List.mem_cons_of_mem _ hs))
      (afterTurn_ends hnotice (hkeeps sink List.mem_cons_self g hg))

end

theorem reportWithin_entered (c : Collaborators σ) (n : Nat) (o : Origin) (s : Nat)
    (r : AccessRecord) (g : Gateway σ) : reportWithin c (n + 1) o (.service s) r g =
      (.ok (), (fanOut (reportWithin c n (.service s (enter o s r g).1.records)) r
        (enter o s r g).1.sinks (enter o s r g).2).2) := by
  rw [reportWithin_service]
  rfl

theorem sinks_enter (o : Origin) (s : Nat) (r : AccessRecord) (g : Gateway σ) :
    (enter o s r g).1.sinks = g.sinksOf s :=
  g.sinksOf_modify s s (·.count r) fun _ => rfl

/-- More levels than the rank of a service make no difference to its reports. -/
theorem reportWithin_levels {c : Collaborators σ} (hc : c.Keep (Gateway.Nested rank)) {n m s : Nat}
    (hn : rank s < n) (hm : rank s < m) {g : Gateway σ} (hg : g.Nested rank) (o : Origin)
    (r : AccessRecord) :
    reportWithin c n o (.service s) r g = reportWithin c m o (.service s) r g := by
  -- on the levels; the services among the sinks have a lower rank and one level less
  induction n generalizing m s o g with
  | zero => exact absurd hn (Nat.not_lt_zero _)
  | succ n ih =>
    cases m with
    | zero => exact absurd hm (Nat.not_lt_zero _)
    | succ m =>
      have hentered : (enter o s r g).2.Nested rank :=
        nested_of_same g _ ⟨rfl, fun _ => (sinksOf_countAt g s r).symm⟩ hg
      have hsame : ∀ sink ∈ (enter o s r g).1.sinks, ∀ g' : Gateway σ, g'.Nested rank →
          reportWithin c n (.service s (enter o s r g).1.records) sink r g' =
            reportWithin c m (.service s (enter o s r g).1.records) sink r g' := by
        intro sink hsink g' hg'
        rw [sinks_enter] at hsink
        cases sink with
        | log => cases n <;> cases m <;> rfl
        | outside k => cases n <;> cases m <;> rfl
        | service t =>
          have hlt := hg s t hsink
          exact ih (by omega) (by omega) hg' _
      rw [reportWithin_entered, reportWithin_entered]
      refine congrArg (fun x : Unit × Gateway σ => ((.ok () : Except Fault Unit), x.2)) ?_
      exact fanOut_congr (fun _ g => nested_of_same g _ ⟨rfl, fun _ => rfl⟩)
        (fun sink _ => keeps_reportWithin_of_sinks nested_of_same hc n _ sink r) hsame hentered

end Run
end ApiGateway
