import ApiGateway.Proofs.Run.Keeps

/-!
# The requests of a run

In the course of a run, its user and the collaborators ask the gateway for actions.  Here each
request is noted as it is made: a moment whose innermost call is the action that is asked for.

* `Behaviours.requests`       the requests of a run, newest first;
* `Behaviours.requestsIn`     those that the collaborators make while an operation is carried out;
* `tolerates_requests`, `run_recorded`   noting the requests changes nothing;
* `Lasting.within`            the collaborators keep what every request keeps;
* `Asked kind o`              some request so far was of the kind;
* `Since Q`                   the requests so far and the gateway are related, and were so before;
* `Enduring.requests`         what endures is found at every request.
-/

namespace ApiGateway

variable {σ τ α β : Type}

namespace Moment

/-- The action that is asked for. -/
def asked? (m : Moment σ) : Option Action :=
  match m.stack with
  | .asked a :: _ => some a
  | _ => none

end Moment

namespace Behaviour

/-- The same conduct, with its requests noted. -/
def recorded : Behaviour σ α → Behaviour (Watched σ) α
  | give a => give a
  | fail e => fail e
  | look next => look fun g => (next g.bare).recorded
  | keep own next => look fun g => keep { g.own with own := own } next.recorded
  | note fields next => note fields next.recorded
  | ask a next => entering (.asked a) (sighting (ask a fun r => leaving (next r).recorded))

end Behaviour

namespace Behaviours

/-- The same collaborators, with their requests noted. -/
def recorded (b : Behaviours σ) : Behaviours (Watched σ) where
  build api := .entering (.building api) <| (b.build api).recorded.finish fun r =>
    .leaving (.ofExcept r)
  call i := .entering (.called i) <| (b.call i).recorded.finish fun r => .leaving (.ofExcept r)

/-- What the collaborators ask for while an operation is carried out, newest first. -/
def requestsIn (b : Behaviours σ) (n : Nat)
    (x : Collaborators (Watched σ) → Run (Watched σ) α) (g : Gateway σ) : List (Moment σ) :=
  (x (b.recorded.within n) g.watched).2.own.moments

/-- What is asked of a gateway in the course of a run, newest first. -/
def requests (b : Behaviours σ) (n : Nat) (user : Behaviour σ α) (g : Gateway σ) :
    List (Moment σ) :=
  b.requestsIn n (fun c => user.recorded.run c) g

end Behaviours

namespace Gateway

/-- The gateway once it is noted that someone asks for an action. -/
def requested (a : Action) (g : Gateway (Watched σ)) : Gateway (Watched σ) :=
  (g.entered (.asked a)).sighted

end Gateway

section
variable (b : Behaviours σ) (c : Collaborators (Watched σ)) (g : Gateway (Watched σ))

theorem Behaviour.run_recorded_ask (a : Action) (next : Except Fault a.Result → Behaviour σ α) :
    (ask a next).recorded.run c g = (next (Run.perform c a (g.requested a)).1).recorded.run c
      (Run.perform c a (g.requested a)).2.left := rfl

theorem Behaviours.run_recorded_call (i : Invocation) :
    (b.recorded.call i).run c g =
      (((b.call i).recorded.run c (g.entered (.called i))).1,
        ((b.call i).recorded.run c (g.entered (.called i))).2.left) := by
  unfold recorded
  rw [Behaviour.run_entering, Behaviour.run_finish, Behaviour.run_leaving, Behaviour.run_ofExcept]

theorem Behaviours.run_recorded_build (api : Api) :
    (b.recorded.build api).run c g =
      (((b.build api).recorded.run c (g.entered (.building api))).1,
        ((b.build api).recorded.run c (g.entered (.building api))).2.left) := by
  unfold recorded
  rw [Behaviour.run_entering, Behaviour.run_finish, Behaviour.run_leaving, Behaviour.run_ofExcept]

end

namespace Run

/-! ### Noting the requests changes nothing -/

theorem Alike.bare_recorded {c : Collaborators σ} {c' : Collaborators (Watched σ)}
    (T : Tolerates Bare (fun _ => True) c c') (u : Behaviour σ α) :
    Alike Bare (u.run c) (u.recorded.run c') := by
  induction u with
  | give a => exact .bare fun _ => ⟨rfl, rfl⟩
  | fail e => exact .bare fun _ => ⟨rfl, rfl⟩
  | look next ih =>
    rintro g g' rfl
    exact ih g'.bare _ _ rfl
  | keep own next ih =>
    rintro g g' rfl
    exact ih _ _ rfl
  | note fields next ih => exact Alike.bind (T.write _ trivial) fun _ => ih
  | ask a next ih =>
    rintro g g' rfl
    have h := robust_bare.perform T a g'.bare (g'.requested a) rfl
    rw [Behaviour.run_ask, Behaviour.run_recorded_ask, h.1]
    exact ih _ _ _ h.2

/-- Collaborators whose requests are noted do what they do otherwise. -/
theorem tolerates_recorded (b : Behaviours σ) (n : Nat) :
    Tolerates Bare (fun _ => True) (b.within n) (b.recorded.within n) := by
  have J : Journals (Bare (σ := σ)) fun _ => True :=
    ⟨apart_bare, fun _ _ => .bare fun _ => ⟨rfl, rfl⟩, fun _ => trivial⟩
  induction n with
  | zero => exact ⟨J, fun _ => Alike.pure _, fun _ => Alike.pure _, rfl⟩
  | succ n ih =>
    refine ⟨J, fun api => ?_, fun i => ?_, rfl⟩
    · rintro g g' rfl
      have h := Alike.bare_recorded ih (b.build api) g'.bare (g'.entered (.building api)) rfl
      have hw := Behaviours.run_recorded_build b (b.recorded.within n) g' api
      exact ⟨h.1.trans (congrArg Prod.fst hw).symm,
        h.2.trans (congrArg (fun x => x.2.bare) hw).symm⟩
    · rintro g g' rfl
      have h := Alike.bare_recorded ih (b.call i) g'.bare (g'.entered (.called i)) rfl
      have hw := Behaviours.run_recorded_call b (b.recorded.within n) g' i
      exact ⟨h.1.trans (congrArg Prod.fst hw).symm,
        h.2.trans (congrArg (fun x => x.2.bare) hw).symm⟩

/-- A run whose requests are noted is the same run. -/
theorem run_recorded (b : Behaviours σ) (n : Nat) (user : Behaviour σ α) (g : Gateway σ) :
    user.run (b.within n) g = ((user.recorded.run (b.recorded.within n) g.watched).1,
      (user.recorded.run (b.recorded.within n) g.watched).2.bare) := by
  have h := Alike.bare_recorded (tolerates_recorded b n) user g g.watched rfl
  exact Prod.ext h.1 h.2

/-! ### What requests keep -/

/-- Recorded conduct keeps what its requests keep. -/
theorem run_recorded_keeps {p : Action → Prop} {P : Gateway (Watched σ) → Prop}
    {c : Collaborators (Watched σ)}
    (hown : ∀ (g : Gateway (Watched σ)) o, P g → P (g.withOwn { g.own with own := o }))
    (hnote : ∀ fields, Keeps P (write (.note fields)))
    (hask : ∀ a, p a → ∀ g, P g → P (perform c a (g.requested a)).2.left)
    (u : Behaviour σ α) (hu : u.Asks p) : Keeps P (u.recorded.run c) := by
  induction u with
  | give a => exact fun g hg => hg
  | fail e => exact fun g hg => hg
  | look next ih => exact fun g hg => ih g.bare (hu g.bare) g hg
  | keep own next ih => exact fun g hg => ih hu _ (hown g own hg)
  | note fields next ih => exact (hnote fields).bind fun _ => ih hu
  | ask a next ih =>
    intro g hg
    rw [Behaviour.run_recorded_ask]
    exact ih _ (hu.2 _) _ (hask a hu.1 g hg)

/-- Predicates that do not look at the calls under way, each of which every request keeps if the
collaborators keep them all. -/
structure Lasting {ι : Type} (P : ι → Gateway (Watched σ) → Prop) : Prop where
  stack : ∀ i (g : Gateway (Watched σ)) s, P i g → P i (g.withOwn { g.own with stack := s })
  own : ∀ i (g : Gateway (Watched σ)) o, P i g → P i (g.withOwn { g.own with own := o })
  note : ∀ i fields, Keeps (P i) (write (.note fields))
  perform : ∀ c : Collaborators (Watched σ), (∀ i, c.Keep (P i)) → ∀ a i g, P i g →
    P i (perform c a (g.requested a)).2

section
variable {ι : Type} {P : ι → Gateway (Watched σ) → Prop} (L : Lasting P)
include L

theorem Lasting.conduct {c : Collaborators (Watched σ)} (hc : ∀ i, c.Keep (P i))
    (u : Behaviour σ α) (i : ι) : Keeps (P i) (u.recorded.run c) :=
  run_recorded_keeps (L.own i) (L.note i)
    (fun a _ g hg => L.stack i _ _ (L.perform c hc a i g hg)) u
    (Behaviour.asks_of_forall (fun _ => trivial) u)

theorem Lasting.within (b : Behaviours σ) (n : Nat) (i : ι) :
    (b.recorded.within n).Keep (P i) := by
  induction n generalizing i with
  | zero => exact .idle _
  | succ n ih =>
    refine ⟨fun api g hg => ?_, fun inv g hg => ?_⟩
    · show P i ((b.recorded.build api).run (b.recorded.within n) g).2
      rw [Behaviours.run_recorded_build]
      exact L.stack i _ _ (L.conduct ih (b.build api) i _ (L.stack i g _ hg))
    · show P i ((b.recorded.call inv).run (b.recorded.within n) g).2
      rw [Behaviours.run_recorded_call]
      exact L.stack i _ _ (L.conduct ih (b.call inv) i _ (L.stack i g _ hg))

end
end Run

/-- Some request so far was of the kind. -/
def Asked (kind : Moment σ → Prop) (o : Watched σ) : Prop :=
  ∃ m ∈ o.moments, kind m

theorem Run.lasting_asked (kind : Moment σ → Prop) :
    Lasting fun (_ : Unit) (g : Gateway (Watched σ)) => Asked kind g.own where
  stack _ _ _ hg := hg
  own _ _ _ hg := hg
  note _ _ _ hg := hg
  perform _ hc a _ _ hg :=
    keeps_own (hc ()) a _ (hg.imp fun _ hm => ⟨List.mem_cons_of_mem _ hm.1, hm.2⟩)

/-! ### What is found at every request -/

/-- The requests so far and the gateway are related, and were so at each of these requests. -/
structure Since (Q : List (Moment σ) → Gateway σ → Prop) (g : Gateway (Watched σ)) : Prop where
  now : Q g.own.moments g.bare
  seen : ∀ m earlier, m :: earlier <:+ g.own.moments → Q earlier m.gateway

namespace Since

variable {Q : List (Moment σ) → Gateway σ → Prop} {g : Gateway (Watched σ)}

theorem watched {g : Gateway σ} (h : Q [] g) : Since Q g.watched :=
  ⟨h, fun _ _ hm => absurd (List.suffix_nil.mp hm) (List.cons_ne_nil _ _)⟩

theorem step (h : Since Q g) {g' : Gateway (Watched σ)}
    (hmoments : g'.own.moments = g.own.moments) (hnow : Q g'.own.moments g'.bare) : Since Q g' :=
  ⟨hnow, hmoments ▸ h.seen⟩

/-- With a request that is noted, what was related before it has been seen. -/
theorem seen_requested (h : Since Q g) (a : Action) :
    ∀ m earlier, m :: earlier <:+ (g.requested a).own.moments → Q earlier m.gateway := by
  intro m earlier hm
  rcases List.suffix_cons_iff.mp hm with heq | hm
  · obtain ⟨rfl, rfl⟩ := List.cons.inj heq
    exact h.now
  · exact h.seen m earlier hm

end Since

namespace Run

/-- What every request keeps is so at every request and at the end. -/
theorem Lasting.since {Q : List (Moment σ) → Gateway σ → Prop}
    (L : Lasting fun _ : Unit => Since Q) (b : Behaviours σ) (n : Nat) (user : Behaviour σ α)
    {g : Gateway σ} (hg : Q [] g) :
    (∀ m earlier, m :: earlier <:+ b.requests n user g → Q earlier m.gateway) ∧
      Q (b.requests n user g) (user.run (b.within n) g).2 := by
  have h : Since Q (user.recorded.run (b.recorded.within n) g.watched).2 :=
    L.conduct (L.within b n) user () _ (Since.watched hg)
  refine ⟨h.seen, ?_⟩
  rw [congrArg Prod.snd (run_recorded b n user g)]
  exact h.now

end Run

theorem Enduring.requests {ι : Type} {P : ι → Gateway Unit → Prop} (E : Enduring P)
    (b : Behaviours σ) (n : Nat) (user : Behaviour σ α) {i : ι} {g : Gateway σ} (hg : P i g.shown) :
    ∀ m ∈ b.requests n user g, ∃ j, P j m.gateway.shown := by
  have L : Run.Lasting fun (i : ι) (g : Gateway (Watched σ)) => Both (P i) (Seen P) g :=
    { stack := fun _ _ _ hg => hg
      own := fun _ _ _ hg => hg
      note := fun i fields g hg => ⟨E.note i fields g.shown hg.1, hg.2⟩
      perform := fun c hc a i g hg =>
        E.perform _ c hc a i (g.requested a) (sighted (g.entered (.asked a)) hg) }
  exact (L.conduct (L.within b n) user i g.watched ⟨hg, fun _ hm => absurd hm List.not_mem_nil⟩).2

end ApiGateway
