import ApiGateway.Proofs.Run.Alike

/-!
# The moments of a run

A gateway works by calling collaborators, which may ask it for further operations before they
return.  What holds while they are in control is not seen in the gateway that a run leaves behind.
Here a run is watched: every collaborator keeps a list of the gateways that it has had before it,
each with the calls that were under way.

* `Moment`                 a gateway in the hands of a collaborator, and the calls under way;
* `Behaviours.moments`     the moments of a run, newest first;
* `run_watched`            a run that is watched is the same run.
-/

namespace ApiGateway

variable {σ τ α β : Type}

/-- A call that has not returned yet. -/
inductive Frame
  /-- Someone has asked the gateway for an action. -/
  | asked (action : Action)
  /-- The gateway has called a collaborator. -/
  | called (invocation : Invocation)
  /-- The gateway has asked the factory for a handler. -/
  | building (api : Api)
  /-- The factory hands over a handler. -/
  | handing (handler : HandlerId)
deriving DecidableEq, Repr, Inhabited

/-- A gateway in the hands of a collaborator, or of whoever uses it. -/
structure Moment (σ : Type) where
  /-- The calls under way, innermost first. -/
  stack : List Frame
  gateway : Gateway σ

/-- What the collaborators keep while they are watched. -/
structure Watched (σ : Type) where
  own : σ
  stack : List Frame := []
  moments : List (Moment σ) := []

namespace Watched

def sight (o : Watched σ) (g : Gateway σ) : Watched σ :=
  { o with moments := ⟨o.stack, g⟩ :: o.moments }

def enter (f : Frame) (o : Watched σ) : Watched σ :=
  { o with stack := f :: o.stack }

def leave (o : Watched σ) : Watched σ :=
  { o with stack := o.stack.tail }

end Watched

namespace Gateway

/-- A gateway that nothing has happened to. -/
def fresh (fallback : Responder) (reporter : Option Reporter) (timeHeader : Bool) (clock : Int)
    (own : σ) : Gateway σ where
  clock := clock
  dispatcher := { fallback := fallback, reporter := reporter, timeHeader := timeHeader }
  own := own

/-- The gateway as it is without anyone watching. -/
def bare (g : Gateway (Watched σ)) : Gateway σ :=
  g.withOwn g.own.own

/-- The gateway with its first watcher. -/
def watched (g : Gateway σ) : Gateway (Watched σ) :=
  g.withOwn { own := g.own }

end Gateway

namespace Behaviour

/-- One conduct after another, whatever the first comes to. -/
def finish : Behaviour σ α → (Except Fault α → Behaviour σ β) → Behaviour σ β
  | give a, f => f (.ok a)
  | fail e, f => f (.error e)
  | look next, f => look fun g => (next g).finish f
  | keep own next, f => keep own (next.finish f)
  | note fields next, f => note fields (next.finish f)
  | ask a next, f => ask a fun r => (next r).finish f

/-- Returns or fails. -/
def ofExcept : Except Fault α → Behaviour σ α
  | .ok a => give a
  | .error e => fail e

def sighting (b : Behaviour (Watched σ) α) : Behaviour (Watched σ) α :=
  look fun g => keep (g.own.sight g.bare) b

def entering (f : Frame) (b : Behaviour (Watched σ) α) : Behaviour (Watched σ) α :=
  look fun g => keep (g.own.enter f) b

def leaving (b : Behaviour (Watched σ) α) : Behaviour (Watched σ) α :=
  look fun g => keep g.own.leave b

/-- The same conduct, watched. -/
def watched : Behaviour σ α → Behaviour (Watched σ) α
  | give a => sighting (give a)
  | fail e => sighting (fail e)
  | look next => look fun g => (next g.bare).watched
  | keep own next => look fun g => keep { g.own with own := own } next.watched
  | note fields next => note fields next.watched
  | ask a next => sighting (entering (.asked a) (ask a fun r => leaving (next r).watched))

/-- A last look before a handler is handed over. -/
def handingOver (b : Behaviour (Watched σ) α) : Except Fault (Option HandlerId) →
    Behaviour (Watched σ) α
  | .ok (some h) => entering (.handing h) (sighting (leaving b))
  | _ => b

end Behaviour

namespace Behaviours

/-- The same collaborators, watched. -/
def watched (b : Behaviours σ) : Behaviours (Watched σ) where
  build api := .entering (.building api) <| (b.build api).watched.finish fun r =>
    .handingOver (.leaving (.ofExcept r)) r
  call i := .entering (.called i) <| (b.call i).watched.finish fun r => .leaving (.ofExcept r)

/-- What collaborators and the user of a gateway have before them in the course of a run, newest
first. -/
def moments (b : Behaviours σ) (n : Nat) (user : Behaviour σ α) (g : Gateway σ) :
    List (Moment σ) :=
  (user.watched.run (b.watched.within n) g.watched).2.own.moments

end Behaviours

namespace Gateway

/-- The moment is noted. -/
def sighted (g : Gateway (Watched σ)) : Gateway (Watched σ) :=
  g.withOwn (g.own.sight g.bare)

def entered (f : Frame) (g : Gateway (Watched σ)) : Gateway (Watched σ) :=
  g.withOwn (g.own.enter f)

def left (g : Gateway (Watched σ)) : Gateway (Watched σ) :=
  g.withOwn g.own.leave

@[simp] theorem bare_left (g : Gateway (Watched σ)) : g.left.bare = g.bare := rfl

end Gateway

namespace Behaviour

/-! ### Conduct, step by step -/

section
variable (c : Collaborators σ) (g : Gateway σ)

theorem run_keep (o : σ) (b : Behaviour σ α) : (keep o b).run c g = b.run c (g.withOwn o) := rfl

theorem run_ask (a : Action) (next : Except Fault a.Result → Behaviour σ α) :
    (ask a next).run c g = (next (Run.perform c a g).1).run c (Run.perform c a g).2 := rfl

theorem run_ofExcept (r : Except Fault α) : (ofExcept r).run c g = (r, g) := by
  cases r <;> rfl

theorem run_finish (b : Behaviour σ α) (f : Except Fault α → Behaviour σ β) :
    (b.finish f).run c g = (f (b.run c g).1).run c (b.run c g).2 := by
  induction b generalizing g with
  | give a => rfl
  | fail e => rfl
  | look next ih => exact ih g g
  | keep o next ih => exact ih _
  | note fields next ih => exact ih _
  | ask a next ih => exact ih _ _

end

section
variable (c : Collaborators (Watched σ)) (g : Gateway (Watched σ))

theorem run_entering (f : Frame) (b : Behaviour (Watched σ) α) :
    (entering f b).run c g = b.run c (g.entered f) := rfl

theorem run_leaving (b : Behaviour (Watched σ) α) : (leaving b).run c g = b.run c g.left := rfl

theorem run_watched_ask (a : Action) (next : Except Fault a.Result → Behaviour σ α) :
    (ask a next).watched.run c g =
      (next (Run.perform c a (g.sighted.entered (.asked a))).1).watched.run c
        (Run.perform c a (g.sighted.entered (.asked a))).2.left := rfl

end
end Behaviour

namespace Behaviours

variable (b : Behaviours σ) (c : Collaborators (Watched σ)) (g : Gateway (Watched σ))

theorem run_watched_call (i : Invocation) :
    (b.watched.call i).run c g =
      (((b.call i).watched.run c (g.entered (.called i))).1,
        ((b.call i).watched.run c (g.entered (.called i))).2.left) := by
  unfold watched
  rw [Behaviour.run_entering, Behaviour.run_finish, Behaviour.run_leaving, Behaviour.run_ofExcept]

/-- What the factory does at its end: a last look at the handler that it hands over. -/
def handed (g : Gateway (Watched σ)) : Except Fault (Option HandlerId) → Gateway (Watched σ)
  | .ok (some h) => (g.entered (.handing h)).sighted.left
  | _ => g

theorem bare_handed (g : Gateway (Watched σ)) (r : Except Fault (Option HandlerId)) :
    (handed g r).bare = g.bare := by
  cases r with
  | error f => rfl
  | ok h => cases h <;> rfl

theorem run_watched_build (api : Api) :
    (b.watched.build api).run c g =
      (((b.build api).watched.run c (g.entered (.building api))).1,
        (handed ((b.build api).watched.run c (g.entered (.building api))).2
          ((b.build api).watched.run c (g.entered (.building api))).1).left) := by
  unfold watched
  rw [Behaviour.run_entering, Behaviour.run_finish]
  cases ((b.build api).watched.run c (g.entered (.building api))).1 with
  | error f => rfl
  | ok h => cases h <;> rfl

end Behaviours

namespace Run

/-! ### Watching changes nothing -/

/-- The second gateway is the first with a watcher. -/
def Bare (g : Gateway σ) (g' : Gateway (Watched σ)) : Prop :=
  g = g'.bare

theorem apart_bare : Apart (Bare (σ := σ)) := by
  rintro g g' rfl
  exact ⟨g'.own, rfl⟩

theorem Alike.bare {x : Run σ α} {y : Run (Watched σ) α}
    (h : ∀ g : Gateway (Watched σ), (x g.bare).1 = (y g).1 ∧ (x g.bare).2 = (y g).2.bare) :
    Alike Bare x y := by
  rintro g g' rfl
  exact h g'

theorem robust_bare : Robust (Bare (σ := σ)) where
  advance _ := .bare fun _ => ⟨rfl, rfl⟩
  countAt _ _ := .bare fun _ => ⟨rfl, rfl⟩
  addService := .bare fun _ => ⟨rfl, rfl⟩
  addSink _ _ := .bare fun _ => ⟨rfl, rfl⟩
  subscribe _ := .bare fun _ => ⟨rfl, rfl⟩
  unsubscribe _ := .bare fun _ => ⟨rfl, rfl⟩
  adjust _ _ := .bare fun _ => ⟨rfl, rfl⟩
  tally _ _ := .bare fun _ => ⟨rfl, rfl⟩
  create _ := .bare fun _ => ⟨rfl, rfl⟩
  setState _ _ := .bare fun _ => ⟨rfl, rfl⟩
  insertRoute _ _ := .bare fun _ => ⟨rfl, rfl⟩
  takeRoute _ := .bare fun _ => ⟨rfl, rfl⟩
  clearRoutes := .bare fun _ => ⟨rfl, rfl⟩
  damage _ _ := .bare fun _ => ⟨rfl, rfl⟩
  fire _ := .bare fun _ => ⟨rfl, rfl⟩
  missed := .bare fun _ => ⟨rfl, rfl⟩
  dispatched := .bare fun _ => ⟨rfl, rfl⟩
  wrap _ _ _ _ := .bare fun _ => ⟨rfl, rfl⟩

section
variable {c : Collaborators σ} {c' : Collaborators (Watched σ)}
  (T : Tolerates Bare (fun _ => True) c c')
include T

theorem Alike.bare_conduct (b : Behaviour σ α) : Alike Bare (b.run c) (b.watched.run c') := by
  -- what is looked at is bare, so watched conduct goes on with the same branch
  induction b with
  | give a => exact .bare fun _ => ⟨rfl, rfl⟩
  | fail e => exact .bare fun _ => ⟨rfl, rfl⟩
  | look next ih =>
    rintro g g' rfl
    exact ih g'.bare _ _ rfl
  | keep own next ih =>
    rintro g g' rfl
    exact ih _ _ rfl
  | note fields next ih => exact Alike.bind (T.write _ trivial) fun _ => ih
  | ask a next ih =>
    rintro g g' rfl
    have h := robust_bare.perform T a g'.bare (g'.sighted.entered (.asked a)) rfl
    rw [Behaviour.run_ask, Behaviour.run_watched_ask, h.1]
    exact ih _ _ _ h.2

end

/-- Collaborators who are watched do what they do otherwise. -/
theorem tolerates_bare (b : Behaviours σ) (n : Nat) :
    Tolerates Bare (fun _ => True) (b.within n) (b.watched.within n) := by
  induction n with
  | zero =>
    exact ⟨⟨apart_bare, fun _ _ => .bare fun _ => ⟨rfl, rfl⟩, fun _ => trivial⟩,
      fun _ => Alike.pure _, fun _ => Alike.pure _, rfl⟩
  | succ n ih =>
    refine ⟨⟨apart_bare, fun _ _ => .bare fun _ => ⟨rfl, rfl⟩, fun _ => trivial⟩, fun api => ?_,
      fun i => ?_, rfl⟩
    · rintro g g' rfl
      have h := Alike.bare_conduct ih (b.build api) g'.bare (g'.entered (.building api)) rfl
      have hw := Behaviours.run_watched_build b (b.watched.within n) g' api
      refine ⟨h.1.trans (congrArg Prod.fst hw).symm, h.2.trans ?_⟩
      show _ = ((b.watched.build api).run (b.watched.within n) g').2.bare
      rw [hw, Gateway.bare_left, Behaviours.bare_handed]
    · rintro g g' rfl
      have h := Alike.bare_conduct ih (b.call i) g'.bare (g'.entered (.called i)) rfl
      have hw := Behaviours.run_watched_call b (b.watched.within n) g' i
      refine ⟨h.1.trans (congrArg Prod.fst hw).symm, h.2.trans ?_⟩
      show _ = ((b.watched.call i).run (b.watched.within n) g').2.bare
      rw [hw, Gateway.bare_left]

/-- A run that is watched is the same run. -/
theorem run_watched (b : Behaviours σ) (n : Nat) (user : Behaviour σ α) (g : Gateway σ) :
    user.run (b.within n) g = ((user.watched.run (b.watched.within n) g.watched).1,
      (user.watched.run (b.watched.within n) g.watched).2.bare) := by
  have h := Alike.bare_conduct (tolerates_bare b n) user g g.watched rfl
  exact Prod.ext h.1 h.2

end Run
end ApiGateway
