import ApiGateway.Proofs.Lifecycle.Hooks

/-!
# Attempts to start or stop a handler

Someone asks the gateway to start or to stop a handler.  The attempt is refused and leaves
everything as it was, or it runs one hook of the handler, and what the hook comes to is what the
attempt answers and what becomes of the state.

* `Exchange`, `Collaborators.noted`   a call of a collaborator, and collaborators who note them;
* `Attempt`                what is asked, before and after, and the calls that the gateway made;
* `Attempt.Undisturbed`    no hook of the handler is run while a collaborator is called;
* `Attempt.Refused`, `Attempt.Ran`   the two things that an attempt may come to;
* `attempt_cases`          there is no third;
* `attempt_noted`          an attempt is the same for collaborators who note their calls.
-/

namespace ApiGateway

variable {σ : Type}

namespace Move

/-- The state that allows a move. -/
def origin : Move → LifecycleState
  | start => .created
  | stop => .started

/-- The state in which the hook of a move runs. -/
def within : Move → LifecycleState
  | start => .created
  | stop => .stopped

theorem hookState?_eq (m : Move) (s : LifecycleState) :
    m.hookState? s = if s = m.origin then some m.within else none := by
  cases m <;> cases s <;> rfl

theorem origin_eq_started {m : Move} : m.origin = .started ↔ .stop = m := by
  cases m <;> simp [origin]

section
variable {m : Move} {r : Except Fault Unit} {f : Fault}

theorem settle_ne_invalid (m' : Move) (s : LifecycleState) :
    (m.settle r).2 ≠ .error (.invalidTransition m' s) := by
  cases m <;> cases r <;> simp [settle]

theorem settle_eq_started : (m.settle r).1 = .started ↔ m = .start ∧ (m.settle r).2 = .ok () := by
  cases m <;> cases r <;> simp [settle]

theorem settle_eq_startFailed :
    (m.settle r).2 = .error (.startFailed f) ↔ .start = m ∧ r = .error f := by
  cases m <;> cases r <;> simp [settle]

theorem settle_eq_stopFailed :
    (m.settle r).2 = .error (.stopFailed f) ↔ .stop = m ∧ r = .error f := by
  cases m <;> cases r <;> simp [settle]

end

end Move

/-! ### Calls that are noted -/

/-- A call of a collaborator, with the gateway before and after it. -/
structure Exchange (σ : Type) where
  invocation : Invocation
  before : Gateway σ
  outcome : Except Fault Unit
  after : Gateway σ

/-- The same collaborators, who list the calls that are made of them, the last one first.  What is
called while such a call is under way is not listed. -/
def Collaborators.noted (c : Collaborators σ) : Collaborators (σ × List (Exchange σ)) where
  depth := c.depth
  build api := modifyGet fun g =>
    let x := c.build api (g.withOwn g.own.1)
    (x.1, x.2.withOwn (x.2.own, g.own.2))
  call i := modifyGet fun g =>
    let x := c.call i (g.withOwn g.own.1)
    (x.1, x.2.withOwn (x.2.own, ⟨i, g.withOwn g.own.1, x.1, x.2⟩ :: g.own.2))

/-- The gateway before any call is noted. -/
def Gateway.noting (g : Gateway σ) : Gateway (σ × List (Exchange σ)) :=
  g.withOwn (g.own, [])

/-- No hook of the handler is run in the course of the call. -/
def Exchange.Undisturbed (h : HandlerId) (e : Exchange σ) : Prop :=
  e.after.hooks .start h = e.before.hooks .start h ∧ e.after.hooks .stop h = e.before.hooks .stop h

instance (h : HandlerId) (e : Exchange σ) : Decidable (e.Undisturbed h) :=
  inferInstanceAs (Decidable (_ ∧ _))

/-- A handler is in one state from the beginning of a call to its end. -/
structure Exchange.StaysIn (b : Behaviours σ) (n : Nat) (h : HandlerId) (s : LifecycleState)
    (e : Exchange σ) : Prop where
  before : (e.before.handler h).state = s
  meanwhile : ∀ m ∈ b.moments n (b.call e.invocation) e.before, (m.gateway.handler h).state = s
  after : (e.after.handler h).state = s

/-! ### Attempts -/

/-- Someone asked for a move of a handler. -/
structure Attempt (σ : Type) where
  move : Move
  before : Gateway σ
  /-- The calls of the collaborators that the gateway made itself. -/
  exchanges : List (Exchange σ)
  answer : Except Fault (Except LifecycleError Unit)
  after : Gateway σ

/-- What comes of asking for a move of a handler. -/
def Behaviours.attempt (b : Behaviours σ) (n : Nat) (h : HandlerId) (m : Move) (g : Gateway σ) :
    Attempt σ where
  move := m
  before := g
  exchanges := (Run.perform (b.within n).noted (.move m h) g.noting).2.own.2
  answer := (Run.perform (b.within n) (.move m h) g).1
  after := (Run.perform (b.within n) (.move m h) g).2

namespace Attempt

variable (c : Attempt σ) (h : HandlerId)

/-- The hook of a move of the handler was entered in the course of the attempt. -/
def Enters (m : Move) : Prop :=
  c.before.hooks m h < c.after.hooks m h

/-- A collaborator that the gateway called failed. -/
def Throws (f : Fault) : Prop :=
  ∃ e ∈ c.exchanges, e.outcome = .error f

/-- The calls for the attempt run no hook of the handler themselves. -/
def Undisturbed : Prop :=
  ∀ e ∈ c.exchanges, e.Undisturbed h

instance : Decidable (c.Undisturbed h) :=
  inferInstanceAs (Decidable (∀ e ∈ c.exchanges, e.Undisturbed h))

/-- The state did not allow the move, and nothing was done. -/
structure Refused : Prop where
  state : (c.before.handler h).state ≠ c.move.origin
  answer : c.answer = .ok (.error (.invalidTransition c.move (c.before.handler h).state))
  silent : c.exchanges = []
  unchanged : c.after = c.before

/-- The hook of the move was entered once, in the state in which it ought to run, and the attempt
came to what the hook came to. -/
structure Ran (b : Behaviours σ) (n : Nat) (r : Except Fault Unit) : Prop where
  state : (c.before.handler h).state = c.move.origin
  hooks : ∀ m, c.after.hooks m h = c.before.hooks m h + (m = c.move : Bool).toNat
  called : (c.before.handler h).responder = .outside → ∃ e, c.exchanges = [e]
  within : ∀ e ∈ c.exchanges, e.invocation = .hook c.move h c.move.within ∧
    e.StaysIn b n h c.move.within
  throws : ∀ f, c.Throws f ↔ r = .error f
  answer : c.answer = .ok (c.move.settle r).2
  handler_exists : h < c.after.handlers.length
  after : (c.after.handler h).state = (c.move.settle r).1

end Attempt

namespace Run

/-! ### One move, step by step -/

/-- The gateway in which the hook of a move begins. -/
def hookBegun (m : Move) (h : HandlerId) (g : Gateway σ) : Gateway σ :=
  (write (.call .gateway (.hook m h m.within)) (setState h m.within g).2).2

section
variable (c : Collaborators σ) (m : Move) (h : HandlerId) (g : Gateway σ)

theorem hooks_hookBegun (m' : Move) :
    (hookBegun m h g).hooks m' h = g.hooks m' h + (m' = m : Bool).toNat := by
  show (write _ (setState h m.within g).2).2.hooks m' h = _
  rw [Gateway.hooks_write]
  cases m <;> cases m' <;> simp [Entry.isHook] <;> rfl

theorem move_denied (hstate : (g.handler h).state ≠ m.origin) :
    move c m h g = (.error (.invalidTransition m (g.handler h).state), g) := by
  rw [move_eq, m.hookState?_eq, if_neg hstate]

theorem move_allowed (hstate : (g.handler h).state = m.origin) :
    move c m h g = ((m.settle (runHook c m h m.within (hookBegun m h g)).1).2,
      (setState h (m.settle (runHook c m h m.within (hookBegun m h g)).1).1
        (runHook c m h m.within (hookBegun m h g)).2).2) := by
  rw [move_eq, m.hookState?_eq, if_pos hstate]
  rfl

/-- The hook of a handler from outside is a call that is noted; the gateway's own handlers have none
that could fail. -/
theorem runHook_cases (seen : LifecycleState) :
    ((g.handler h).responder = .outside ∧
      runHook c m h seen g = c.call (.hook m h seen) g ∧
      runHook c.noted m h seen g.noting = c.noted.call (.hook m h seen) g.noting) ∨
    ((g.handler h).responder ≠ .outside ∧ (runHook c m h seen g).1 = .ok () ∧
      (runHook c m h seen g).2.handlers = g.handlers ∧
      (∀ m', (runHook c m h seen g).2.hooks m' h = g.hooks m' h) ∧
      runHook c.noted m h seen g.noting = (.ok (), (runHook c m h seen g).2.noting)) := by
  have hhandler : g.noting.handler h = g.handler h := rfl
  unfold runHook
  rw [get_bind_apply, get_bind_apply, hhandler]
  cases (g.handler h).responder with
  | outside => exact .inl ⟨rfl, rfl, rfl⟩
  | notFound => exact .inr ⟨nofun, rfl, rfl, fun _ => rfl, rfl⟩
  | fixed text =>
    have hnotice (n : Notice) (m' : Move) : (notify n g).2.hooks m' h = g.hooks m' h :=
      g.hooks_write_spare h m' fun _ => rfl
    cases m with
    | start => exact .inr ⟨nofun, rfl, rfl, hnotice _, rfl⟩
    | stop => exact .inr ⟨nofun, rfl, rfl, hnotice _, rfl⟩

/-- To note the calls makes no difference to a move. -/
theorem move_noted : ∃ es, move c.noted m h g.noting =
    ((move c m h g).1, (move c m h g).2.withOwn ((move c m h g).2.own, es)) := by
  by_cases hstate : (g.handler h).state = m.origin
  · rw [move_allowed c m h g hstate, move_allowed c.noted m h g.noting hstate]
    have hbegun : hookBegun m h g.noting = (hookBegun m h g).noting := rfl
    rw [hbegun]
    rcases runHook_cases c m h (hookBegun m h g) m.within with
      ⟨-, heq, hnoted⟩ | ⟨-, hok, -, -, hnoted⟩
    · rw [heq, hnoted]
      exact ⟨_, rfl⟩
    · rw [hok, hnoted]
      exact ⟨[], rfl⟩
  · rw [move_denied c m h g hstate, move_denied c.noted m h g.noting hstate]
    exact ⟨[], rfl⟩

end

/-- What a hook leaves behind that began in the gateway `g` and was not disturbed, with the calls
that were noted. -/
structure HookDone (b : Behaviours σ) (n : Nat) (m : Move) (h : HandlerId) (g : Gateway σ)
    (x : Except Fault Unit × Gateway σ) (es : List (Exchange σ)) : Prop where
  handler_exists : h < x.2.handlers.length
  hooks : ∀ m', x.2.hooks m' h = g.hooks m' h
  called : (g.handler h).responder = .outside → ∃ e, es = [e]
  within : ∀ e ∈ es, e.invocation = .hook m h m.within ∧ e.StaysIn b n h m.within
  throws : ∀ f, (∃ e ∈ es, e.outcome = .error f) ↔ x.1 = .error f

section
variable (b : Behaviours σ) (n : Nat) (m : Move) {h : HandlerId} {g : Gateway σ}

theorem runHook_done (hlen : h < g.handlers.length) (hstate : (g.handler h).state = m.within)
    (hcalm : ∀ e ∈ (runHook (b.within (n + 1)).noted m h m.within g.noting).2.own.2,
      e.Undisturbed h) :
    HookDone b n m h g (runHook (b.within (n + 1)) m h m.within g)
      (runHook (b.within (n + 1)).noted m h m.within g.noting).2.own.2 := by
  rcases runHook_cases (b.within (n + 1)) m h g m.within with
    ⟨-, heq, hnoted⟩ | ⟨hresponder, hok, hhandlers, hhooks, hnoted⟩
  · rw [hnoted] at hcalm ⊢
    rw [heq]
    obtain ⟨hstart, hstop⟩ := hcalm _ List.mem_cons_self
    obtain ⟨hexists, hafter, hmeanwhile⟩ := stays_of_undisturbed b n (b.call (.hook m h m.within))
      hlen (congrArg₂ (· + ·) hstart hstop)
    refine ⟨hexists, fun m' => ?_, fun _ => ⟨_, rfl⟩, fun e he => ?_, fun f => ?_⟩
    · cases m' with
      | start => exact hstart
      | stop => exact hstop
    · rw [List.mem_singleton.mp he]
      exact ⟨rfl, hstate, fun m hm => (hmeanwhile m hm).trans hstate, hafter.trans hstate⟩
    · constructor
      · rintro ⟨e, he, hf⟩
        rwa [List.mem_singleton.mp he] at hf
      · exact fun hf => ⟨_, List.mem_singleton_self _, hf⟩
  · rw [hnoted]
    refine ⟨?_, hhooks, fun ho => absurd ho hresponder, fun e he => absurd he List.not_mem_nil,
      fun f => ?_⟩
    · rw [hhandlers]
      exact hlen
    · rw [hok]
      constructor
      · rintro ⟨e, he, -⟩
        exact absurd he List.not_mem_nil
      · exact fun hf => nomatch hf

/-! ### The two kinds of attempts -/

theorem attempt_noted : perform (b.within n).noted (.move m h) g.noting =
    ((b.attempt n h m g).answer, (b.attempt n h m g).after.withOwn
      ((b.attempt n h m g).after.own, (b.attempt n h m g).exchanges)) := by
  obtain ⟨es, hmove⟩ := move_noted (b.within n) m h g
  have hnoted : perform (b.within n).noted (.move m h) g.noting =
      (.ok (move (b.within n) m h g).1,
        (move (b.within n) m h g).2.withOwn ((move (b.within n) m h g).2.own, es)) := by
    show (Except.ok (move (b.within n).noted m h g.noting).1,
      (move (b.within n).noted m h g.noting).2) = _
    rw [hmove]
  have hlisted : (b.attempt n h m g).exchanges = es := congrArg (·.2.own.2) hnoted
  rw [hnoted, hlisted]
  rfl

theorem attempt_denied (hstate : (g.handler h).state ≠ m.origin) :
    (b.attempt n h m g).Refused h := by
  have hmove := move_denied (b.within n) m h g hstate
  have hnoted := move_denied (b.within n).noted m h g.noting hstate
  exact
    { state := hstate
      answer := congrArg Except.ok (congrArg Prod.fst hmove)
      silent := congrArg (·.2.own.2) hnoted
      unchanged := congrArg (·.2) hmove }

theorem attempt_allowed (hlen : h < g.handlers.length) (hstate : (g.handler h).state = m.origin)
    (hcalm : (b.attempt (n + 1) h m g).Undisturbed h) :
    (b.attempt (n + 1) h m g).Ran h b n
      (runHook (b.within (n + 1)) m h m.within (hookBegun m h g)).1 := by
  have hmove := move_allowed (b.within (n + 1)) m h g hstate
  have hnoted := move_allowed (b.within (n + 1)).noted m h g.noting hstate
  have hes : (b.attempt (n + 1) h m g).exchanges =
      (runHook (b.within (n + 1)).noted m h m.within (hookBegun m h g).noting).2.own.2 :=
    congrArg (·.2.own.2) hnoted
  have hafter : (b.attempt (n + 1) h m g).after = _ := congrArg (·.2) hmove
  have hbegun : h < (hookBegun m h g).handlers.length :=
    Nat.lt_of_lt_of_eq hlen (List.length_modify _ _ _).symm
  have hwithin : ((hookBegun m h g).handler h).state = m.within :=
    congrArg Handler.state (g.handler_setState_self hlen m.within)
  have hdone := runHook_done b n m hbegun hwithin (hes ▸ hcalm)
  rw [← hes] at hdone
  refine
    { state := hstate
      hooks := fun m' => ?_
      called := fun ho => hdone.called ?_
      within := hdone.within
      throws := hdone.throws
      answer := congrArg Except.ok (congrArg Prod.fst hmove)
      handler_exists := ?_
      after := ?_ }
  · rw [hafter]
    exact (hdone.hooks m').trans (hooks_hookBegun m h g m')
  · exact (congrArg Handler.responder (g.handler_setState_self hlen m.within)).trans ho
  · rw [hafter]
    exact Nat.lt_of_lt_of_eq hdone.handler_exists (List.length_modify _ _ _).symm
  · rw [hafter]
    exact congrArg Handler.state (Gateway.handler_setState_self _ hdone.handler_exists _)

/-- An attempt is refused, or it runs the hook. -/
theorem attempt_cases (hlen : h < g.handlers.length)
    (hcalm : (b.attempt (n + 1) h m g).Undisturbed h) :
    (b.attempt (n + 1) h m g).Refused h ∨ ∃ r, (b.attempt (n + 1) h m g).Ran h b n r := by
  by_cases hstate : (g.handler h).state = m.origin
  · exact .inr ⟨_, attempt_allowed b n m hlen hstate hcalm⟩
  · exact .inl (attempt_denied b (n + 1) m hstate)

end

end Run
end ApiGateway
