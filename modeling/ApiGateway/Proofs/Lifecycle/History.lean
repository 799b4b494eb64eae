import Mathlib.Data.List.Induction
import ApiGateway.Proofs.Lifecycle.Attempts

/-!
# The lifetime of a handler

A handler that was just created is asked to start and to stop, any number of times and in any order.
Its hooks return or fail as they please, differently each time, and may ask the gateway for whatever
they like, as long as no hook of the same handler is run meanwhile.

* `Behaviours.attempts`   the attempts, one after another;
* `Attempt.Orderly`       what one attempt comes to;
* `Attempt.Running`       a start has succeeded, and no stop has begun since;
* `Lifetime`              what all of them come to;
* `Run.lifetime_of_attempts`   whatever is asked, and whatever the hooks do.
-/

namespace ApiGateway

variable {σ : Type}

namespace Behaviours

variable (b : Behaviours σ) (n : Nat) (h : HandlerId)

/-- The attempts to move a handler, each of which finds what the one before has left. -/
def attempts : List Move → Gateway σ → List (Attempt σ)
  | [], _ => []
  | m :: ms, g => b.attempt n h m g :: attempts ms (b.attempt n h m g).after

/-- What the last attempt leaves. -/
def afterAttempts (ms : List Move) (g : Gateway σ) : Gateway σ :=
  ms.foldl (fun g m => (b.attempt n h m g).after) g

variable {b n h} {g : Gateway σ}

theorem afterAttempts_concat (ms : List Move) (m : Move) :
    b.afterAttempts n h (ms ++ [m]) g = (b.attempt n h m (b.afterAttempts n h ms g)).after :=
  List.foldl_append

theorem attempts_append (ms ms' : List Move) : b.attempts n h (ms ++ ms') g =
    b.attempts n h ms g ++ b.attempts n h ms' (b.afterAttempts n h ms g) := by
  induction ms generalizing g with
  | nil => rfl
  | cons m ms ih =>
    rw [List.cons_append, attempts, ih, attempts, List.cons_append]
    rfl

/-- Where a list of attempts is cut, there the moves that were asked for are cut. -/
theorem attempts_cut {ms : List Move} {l : List (Attempt σ)} {c : Attempt σ} {l' : List (Attempt σ)}
    (hcut : b.attempts n h ms g = l ++ c :: l') : ∃ ms₁ m ms₂, ms = ms₁ ++ m :: ms₂ ∧
      l = b.attempts n h ms₁ g ∧ c = b.attempt n h m (b.afterAttempts n h ms₁ g) ∧
      l' = b.attempts n h ms₂ c.after := by
  induction l generalizing ms g with
  | nil =>
    cases ms with
    | nil => cases hcut
    | cons m ms =>
      obtain ⟨rfl, rfl⟩ := List.cons.inj hcut
      exact ⟨[], m, ms, rfl, rfl, rfl, rfl⟩
  | cons d l ih =>
    cases ms with
    | nil => cases hcut
    | cons m ms =>
      obtain ⟨rfl, hrest⟩ := List.cons.inj hcut
      obtain ⟨ms₁, m', ms₂, rfl, rfl, hc, hl'⟩ := ih hrest
      exact ⟨m :: ms₁, m', ms₂, rfl, rfl, hc, hl'⟩

end Behaviours

/-- The changes of state that there are. -/
def LifecycleState.steps : List (LifecycleState × LifecycleState) :=
  [(.created, .started), (.created, .failedToStart), (.started, .stopped)]

theorem Move.settle_mem_steps (m : Move) (r : Except Fault Unit) :
    (m.origin, (m.settle r).1) ∈ LifecycleState.steps := by
  cases m <;> cases r <;> simp [origin, settle, LifecycleState.steps]

namespace Attempt

/-- What one attempt comes to.  It never fails as such; it answers whether it entered its hook, and
how that ended. -/
structure Orderly (b : Behaviours σ) (n : Nat) (h : HandlerId) (c : Attempt σ) : Prop where
  returns : ∃ r, c.answer = .ok r
  own_hook : ∀ m, c.Enters h m → m = c.move
  /-- To enter the hook of a handler from outside is to call it, once. -/
  called : c.Enters h c.move → (c.before.handler h).responder = .outside → ∃ e, c.exchanges = [e]
  within : ∀ e ∈ c.exchanges, e.invocation = .hook c.move h c.move.within ∧
    e.StaysIn b n h c.move.within
  state : (c.after.handler h).state = (c.before.handler h).state ∨
    ((c.before.handler h).state, (c.after.handler h).state) ∈ LifecycleState.steps
  invalid_iff : (∃ m s, c.answer = .ok (.error (.invalidTransition m s))) ↔ ¬ c.Enters h c.move
  unchanged : ¬ c.Enters h c.move → c.after = c.before ∧ c.exchanges = []
  startFailed_iff : ∀ f, c.answer = .ok (.error (.startFailed f)) ↔
    c.Enters h .start ∧ c.Throws f
  state_startFailed : ∀ f, c.answer = .ok (.error (.startFailed f)) →
    (c.after.handler h).state = .failedToStart
  stopFailed_iff : ∀ f, c.answer = .ok (.error (.stopFailed f)) ↔ c.Enters h .stop ∧ c.Throws f
  /-- The handler is stopped all the same. -/
  state_stopFailed : ∀ f, c.answer = .ok (.error (.stopFailed f)) →
    (c.after.handler h).state = .stopped

/-- Some start has succeeded, and no stop has entered its hook since. -/
def Running (h : HandlerId) (cs : List (Attempt σ)) : Prop :=
  ∃ l c l', cs = l ++ c :: l' ∧ c.move = .start ∧ c.answer = .ok (.ok ()) ∧
    ∀ d ∈ l', ¬ d.Enters h .stop

section
variable {b : Behaviours σ} {n : Nat} {h : HandlerId} {c : Attempt σ} {r : Except Fault Unit}

theorem Refused.not_enters (hc : c.Refused h) (m : Move) : ¬ c.Enters h m := by
  unfold Enters
  rw [hc.unchanged]
  exact Nat.lt_irrefl _

theorem Ran.enters_iff (hc : c.Ran h b n r) (m : Move) : c.Enters h m ↔ m = c.move := by
  unfold Enters
  rw [hc.hooks]
  by_cases hm : m = c.move
  · rw [decide_eq_true hm]
    exact iff_of_true (Nat.lt_succ_self _) hm
  · rw [decide_eq_false hm]
    exact iff_of_false (Nat.lt_irrefl _) hm

theorem Refused.orderly (hc : c.Refused h) : c.Orderly b n h := by
  have hno {e : LifecycleError} (he : c.answer = .ok (.error e)) :
      e = .invalidTransition c.move (c.before.handler h).state :=
    Except.error.inj (Except.ok.inj (he.symm.trans hc.answer))
  exact
    { returns := ⟨_, hc.answer⟩
      own_hook := fun m hm => absurd hm (hc.not_enters m)
      called := fun hm => absurd hm (hc.not_enters _)
      within := fun e he => absurd he (hc.silent ▸ List.not_mem_nil)
      state := .inl (congrArg (fun g => (g.handler h).state) hc.unchanged)
      invalid_iff := iff_of_true ⟨_, _, hc.answer⟩ (hc.not_enters _)
      unchanged := fun _ => ⟨hc.unchanged, hc.silent⟩
      startFailed_iff := fun f =>
        iff_of_false (fun he => nomatch hno he) fun he => hc.not_enters _ he.1
      state_startFailed := fun f he => nomatch hno he
      stopFailed_iff := fun f =>
        iff_of_false (fun he => nomatch hno he) fun he => hc.not_enters _ he.1
      state_stopFailed := fun f he => nomatch hno he }

theorem Ran.orderly (hc : c.Ran h b n r) : c.Orderly b n h := by
  have henters : c.Enters h c.move := (hc.enters_iff _).mpr rfl
  have hsettle {x : Except LifecycleError Unit} (hx : c.answer = .ok x) : (c.move.settle r).2 = x :=
    Except.ok.inj (hc.answer.symm.trans hx)
  refine
    { returns := ⟨_, hc.answer⟩
      own_hook := fun m hm => (hc.enters_iff m).mp hm
      called := fun _ => hc.called
      within := hc.within
      state := .inr ?_
      invalid_iff := iff_of_false ?_ (not_not_intro henters)
      unchanged := fun hno => absurd henters hno
      startFailed_iff := fun f => ?_
      state_startFailed := fun f => ?_
      stopFailed_iff := fun f => ?_
      state_stopFailed := fun f => ?_ }
  · rw [hc.state, hc.after]
    exact c.move.settle_mem_steps r
  · rintro ⟨m, s, he⟩
    exact Move.settle_ne_invalid m s (hsettle he)
  · rw [hc.enters_iff, hc.throws, ← Move.settle_eq_startFailed]
    exact ⟨hsettle, fun he => hc.answer.trans (congrArg _ he)⟩
  · intro he
    obtain ⟨hmove, rfl⟩ := Move.settle_eq_startFailed.mp (hsettle he)
    rw [hc.after, ← hmove]
    rfl
  · rw [hc.enters_iff, hc.throws, ← Move.settle_eq_stopFailed]
    exact ⟨hsettle, fun he => hc.answer.trans (congrArg _ he)⟩
  · intro he
    obtain ⟨hmove, rfl⟩ := Move.settle_eq_stopFailed.mp (hsettle he)
    rw [hc.after, ← hmove]
    rfl

/-- A start that succeeds enters the hook, which does not fail. -/
theorem Orderly.of_started (hc : c.Orderly b n h) (hmove : c.move = .start)
    (hanswer : c.answer = .ok (.ok ())) : c.Enters h .start ∧ ∀ f, ¬ c.Throws f := by
  have henters : c.Enters h .start := by
    by_contra hno
    rw [← hmove] at hno
    obtain ⟨m, s, he⟩ := hc.invalid_iff.mpr hno
    cases hanswer.symm.trans he
  refine ⟨henters, fun f hf => ?_⟩
  cases hanswer.symm.trans ((hc.startFailed_iff f).mpr ⟨henters, hf⟩)

theorem running_concat (cs : List (Attempt σ)) : Running h (cs ++ [c]) ↔
    (c.move = .start ∧ c.answer = .ok (.ok ())) ∨ (Running h cs ∧ ¬ c.Enters h .stop) := by
  constructor
  · rintro ⟨l, d, l', hcut, hmove, hanswer, hsince⟩
    rcases List.eq_nil_or_concat l' with rfl | ⟨l', e, rfl⟩
    · obtain ⟨-, hd⟩ := List.append_inj' hcut rfl
      obtain rfl := List.singleton_inj.mp hd
      exact .inl ⟨hmove, hanswer⟩
    · rw [List.concat_eq_append, ← List.cons_append, ← List.append_assoc] at hcut
      obtain ⟨rfl, he⟩ := List.append_inj' hcut rfl
      obtain rfl := List.singleton_inj.mp he
      rw [List.concat_eq_append] at hsince
      exact .inr ⟨⟨l, d, l', rfl, hmove, hanswer, fun e he => hsince e (List.mem_append_left _ he)⟩,
        hsince _ (List.mem_append_right _ List.mem_cons_self)⟩
  · rintro (⟨hmove, hanswer⟩ | ⟨⟨l, d, l', rfl, hmove, hanswer, hsince⟩, hno⟩)
    · exact ⟨cs, c, [], rfl, hmove, hanswer, fun d hd => absurd hd List.not_mem_nil⟩
    · refine ⟨l, d, l' ++ [c], by rw [List.append_assoc, List.cons_append], hmove, hanswer, ?_⟩
      intro e he
      rcases List.mem_append.mp he with he | he
      · exact hsince e he
      · rwa [List.mem_singleton.mp he]

end
end Attempt

/-- What the attempts come to that lead from `g` to `g'`. -/
structure Lifetime (b : Behaviours σ) (n : Nat) (h : HandlerId) (g : Gateway σ)
    (cs : List (Attempt σ)) (g' : Gateway σ) : Prop where
  orderly : ∀ c ∈ cs, c.Orderly b n h
  started_once : g'.hooks .start h ≤ g.hooks .start h + 1
  stopped_once : g'.hooks .stop h ≤ g.hooks .stop h + 1
  /-- A stop hook runs after a start hook that did not fail. -/
  stop_after_start : ∀ l c l', cs = l ++ c :: l' → c.Enters h .stop →
    ∃ d ∈ l, d.Enters h .start ∧ ∀ f, ¬ d.Throws f
  /-- There is no way out of two of the states. -/
  final : ∀ l c l', cs = l ++ c :: l' → (c.after.handler h).state = .stopped ∨
    (c.after.handler h).state = .failedToStart →
      ∀ d ∈ l', (d.after.handler h).state = (c.after.handler h).state
  /-- At the end; since there may be any number of attempts, after each of them too. -/
  isStarted_iff : (g'.handler h).isStarted = true ↔ Attempt.Running h cs

namespace Run

/-- How far the handler is after some attempts. -/
structure Reached (h : HandlerId) (g : Gateway σ) (cs : List (Attempt σ)) (g' : Gateway σ) :
    Prop where
  handler_exists : h < g'.handlers.length
  starts : g'.hooks .start h = g.hooks .start h + ((g'.handler h).state ≠ .created : Bool).toNat
  stops : g'.hooks .stop h = g.hooks .stop h + ((g'.handler h).state = .stopped : Bool).toNat
  running : (g'.handler h).state = .started ↔ Attempt.Running h cs

section
variable {b : Behaviours σ} {n : Nat} {h : HandlerId} {g g' : Gateway σ} {cs : List (Attempt σ)}
  {c : Attempt σ}

theorem reached_nil (hlen : h < g.handlers.length) (hnew : (g.handler h).state = .created) :
    Reached h g [] g := by
  refine ⟨hlen, ?_, ?_, ?_⟩
  · rw [hnew]
    rfl
  · rw [hnew]
    rfl
  · rw [hnew]
    refine iff_of_false (fun hs => nomatch hs) ?_
    rintro ⟨l, c, l', hcut, -⟩
    exact List.append_ne_nil_of_right_ne_nil l (List.cons_ne_nil c l') hcut.symm

theorem Reached.refused (hr : Reached h g cs c.before) (hc : c.Refused h) :
    Reached h g (cs ++ [c]) c.after := by
  rw [hc.unchanged]
  refine ⟨hr.handler_exists, hr.starts, hr.stops, hr.running.trans ?_⟩
  rw [Attempt.running_concat, hc.answer]
  constructor
  · exact fun hrun => .inr ⟨hrun, hc.not_enters _⟩
  · rintro (⟨-, hok⟩ | ⟨hrun, -⟩)
    · cases hok
    · exact hrun

theorem Reached.ran {r : Except Fault Unit} (hr : Reached h g cs c.before) (hc : c.Ran h b n r) :
    Reached h g (cs ++ [c]) c.after := by
  have hbefore := hc.state
  refine ⟨hc.handler_exists, ?_, ?_, ?_⟩
  · rw [hc.hooks, hr.starts, hc.after, hbefore]
    cases c.move <;> cases r <;> rfl
  · rw [hc.hooks, hr.stops, hc.after, hbefore]
    cases c.move <;> cases r <;> rfl
  · have hover : ¬ (Attempt.Running h cs ∧ ¬ c.Enters h .stop) := by
      rintro ⟨hrun, hno⟩
      -- only a stop is allowed then, and it enters the hook
      rw [hr.running.mpr hrun] at hbefore
      exact hno ((hc.enters_iff .stop).mpr (Move.origin_eq_started.mp hbefore.symm))
    rw [Attempt.running_concat, or_iff_left hover, hc.answer, hc.after, Except.ok.injEq]
    exact Move.settle_eq_started

end

section
variable {b : Behaviours σ} {n : Nat} {h : HandlerId} {g : Gateway σ} {ms : List Move}

/-- A handler whose state allows no move is moved no more. -/
theorem after_eq_of_final (hfinal : ∀ m : Move, (g.handler h).state ≠ m.origin) :
    ∀ d ∈ b.attempts n h ms g, d.after = g := by
  induction ms with
  | nil => exact fun d hd => absurd hd List.not_mem_nil
  | cons m ms ih =>
    have hunchanged : (b.attempt n h m g).after = g := (attempt_denied b n m (hfinal m)).unchanged
    intro d hd
    rcases List.mem_cons.mp hd with rfl | hd
    · exact hunchanged
    · rw [hunchanged] at hd
      exact ih d hd

variable (hlen : h < g.handlers.length) (hnew : (g.handler h).state = .created)
include hlen hnew

theorem reached_attempts (hcalm : ∀ c ∈ b.attempts (n + 1) h ms g, c.Undisturbed h) :
    Reached h g (b.attempts (n + 1) h ms g) (b.afterAttempts (n + 1) h ms g) := by
  -- on the attempts from the end, as each begins where those before have led
  induction ms using List.reverseRecOn with
  | nil => exact reached_nil hlen hnew
  | append_singleton ms m ih =>
    rw [Behaviours.attempts_append] at hcalm ⊢
    rw [Behaviours.afterAttempts_concat]
    have hr := ih fun c hc => hcalm c (List.mem_append_left _ hc)
    have hlast := hcalm _ (List.mem_append_right _ List.mem_cons_self)
    rcases attempt_cases b n m hr.handler_exists hlast with hc | ⟨r, hc⟩
    · exact Reached.refused (c := b.attempt (n + 1) h m _) hr hc
    · exact Reached.ran (c := b.attempt (n + 1) h m _) hr hc

variable (hcalm : ∀ c ∈ b.attempts (n + 1) h ms g, c.Undisturbed h)
include hcalm

/-- Each attempt begins where those before have led, and is refused or runs the hook. -/
theorem reached_cut {l : List (Attempt σ)} {c : Attempt σ} {l' : List (Attempt σ)}
    (hcut : b.attempts (n + 1) h ms g = l ++ c :: l') :
    Reached h g l c.before ∧ (c.Refused h ∨ ∃ r, c.Ran h b n r) := by
  obtain ⟨ms₁, m, ms₂, rfl, rfl, rfl, -⟩ := Behaviours.attempts_cut hcut
  rw [hcut] at hcalm
  have hr := reached_attempts hlen hnew fun c hc => hcalm c (List.mem_append_left _ hc)
  exact ⟨hr, attempt_cases b n m hr.handler_exists
    (hcalm _ (List.mem_append_right _ List.mem_cons_self))⟩

theorem orderly_attempts : ∀ c ∈ b.attempts (n + 1) h ms g, c.Orderly b n h := by
  intro c hc
  obtain ⟨l, l', hcut⟩ := List.append_of_mem hc
  rcases (reached_cut hlen hnew hcalm hcut).2 with hc | ⟨r, hc⟩
  · exact hc.orderly
  · exact hc.orderly

theorem stop_after_start {l : List (Attempt σ)} {c : Attempt σ} {l' : List (Attempt σ)}
    (hcut : b.attempts (n + 1) h ms g = l ++ c :: l') (henters : c.Enters h .stop) :
    ∃ d ∈ l, d.Enters h .start ∧ ∀ f, ¬ d.Throws f := by
  have horderly := orderly_attempts hlen hnew hcalm
  rw [hcut] at horderly
  obtain ⟨hr, hc | ⟨r, hc⟩⟩ := reached_cut hlen hnew hcalm hcut
  · exact absurd henters (hc.not_enters _)
  · have hstate := hc.state
    rw [← (hc.enters_iff .stop).mp henters] at hstate
    obtain ⟨l₁, d, l₂, rfl, hmove, hanswer, -⟩ := hr.running.mp hstate
    have hd : d ∈ l₁ ++ d :: l₂ := List.mem_append_right _ List.mem_cons_self
    exact ⟨d, hd, (horderly d (List.mem_append_left _ hd)).of_started hmove hanswer⟩

end

/-- Whatever is asked of a handler that was just created, and whatever its hooks do: no attempt
fails, each hook is entered at most once and in its state, and the answers tell which hooks were
entered and how they ended.  To list the calls of an attempt makes no difference to it. -/
theorem lifetime_of_attempts (b : Behaviours σ) (n : Nat) (h : HandlerId) (ms : List Move)
    (g : Gateway σ) (hlen : h < g.handlers.length) (hnew : (g.handler h).state = .created)
    (hcalm : ∀ c ∈ b.attempts (n + 1) h ms g, c.Undisturbed h) :
    Lifetime b n h g (b.attempts (n + 1) h ms g) (b.afterAttempts (n + 1) h ms g) ∧
      ∀ c ∈ b.attempts (n + 1) h ms g, perform (b.within (n + 1)).noted (.move c.move h)
        c.before.noting = (c.answer, c.after.withOwn (c.after.own, c.exchanges)) := by
  have hr := reached_attempts hlen hnew hcalm
  refine ⟨?_, fun c hc => ?_⟩
  swap
  · obtain ⟨l, l', hcut⟩ := List.append_of_mem hc
    obtain ⟨-, m, -, -, -, rfl, -⟩ := Behaviours.attempts_cut hcut
    exact attempt_noted ..
  refine
    { orderly := orderly_attempts hlen hnew hcalm
      started_once := ?_
      stopped_once := ?_
      stop_after_start := fun l c l' hcut => stop_after_start hlen hnew hcalm hcut
      final := fun l c l' hcut hfinal d hd => ?_
      isStarted_iff := ?_ }
  · rw [hr.starts]
    exact Nat.add_le_add_left (Bool.toNat_le _) _
  · rw [hr.stops]
    exact Nat.add_le_add_left (Bool.toNat_le _) _
  · obtain ⟨ms₁, m, ms₂, -, -, -, rfl⟩ := Behaviours.attempts_cut hcut
    have hno (m : Move) : (c.after.handler h).state ≠ m.origin := by
      rcases hfinal with hs | hs
      · rw [hs]
        cases m <;> decide
      · rw [hs]
        cases m <;> decide
    rw [after_eq_of_final hno d hd]
  · rw [← hr.running]
    exact beq_iff_eq

/-- The start hook of the first handler starts another handler, whose own hook fails; to stop any
handler fails without a message. -/
def fickle : Behaviours Unit where
  build _ := .give none
  call
    | .hook .start 0 _ => do
      let _ ← Behaviour.attempt (.move .start 1)
      return ()
    | .hook .start _ _ => .fail (.failed "busy")
    | .hook .stop _ _ => .fail .foreign
    | _ => .give ()

/-- A gateway with two handlers from outside. -/
def twoHandlers : Gateway Unit :=
  { handlers := [.create "/shop" none .outside, .create "/cart" none .outside], own := () }

theorem lifetime_of_attempts_fickle :
    (0 < twoHandlers.handlers.length ∧ (twoHandlers.handler 0).state = .created ∧
      ∀ c ∈ fickle.attempts 2 0 [.stop, .start, .start, .stop, .stop, .start] twoHandlers,
        c.Undisturbed 0) ∧
    Lifetime fickle 1 0 twoHandlers
      (fickle.attempts 2 0 [.stop, .start, .start, .stop, .stop, .start] twoHandlers)
      (fickle.afterAttempts 2 0 [.stop, .start, .start, .stop, .stop, .start] twoHandlers) := by
  have hcalm : ∀ c ∈ fickle.attempts 2 0 [.stop, .start, .start, .stop, .stop, .start] twoHandlers,
      c.Undisturbed 0 := by
    decide +kernel
  exact ⟨⟨by decide, rfl, hcalm⟩,
    (lifetime_of_attempts fickle 1 0 _ twoHandlers (by decide) rfl hcalm).1⟩

end Run
end ApiGateway
