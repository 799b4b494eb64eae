import ApiGateway.Proofs.Run.Moments

/-!
# Collaborators that never call back

Such collaborators do no more than return or fail, as they please from one call to the next.  What
they come to is told by a state of their own.

* `Aloof`              what the factory has for an API, and what each hook comes to;
* `Aloof.behaviours`   the collaborators themselves;
* `build_aloof`, `runHook_aloof`   what a call of them does to the gateway.
-/

namespace ApiGateway

variable {σ : Type}

structure Aloof (σ : Type) where
  /-- A fault, no handler, or who answers for a handler made for the API. -/
  build : Api → σ → Except Fault (Option Responder) × σ
  hook : Move → HandlerId → σ → Except Fault Unit × σ

namespace Aloof

variable (a : Aloof σ)

/-- The collaborators.  A handler that the factory gives is new and made from the definition. -/
def behaviours : Behaviours σ where
  build api := .look fun g => .keep (a.build api g.own).2 <|
    match (a.build api g.own).1 with
    | .error f => .fail f
    | .ok none => .give none
    | .ok (some responder) =>
      .ask (.create (.create api.contextPath api.virtualHost responder)) fun r =>
        .ofExcept (r.map some)
  call
    | .hook m h _ => .look fun g => .keep (a.hook m h g.own).2 (.ofExcept (a.hook m h g.own).1)
    | _ => .give ()

/-- What a hook of a handler comes to; a handler of the gateway's own has none that can fail. -/
def runHook (m : Move) (h : HandlerId) (o : σ) : Responder → Except Fault Unit × σ
  | .outside => a.hook m h o
  | .fixed _ => (.ok (), o)
  | .notFound => (.ok (), o)

end Aloof

namespace Run

variable (a : Aloof σ) (n : Nat) (g : Gateway σ)

theorem build_aloof (api : Api) : (a.behaviours.within (n + 1)).build api g =
    match (a.build api g.own).1 with
    | .error f => (.error f, g.withOwn (a.build api g.own).2)
    | .ok none => (.ok none, g.withOwn (a.build api g.own).2)
    | .ok (some responder) => (.ok (some g.handlers.length),
        (create (.create api.contextPath api.virtualHost responder)
          (g.withOwn (a.build api g.own).2)).2) := by
  show (Behaviour.keep (a.build api g.own).2 _).run (a.behaviours.within n) g = _
  rw [Behaviour.run_keep]
  rcases (a.build api g.own).1 with f | _ | responder
  · rfl
  · rfl
  · rfl

theorem runHook_aloof (m : Move) (h : HandlerId) (seen : LifecycleState) :
    ∃ journal, runHook (a.behaviours.within (n + 1)) m h seen g =
      ((a.runHook m h g.own (g.handler h).responder).1,
        { g with
          journal := journal, own := (a.runHook m h g.own (g.handler h).responder).2 }) := by
  unfold runHook
  rw [get_bind_apply]
  cases (g.handler h).responder with
  | outside =>
    refine ⟨g.journal, ?_⟩
    show (Behaviour.keep _ (.ofExcept _)).run (a.behaviours.within n) g = _
    rw [Behaviour.run_keep, Behaviour.run_ofExcept]
    rfl
  | notFound => exact ⟨g.journal, rfl⟩
  | fixed text =>
    cases m with
    | start => exact ⟨_, rfl⟩
    | stop => exact ⟨_, rfl⟩

end Run
end ApiGateway
