import Mathlib.Logic.Function.Basic
import ApiGateway.Api
import ApiGateway.Route.Table
import ApiGateway.Stats

/-!
# A board of sites

What deploying, updating and removing APIs comes to, told of two maps: what is on a path, and which
path an API has.  Each operation looks at one place of either map and changes these two places and
the counters, so operations on different places may change places themselves.

* `Board.touch_comm`      changes of different paths and APIs commute;
* `Board.deploy_undeploy`, `Board.undeploy_comm`   so do the operations;
* `Board.apply_comm`      so do two events, if neither wants a path of the other.
-/

namespace ApiGateway

/-! ### Counters -/

namespace DispatchStats

instance : Add DispatchStats where
  add s t :=
    { dispatched := s.dispatched + t.dispatched
      notFound := s.notFound + t.notFound
      deployed := s.deployed + t.deployed
      deployFailures := s.deployFailures + t.deployFailures
      undeployed := s.undeployed + t.undeployed
      stopFailures := s.stopFailures + t.stopFailures }

theorem add_def (s t : DispatchStats) : s + t =
    { dispatched := s.dispatched + t.dispatched
      notFound := s.notFound + t.notFound
      deployed := s.deployed + t.deployed
      deployFailures := s.deployFailures + t.deployFailures
      undeployed := s.undeployed + t.undeployed
      stopFailures := s.stopFailures + t.stopFailures } := rfl

theorem add_right_comm (s t u : DispatchStats) : s + t + u = s + u + t := by
  simp only [add_def, Nat.add_right_comm]

end DispatchStats

/-! ### Boards -/

/-- What is on a path: the API that owns it, the virtual host, and how its handler is. -/
structure Site where
  api : String
  host : Option String
  started : Bool
  /-- The handler can be stopped, and its hook does not fail. -/
  stops : Bool
deriving DecidableEq, Repr

/-- The sites by their paths, the paths by their APIs, and what was counted. -/
structure Board where
  site : String → Option Site
  path : String → Option String
  stats : DispatchStats

/-- What becomes of one path, of one API, and of the counters. -/
structure Change where
  site : Option Site
  path : Option String
  counts : DispatchStats := {}

namespace Board

/-- Changes a path and an API in view of what is there. -/
def touch (p a : String) (f : Option Site → Option String → Change) (b : Board) : Board where
  site := Function.update b.site p (f (b.site p) (b.path a)).site
  path := Function.update b.path a (f (b.site p) (b.path a)).path
  stats := b.stats + (f (b.site p) (b.path a)).counts

def count (d : DispatchStats) (b : Board) : Board :=
  { b with stats := b.stats + d }

/-- To leave the path and the API as they are is to count. -/
theorem touch_kept {p a : String} {f : Option Site → Option String → Change} {b : Board}
    (hsite : (f (b.site p) (b.path a)).site = b.site p)
    (hpath : (f (b.site p) (b.path a)).path = b.path a) :
    b.touch p a f = b.count (f (b.site p) (b.path a)).counts := by
  simp only [touch, count, hsite, hpath, Function.update_eq_self]

section
variable {p p' a a' : String} (f f' : Option Site → Option String → Change) (b : Board)

theorem site_touch_other (hp : p' ≠ p) : (b.touch p a f).site p' = b.site p' :=
  Function.update_of_ne hp _ _

theorem path_touch_other (ha : a' ≠ a) : (b.touch p a f).path a' = b.path a' :=
  Function.update_of_ne ha _ _

/-- Changes of different paths and APIs commute. -/
theorem touch_comm (hp : p ≠ p') (ha : a ≠ a') :
    (b.touch p a f).touch p' a' f' = (b.touch p' a' f').touch p a f := by
  have h1 := b.site_touch_other f (a := a) hp.symm
  have h2 := b.path_touch_other f (p := p) ha.symm
  have h3 := b.site_touch_other f' (a := a') hp
  have h4 := b.path_touch_other f' (p := p') ha
  rw [touch, touch.eq_1 p a f (b.touch p' a' f'), h1, h2, h3, h4]
  simp only [touch, Function.update_comm hp, Function.update_comm ha,
    DispatchStats.add_right_comm]

end

/-- What comes of a definition before it is published: nothing at all, a failure, or a site. -/
inductive Launch
  | skipped
  | failed
  | site (new : Site)

/-- What a deployment on a path changes.  A new site is set up if the path is free and the API has
none; else its handler is stopped again. -/
def publish (p a : String) (l : Launch) (site : Option Site) (path : Option String) : Change :=
  match l with
  | .skipped => { site := site, path := path }
  | .failed => { site := site, path := path, counts := { deployFailures := 1 } }
  | .site new =>
    if (RouteTable.validApiId a ∧ ContextPath.valid p) ∧ site = none ∧ path = none then
      { site := some new, path := some p, counts := { deployed := 1 } }
    else
      { site := site, path := path
        counts := { deployFailures := 1, stopFailures := (!new.stops).toNat } }

/-- What a removal changes.  The site of an API goes if it is the API's own, and its handler is
stopped. -/
def remove (a : String) (site : Option Site) (_ : Option String) : Change :=
  match site with
  | none => { site := none, path := none }
  | some s =>
    if s.api = a then
      { site := none, path := none, counts := { undeployed := 1, stopFailures := (!s.stops).toNat } }
    else { site := some s, path := none }

def deploy (p a : String) (l : Launch) (b : Board) : Board :=
  b.touch p a (publish p a l)

def undeploy (a : String) (b : Board) : Board :=
  match b.path a with
  | none => b
  | some p => b.touch p a (remove a)

theorem deploy_skipped (p a : String) (b : Board) : b.deploy p a .skipped = b :=
  touch_kept rfl rfl

theorem deploy_failed (p a : String) (b : Board) :
    b.deploy p a .failed = b.count { deployFailures := 1 } :=
  touch_kept rfl rfl

/-- A site can be set up. -/
def Accepts (b : Board) (p a : String) : Prop :=
  (RouteTable.validApiId a ∧ ContextPath.valid p) ∧ b.site p = none ∧ b.path a = none

theorem deploy_accepted {p a : String} {b : Board} (h : b.Accepts p a) (new : Site) :
    b.deploy p a (.site new) = Board.count { deployed := 1 }
      { b with
        site := Function.update b.site p (some new)
        path := Function.update b.path a (some p) } := by
  have hchange : publish p a (.site new) (b.site p) (b.path a) =
      { site := some new, path := some p, counts := { deployed := 1 } } := if_pos h
  simp only [deploy, touch, hchange, count]

theorem deploy_refused {p a : String} {b : Board} (h : ¬ b.Accepts p a) (new : Site) :
    b.deploy p a (.site new) =
      (b.count { deployFailures := 1 }).count { stopFailures := (!new.stops).toNat } := by
  have hchange : publish p a (.site new) (b.site p) (b.path a) =
      { site := b.site p, path := b.path a
        counts := { deployFailures := 1, stopFailures := (!new.stops).toNat } } := if_neg h
  have hkept := touch_kept (p := p) (a := a) (f := publish p a (.site new)) (b := b)
    (by rw [hchange]) (by rw [hchange])
  rw [hchange] at hkept
  exact hkept

theorem undeploy_of_none {a : String} {b : Board} (h : b.path a = none) : b.undeploy a = b := by
  unfold undeploy
  rw [h]

/-- An index entry that leads to nothing, or to a site of another API, goes alone. -/
theorem undeploy_stale {p a : String} {b : Board} (hp : b.path a = some p)
    (hother : ∀ s, b.site p = some s → s.api ≠ a) :
    b.undeploy a = { b with path := Function.update b.path a none } := by
  have hchange : remove a (b.site p) (b.path a) = { site := b.site p, path := none } := by
    unfold remove
    cases hs : b.site p with
    | none => rfl
    | some s => exact if_neg (hother s hs)
  unfold undeploy
  rw [hp]
  simp only [touch, hchange, Function.update_eq_self]
  rfl

theorem undeploy_owned {p a : String} {b : Board} (hp : b.path a = some p) {s : Site}
    (hs : b.site p = some s) (hown : s.api = a) :
    b.undeploy a = ((Board.count { undeployed := 1 }
      { b with
        site := Function.update b.site p none
        path := Function.update b.path a none }).count { stopFailures := (!s.stops).toNat }) := by
  have hchange : remove a (b.site p) (b.path a) =
      { site := none, path := none
        counts := { undeployed := 1, stopFailures := (!s.stops).toNat } } := by
    rw [hs]
    exact if_pos hown
  unfold undeploy
  rw [hp]
  simp only [touch, hchange]
  rfl

/-! ### Operations on different APIs -/

section
variable {p a a' : String} (b : Board)

theorem path_undeploy_other (ha : a' ≠ a) : (b.undeploy a).path a' = b.path a' := by
  unfold undeploy
  cases b.path a with
  | none => rfl
  | some q => exact b.path_touch_other _ ha

/-- An API is removed from a path that the other one does not want. -/
theorem deploy_undeploy (l : Launch) (ha : a ≠ a') (hp : b.path a' ≠ some p) :
    (b.deploy p a l).undeploy a' = (b.undeploy a').deploy p a l := by
  have hpath : (b.deploy p a l).path a' = b.path a' := b.path_touch_other _ ha.symm
  unfold undeploy
  rw [hpath]
  cases hq : b.path a' with
  | none => rfl
  | some q =>
    have hne : p ≠ q := fun h => hp (h ▸ hq)
    exact b.touch_comm _ _ hne ha

/-- Of two APIs at most one owns what is on a path, even if both have it for their path. -/
theorem undeploy_comm (ha : a ≠ a') : (b.undeploy a).undeploy a' = (b.undeploy a').undeploy a := by
  have hpath := b.path_undeploy_other ha.symm
  have hpath' := b.path_undeploy_other ha
  rw [undeploy.eq_1 a' (b.undeploy a), undeploy.eq_1 a (b.undeploy a'), hpath, hpath']
  unfold undeploy
  cases hq : b.path a with
  | none => rfl
  | some q =>
    cases hq' : b.path a' with
    | none => rfl
    | some q' =>
      by_cases hne : q = q'
      · subst hne
        cases hs : b.site q with
        | none => simp [touch, remove, hs, Function.update_comm ha]
        | some s =>
          by_cases hown : s.api = a
          · have hnot : ¬ s.api = a' := fun h => ha (hown.symm.trans h)
            simp [touch, remove, hs, hown, ha, Function.update_comm ha, DispatchStats.add_right_comm]
          · by_cases hown' : s.api = a'
            · simp [touch, remove, hs, hown', Ne.symm ha, Function.update_comm ha,
                DispatchStats.add_right_comm]
            · simp [touch, remove, hs, hown, hown', Function.update_comm ha]
      · exact b.touch_comm _ _ hne ha

end

/-! ### Events -/

/-- The event takes down what its API has. -/
def lowers : EventKind → Bool
  | .update | .undeploy => true
  | _ => false

/-- The event sets something up for its API. -/
def raises : EventKind → Bool
  | .deploy | .update => true
  | _ => false

def lower (e : ApiEvent) (b : Board) : Board :=
  if lowers e.kind then b.undeploy e.api.id else b

def raise (launch : Api → Launch) (e : ApiEvent) (b : Board) : Board :=
  b.deploy (ContextPath.normalize e.api.contextPath) e.api.id
    (if raises e.kind then launch e.api else .skipped)

/-- An event, with what comes of each definition. -/
def apply (launch : Api → Launch) (e : ApiEvent) (b : Board) : Board :=
  (b.lower e).raise launch e

section
variable (launch : Api → Launch) {e₁ e₂ : ApiEvent} (b : Board) (ha : e₁.api.id ≠ e₂.api.id)
include ha

theorem path_lower_other : (b.lower e₁).path e₂.api.id = b.path e₂.api.id := by
  unfold lower
  split
  · exact b.path_undeploy_other ha.symm
  · rfl

theorem lower_comm : (b.lower e₁).lower e₂ = (b.lower e₂).lower e₁ := by
  unfold lower
  by_cases h₁ : lowers e₁.kind <;> by_cases h₂ : lowers e₂.kind <;> simp only [h₁, h₂, if_true]
  · exact b.undeploy_comm ha
  all_goals rfl

theorem raise_lower (hp : b.path e₂.api.id ≠ some (ContextPath.normalize e₁.api.contextPath)) :
    (b.raise launch e₁).lower e₂ = (b.lower e₂).raise launch e₁ := by
  unfold lower
  split
  · exact b.deploy_undeploy _ ha hp
  · rfl

/-- Two events commute if their APIs are different, and neither asks for the path that the other
one asks for or that the other API has. -/
theorem apply_comm
    (hp : ContextPath.normalize e₁.api.contextPath ≠ ContextPath.normalize e₂.api.contextPath)
    (h₁ : b.path e₂.api.id ≠ some (ContextPath.normalize e₁.api.contextPath))
    (h₂ : b.path e₁.api.id ≠ some (ContextPath.normalize e₂.api.contextPath)) :
    (b.apply launch e₁).apply launch e₂ = (b.apply launch e₂).apply launch e₁ := by
  have h₁' : (b.lower e₁).path e₂.api.id ≠ some (ContextPath.normalize e₁.api.contextPath) := by
    rwa [b.path_lower_other ha]
  have h₂' : (b.lower e₂).path e₁.api.id ≠ some (ContextPath.normalize e₂.api.contextPath) := by
    rwa [b.path_lower_other ha.symm]
  calc (((b.lower e₁).raise launch e₁).lower e₂).raise launch e₂
    _ = (((b.lower e₁).lower e₂).raise launch e₁).raise launch e₂ := by
      rw [raise_lower launch _ ha h₁']
    _ = (((b.lower e₁).lower e₂).raise launch e₂).raise launch e₁ :=
      touch_comm _ _ _ hp ha
    _ = (((b.lower e₂).lower e₁).raise launch e₂).raise launch e₁ := by
      rw [b.lower_comm ha]
    _ = (((b.lower e₂).raise launch e₂).lower e₁).raise launch e₁ := by
      rw [raise_lower launch _ ha.symm h₂']

end
end Board
end ApiGateway
