import ApiGateway.Proofs.Run.Alike
import ApiGateway.Proofs.Route.Table

/-!
# What moves and changes of the routes do, step by step

* `Gateway.handler_setState_self`, `Gateway.handler_create`   the handlers after a change;
* `move_eq`            a move is refused, or runs a hook between two changes of the state;
* `insertRoute_eq`, `eraseRoute_cases`, `clearRoutes_eq`   the changes of the route table.
-/

namespace ApiGateway

variable {σ : Type} (g : Gateway σ)

namespace Gateway

/-! ### The handlers after a change -/

theorem handler_eq_default {h : HandlerId} (hlen : g.handlers.length ≤ h) :
    g.handler h = default := by
  unfold handler
  rw [List.getD_eq_getElem?_getD, List.getElem?_eq_none hlen]
  rfl

theorem lt_length_of_started {h : HandlerId} (hs : (g.handler h).state = .started) :
    h < g.handlers.length := by
  rcases Nat.lt_or_ge h g.handlers.length with hlen | hlen
  · exact hlen
  · rw [g.handler_eq_default hlen] at hs
    cases hs

theorem handler_setState_self {h : HandlerId} (hlen : h < g.handlers.length)
    (s : LifecycleState) :
    (Run.setState h s g).2.handler h = { g.handler h with state := s } := by
  show (g.handlers.modify h _).getD h default = { g.handlers.getD h default with state := s }
  rw [List.getD_eq_getElem?_getD, List.getD_eq_getElem?_getD, List.getElem?_modify,
    List.getElem?_eq_getElem hlen]
  simp

theorem handler_setState_other {h h' : HandlerId} (hh : h' ≠ h) (s : LifecycleState) :
    (Run.setState h' s g).2.handler h = g.handler h := by
  show (g.handlers.modify h' _).getD h default = g.handlers.getD h default
  rw [List.getD_eq_getElem?_getD, List.getD_eq_getElem?_getD, List.getElem?_modify]
  simp [hh]

theorem state_setState {h : HandlerId} {s : LifecycleState}
    (hs : ((Run.setState h s g).2.handler h).state = .started) : s = .started := by
  have hlen := lt_length_of_started _ hs
  rw [show (Run.setState h s g).2.handlers.length = _ from List.length_modify _ _ _] at hlen
  rwa [g.handler_setState_self hlen] at hs

theorem handler_create {h : HandlerId} (hlen : h < g.handlers.length) (new : Handler) :
    (Run.create new g).2.handler h = g.handler h := by
  show (g.handlers ++ [new]).getD h default = g.handlers.getD h default
  rw [List.getD_eq_getElem?_getD, List.getD_eq_getElem?_getD, List.getElem?_append_left hlen]

theorem handler_create_self (new : Handler) :
    (Run.create new g).2.handler g.handlers.length = new := by
  show (g.handlers ++ [new]).getD g.handlers.length default = new
  rw [List.getD_eq_getElem?_getD, List.getElem?_concat_length]
  rfl

end Gateway

namespace Run

/-! ### The operations -/

theorem move_eq (c : Collaborators σ) (m : Move) (h : HandlerId) :
    move c m h g = match m.hookState? (g.handler h).state with
      | none => (.error (.invalidTransition m (g.handler h).state), g)
      | some seen =>
        let x := runHook c m h seen
          (write (.call .gateway (.hook m h seen)) (setState h seen g).2).2
        ((m.settle x.1).2, (setState h (m.settle x.1).1 x.2).2) := by
  unfold move
  rw [get_bind_apply]
  cases m.hookState? (g.handler h).state <;> rfl

theorem insertRoute_eq (api : String) (h : Option HandlerId) :
    insertRoute api h g = ((g.table.insert g.handler api h).1,
      { g with table := (g.table.insert g.handler api h).2 }) := rfl

theorem clearRoutes_eq : clearRoutes g = (g.table.routes.entries,
    { g with table := g.table.clear.2 }) := rfl

theorem eraseRoute_cases (api : String) :
    (g.table.routes.pathOf? api = none ∧ eraseRoute api g = (none, g)) ∨
      (∃ p, g.table.routes.pathOf? api = some p ∧ g.table.routes.handlerOf? api = none ∧
        eraseRoute api g = (none, (notify (.staleIndex api p) { g with table :=
          { g.table with
            routes := g.table.routes.forget api, version := g.table.version + 1 } }).2)) ∨
      ∃ e, e ∈ g.table.routes.entries ∧ g.table.routes.pathOf? api = some e.path ∧ e.api = api ∧
        g.table.routes.at? e.path = some e ∧
        eraseRoute api g = (some e.handler, { g with table := g.table.removed api e.path }) := by
  unfold eraseRoute
  rw [modifyGet_bind_apply]
  rcases g.table.erase_cases api with ⟨hp, he⟩ | ⟨p, hp, hh, he⟩ | ⟨e, hmem, hp, hapi, hat, he⟩
  · rw [he]
    exact .inl ⟨hp, rfl⟩
  · rw [he]
    exact .inr (.inl ⟨p, hp, hh, rfl⟩)
  · rw [he]
    exact .inr (.inr ⟨e, hmem, hp, hapi, hat, rfl⟩)

end Run
end ApiGateway
