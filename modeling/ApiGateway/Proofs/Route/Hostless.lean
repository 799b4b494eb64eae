import ApiGateway.Proofs.Http.Target
import ApiGateway.Proofs.Route.Hosts

/-!
# Targets that name no host

A target that begins with `/` names no host unless there is a `://` in it.  A request with such a
target and without a `Host` field goes to nobody who was made for a virtual host.

* `Host.ofUri_plain`, `Host.ofUri_split`   the host of a target without and with a `://`;
* `Gateway.Unbinds`   a request goes to no handler that was made for a virtual host;
* `Run.relative_targets_hostless`   what such targets come to;
* `Run.query_names_host`   a query with a `://` in it names a host.
-/

namespace ApiGateway

variable {σ : Type}

/-! ### The host of a target -/

namespace Host

theorem ofUri_plain {u : String} (h : ¬ Uri.schemeEnd <:+: u.toList) : ofUri u = "" := by
  unfold ofUri Uri.hostPort?
  rw [Uri.afterScheme?_eq_none_iff.mpr h]
  rfl

/-- A target with a `://` names the host that stands behind the first one. -/
theorem ofUri_split {u : String} {before rest : List Char}
    (hu : u.toList = before ++ Uri.schemeEnd ++ rest)
    (h : ¬ Uri.schemeEnd <:+: before ++ [':', '/']) : ofUri u =
      canonical (String.ofList (Uri.afterLast '@' (rest.takeWhile (!Uri.endsAuthority ·)))) := by
  unfold ofUri Uri.hostPort?
  rw [hu, Uri.afterScheme?_first h]
  rfl

end Host

/-! ### Requests without a host -/

theorem Handler.virtualHost_create {path v : String} (hv : v ≠ "") (responder : Responder)
    (state : LifecycleState) :
    ({ create path (some v) responder with state := state } : Handler).virtualHost =
      some (Ascii.lowerCase v) := by
  have hfull : (!v.isEmpty) = true := by
    simpa using hv
  show (Option.filter (!·.isEmpty) (some v)).map Ascii.lowerCase = _
  rw [Option.filter_some, if_pos hfull]
  rfl

theorem Ascii.lowerCase_ne_empty {s : String} (hs : s ≠ "") : lowerCase s ≠ "" := by
  intro h
  have hnil := congrArg String.toList h
  rw [toList_lowerCase] at hnil
  exact hs (String.toList_eq_nil_iff.mp (List.map_eq_nil_iff.mp hnil))

namespace Gateway

/-- The request goes to no handler that was made for a virtual host, whatever its state. -/
def Unbinds (g : Gateway σ) (q : Request) : Prop :=
  ∀ h path v responder state, v ≠ "" →
    g.handler h = { Handler.create path (some v) responder with state := state } →
    (Run.bestTarget q g).1 ≠ .handler h ∧ (Run.choose q g).1.1 ≠ .handler h

theorem selected_hostless {g : Gateway σ} {path : String} {h : HandlerId}
    (hsel : g.selected path "" = some h) :
    (g.handler h).virtualHost = some "" ∨ (g.handler h).virtualHost = none := by
  obtain ⟨e, he, rfl⟩ := Option.map_eq_some_iff.mp hsel
  exact (Routes.eligible_of_select? he).imp And.right fun hu => hu.2.2

/-- Nobody is bound to no host. -/
theorem unbinds_of_hostless (g : Gateway σ) {q : Request} (hq : q.host = "") : g.Unbinds q := by
  intro h path v responder state hv hmade
  have hbound : (g.handler h).virtualHost = some (Ascii.lowerCase v) := by
    rw [hmade]
    exact Handler.virtualHost_create hv responder state
  have htarget : g.target q.path q.host ≠ .handler h := by
    unfold target
    rw [hq]
    cases hsel : g.selected q.path "" with
    | none => nofun
    | some h' =>
      intro heq
      rw [Target.handler.inj heq] at hsel
      rcases selected_hostless hsel with hempty | hnone
      · rw [hbound, Option.some.injEq] at hempty
        exact Ascii.lowerCase_ne_empty hv hempty
      · rw [hbound] at hnone
        cases hnone
  rw [Run.bestTarget_eq, Run.choose_eq]
  exact ⟨htarget, htarget⟩

end Gateway

namespace Run

/-- A target that begins with `/` names no host.

So it is if there is no `://` in the target: then a request for it without a `Host` field, or with
an empty one, is for no host and goes to nobody who was made for one.  With a `://` somewhere in
the target, the host is what stands behind the first one, as in an absolute target. -/
theorem relative_targets_hostless (t : String) :
    (¬ Uri.schemeEnd <:+: t.toList →
      Host.ofUri ("/" ++ t) = "" ∧
      ∀ q : Request, q.uri = "/" ++ t →
        (∀ value, q.headers.get? "Host" = some value → value = "") →
        q.host = "" ∧ ∀ g : Gateway σ, g.Unbinds q) ∧
    ∀ before rest, t.toList = before ++ Uri.schemeEnd ++ rest →
      ¬ Uri.schemeEnd <:+: before ++ [':', '/'] →
      Host.ofUri ("/" ++ t) =
        Host.canonical
          (String.ofList (Uri.afterLast '@' (rest.takeWhile (!Uri.endsAuthority ·)))) := by
  have hslash : ("/" ++ t).toList = '/' :: t.toList := by simp
  -- the `/` in front is no part of a `://`
  have hbefore {s : List Char} (h : ¬ Uri.schemeEnd <:+: s) : ¬ Uri.schemeEnd <:+: '/' :: s := by
    rw [List.infix_cons_iff, not_or]
    exact ⟨by simp [Uri.schemeEnd], h⟩
  refine ⟨fun hplain => ?_, fun before rest ht hfirst => ?_⟩
  · have hempty : Host.ofUri ("/" ++ t) = "" := Host.ofUri_plain (hslash ▸ hbefore hplain)
    refine ⟨hempty, fun q huri hfield => ?_⟩
    have hhost : q.host = "" := by
      rw [Request.host_of_target hfield, huri, hempty]
    exact ⟨hhost, fun g => g.unbinds_of_hostless hhost⟩
  · have hsplit : ("/" ++ t).toList = '/' :: before ++ Uri.schemeEnd ++ rest := by
      rw [hslash, ht, List.cons_append, List.cons_append]
    exact Host.ofUri_split hsplit (hbefore hfirst)

theorem relative_targets_hostless_login :
    Host.ofUri "/login?next=//Evil.example/" = "" ∧
      (Gateway.fresh .notFound none true 0 ()).Unbinds
        { uri := "/login?next=//Evil.example/" } := by
  have hplain : ¬ Uri.schemeEnd <:+: "login?next=//Evil.example/".toList := by
    decide +kernel
  obtain ⟨hempty, hrequest⟩ :=
    (relative_targets_hostless (σ := Unit) "login?next=//Evil.example/").1 hplain
  exact ⟨hempty, (hrequest _ rfl (fun value h => by cases h)).2 _⟩

/-- A query with a `://` in it names a host, and the request goes to whoever is bound to it. -/
theorem query_names_host :
    Host.ofUri "/login?next=http://Evil.example/" = "evil.example" ∧
      let user : Behaviour Unit Unit := .require (.deploy
        { id := "evil", contextPath := "/login", virtualHost := some "Evil.example" })
      let g := (user.run (greeters.behaviours.within 1) (.fresh .notFound none true 0 ())).2
      let q : Request := { path := "/login", uri := "/login?next=http://Evil.example/" }
      (bestTarget q g).1 = .handler 0 ∧ ¬ g.Unbinds q := by
  refine ⟨by decide +kernel, ?_⟩
  intro user g q
  have hgoes : (bestTarget q g).1 = .handler 0 := by decide +kernel
  have hmade : g.handler 0 =
      { Handler.create "/login" (some "Evil.example") (.fixed "hello") with
        state := .started } := by
    decide +kernel
  exact ⟨hgoes, fun h => (h 0 "/login" "Evil.example" _ .started (by decide) hmade).1 hgoes⟩

end Run
end ApiGateway
