import ApiGateway.Proofs.Http.Host
import ApiGateway.Proofs.Traffic.Routed

/-!
# Virtual hosts are matched in whatever case they are written

A handler keeps its virtual host in small letters, and so does a request the host that it is for.
The host of a request comes from its `Host` field, and from an absolute target if that field is
absent or empty.

* `Gateway.SelectsHost`   a request goes to a handler that is bound to a host;
* `Run.hosts_matched`     so it is for every spelling of the host, at every moment of every run.
-/

namespace ApiGateway

variable {σ α : Type}

namespace Gateway

/-- The request goes to a handler that is bound to the host, small letters apart. -/
def SelectsHost (g : Gateway σ) (q : Request) (v : String) : Prop :=
  ∃ h, (Run.bestTarget q g).1 = .handler h ∧ (Run.choose q g).1.1 = .handler h ∧
    (g.handler h).virtualHost = some (Ascii.lowerCase v)

variable {g : Gateway σ}

/-- If a route bound to its host may serve a request, such a route does. -/
theorem selectsHost_of_bound {q : Request} {v : String} (hhost : q.host = Ascii.lowerCase v)
    {e : Route} (he : g.table.routes.Bound g.handler q.path (Ascii.lowerCase v) e) :
    g.SelectsHost q v := by
  obtain ⟨e', hsel, hbound⟩ :=
    (g.table.routes.select?_selects g.handler q.path (Ascii.lowerCase v)).bound ⟨e, he⟩
  have htarget : g.target q.path q.host = .handler e'.handler := by
    unfold target selected
    rw [hhost, hsel]
    rfl
  refine ⟨e'.handler, ?_, ?_, hbound.2⟩
  · rw [Run.bestTarget_eq]
    exact htarget
  · rw [Run.choose_eq]
    exact htarget

end Gateway

namespace Run

/-- A request reaches a host in whatever case it is written.

At every moment of every run, and in whatever order the gateway goes through its routes: if a started
handler is published on a path and was made for a virtual host, then every request that the path
covers goes to a handler bound to this host if its `Host` field, in any spelling of the name, holds
the host in letters of any case, with or without a port.  The same holds if there is no such field,
or an empty one, and the target of the request is absolute and names the host. -/
theorem hosts_matched (b : Behaviours σ) (n : Nat) (user : Behaviour σ α) (fallback : Responder)
    (reporter : Option Reporter) (header : Bool) (clock : Int) (own : σ) :
    ∀ m ∈ b.moments n user (.fresh fallback reporter header clock own),
      ∀ entries : List Route, entries.Perm m.gateway.table.routes.entries →
      ∀ e ∈ entries, ∀ path v responder, Host.Plain v.toList →
        m.gateway.handler e.handler =
          { Handler.create path (some v) responder with state := .started } →
      ∀ q, ContextPath.covers (ContextPath.normalize path) q.path = true →
        (∀ name value, q.headers.Ordered → (name, value) ∈ q.headers.fields →
          Ascii.foldKey name = Ascii.foldKey "Host" → Host.Spells v.toList value.toList →
          (m.gateway.reordered entries).SelectsHost q v) ∧
        ((∀ value, q.headers.get? "Host" = some value → value = "") →
          ∀ u : Uri.Absolute, u.WellFormed →
            u.host.map Char.toLower = v.toList.map Char.toLower → q.uri = String.ofList u.text →
          (m.gateway.reordered entries).SelectsHost q v) := by
  intro m hm entries hperm e he path v responder hv hhandler q hcovers
  have hfresh : (Gateway.fresh fallback reporter header clock own).shown.Keyed :=
    Gateway.keyed_fresh fallback reporter header clock ()
  obtain ⟨-, hkeyed⟩ := enduring_keyed.moments b n user (i := ()) hfresh m hm
  have hpath : e.path = ContextPath.normalize path := by
    have h : e.path = (m.gateway.handler e.handler).contextPath :=
      hkeyed.path e (hperm.mem_iff.mp he)
    rw [h, hhandler]
    rfl
  have hfilled : v ≠ "" := fun h => hv.ne_nil (String.toList_eq_nil_iff.mpr h)
  have hvirtual : (m.gateway.handler e.handler).virtualHost = some (Ascii.lowerCase v) := by
    have hnonempty : (!v.isEmpty) = true := by
      rw [Bool.not_eq_true', Bool.eq_false_iff]
      exact fun h => hfilled (String.isEmpty_iff.mp h)
    rw [hhandler]
    show (Option.filter (!·.isEmpty) (some v)).map Ascii.lowerCase = _
    rw [Option.filter_some, if_pos hnonempty]
    rfl
  have hbound : (m.gateway.reordered entries).table.routes.Bound
      (m.gateway.reordered entries).handler q.path (Ascii.lowerCase v) e := by
    refine ⟨⟨he, ?_, ?_⟩, hvirtual⟩
    · show (m.gateway.handler e.handler).state = .started
      rw [hhandler]
    · rw [← ContextPath.covers_iff, hpath]
      exact hcovers
  refine ⟨fun name value hordered hmem hname hspells => ?_, fun hnone u hu hhost huri => ?_⟩
  · have hget := Headers.get?_eq_of_mem hordered hmem hname
    have hvalue : value ≠ "" := fun h =>
      hspells.ne_nil hv (String.toList_eq_nil_iff.mpr h)
    refine Gateway.selectsHost_of_bound ?_ hbound
    rw [Request.host_of_field hget hvalue, Host.canonical_spelled hv hspells]
  · refine Gateway.selectsHost_of_bound ?_ hbound
    rw [Request.host_of_target hnone, huri, Host.ofUri_absolute hu hv hhost]

/-- An API with a host of its own. -/
def hosting : Behaviour Unit Unit :=
  Behaviour.require
    (.deploy { id := "shop", contextPath := "/shop", virtualHost := some "Shop.Example" })

theorem hosts_matched_shouted :
    ∃ m ∈ greeters.behaviours.moments 1 hosting (.fresh .notFound none true 0 ()),
      m.gateway.table.routes.entries = [⟨"/shop/", "shop", 0⟩] ∧
      m.gateway.SelectsHost
        { path := "/shop/cart", headers := .ofList [("hOST", "SHOP.example:8080")] }
        "Shop.Example" ∧
      m.gateway.SelectsHost { path := "/shop", uri := "http://me:x@ShOp.eXample:80/shop?q#f" }
        "Shop.Example" := by
  obtain ⟨m, hm, hentries, hhandler⟩ :
      ∃ m ∈ greeters.behaviours.moments 1 hosting (.fresh .notFound none true 0 ()),
        m.gateway.table.routes.entries = [⟨"/shop/", "shop", 0⟩] ∧
        m.gateway.handler 0 = { Handler.create "/shop" (some "Shop.Example") (.fixed "hello") with
          state := .started } := by
    decide +kernel
  have hv : Host.Plain "Shop.Example".toList := .name (by decide) (by decide) (by decide)
  have hmem : (⟨"/shop/", "shop", 0⟩ : Route) ∈ m.gateway.table.routes.entries :=
    hentries ▸ List.mem_singleton.mpr rfl
  have hmatched := hosts_matched greeters.behaviours 1 hosting .notFound none true 0 () m hm _
    (List.Perm.refl _) _ hmem "/shop" "Shop.Example" (.fixed "hello") hv hhandler
  refine ⟨m, hm, hentries, ?_, ?_⟩
  · refine (hmatched { path := "/shop/cart", headers := .ofList [("hOST", "SHOP.example:8080")] }
      (by decide +kernel)).1 "hOST" "SHOP.example:8080" (Headers.ordered_ofList _)
      (by decide +kernel) (by decide +kernel) ?_
    have hshout : "SHOP.example".toList.map Char.toLower =
        "Shop.Example".toList.map Char.toLower := by
      decide +kernel
    have hport : ':' ∉ "8080".toList := by decide +kernel
    exact .port hshout hport
  · refine (hmatched { path := "/shop", uri := "http://me:x@ShOp.eXample:80/shop?q#f" }
      (by decide +kernel)).2 (fun value h => by cases h)
      { scheme := "http".toList, user := some "me:x".toList, host := "ShOp.eXample".toList,
        port := some "80".toList, tail := "/shop?q#f".toList } ?_ (by decide +kernel)
      (by decide +kernel)
    have hfree {s : String} (hs : s.toList.all (!Uri.endsAuthority ·) = true) {c : Char}
        (hc : c ∈ s.toList) : Uri.endsAuthority c = false := by
      rw [← Bool.not_eq_true']
      exact List.all_eq_true.mp hs c hc
    have hdigits : "80".toList.all (·.isDigit) = true := by decide +kernel
    have hname : "ShOp.eXample".toList.all (· != '@') = true := by decide +kernel
    refine ⟨by decide +kernel, ?_, fun c hc => ⟨hfree (by decide +kernel) hc, ?_⟩, ?_, ?_⟩
    · intro user huser
      cases huser
      exact fun c => hfree (by decide +kernel)
    · exact bne_iff_ne.mp (List.all_eq_true.mp hname c hc)
    · intro port hport
      cases hport
      exact fun c => List.all_eq_true.mp hdigits c
    · intro c hc
      cases hc
      rfl

end Run
end ApiGateway
