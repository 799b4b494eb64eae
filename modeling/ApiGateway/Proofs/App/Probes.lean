import ApiGateway.Proofs.App.Deployed
import ApiGateway.Proofs.Completion.Boundary
import ApiGateway.Proofs.Route.Selection

/-!
# What a probe comes to

The handlers of a session answer at once, so a probe is answered, reported and shown before its
dispatch returns.

* `Gateway.notes`        what was printed so far;
* `dispatch_shown`       a dispatch that goes to a fixed text or to nobody, as one change;
* `Claims ds api target`   the API may answer for a target, if these APIs are deployed;
* `Answers ds target line`   the line for a target is as these APIs have it;
* `Serving ds r n m g`   a session after `n` probes, `m` of which nobody answered;
* `Serving.probe`, `Serving.probes`   one more probe, and all of them.
-/

namespace ApiGateway

variable {σ : Type}

def Entry.note? : Entry → Option (List String)
  | .note fields => some fields
  | _ => none

/-- What collaborators have noted so far, oldest first. -/
def Gateway.notes (g : Gateway σ) : List (List String) :=
  (g.journal.filterMap (·.note?)).reverse

namespace App

open Run

/-! ### One dispatch -/

section
variable (probes : List String) {g : Gateway Unit} {v : Service}

/-- A record is counted, and goes on to the log. -/
theorem report_logged (hservices : g.services = [v]) (hsinks : v.sinks = [.log])
    (k : CompletionId) (a : AccessRecord) :
    ∃ journal, report (collaborators probes) (.completion k) (.service 0) a g =
        (.ok (), { g with journal := journal, services := [v.count a] }) ∧
      journal.filterMap (·.note?) = g.journal.filterMap (·.note?) := by
  obtain ⟨clock, journal, handlers, completions, services, bus, table, dispatcher, own⟩ := g
  obtain ⟨records, notFound, serverErrors, sinks⟩ := v
  obtain rfl : services = _ := hservices
  obtain rfl : sinks = _ := hsinks
  exact ⟨_, rfl, rfl⟩

/-- The first call of a completion is counted and its response is printed. -/
theorem answer_shown (hservices : g.services = [v]) (hsinks : v.sinks = [.log]) {k : CompletionId}
    {o : Terms} {t : Nat} (hK : g.completions[k]? = some (o.completion false))
    (hreporter : o.reporter = some (.service 0)) (hreceiver : o.receiver = some t) (r : Response) :
    let a := o.response g.clock (some r)
    ∃ journal completions, answer (collaborators probes) (.completion k) (some r) g =
        (.ok (), { g with
          journal := journal
          completions := completions
          services := [v.count (o.dispatch.record a)] }) ∧
      (journal.filterMap (·.note?)).reverse =
        g.notes ++ [[probeLine (probes.getD t "") a]] := by
  intro a
  let x := (fire k (write (.answer k g.clock (some r)) g).2).2
  obtain ⟨journal, hreport, hnotes⟩ :=
    report_logged probes (g := x) hservices hsinks k (o.dispatch.record a)
  have happroach : (approach (collaborators probes) k o (some r) g).2 =
      { x with journal := journal, services := [v.count (o.dispatch.record a)] } := by
    show (reporting (collaborators probes) k o.reporter o.dispatch a x).2 = _
    rw [hreporter]
    show ((report (collaborators probes) (.completion k) (.service 0) (o.dispatch.record a) >>=
      absorb o.dispatch) x).2 = _
    rw [bind_apply, hreport]
    rfl
  rw [answer_unfired _ hK, happroach, hreceiver]
  refine ⟨_, _, rfl, ?_⟩
  show ([probeLine (probes.getD t "") a] :: journal.filterMap (·.note?)).reverse = _
  rw [hnotes, List.reverse_cons]
  rfl

end

/-- What a request is answered with by the gateway's own handlers. -/
def reply (g : Gateway Unit) (q : Request) : Response :=
  match g.responder (g.target q.path q.host) with
  | .fixed text => ({} : Response).asText text
  | _ => ({} : Response).asNotFound

theorem notes_noted (q : Request) (r : Option Response) (t : Option Nat) (g : Gateway Unit) :
    (noted q r t g).notes = g.notes := by
  have hlooked (g : Gateway Unit) : (looked q.path q.host g).notes = g.notes := by
    unfold looked
    by_cases h : !g.table.routes.entries.isEmpty
    · rw [if_pos h]
      rfl
    · rw [if_neg h]
  unfold noted offered prepared
  rw [chosen_eq]
  exact hlooked (notify (.receiving q.id q.path) (countDispatched g).2).2

/-- A request that does not leave the gateway is answered, counted and shown at once. -/
theorem dispatch_shown (probes : List String) {g : Gateway Unit} {v : Service}
    (hservices : g.services = [v]) (hsinks : v.sinks = [.log])
    (hreporter : g.dispatcher.reporter = some (.service 0)) (q : Request) (t : Nat)
    (hinside : g.responder (g.target q.path q.host) ≠ .outside) :
    ∃ journal completions a, a.status = (reply g q).status ∧
      (dispatch (collaborators probes) (some q) (some {}) (some t) g).2 = { g with
        journal := journal
        completions := completions
        services := [v.count ((g.dispatchFor q).record a)]
        dispatcher := { g.dispatcher with
          stats := { g.dispatcher.stats with
            dispatched := g.dispatcher.stats.dispatched + 1
            notFound := g.dispatcher.stats.notFound +
              if (g.selected q.path q.host).isSome then 0 else 1 } } } ∧
      (journal.filterMap (·.note?)).reverse =
        g.notes ++ [[probeLine (probes.getD t "") (reply g q)]] := by
  let x := noted q (some {}) (some t) g
  have hx : x = _ := noted_eq q (some {}) (some t) g
  have hnotes : x.notes = g.notes := notes_noted q (some {}) (some t) g
  have hresponder : x.responder (g.target q.path q.host) =
      g.responder (g.target q.path q.host) := by
    rw [hx]
    cases g.target q.path q.host <;> rfl
  -- whoever answers, the completion is called with the reply
  have hattend : ∃ y : Gateway Unit, y.notes = g.notes ∧ y = { x with journal := y.journal } ∧
      attend (collaborators probes) (g.target q.path q.host) q {}
        (.completion g.completions.length) x =
      answer (collaborators probes) (.completion g.completions.length) (some (reply g q)) y := by
    unfold attend reply
    rw [get_bind_apply, hresponder]
    cases hr : g.responder (g.target q.path q.host) with
    | notFound => exact ⟨(notify (.unclaimed q.id q.path) x).2, hnotes, rfl, rfl⟩
    | fixed text => exact ⟨x, hnotes, rfl, rfl⟩
    | outside => exact absurd hr hinside
  obtain ⟨y, hynotes, hy, hanswer⟩ := hattend
  have hK : y.completions[g.completions.length]? =
      some ((termsFor g q (some t)).completion false) := by
    rw [hy, hx]
    exact List.getElem?_concat_length
  have hyservices : y.services = [v] := by
    rw [hy, hx]
    exact hservices
  obtain ⟨journal, completions, hrun, hshown⟩ :=
    answer_shown probes hyservices hsinks hK hreporter rfl (reply g q)
  rw [hynotes] at hshown
  refine ⟨journal, completions, _, rfl, ?_, hshown⟩
  rw [dispatch_undertake]
  show ((attend (collaborators probes) (g.target q.path q.host) q {}
    (.completion g.completions.length) >>= _) x).2 = _
  rw [bind_apply, hanswer, hrun]
  show { y with journal := journal, completions := completions, services := _ } = _
  rw [hy, hx]
  rfl

/-! ### Which API answers -/

/-- The API is below the target's path, and for its host. -/
def Bound (api : Api) (target : String) : Prop :=
  ContextPath.covers (ContextPath.normalize api.contextPath) (Uri.path target) = true ∧
    api.virtualHost.map Ascii.lowerCase = some (Host.ofUri target)

/-- The API is below the target's path, and for any host. -/
def Unbound (api : Api) (target : String) : Prop :=
  ContextPath.covers (ContextPath.normalize api.contextPath) (Uri.path target) = true ∧
    api.virtualHost = none

/-- Of these APIs, the API may answer: it is for the host, or none is and it is for any host. -/
def Claims (ds : List Api) (api : Api) (target : String) : Prop :=
  Bound api target ∨ (∀ api ∈ ds, ¬ Bound api target) ∧ Unbound api target

/-- No API answers for the target. -/
def Unclaimed (ds : List Api) (target : String) : Prop :=
  ∀ api ∈ ds, ¬ Bound api target ∧ ¬ Unbound api target

theorem Claims.not_unclaimed {ds : List Api} {api : Api} {target : String}
    (h : Claims ds api target) (hapi : api ∈ ds) : ¬ Unclaimed ds target := by
  intro hnobody
  rcases h with hbound | ⟨-, hunbound⟩
  · exact (hnobody api hapi).1 hbound
  · exact (hnobody api hapi).2 hunbound

instance (api : Api) (target : String) : Decidable (Bound api target) :=
  inferInstanceAs (Decidable (_ ∧ _))

instance (api : Api) (target : String) : Decidable (Unbound api target) :=
  inferInstanceAs (Decidable (_ ∧ _))

instance (ds : List Api) (target : String) : Decidable (Unclaimed ds target) :=
  inferInstanceAs (Decidable (∀ api ∈ ds, _))

/-- The line for a target that an API has answered. -/
def servedLine (target : String) (api : Api) : String :=
  target ++ " -> 200 (" ++ api.name ++ " " ++ api.version ++ ")\n"

/-- The line for a target that nobody has answered. -/
def unclaimedLine (target : String) : String :=
  target ++ " -> 404 (No context-path matches the request URI.)\n"

/-- An API for the host has answered if there is one, else one for any host if there is one, else
nobody. -/
structure Answers (ds : List Api) (target line : String) : Prop where
  bound : (∃ api ∈ ds, Bound api target) →
    ∃ api ∈ ds, Bound api target ∧ line = servedLine target api
  unbound : (∀ api ∈ ds, ¬ Bound api target) → (∃ api ∈ ds, Unbound api target) →
    ∃ api ∈ ds, Unbound api target ∧ line = servedLine target api
  unclaimed : line = unclaimedLine target ↔ Unclaimed ds target

section
variable {ds ds' : List Api} (h : ds.Perm ds') {target line : String}
include h

theorem unclaimed_perm : Unclaimed ds target ↔ Unclaimed ds' target := by
  unfold Unclaimed
  simp only [h.mem_iff]

theorem Answers.perm (ha : Answers ds target line) : Answers ds' target line := by
  obtain ⟨hbound, hunbound, hunclaimed⟩ := ha
  rw [unclaimed_perm h] at hunclaimed
  simp only [h.mem_iff] at hbound hunbound
  exact ⟨hbound, hunbound, hunclaimed⟩

end

theorem probeLine_asText (target : String) (api : Api) :
    probeLine target (({} : Response).asText (fixedText api)) = servedLine target api := by
  have hfull : (fixedText api).isEmpty = false := by
    rw [Bool.eq_false_iff]
    intro hempty
    have hchars := congrArg String.toList (String.isEmpty_iff.mp hempty)
    unfold fixedText at hchars
    simp at hchars
  show target ++ " -> " ++ "200" ++
    (if (fixedText api).isEmpty then "" else " (" ++ fixedText api ++ ")") ++ "\n" = _
  rw [hfull, if_neg Bool.false_ne_true, ← String.toList_inj]
  unfold servedLine fixedText
  simp only [String.toList_append, List.append_assoc]
  rfl

theorem probeLine_asNotFound (target : String) :
    probeLine target ({} : Response).asNotFound = unclaimedLine target := by
  show target ++ " -> " ++ "404" ++ (" (" ++ "No context-path matches the request URI." ++ ")") ++
    "\n" = _
  rw [← String.toList_inj]
  unfold unclaimedLine
  simp only [String.toList_append, List.append_assoc]
  rfl

theorem servedLine_ne (target : String) (api : Api) :
    servedLine target api ≠ unclaimedLine target := by
  intro h
  have hchars := congrArg String.toList h
  unfold servedLine unclaimedLine at hchars
  simp only [String.toList_append, List.append_assoc, List.append_cancel_left_eq] at hchars
  exact absurd hchars (by simp)

theorem answers_of_claims {ds : List Api} {api : Api} {target : String} (hapi : api ∈ ds)
    (h : Claims ds api target) : Answers ds target (servedLine target api) := by
  refine ⟨fun hbound => ?_, fun hnone _ => ?_,
    iff_of_false (servedLine_ne target api) (h.not_unclaimed hapi)⟩
  · rcases h with hthis | ⟨hnone, -⟩
    · exact ⟨api, hapi, hthis, rfl⟩
    · obtain ⟨other, hother, hother'⟩ := hbound
      exact absurd hother' (hnone other hother)
  · rcases h with hthis | ⟨-, hthis⟩
    · exact absurd hthis (hnone api hapi)
    · exact ⟨api, hapi, hthis, rfl⟩

theorem answers_of_unclaimed {ds : List Api} {target : String} (h : Unclaimed ds target) :
    Answers ds target (unclaimedLine target) := by
  refine ⟨fun hbound => ?_, fun _ hunbound => ?_, iff_of_true rfl h⟩
  · obtain ⟨api, hapi, hthis⟩ := hbound
    exact absurd hthis (h api hapi).1
  · obtain ⟨api, hapi, hthis⟩ := hunbound
    exact absurd hthis (h api hapi).2

/-! ### A session in progress -/

/-- Sends the probe with a number through the gateway. -/
def sendProbe (probes : List String) (wallClock : Int) (p : String × Nat) : Run Unit Unit := do
  let _ ← dispatch (collaborators probes) (some (probeRequest wallClock p.1 p.2)) (some {})
    (some p.2)

/-- The handlers are those of the APIs, and so many probes have been answered, reported, and not
claimed. -/
structure Serving (ds : List Api) (r : Registry Unit) (answered missed : Nat)
    (g : Gateway Unit) : Prop where
  refines : Refines { r with
    stats := { r.stats with dispatched := answered, notFound := missed } } [] g
  serves : List.Forall₂ Serves ds r.served
  stated : ∀ api ∈ ds, api.Stated
  services : g.services = [{ records := answered, notFound := missed, sinks := [.log] }]
  fallback : g.dispatcher.fallback = .notFound
  reporter : g.dispatcher.reporter = some (.service 0)
  running : g.dispatcher.running = true

namespace Serving

variable {ds : List Api} {r : Registry Unit} {n m : Nat} {g : Gateway Unit}

/-- The route of a served API. -/
theorem route_of_served (h : Serving ds r n m g) {e : Served} (he : e ∈ r.served) {api : Api}
    (hapi : api ∈ ds) (hserves : Serves api e) :
    e.route ∈ g.table.routes.entries ∧ e.path = ContextPath.normalize api.contextPath ∧
      (g.handler e.handler).state = .started ∧
      (g.handler e.handler).virtualHost = api.virtualHost.map Ascii.lowerCase ∧
      (g.handler e.handler).responder = .fixed (fixedText api) := by
  have hhost : e.host = api.virtualHost.map Ascii.lowerCase := by
    rw [hserves]
    show (api.virtualHost.filter (!·.isEmpty)).map Ascii.lowerCase = _
    cases hv : api.virtualHost with
    | none => rfl
    | some host =>
      have hne : host ≠ "" := fun heq => (h.stated api hapi).host (heq ▸ hv)
      have hfull : (!host.isEmpty) = true := by
        rw [Bool.not_eq_true', Bool.eq_false_iff]
        exact fun hempty => hne (String.isEmpty_iff.mp hempty)
      rw [Option.filter_some, if_pos hfull]
  rw [h.refines.live.handler e he, h.refines.entries]
  exact ⟨List.mem_map_of_mem he, congrArg Served.path hserves, rfl, hhost,
    congrArg Served.responder hserves⟩

/-- A published route serves an API. -/
theorem api_of_route (h : Serving ds r n m g) {e : Route} (he : e ∈ g.table.routes.entries) :
    ∃ api ∈ ds, e.path = ContextPath.normalize api.contextPath ∧
      (g.handler e.handler).virtualHost = api.virtualHost.map Ascii.lowerCase ∧
      (g.handler e.handler).responder = .fixed (fixedText api) := by
  rw [h.refines.entries] at he
  obtain ⟨e', he', rfl⟩ := List.mem_map.mp he
  obtain ⟨api, hapi, hserves⟩ := exists_api h.serves he'
  obtain ⟨-, hpath, -, hhost, htext⟩ := h.route_of_served he' hapi hserves
  exact ⟨api, hapi, hpath, hhost, htext⟩

section
variable {q : Request} {target : String} (hpath : q.path = Uri.path target)
  (hhost : q.host = Host.ofUri target)
include hpath hhost

/-- Whom a probe is given to. -/
theorem selected_cases (h : Serving ds r n m g) :
    (∃ api ∈ ds, Claims ds api target ∧
      ∃ k, g.selected q.path q.host = some k ∧
        (g.handler k).responder = .fixed (fixedText api)) ∨
    Unclaimed ds target ∧ g.selected q.path q.host = none := by
  have hcovers {e : Route} {path : String} (hc : g.table.routes.Candidate g.handler q.path e)
      (hp : e.path = path) : ContextPath.covers path (Uri.path target) = true := by
    rw [ContextPath.covers_iff, ← hpath, ← hp]
    exact hc.2.2
  have hcandidate {api : Api} (hapi : api ∈ ds)
      (hc : ContextPath.covers (ContextPath.normalize api.contextPath) (Uri.path target) = true) :
      ∃ e, g.table.routes.Candidate g.handler q.path e ∧
        (g.handler e.handler).virtualHost = api.virtualHost.map Ascii.lowerCase := by
    obtain ⟨e, he, hserves⟩ := exists_served h.serves hapi
    obtain ⟨hmem, hp, hstarted, hv, -⟩ := h.route_of_served he hapi hserves
    refine ⟨e.route, ⟨hmem, hstarted, ?_⟩, hv⟩
    rw [← ContextPath.covers_iff, hpath]
    show ContextPath.covers e.path (Uri.path target) = true
    rw [hp]
    exact hc
  have hbound {api : Api} (hapi : api ∈ ds) (hb : Bound api target) :
      ∃ e, g.table.routes.Bound g.handler q.path q.host e := by
    obtain ⟨e, hc, hv⟩ := hcandidate hapi hb.1
    refine ⟨e, hc, ?_⟩
    rw [hv, hhost]
    exact hb.2
  have hunbound {api : Api} (hapi : api ∈ ds) (hu : Unbound api target) :
      ∃ e, g.table.routes.Unbound g.handler q.path e := by
    obtain ⟨e, hc, hv⟩ := hcandidate hapi hu.1
    refine ⟨e, hc, ?_⟩
    rw [hv, hu.2]
    rfl
  unfold Gateway.selected
  rcases g.table.routes.select?_cases g.handler q.path q.host with
    ⟨e, hsel, hb⟩ | ⟨hnone, ⟨e, hsel, hu⟩ | ⟨hnone', hsel⟩⟩
  · obtain ⟨api, hapi, hp, hv, htext⟩ := h.api_of_route hb.1.1
    rw [hsel]
    refine .inl ⟨api, hapi, .inl ⟨hcovers hb.1 hp, ?_⟩, e.handler, rfl, htext⟩
    rw [← hv, ← hhost]
    exact hb.2
  · obtain ⟨api, hapi, hp, hv, htext⟩ := h.api_of_route hu.1.1
    rw [hsel]
    refine .inl ⟨api, hapi, .inr ⟨fun api' hapi' hb => ?_, hcovers hu.1 hp, ?_⟩, e.handler, rfl,
      htext⟩
    · obtain ⟨e', he'⟩ := hbound hapi' hb
      exact hnone e' he'
    · exact Option.map_eq_none_iff.mp (hv.symm.trans hu.2)
  · rw [hsel]
    refine .inr ⟨fun api hapi => ⟨fun hb => ?_, fun hu => ?_⟩, rfl⟩
    · obtain ⟨e, he⟩ := hbound hapi hb
      exact hnone e he
    · obtain ⟨e, he⟩ := hunbound hapi hu
      exact hnone' e he

/-- What a probe is answered with: the text of an API, or that there is none. -/
theorem reply_cases (h : Serving ds r n m g) :
    (∃ api ∈ ds, Claims ds api target ∧
      (g.selected q.path q.host).isSome = true ∧
      g.responder (g.target q.path q.host) = .fixed (fixedText api)) ∨
    Unclaimed ds target ∧ g.selected q.path q.host = none ∧
      g.responder (g.target q.path q.host) = .notFound := by
  rcases h.selected_cases hpath hhost with ⟨api, hapi, hclaims, k, hk, htext⟩ | ⟨hnobody, hnone⟩
  · refine .inl ⟨api, hapi, hclaims, ?_, ?_⟩
    · rw [hk, Option.isSome_some]
    · unfold Gateway.target
      rw [hk]
      exact htext
  · refine .inr ⟨hnobody, hnone, ?_⟩
    unfold Gateway.target
    rw [hnone]
    exact h.fallback

/-- The line of a probe is as the APIs have it. -/
theorem answers (h : Serving ds r n m g) :
    Answers ds target (probeLine target (reply g q)) := by
  unfold reply
  rcases h.reply_cases hpath hhost with ⟨api, hapi, hclaims, -, htext⟩ | ⟨hnobody, -, hfallback⟩
  · rw [htext]
    show Answers ds target (probeLine target (({} : Response).asText (fixedText api)))
    rw [probeLine_asText]
    exact answers_of_claims hapi hclaims
  · rw [hfallback]
    show Answers ds target (probeLine target ({} : Response).asNotFound)
    rw [probeLine_asNotFound]
    exact answers_of_unclaimed hnobody

/-- The reporting service counts a probe like the dispatcher. -/
theorem count_record (h : Serving ds r n m g) {a : Response}
    (hstatus : a.status = (reply g q).status) :
    let missed := if Unclaimed ds target then 1 else 0
    (if (g.selected q.path q.host).isSome then 0 else 1) = missed ∧
      ({ records := n, notFound := m, sinks := [.log] } : Service).count
          ((g.dispatchFor q).record a) =
        { records := n + 1, notFound := m + missed, sinks := [.log] } := by
  intro missed
  have hrecord (p : String) : ((⟨q, q.host, p⟩ : Dispatch).record a).status = a.status := rfl
  unfold reply at hstatus
  rcases h.reply_cases hpath hhost with
    ⟨api, hapi, hclaims, hsome, htext⟩ | ⟨hnobody, hnone, hfallback⟩
  · have hmissed : missed = 0 := if_neg (hclaims.not_unclaimed hapi)
    rw [htext] at hstatus
    have hok : ((g.dispatchFor q).record a).status = 200 := hstatus
    rw [hmissed, hsome]
    refine ⟨rfl, ?_⟩
    unfold Service.count AccessRecord.isNotFound AccessRecord.isServerError
    rw [hok]
    rfl
  · have hmissed : missed = 1 := if_pos hnobody
    rw [hfallback] at hstatus
    have hdispatch : g.dispatchFor q = ⟨q, q.host, ""⟩ := by
      unfold Gateway.dispatchFor
      rw [hnone]
    have hlost : ((g.dispatchFor q).record a).status = 404 := hstatus
    have hpath : ((g.dispatchFor q).record a).contextPath = "" := by
      rw [hdispatch]
      rfl
    rw [hmissed, hnone]
    refine ⟨rfl, ?_⟩
    unfold Service.count AccessRecord.isNotFound AccessRecord.isServerError
    rw [hlost, hpath]
    rfl

end

/-- One more probe. -/
theorem probe (h : Serving ds r n m g) {probes : List String} {p : String × Nat}
    (hp : probes.getD p.2 "" = p.1) (wallClock : Int) :
    let g' := (sendProbe probes wallClock p g).2
    (∃ line, Answers ds p.1 line ∧ g'.notes = g.notes ++ [[line]]) ∧
      Serving ds r (n + 1) (m + if Unclaimed ds p.1 then 1 else 0) g' := by
  intro g'
  let q := probeRequest wallClock p.1 p.2
  have hpath : q.path = Uri.path p.1 := rfl
  have hhost : q.host = Host.ofUri p.1 := rfl
  have hinside : g.responder (g.target q.path q.host) ≠ .outside := by
    rcases h.reply_cases hpath hhost with ⟨api, -, -, -, htext⟩ | ⟨-, -, hfallback⟩
    · rw [htext]
      nofun
    · rw [hfallback]
      nofun
  obtain ⟨journal, completions, a, hstatus, hrun, hnotes⟩ :=
    dispatch_shown probes h.services rfl h.reporter q p.2 hinside
  obtain ⟨hmissed, hcount⟩ := h.count_record hpath hhost hstatus
  replace hrun : g' = _ := hrun
  rw [hp] at hnotes
  rw [hmissed, hcount] at hrun
  refine ⟨⟨_, h.answers hpath hhost, ?_⟩, ?_⟩
  · rw [hrun]
    exact hnotes
  · have hstats : g.dispatcher.stats = { r.stats with dispatched := n, notFound := m } :=
      h.refines.stats
    rw [hrun]
    refine ⟨{ h.refines with stats := ?_, live := h.refines.live.congr rfl }, h.serves, h.stated,
      rfl, h.fallback, h.reporter, h.running⟩
    show ({ g.dispatcher.stats with
      dispatched := g.dispatcher.stats.dispatched + 1
      notFound := g.dispatcher.stats.notFound + _ } : DispatchStats) = _
    rw [hstats]

/-- All the probes, one after the other. -/
theorem probes {probes : List String} (wallClock : Int) (l : List (String × Nat))
    (hl : ∀ p ∈ l, probes.getD p.2 "" = p.1) {n m : Nat} {g : Gateway Unit}
    (h : Serving ds r n m g) :
    let g' := (l.forM (sendProbe probes wallClock) g).2
    (∃ lines, List.Forall₂ (Answers ds) (l.map (·.1)) lines ∧
        g'.notes = g.notes ++ lines.map ([·])) ∧
      Serving ds r (n + l.length) (m + (l.map (·.1)).countP (Unclaimed ds ·)) g' := by
  induction l generalizing n m g with
  | nil => exact ⟨⟨[], .nil, (List.append_nil _).symm⟩, h⟩
  | cons p rest ih =>
    obtain ⟨⟨line, hline, hnotes⟩, h'⟩ := h.probe (hl _ List.mem_cons_self) wallClock
    obtain ⟨⟨lines, hlines, hnotes'⟩, h''⟩ :=
      ih (fun p hp => hl p (List.mem_cons_of_mem _ hp)) h'
    rw [hnotes] at hnotes'
    refine ⟨⟨line :: lines, .cons hline hlines, ?_⟩, ?_⟩
    · rw [List.map_cons, List.append_cons]
      exact hnotes'
    · rw [List.map_cons, List.countP_cons, List.length_cons]
      have hlength : n + (rest.length + 1) = n + 1 + rest.length := by omega
      have hmissed (k j : Nat) : m + (k + j) = m + j + k := by omega
      rw [hlength, hmissed]
      simp only [decide_eq_true_eq]
      exact h''

end Serving
end App
end ApiGateway
