import ApiGateway.Proofs.Completion.Told

/-!
# What is recorded of a request

The time that a request took is measured at the first call of its completion.  It goes into the
response, and into a header field if the gateway was set up so; the record has it too, next to what
was fixed when the request was dispatched.

* `Instrumented`   what a completion told, and what was in it;
* `Run.enduring_settings`   the reporter and the header option never change;
* `Run.requests_recorded`   what becomes of a request, however late it is answered.
-/

namespace ApiGateway

variable {σ α β : Type}

namespace Gateway

/-- The context path of whoever a request goes to, as the routes and the handlers are now. -/
def contextFor (g : Gateway σ) (q : Request) : String :=
  match g.selected q.path q.host with
  | some h => (g.handler h).contextPath
  | none => ""

theorem dispatchFor_eq (g : Gateway σ) (q : Request) :
    g.dispatchFor q = ⟨q, q.host, g.contextFor q⟩ := by
  unfold dispatchFor contextFor
  cases g.selected q.path q.host <;> rfl

end Gateway

/-- What became of a completion on its terms: nothing as long as nobody called it, and otherwise a
record for the reporter, if there is one, and then a response for the receiver. -/
structure Instrumented (k : CompletionId) (o : Terms) (g : Gateway σ) : Prop where
  silent : g.answers k = [] → g.told k = []
  told : ∀ time answer, (g.answers k).head? = some (time, answer) →
    ∃ final,
      (answer.getD .serverError).Timed (time - o.dispatch.request.receivedAt) o.header final ∧
      g.told k =
        (o.reporter.toList.map fun rep => .inl (rep,
          { requestId := o.dispatch.request.id
            method := o.dispatch.request.method
            path := o.dispatch.request.path
            host := o.dispatch.host
            contextPath := o.dispatch.contextPath
            status := (answer.getD .serverError).status
            timestamp := o.dispatch.request.timestamp
            responseTime := time - o.dispatch.request.receivedAt })) ++
        [.inr (o.receiver, some final)]

namespace Run

/-- Nobody can change who gets the records and whether there is a header field. -/
theorem enduring_settings (s : Responder × Option Reporter × Bool) :
    Enduring fun (_ : Unit) g => g.settings = s where
  note _ _ _ hg := hg
  perform O c hc a _ := by
    have B : Robust (Holding (Both (·.settings = s) O)) :=
      { toAtoms := .of_same fun _ _ h hg => ⟨h.settings.symm.trans hg.1, h.own ▸ hg.2⟩
        fire := fun _ => Keeps.alike fun _ hg => hg
        missed := Keeps.alike fun _ hg => hg
        dispatched := Keeps.alike fun _ hg => hg
        wrap := fun _ _ _ _ => Keeps.alike fun _ hg => hg
        countAt := fun _ _ => Keeps.alike fun _ hg => hg }
    exact (B.perform ((hc ()).tolerates (fun _ => trivial) fun _ _ _ hg => hg) a).keeps

section
variable {k : CompletionId} {o : Terms} {g : Gateway σ}

theorem instrumented_of_resting {fired : Bool} (h : Phase.Resting k o g)
    (htells : Tells k fired g) : Instrumented k o g := by
  rcases h with ⟨-, hnone, hresponses, hrecords⟩ | ⟨time, answer, hs⟩
  · refine ⟨fun _ => ?_, fun time answer hhead => ?_⟩
    · rw [htells.1, hresponses, hrecords]
      rfl
    · rw [hnone] at hhead
      cases hhead
  · have hhead := hs.2.1
    refine ⟨fun hnone => ?_, fun time' answer' hhead' => ?_⟩
    · rw [hnone] at hhead
      cases hhead
    · obtain ⟨rfl, rfl⟩ := Prod.mk.inj (Option.some.inj (hhead.symm.trans hhead'))
      refine ⟨_, Response.timed_stamped _ _ _, ?_⟩
      rw [told_of_settled htells hs]
      unfold Terms.records Terms.responses
      rw [List.map_map]
      rfl

/-- The conduct may call the completion whenever it likes, or never. -/
theorem instrumented_run (b : Behaviours σ) (d : Nat) (u : Behaviour σ β) {fired : Bool}
    (h : Phase.Resting k o g) (htells : Tells k fired g) :
    Instrumented k o (u.run (b.within d) g).2 := by
  have hphase : Phase.Is k g.shown (.resting o) := h
  have htells' : Tells k fired g.shown := htells
  have hrest : Phase.Resting k o (u.run (b.within d) g).2.shown :=
    (enduring_phase k).run b d u hphase
  have htold : Tells k fired (u.run (b.within d) g).2.shown := (enduring_tells k).run b d u htells'
  exact instrumented_of_resting (g := (u.run (b.within d) g).2) hrest htold

end

/-- What is recorded of a request.

A completion may be made for any request, host, context path, reporter and header option.  As long
as nobody calls it, neither the reporter nor the receiver gets anything.  Once it is called,
whenever that is and whatever anyone does meanwhile, the reporter has got one record and the
receiver one response, in this order.  Both have the time that had passed at the first call, and
the rest of the response is what that call gave.

For a request that is dispatched at some moment of some run, host and context path are those of
this moment, and the reporter and the header option are those that the gateway was set up with. -/
theorem requests_recorded (b : Behaviours σ) (n : Nat) (user : Behaviour σ α)
    (fallback : Responder) (reporter : Option Reporter) (header : Bool) (clock : Int) (own : σ) :
    (∀ (g : Gateway σ) k o, g.completions[k]? = some (o.completion false) → Untouched k g →
      ∀ d (u : Behaviour σ β), Instrumented k o (u.run (b.within d) g).2) ∧
    ∀ m ∈ b.moments n user (Gateway.fresh fallback reporter header clock own),
    ∀ d q r t d' (u : Behaviour σ β),
      Instrumented m.gateway.completions.length
        ⟨⟨q, q.host, m.gateway.contextFor q⟩, reporter, header, t⟩
        (u.run (b.within d') (dispatch (b.within d) (some q) r t m.gateway).2).2 := by
  refine ⟨fun g k o hK hu d u => ?_, fun m hm d q r t d' u => ?_⟩
  · have htells : Tells k false g := by
      refine ⟨?_, .inr ⟨rfl, hu.2.1, .inr ⟨o, hK⟩⟩⟩
      unfold Reported
      rw [told_of_untouched hu, hu.2.1, hu.2.2]
      rfl
    exact instrumented_run b d u (.inl ⟨hK, hu⟩) htells
  · have hfresh : Phase.Is m.gateway.completions.length
        (Gateway.fresh fallback reporter header clock own).shown .idle :=
      .inl ⟨Nat.zero_le _, rfl, rfl, rfl⟩
    have hsilent : Tells m.gateway.completions.length false
        (Gateway.fresh fallback reporter header clock own).shown :=
      ⟨rfl, .inr ⟨rfl, rfl, .inl (Nat.zero_le _)⟩⟩
    obtain ⟨p, hp⟩ := (enduring_phase _).moments b n user hfresh m hm
    obtain ⟨fired, htells⟩ := (enduring_tells _).moments b n user hsilent m hm
    obtain ⟨-, hset⟩ :=
      (enduring_settings (fallback, reporter, header)).moments (i := ()) b n user rfl m hm
    have hterms : termsFor m.gateway q t =
        ⟨⟨q, q.host, m.gateway.contextFor q⟩, reporter, header, t⟩ := by
      have hrep : m.gateway.dispatcher.reporter = reporter := congrArg (·.2.1) hset
      have hheader : m.gateway.dispatcher.timeHeader = header := congrArg (·.2.2) hset
      unfold termsFor
      rw [m.gateway.dispatchFor_eq, hrep, hheader]
    have htold := (enduring_tells _).perform _ (b.within d) ((enduring_tells _).within b d)
      (.dispatch (some q) r t) fired m.gateway ⟨htells, trivial⟩
    have hrest : Phase.Resting m.gateway.completions.length (termsFor m.gateway q t)
        (dispatch (b.within d) (some q) r t m.gateway).2 := by
      have hidle : Phase.Is m.gateway.completions.length m.gateway .idle :=
        idle_of_length_le hp (Nat.le_refl _)
      rcases (settled_of_dispatch b d q r t hidle).1 with ⟨-, hun⟩ | hs
      · exact .inl hun
      · exact .inr hs
    rw [hterms] at hrest
    exact instrumented_run b d' u hrest htold.1

/-- Handlers that keep a request for later, and reporters that fail. -/
def keepers : Behaviours Unit where
  build api := do
    return some (← .require (.create (.create api.contextPath api.virtualHost .outside)))
  call
    | .record .. => .fail .foreign
    | _ => .give ()

/-- The API is gone before its request is answered, with a header field of the handler's own. -/
def belated : Behaviour Unit Unit := do
  let _ ← Behaviour.require (.undeploy "shop")
  let _ ← Behaviour.require (.advance 500000)
  Behaviour.require (.answer (.completion 0)
    (some { status := 201, headers := .ofList [("x-gatehouse-response-TIME", "7")] }))

theorem requests_recorded_belated :
    let q : Request := { id := "r1", path := "/shop/cart", receivedAt := 2000000, timestamp := 5 }
    ∃ m ∈ keepers.moments 2 (Behaviour.require (.deploy { id := "shop", contextPath := "/shop" }))
        (.fresh .notFound (some (.outside 0)) true 0 ()),
      let g' := (belated.run (keepers.within 2)
        (dispatch (keepers.within 2) (some q) none (some 0) m.gateway).2).2
      ∃ final, final.headers.get? "X-GATEHOUSE-response-time" = some "-1" ∧
        g'.told 0 = [.inl (.outside 0,
            { requestId := "r1", method := "GET", path := "/shop/cart", host := "",
              contextPath := "/shop/", status := 201, timestamp := 5, responseTime := -1500000 }),
          .inr (some 0, some final)] := by
  intro q
  obtain ⟨m, hm, hlen, hcontext, hanswer⟩ :
      ∃ m ∈ keepers.moments 2
          (Behaviour.require (.deploy { id := "shop", contextPath := "/shop" }))
          (.fresh .notFound (some (.outside 0)) true 0 ()),
        m.gateway.completions.length = 0 ∧ m.gateway.contextFor q = "/shop/" ∧
        ((belated.run (keepers.within 2)
          (dispatch (keepers.within 2) (some q) none (some 0) m.gateway).2).2.answers 0).head? =
        some (500000, some
          { status := 201, headers := .ofList [("x-gatehouse-response-TIME", "7")] }) := by
    decide +kernel
  have h := (requests_recorded keepers 2 _ .notFound (some (.outside 0)) true 0 ()).2 m hm 2 q none
    (some 0) 2 belated
  rw [hlen, hcontext] at h
  obtain ⟨final, htimed, htold⟩ := h.told _ _ hanswer
  refine ⟨m, hm, final, ?_, htold⟩
  exact (htimed.field rfl (Headers.ordered_ofList _)).found _ (by decide +kernel)

end Run
end ApiGateway
