import RailwayBooking.ApiGateway.Identity
import RailwayBooking.Resilience.Thresholds

namespace RailwayBooking.ApiGateway

open Concurrency Resilience

def Flight.circuitName (f : Flight) : String := f.ticket.route.upstream.circuitName

/-- The circuit as a breaker alone, which has as many calls in flight as there are requests on
their way to the upstream, and whose calls have ended as those requests have. -/
structure Alone (circuitName : String) (g : Gateway) (w : Watch) : Prop where
  registered : g.breakers.registry circuitName = some ⟨breakerOptions circuitName, w.breaker⟩
  now : w.record.circuit.now = g.now
  inFlight : w.record.circuit.inFlight.length =
    g.proxied.countP (fun f => f.circuitName = circuitName)
  ended : w.record.completions.map Completion.success =
    (g.ended.filter (fun e => e.1 = circuitName)).map Prod.snd

variable {env : Env} {verify : JwtVerify} {lib : Libraries} {g g' : Gateway} {l : Label}
  {circuitName : String} {o : CircuitBreakerOptions} {w : Watch}

section Watching

theorem exists_watch {a : Circuit.Label} {k : Circuit} (h : w.record.circuit.step o a = some k) :
    ∃ w', Watch.step o w a = some w' ∧ w'.record.circuit = k ∧
      w'.record.completions.map Completion.success =
        w.record.completions.map Completion.success ++
          match a with
          | .settle _ success => [success]
          | _ => [] := by
  rw [Watch.step, Record.step, h]
  refine ⟨_, rfl, ?_⟩
  cases a with
  | settle i success => exact ⟨rfl, List.map_append⟩
  | execute | reset | forceOpen | forceHalfOpen | tick => exact ⟨rfl, (List.append_nil _).symm⟩

end Watching

section Calls

variable {b : CircuitBreaker} {e : CircuitBreakerError} {breakers : Breakers}

theorem registry_put_same (s : Breakers) (name : String) (r : Registered) :
    (s.put name r).registry name = some r := Function.update_self _ _ _

theorem registry_put_ne (s : Breakers) {name name' : String} (r : Registered) (hne : name' ≠ name) :
    (s.put name r).registry name' = s.registry name' := Function.update_of_ne hne _ _

theorem Alone.refused (h : Alone circuitName g w)
    (hx : w.breaker.execute (breakerOptions circuitName) g.now = (some e, b)) {s : Gateway}
    (hregistered : s.breakers.registry circuitName = some ⟨breakerOptions circuitName, b⟩)
    (hnow : s.now = g.now) (hproxied : s.proxied = g.proxied) (hended : s.ended = g.ended) :
    ∃ w', Watch.step (breakerOptions circuitName) w .execute = some w' ∧ Alone circuitName s w' := by
  have hstep : w.record.circuit.step (breakerOptions circuitName) .execute =
      some (w.record.circuit.put b) := by
    rw [Circuit.step, h.now, hx]
  obtain ⟨w', hw', hcircuit, hcompletions⟩ := exists_watch hstep
  refine ⟨w', hw', ?_, ?_, ?_, ?_⟩
  · rw [hregistered, Watch.breaker, hcircuit, Circuit.put_breaker]
  · rw [hcircuit, hnow]
    exact h.now
  · rw [hcircuit, hproxied]
    exact h.inFlight
  · rw [hcompletions, hended, List.append_nil]
    exact h.ended

theorem Alone.sent (h : Alone circuitName g w)
    (hx : w.breaker.execute (breakerOptions circuitName) g.now = (none, b)) {s : Gateway} {f : Flight}
    (hregistered : s.breakers.registry circuitName = some ⟨breakerOptions circuitName, b⟩)
    (hnow : s.now = g.now) (hproxied : s.proxied = g.proxied ++ [f])
    (hf : f.circuitName = circuitName) (hended : s.ended = g.ended) :
    ∃ w', Watch.step (breakerOptions circuitName) w .execute = some w' ∧ Alone circuitName s w' := by
  have hstep : w.record.circuit.step (breakerOptions circuitName) .execute =
      some { w.record.circuit.put b with
        inFlight := w.record.circuit.inFlight ++ [(w.record.circuit.put b).trialOf] } := by
    rw [Circuit.step, h.now, hx]
  obtain ⟨w', hw', hcircuit, hcompletions⟩ := exists_watch hstep
  refine ⟨w', hw', ?_, ?_, ?_, ?_⟩
  · rw [hregistered, Watch.breaker, hcircuit]
    rfl
  · rw [hcircuit, hnow]
    exact h.now
  · rw [hcircuit, hproxied, List.countP_append, List.countP_singleton, List.length_append, h.inFlight]
    simp [hf]
  · rw [hcompletions, hended, List.append_nil]
    exact h.ended

theorem Alone.settled (h : Alone circuitName g w) {i : Nat} {f : Flight} (success : Bool)
    (hfound : g.proxied[i]? = some f) (hf : f.circuitName = circuitName) {s : Gateway}
    (hregistered : s.breakers.registry circuitName = some ⟨breakerOptions circuitName,
      if success then w.breaker.handleSuccess (breakerOptions circuitName) g.now
      else w.breaker.handleFailure (breakerOptions circuitName) g.now⟩)
    (hnow : s.now = g.now) (hproxied : s.proxied = g.proxied.eraseIdx i)
    (hended : s.ended = g.ended ++ [(circuitName, success)]) :
    ∃ j w', Watch.step (breakerOptions circuitName) w (.settle j success) = some w' ∧
      Alone circuitName s w' := by
  have hlt := countP_take_lt (p := fun f => decide (f.circuitName = circuitName)) hfound (by simpa using hf)
  rw [← h.inFlight] at hlt
  have hstep : w.record.circuit.step (breakerOptions circuitName) (.settle _ success) = some _ :=
    if_pos hlt
  obtain ⟨w', hw', hcircuit, hcompletions⟩ := exists_watch hstep
  refine ⟨_, w', hw', ?_, ?_, ?_, ?_⟩
  · have hbreaker : w'.breaker = w.record.circuit.settled (breakerOptions circuitName) success :=
      congrArg Circuit.breaker hcircuit
    rw [hregistered, hbreaker, Circuit.settled, h.now]
  · rw [hcircuit, hnow]
    exact h.now
  · have herased := countP_eraseIdx (p := fun f => decide (f.circuitName = circuitName)) hfound
    rw [hcircuit, hproxied, List.length_eraseIdx_of_lt hlt, h.inFlight, ← herased]
    simp [hf]
  · rw [hcompletions, hended, List.filter_append, List.map_append, h.ended]
    simp

end Calls

section Runs

theorem Alone.step (h : Alone circuitName g w) (hm : Gateway.Moved env verify lib g l g') :
    Alone circuitName g' w ∨ ∃ a w', w.Calls a ∧
      Watch.step (breakerOptions circuitName) w a = some w' ∧ Alone circuitName g' w' := by
  cases hm with
  | answered | accepted | unreached | consumed | dismissed =>
    exact .inl ⟨h.registered, h.now, h.inFlight, h.ended⟩
  | @refused i t _ r e breaker replies _ hregistered hexecute =>
    by_cases hc : t.route.upstream.circuitName = circuitName
    · subst hc
      obtain rfl := Option.some.inj (hregistered.symm.trans h.registered)
      obtain ⟨w', hw', halone⟩ := h.refused hexecute (s := { g with
        limited := g.limited.eraseIdx i
        breakers := g.breakers.put t.route.upstream.circuitName ⟨breakerOptions _, breaker⟩
        replies }) (registry_put_same _ _ _) rfl rfl rfl
      exact .inr ⟨.execute, w', trivial, hw', halone⟩
    · refine .inl ⟨?_, h.now, h.inFlight, h.ended⟩
      exact (registry_put_ne _ _ (Ne.symm hc)).trans h.registered
  | @sent i t _ r breaker _ res _ _ hregistered hexecute f hflight =>
    have hf : f.circuitName = t.route.upstream.circuitName := by
      rw [hflight]
      rfl
    by_cases hc : t.route.upstream.circuitName = circuitName
    · subst hc
      obtain rfl := Option.some.inj (hregistered.symm.trans h.registered)
      obtain ⟨w', hw', halone⟩ := h.sent hexecute (f := f) (s := { g with
        limited := g.limited.eraseIdx i
        breakers := g.breakers.put t.route.upstream.circuitName ⟨breakerOptions _, breaker⟩
        proxied := g.proxied ++ [f]
        forwarded := g.forwarded ++ [f] }) (registry_put_same _ _ _) rfl rfl hf rfl
      exact .inr ⟨.execute, w', trivial, hw', halone⟩
    · refine .inl ⟨(registry_put_ne _ _ (Ne.symm hc)).trans h.registered, h.now, ?_, h.ended⟩
      rw [h.inFlight, List.countP_append, List.countP_singleton]
      simp [hf, hc]
  | @settled i outcome success f r replies hfound hregistered =>
    by_cases hc : f.circuitName = circuitName
    · subst hc
      obtain rfl := Option.some.inj (hregistered.symm.trans h.registered)
      obtain ⟨j, w', hw', halone⟩ := h.settled success hfound rfl (s := { g with
        breakers := g.breakers.put f.circuitName ⟨breakerOptions _,
          if success then w.breaker.handleSuccess _ g.now else w.breaker.handleFailure _ g.now⟩
        proxied := g.proxied.eraseIdx i
        ended := g.ended ++ [(f.circuitName, success)]
        replies }) (registry_put_same _ _ _) rfl rfl rfl
      exact .inr ⟨.settle j success, w', trivial, hw', halone⟩
    · have hname : f.ticket.route.upstream.circuitName ≠ circuitName := hc
      refine .inl ⟨(registry_put_ne _ _ (Ne.symm hc)).trans h.registered, h.now, ?_, ?_⟩
      · have herased := countP_eraseIdx (p := fun f => decide (f.circuitName = circuitName)) hfound
        rw [h.inFlight, ← herased]
        simp [hc]
      · rw [h.ended, List.filter_append, List.map_append]
        simp [hname]
  | ticked d =>
    have hstep : w.record.circuit.step (breakerOptions circuitName) (.tick d) =
        some { w.record.circuit with now := w.record.circuit.now + d } := rfl
    obtain ⟨w', hw', hcircuit, hcompletions⟩ := exists_watch hstep
    refine .inr ⟨.tick d, w', trivial, hw', ?_, ?_, ?_, ?_⟩
    · rw [Watch.breaker, hcircuit]
      exact h.registered
    · rw [hcircuit, h.now]
    · rw [hcircuit]
      exact h.inFlight
    · rw [hcompletions, List.append_nil]
      exact h.ended

/-- The routes are mounted without an error, each upstream with a breaker of its own; and from then
on this breaker is in a state that it reaches alone, with the calls and the ends of the requests to
its upstream, whatever becomes of the requests to the others. -/
theorem alone_of_reaches (env : Env) (verify : JwtVerify) (lib : Libraries) (now : Nat) :
    (∃ breakers, mountRoutes env now = .ok breakers ∧ ∀ r ∈ routes env,
      breakers.registry r.upstream.circuitName =
        some ⟨breakerOptions r.upstream.circuitName, .create now⟩) ∧
    ∀ g, Gateway.Reaches env verify lib now g → ∀ r ∈ routes env, ∃ w,
      System.Run (Watch.system (breakerOptions r.upstream.circuitName)) Watch.Calls
        (Watch.init now) w ∧ Alone r.upstream.circuitName g w := by
  obtain ⟨breakers, hmount, hmounted, hnames⟩ := mountRoutes_ok env now
  have hregistered : ∀ r ∈ routes env, breakers.registry r.upstream.circuitName =
      some ⟨breakerOptions r.upstream.circuitName, .create now⟩ := by
    intro r hr
    rw [hmounted, if_pos (hnames r hr)]
  refine ⟨⟨breakers, hmount, hregistered⟩, ?_⟩
  rintro g ⟨breakers', hmount', hrun⟩ r hr
  obtain rfl := Except.ok.inj (hmount.symm.trans hmount')
  have hstart : Alone r.upstream.circuitName (Gateway.init now breakers) (Watch.init now) :=
    ⟨hregistered r hr, rfl, rfl, rfl⟩
  refine hrun.invariant (I := fun g : Gateway => ∃ w, System.Run (Watch.system _) Watch.Calls
    (Watch.init now) w ∧ Alone r.upstream.circuitName g w) ⟨Watch.init now, .start, hstart⟩ ?_
  rintro g l g' - ⟨w, hw, halone⟩ - hstep
  obtain hsame | ⟨a, w', ha, hw', halone'⟩ := halone.step (Gateway.moved hstep)
  · exact ⟨w, hw, hsame⟩
  · exact ⟨w', hw.step ha hw', halone'⟩

def sampleWebhook : RouteConfig :=
  ⟨"/api/v1/payments/webhook", Upstreams.payment sampleEnv, .none, .default, []⟩

def sampleQuery : Incoming := ⟨"GET", "/api/v1/search/stations?q=a", [], [], none⟩

/-- Five requests to the search service fail while Redis is away, the sixth one is refused, and a
webhook of the payments gets through. -/
theorem alone_beside_failures : ∃ g,
    Gateway.Reaches sampleEnv sampleVerify sampleLibraries 0 g ∧ g.replies.map (fun r => r.answer) =
      List.replicate 5 (failure "search-service" none) ++
        [failure "search-service" (some .opened), .upstream 200] ∧
    ∃ w, System.Run (Watch.system (breakerOptions "payment-service")) Watch.Calls (Watch.init 0) w ∧
      Alone "payment-service" g w := by
  obtain ⟨g, hg, ht⟩ := Gateway.exists_reaches sampleEnv sampleVerify sampleLibraries 0
    ((List.replicate 5 [.receive sampleQuery "a", .consume 0 .fault, .resume 0,
      .settle 0 (.proxyError false)]).flatten ++
      [.receive sampleQuery "b", .consume 0 .lost, .resume 0,
        .receive ⟨"POST", "/api/v1/payments/webhook", [], [], none⟩ "c", .consume 0 .ok, .resume 0,
        .settle 0 (.closed 200)])
    (fun g => decide (g.replies.map (fun r => r.answer) =
      List.replicate 5 (failure "search-service" none) ++
        [failure "search-service" (some .opened), .upstream 200]))
    (by decide +kernel)
  have hr : sampleWebhook ∈ routes sampleEnv := by simp [routes, sampleWebhook]
  have halone := (alone_of_reaches sampleEnv sampleVerify sampleLibraries 0).2 g hg
  exact ⟨g, hg, of_decide_eq_true ht, halone sampleWebhook hr⟩

end Runs

end RailwayBooking.ApiGateway
