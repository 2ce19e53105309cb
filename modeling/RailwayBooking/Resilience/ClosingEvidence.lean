import RailwayBooking.Resilience.HalfOpenTrials

namespace RailwayBooking.Resilience

open Concurrency System

/-- A call that has completed: the half-open period of which it was a trial, the one in which
it completed, and how. -/
structure Completion where
  trial : Option Nat
  during : Option Nat
  success : Bool
  deriving DecidableEq

/-- A circuit with the calls that have completed. -/
structure Record where
  circuit : Circuit
  completions : List Completion
  deriving DecidableEq

namespace Record

variable (o : CircuitBreakerOptions)

/-- What `settle` puts on record. -/
def completion (s : Record) (i : Nat) (success : Bool) : Completion :=
  ⟨(s.circuit.inFlight[i]?).join, s.circuit.trialOf, success⟩

def step (s : Record) (a : Circuit.Label) : Option Record :=
  (s.circuit.step o a).map (fun circuit =>
    match a with
    | .settle i success => ⟨circuit, s.completions ++ [s.completion i success]⟩
    | _ => ⟨circuit, s.completions⟩)

def init (now : Nat) : Record := ⟨.init now, []⟩

@[reducible] def system : System := ⟨Record, Circuit.Label, step o⟩

/-- Calls through `execute`, with the time that passes. -/
def Calls (_ : Record) : Circuit.Label → Prop
  | .execute | .settle _ _ | .tick _ => True
  | .reset | .forceOpen | .forceHalfOpen => False

/-- Enough trials of the period have succeeded, and none has failed. -/
structure Evidence (s : Record) (period : Nat) : Prop where
  enough : o.successThreshold.getD 3 ≤
    s.completions.countP (fun c => c.trial = some period ∧ c.success)
  unfailed : ∀ c ∈ s.completions, c.trial = some period → c.success = true

/-- The success and those of its period before it are of trials of the period. -/
def OwnSuccesses (s : Record) : Circuit.Label → Prop
  | .settle i true => s.circuit.inFlight[i]? = some (some s.circuit.period) ∧
      ∀ c ∈ s.completions, c.during = some s.circuit.period → c.success = true →
        c.trial = some s.circuit.period
  | _ => True

/-- While the breaker is half-open, it counts the successes of the period, and there is
nothing else: no failure, and no trial that completed before. -/
structure Counted (s : Record) : Prop where
  count : s.circuit.breaker.successCount =
    s.completions.countP (fun c => c.during = some s.circuit.period ∧ c.success)
  below : s.circuit.breaker.successCount < o.successThreshold.getD 3
  unfailed : ∀ c ∈ s.completions, c.during = some s.circuit.period → c.success = true
  within : ∀ c ∈ s.completions, c.trial = some s.circuit.period →
    c.during = some s.circuit.period

structure Inv (s : Record) : Prop where
  inFlight : ∀ n, some n ∈ s.circuit.inFlight → n ≤ s.circuit.period
  trial : ∀ c ∈ s.completions, ∀ n ∈ c.trial, n ≤ s.circuit.period
  during : ∀ c ∈ s.completions, ∀ n ∈ c.during, n ≤ s.circuit.period
  counted : s.circuit.breaker.state = .halfOpen → s.Counted o

end Record

section Breaker

variable {o : CircuitBreakerOptions} {now : Nat} {b : CircuitBreaker}

theorem getD_pos {x : Option Nat} {d : Nat} (hx : x ≠ some 0) (hd : 0 < d) : 0 < x.getD d := by
  cases x with
  | none => exact hd
  | some n => exact Nat.pos_of_ne_zero fun hn => hx (congrArg some hn)

theorem successThreshold_pos (o : CircuitBreakerOptions) : 0 < o.successThreshold.getD 3 :=
  getD_pos (o.positive _ (by simp)) (Nat.zero_lt_succ 2)

theorem checkRecovery_count : b.checkRecovery o now = b ∨
    (b.state ≠ .halfOpen ∧ (b.checkRecovery o now).state = .halfOpen ∧
      (b.checkRecovery o now).successCount = 0) := by
  unfold CircuitBreaker.checkRecovery
  split
  · next hopen =>
    have hne : b.state ≠ .halfOpen := by
      rw [hopen.1]
      exact CircuitBreakerState.noConfusion
    refine .inr ⟨hne, transitionTo_state, ?_⟩
    unfold CircuitBreaker.transitionTo
    rw [if_neg hne]
  · exact .inl rfl

theorem handleSuccess_count (h : (b.handleSuccess o now).state = .halfOpen) :
    (b.handleSuccess o now).successCount = b.successCount + 1 := by
  have hstate := (handleSuccess_halfOpen h).1
  have hlt := (handleSuccess_halfOpen h).2.1
  unfold CircuitBreaker.handleSuccess
  rw [hstate]
  dsimp only
  rw [if_neg (Nat.not_le_of_lt hlt)]

theorem handleSuccess_closed (hb : b.state = .halfOpen)
    (h : (b.handleSuccess o now).state = .closed) :
    o.successThreshold.getD 3 ≤ b.successCount + 1 := by
  apply Nat.le_of_not_lt
  intro hlt
  unfold CircuitBreaker.handleSuccess at h
  rw [hb] at h
  dsimp only at h
  rw [if_neg (Nat.not_le_of_lt hlt)] at h
  cases h

theorem handleFailure_not_closed (hb : b.state = .halfOpen) :
    (b.handleFailure o now).state ≠ .closed := by
  unfold CircuitBreaker.handleFailure
  rw [hb]
  dsimp only
  rw [transitionTo_state]
  exact CircuitBreakerState.noConfusion

end Breaker

theorem countP_le_iff {α : Type} {p q : α → Bool} {l : List α} (h : ∀ x ∈ l, p x → q x) :
    l.countP q ≤ l.countP p ↔ ∀ x ∈ l, q x → p x := by
  refine ⟨fun hle => ?_, List.countP_mono_left⟩
  induction l with
  | nil => exact fun _ hx => absurd hx List.not_mem_nil
  | cons y l ih =>
    have hl : ∀ x ∈ l, p x → q x := fun x hx => h x (List.mem_cons_of_mem y hx)
    have hmono : l.countP p ≤ l.countP q := List.countP_mono_left hl
    have hy : p y → q y := h y List.mem_cons_self
    rw [List.countP_cons, List.countP_cons] at hle
    intro x hx hqx
    obtain rfl | hx := List.mem_cons.mp hx
    · by_contra hpx
      rw [if_pos hqx, if_neg hpx] at hle
      omega
    · refine ih hl ?_ x hx hqx
      by_cases hpy : p y
      · rw [if_pos hpy, if_pos (hy hpy)] at hle
        exact Nat.le_of_add_le_add_right hle
      · rw [if_neg hpy] at hle
        exact Nat.le_trans (Nat.le_add_right _ _) hle

namespace Circuit

variable {o : CircuitBreakerOptions} {s s' : Circuit}

/-- What calls do to the circuit. -/
inductive Moved (o : CircuitBreakerOptions) (s : Circuit) : Label → Circuit → Prop
  | refused : Moved o s .execute (s.put (s.breaker.checkRecovery o s.now))
  | started {b : CircuitBreaker} (state : b.state = (s.breaker.checkRecovery o s.now).state)
      (successes : b.successCount = (s.breaker.checkRecovery o s.now).successCount) :
      Moved o s .execute { s.put b with inFlight := s.inFlight ++ [(s.put b).trialOf] }
  | settled {i : Nat} {success : Bool} (hi : i < s.inFlight.length) :
      Moved o s (.settle i success)
        { s.put (s.settled o success) with inFlight := s.inFlight.eraseIdx i }
  | tick {d : Nat} : Moved o s (.tick d) { s with now := s.now + d }

theorem moved {a : Label} (ha : a ≠ .reset ∧ a ≠ .forceOpen ∧ a ≠ .forceHalfOpen)
    (hs : step o s a = some s') : Moved o s a s' := by
  cases a with
  | execute =>
    have hadm : Admission o (s.breaker.checkRecovery o s.now) (s.breaker.execute o s.now).1
        (s.breaker.execute o s.now).2 := admission
    unfold step at hs
    generalize s.breaker.execute o s.now = r at hadm hs
    obtain ⟨e, b⟩ := r
    cases hadm with
    | refused e =>
      obtain rfl := Option.some.inj hs
      exact .refused
    | closed hb =>
      obtain rfl := Option.some.inj hs
      exact .started rfl rfl
    | trial hb hfree =>
      obtain rfl := Option.some.inj hs
      exact .started rfl rfl
  | settle i success =>
    simp only [step] at hs
    split at hs
    · next hi =>
      obtain rfl := Option.some.inj hs
      exact .settled hi
    · cases hs
  | reset => exact absurd rfl ha.1
  | forceOpen => exact absurd rfl ha.2.1
  | forceHalfOpen => exact absurd rfl ha.2.2
  | tick d =>
    obtain rfl := Option.some.inj hs
    exact .tick

theorem Moved.period_le {a : Label} (h : Moved o s a s') : s.period ≤ s'.period := by
  cases h with
  | refused => exact period_le_put
  | started _ _ => exact period_le_put
  | settled _ => exact period_le_put
  | tick => exact Nat.le_refl _

theorem Moved.inFlight {a : Label} (h : Moved o s a s')
    (hs : ∀ n, some n ∈ s.inFlight → n ≤ s.period) : ∀ n, some n ∈ s'.inFlight → n ≤ s'.period := by
  have hle := h.period_le
  cases h with
  | refused => exact fun n hn => Nat.le_trans (hs n hn) hle
  | @started b _ _ =>
    intro n hn
    obtain hn | hn := List.mem_append.mp hn
    · exact Nat.le_trans (hs n hn) hle
    · have htrial : some n = (s.put b).trialOf := List.mem_singleton.mp hn
      unfold trialOf at htrial
      split at htrial
      · exact Nat.le_of_eq (Option.some.inj htrial)
      · cases htrial
  | settled _ => exact fun n hn => Nat.le_trans (hs n (List.mem_of_mem_eraseIdx hn)) hle
  | tick => exact hs

theorem Moved.halfOpen {a : Label} (h : Moved o s a s') (hs' : s'.breaker.state = .halfOpen) :
    (s.breaker.state = .halfOpen ∧ s'.period = s.period ∧
      ((∃ i, a = .settle i true ∧ s.breaker.successCount + 1 < o.successThreshold.getD 3 ∧
          s'.breaker.successCount = s.breaker.successCount + 1) ∨
        ((∀ i success, a ≠ .settle i success) ∧
          s'.breaker.successCount = s.breaker.successCount))) ∨
    (s'.period = s.period + 1 ∧ s'.breaker.successCount = 0 ∧ a = .execute) := by
  have hrec : ∀ b : CircuitBreaker, b.state = .halfOpen →
      b.state = (s.breaker.checkRecovery o s.now).state →
      b.successCount = (s.breaker.checkRecovery o s.now).successCount →
      (s.breaker.state = .halfOpen ∧ (s.put b).period = s.period ∧
          b.successCount = s.breaker.successCount) ∨
        ((s.put b).period = s.period + 1 ∧ b.successCount = 0) := by
    intro b hb hstate hcount
    obtain hsame | ⟨hne, _, hzero⟩ := (checkRecovery_count :
        s.breaker.checkRecovery o s.now = s.breaker ∨ _)
    · rw [hsame] at hstate hcount
      have hhalf := hstate.symm.trans hb
      exact .inl ⟨hhalf, put_period_of_eq hhalf, hcount⟩
    · exact .inr ⟨put_period_of_new hb hne, hcount.trans hzero⟩
  cases h with
  | refused =>
    obtain ⟨hhalf, hperiod, hcount⟩ | ⟨hperiod, hcount⟩ := hrec _ hs' rfl rfl
    · exact .inl ⟨hhalf, hperiod, .inr ⟨fun _ _ => Label.noConfusion, hcount⟩⟩
    · exact .inr ⟨hperiod, hcount, rfl⟩
  | started hstate hcount =>
    obtain ⟨hhalf, hperiod, hcount⟩ | ⟨hperiod, hcount⟩ := hrec _ hs' hstate hcount
    · exact .inl ⟨hhalf, hperiod, .inr ⟨fun _ _ => Label.noConfusion, hcount⟩⟩
    · exact .inr ⟨hperiod, hcount, rfl⟩
  | @settled i success hi =>
    cases success with
    | true =>
      obtain ⟨hhalf, hlt, _⟩ := handleSuccess_halfOpen hs'
      exact .inl ⟨hhalf, put_period_of_eq hhalf, .inl ⟨i, rfl, hlt, handleSuccess_count hs'⟩⟩
    | false => exact absurd hs' handleFailure_not_halfOpen
  | tick => exact .inl ⟨hs', rfl, .inr ⟨fun _ _ => Label.noConfusion, rfl⟩⟩

theorem Moved.closed {a : Label} (h : Moved o s a s') (hs : s.breaker.state = .halfOpen)
    (hs' : s'.breaker.state = .closed) :
    ∃ i, a = .settle i true ∧ i < s.inFlight.length ∧
      o.successThreshold.getD 3 ≤ s.breaker.successCount + 1 ∧ s'.period = s.period := by
  have hrec : (s.breaker.checkRecovery o s.now).state ≠ .closed := by
    obtain hsame | ⟨_, hhalf, _⟩ := (checkRecovery_count :
        s.breaker.checkRecovery o s.now = s.breaker ∨ _)
    · rw [hsame, hs]
      exact CircuitBreakerState.noConfusion
    · rw [hhalf]
      exact CircuitBreakerState.noConfusion
  cases h with
  | refused => exact absurd hs' hrec
  | started hstate _ => exact absurd (hstate.symm.trans hs') hrec
  | @settled i success hi =>
    cases success with
    | true => exact ⟨i, rfl, hi, handleSuccess_closed hs hs', put_period_of_eq hs⟩
    | false => exact absurd hs' (handleFailure_not_closed hs)
  | tick => cases hs.symm.trans hs'

end Circuit

namespace Record

variable {o : CircuitBreakerOptions} {s s' : Record} {a : Circuit.Label}

theorem step_cases (ha : Calls s a) (hs : step o s a = some s') :
    Circuit.Moved o s.circuit a s'.circuit ∧
      ((∃ i success, a = .settle i success ∧
          s'.completions = s.completions ++ [s.completion i success]) ∨
        ((∀ i success, a ≠ .settle i success) ∧ s'.completions = s.completions)) := by
  have hcalls : a ≠ .reset ∧ a ≠ .forceOpen ∧ a ≠ .forceHalfOpen := by
    cases a with
    | execute => simp
    | settle i success => simp
    | tick d => simp
    | reset => exact ha.elim
    | forceOpen => exact ha.elim
    | forceHalfOpen => exact ha.elim
  obtain ⟨circuit, hstep, rfl⟩ := Option.map_eq_some_iff.mp hs
  have hmoved := Circuit.moved hcalls hstep
  cases hmoved with
  | refused => exact ⟨.refused, .inr ⟨fun _ _ => Circuit.Label.noConfusion, rfl⟩⟩
  | started hstate hcount =>
    exact ⟨.started hstate hcount, .inr ⟨fun _ _ => Circuit.Label.noConfusion, rfl⟩⟩
  | settled hi => exact ⟨.settled hi, .inl ⟨_, _, rfl, rfl⟩⟩
  | tick => exact ⟨.tick, .inr ⟨fun _ _ => Circuit.Label.noConfusion, rfl⟩⟩

theorem completion_during {i : Nat} {success : Bool} (hs : s.circuit.breaker.state = .halfOpen) :
    (s.completion i success).during = some s.circuit.period := if_pos hs

theorem Inv.completion (h : Inv o s) {i : Nat} {success : Bool} :
    (∀ n ∈ (s.completion i success).trial, n ≤ s.circuit.period) ∧
      ∀ n ∈ (s.completion i success).during, n ≤ s.circuit.period := by
  refine ⟨fun n hn => ?_, fun n hn => ?_⟩
  · obtain hjoin := Option.join_eq_some_iff.mp hn
    exact h.inFlight n (List.mem_of_getElem? hjoin)
  · change s.circuit.trialOf = some n at hn
    unfold Circuit.trialOf at hn
    split at hn
    · exact Nat.le_of_eq (Option.some.inj hn).symm
    · cases hn

theorem Counted.succeed (h : s.Counted o) {i : Nat} (hs : s.circuit.breaker.state = .halfOpen)
    (hlt : s.circuit.breaker.successCount + 1 < o.successThreshold.getD 3)
    (hperiod : s'.circuit.period = s.circuit.period)
    (hcount : s'.circuit.breaker.successCount = s.circuit.breaker.successCount + 1)
    (hcompletions : s'.completions = s.completions ++ [s.completion i true]) : s'.Counted o := by
  have hduring : (s.completion i true).during = some s.circuit.period := completion_during hs
  refine ⟨?_, by rw [hcount]; exact hlt, fun c hc hd => ?_, fun c hc ht => ?_⟩
  · rw [hcount, hperiod, hcompletions, List.countP_append, ← h.count, List.countP_singleton,
      if_pos (decide_eq_true ⟨hduring, rfl⟩)]
  · rw [hperiod] at hd
    rw [hcompletions] at hc
    obtain hc | hc := List.mem_append.mp hc
    · exact h.unfailed c hc hd
    · rw [List.mem_singleton.mp hc]
      rfl
  · rw [hperiod] at ht ⊢
    rw [hcompletions] at hc
    obtain hc | hc := List.mem_append.mp hc
    · exact h.within c hc ht
    · rw [List.mem_singleton.mp hc]
      exact hduring

theorem Inv.begin (h : Inv o s) (hperiod : s'.circuit.period = s.circuit.period + 1)
    (hcount : s'.circuit.breaker.successCount = 0)
    (hcompletions : s'.completions = s.completions) : s'.Counted o := by
  have hduring : ∀ c ∈ s.completions, c.during ≠ some (s.circuit.period + 1) :=
    fun c hc hd => Nat.not_succ_le_self _ (h.during c hc _ hd)
  refine ⟨?_, by rw [hcount]; exact successThreshold_pos o, fun c hc hd => ?_, fun c hc ht => ?_⟩
  · rw [hcount, hperiod, hcompletions]
    refine (List.countP_eq_zero.mpr fun c hc hx => ?_).symm
    exact hduring c hc (of_decide_eq_true hx).1
  · rw [hperiod] at hd
    rw [hcompletions] at hc
    exact absurd hd (hduring c hc)
  · rw [hperiod] at ht
    rw [hcompletions] at hc
    exact absurd (h.trial c hc _ ht) (Nat.not_succ_le_self _)

theorem Inv.step (h : Inv o s) (ha : Calls s a) (hs : Record.step o s a = some s') : Inv o s' := by
  obtain ⟨hmoved, hcompletions⟩ := step_cases ha hs
  have hle := hmoved.period_le
  have hmem : ∀ c ∈ s'.completions,
      c ∈ s.completions ∨ ∃ i success, c = s.completion i success := by
    intro c hc
    obtain ⟨i, success, _, heq⟩ | ⟨_, heq⟩ := hcompletions
    · rw [heq] at hc
      obtain hc | hc := List.mem_append.mp hc
      · exact .inl hc
      · exact .inr ⟨i, success, List.mem_singleton.mp hc⟩
    · exact .inl (heq ▸ hc)
  refine ⟨hmoved.inFlight h.inFlight, fun c hc n hn => ?_, fun c hc n hn => ?_, fun hhalf => ?_⟩
  · obtain hc | ⟨i, success, rfl⟩ := hmem c hc
    · exact Nat.le_trans (h.trial c hc n hn) hle
    · exact Nat.le_trans (h.completion.1 n hn) hle
  · obtain hc | ⟨i, success, rfl⟩ := hmem c hc
    · exact Nat.le_trans (h.during c hc n hn) hle
    · exact Nat.le_trans (h.completion.2 n hn) hle
  · obtain ⟨hbefore, hperiod, ⟨i, rfl, hlt, hcount⟩ | ⟨hnone, hcount⟩⟩ | ⟨hperiod, hcount, rfl⟩ :=
      hmoved.halfOpen hhalf
    · obtain ⟨i, success, heq, hcompletions⟩ | ⟨hnone, _⟩ := hcompletions
      · cases heq
        exact (h.counted hbefore).succeed hbefore hlt hperiod hcount hcompletions
      · exact absurd rfl (hnone i true)
    · obtain ⟨i, success, heq, _⟩ | ⟨_, hcompletions⟩ := hcompletions
      · exact absurd heq (hnone i success)
      · obtain ⟨hc, hb, hu, hw⟩ := h.counted hbefore
        refine ⟨?_, ?_, ?_, ?_⟩
        · rw [hcount, hperiod, hcompletions, hc]
        · rw [hcount]
          exact hb
        · rw [hcompletions, hperiod]
          exact hu
        · rw [hcompletions, hperiod]
          exact hw
    · obtain ⟨i, success, heq, _⟩ | ⟨_, hcompletions⟩ := hcompletions
      · cases heq
      · exact h.begin hperiod hcount hcompletions

theorem inv_init (o : CircuitBreakerOptions) (now : Nat) : Inv o (init now) :=
  ⟨fun _ h => absurd h List.not_mem_nil, fun _ h => absurd h List.not_mem_nil,
    fun _ h => absurd h List.not_mem_nil, fun h => (nomatch h)⟩

/-- With the closing success, as many successes of the period are on record as are needed.
They are evidence when they are those of its trials. -/
theorem Inv.evidence_iff (h : Inv o s) {i : Nat} (hs : s.circuit.breaker.state = .halfOpen)
    (hle : o.successThreshold.getD 3 ≤ s.circuit.breaker.successCount + 1)
    (hperiod : s'.circuit.period = s.circuit.period)
    (hcompletions : s'.completions = s.completions ++ [s.completion i true]) :
    s'.Evidence o s'.circuit.period ↔ s.OwnSuccesses (.settle i true) := by
  obtain ⟨hcount, hbelow, hunfailed, hwithin⟩ := h.counted hs
  have hduring : (s.completion i true).during = some s.circuit.period := completion_during hs
  have hunfailed' : ∀ c ∈ s'.completions, c.during = some s.circuit.period → c.success = true := by
    rw [hcompletions]
    intro c hc hd
    obtain hc | hc := List.mem_append.mp hc
    · exact hunfailed c hc hd
    · rw [List.mem_singleton.mp hc]
      rfl
  have hwithin' : ∀ c ∈ s'.completions, c.trial = some s.circuit.period →
      c.during = some s.circuit.period := by
    rw [hcompletions]
    intro c hc ht
    obtain hc | hc := List.mem_append.mp hc
    · exact hwithin c hc ht
    · rw [List.mem_singleton.mp hc]
      exact hduring
  have hthreshold : o.successThreshold.getD 3 = s'.completions.countP
      (fun c => c.during = some s.circuit.period ∧ c.success) := by
    rw [hcompletions, List.countP_append, ← hcount, List.countP_singleton,
      if_pos (decide_eq_true ⟨hduring, rfl⟩)]
    omega
  have hown : s'.Evidence o s'.circuit.period ↔ ∀ c ∈ s'.completions,
      (c.during = some s.circuit.period ∧ c.success = true) →
        c.trial = some s.circuit.period ∧ c.success = true := by
    have hcounts := countP_le_iff (l := s'.completions)
      (p := fun c => c.trial = some s.circuit.period ∧ c.success)
      (q := fun c => c.during = some s.circuit.period ∧ c.success)
      (fun c hc hp => by
        have hp := of_decide_eq_true hp
        exact decide_eq_true ⟨hwithin' c hc hp.1, hp.2⟩)
    rw [← hthreshold] at hcounts
    simp only [decide_eq_true_eq] at hcounts
    rw [hperiod, ← hcounts]
    exact ⟨fun he => he.enough, fun he => ⟨he, fun c hc ht => hunfailed' c hc (hwithin' c hc ht)⟩⟩
  have htrial : (s.completion i true).trial = some s.circuit.period ↔
      s.circuit.inFlight[i]? = some (some s.circuit.period) := Option.join_eq_some_iff
  rw [hown, hcompletions]
  refine ⟨fun hall => ⟨htrial.mp ?_, fun c hc hd hok => ?_⟩, fun ⟨hlast, hall⟩ c hc hx => ?_⟩
  · exact (hall _ (List.mem_append_right _ (List.mem_singleton_self _)) ⟨hduring, rfl⟩).1
  · exact (hall c (List.mem_append_left _ hc) ⟨hd, hok⟩).1
  · obtain hc | hc := List.mem_append.mp hc
    · exact ⟨hall c hc hx.1 hx.2, hx.2⟩
    · rw [List.mem_singleton.mp hc]
      exact ⟨htrial.mpr hlast, rfl⟩

/-- In any run of calls, a half-open breaker closes on evidence exactly when the success
that closes it, and those counted before it in the period, are of trials of the period. -/
theorem evidence_iff_ownSuccesses {now : Nat} (h : Run (system o) Calls (init now) s)
    (ha : Calls s a) (hs : step o s a = some s') (hhalf : s.circuit.breaker.state = .halfOpen)
    (hclosed : s'.circuit.breaker.state = .closed) :
    s'.Evidence o s'.circuit.period ↔ s.OwnSuccesses a := by
  have hinv : Inv o s := h.invariant (inv_init o now) fun _ _ _ _ hi ha hstep => hi.step ha hstep
  obtain ⟨hmoved, hcompletions⟩ := step_cases ha hs
  obtain ⟨i, rfl, _, hle, hperiod⟩ := hmoved.closed hhalf hclosed
  obtain ⟨i, success, heq, hcompletions⟩ | ⟨hnone, _⟩ := hcompletions
  · cases heq
    exact hinv.evidence_iff hhalf hle hperiod hcompletions
  · exact absurd rfl (hnone i true)

section Runs

def sampleOptions : CircuitBreakerOptions := .ofThresholds 1 1 2 (by decide)

def callTest (_ : Record) : Circuit.Label → Bool
  | .execute | .settle _ _ | .tick _ => true
  | .reset | .forceOpen | .forceHalfOpen => false

theorem calls_of_callTest {s : Record} (h : callTest s a = true) : Calls s a := by
  cases a with
  | execute => trivial
  | settle i success => trivial
  | tick d => trivial
  | reset => cases h
  | forceOpen => cases h
  | forceHalfOpen => cases h

def probed : List Circuit.Label := [.execute, .execute, .settle 1 false, .tick 50, .execute]

/-- The trial succeeds, and the breaker closes on it. -/
theorem evidence_probed : ∃ s s', Run (system sampleOptions) Calls (init 0) s ∧
    step sampleOptions s (.settle 1 true) = some s' ∧ s.circuit.breaker.state = .halfOpen ∧
    s'.circuit.breaker.state = .closed ∧ s'.Evidence sampleOptions s'.circuit.period := by
  obtain ⟨s, hrun, ht⟩ := exists_run (T := system sampleOptions) Calls (init 0) callTest probed
    (fun s => decide (s.circuit.breaker.state = .halfOpen ∧
      s.circuit.inFlight[1]? = some (some s.circuit.period) ∧
      (∀ c ∈ s.completions, c.during = some s.circuit.period → c.success = true →
        c.trial = some s.circuit.period) ∧
      (step sampleOptions s (.settle 1 true)).any (fun s' => s'.circuit.breaker.state = .closed)))
    (fun s a _ h => calls_of_callTest h) (by decide)
  obtain ⟨hhalf, hlast, hown, hnext⟩ := of_decide_eq_true ht
  obtain ⟨s', hstep, hclosed⟩ := (Option.any_eq_true _ _).mp hnext
  have hclosed := of_decide_eq_true hclosed
  exact ⟨s, s', hrun, hstep, hhalf, hclosed,
    (evidence_iff_ownSuccesses (a := .settle 1 true) hrun trivial hstep hhalf hclosed).mpr
      ⟨hlast, hown⟩⟩

/-- The other call succeeds, and the breaker closes without a trial that has completed. -/
theorem not_evidence : ¬ ∀ (o : CircuitBreakerOptions) (now : Nat) (s s' : Record)
    (a : Circuit.Label), Run (system o) Calls (init now) s → Calls s a → step o s a = some s' →
    s.circuit.breaker.state = .halfOpen → s'.circuit.breaker.state = .closed →
      s'.Evidence o s'.circuit.period := by
  intro hall
  obtain ⟨s, hrun, ht⟩ := exists_run (T := system sampleOptions) Calls (init 0) callTest probed
    (fun s : Record => decide (s.circuit.breaker.state = .halfOpen) &&
      (step sampleOptions s (.settle 0 true)).any (fun s' : Record =>
        decide (s'.circuit.breaker.state = .closed ∧
          s'.completions.countP
            (fun c : Completion => c.trial = some s'.circuit.period ∧ c.success) = 0)))
    (fun s a _ h => calls_of_callTest h) (by decide)
  obtain ⟨hhalf, hnext⟩ := Bool.and_eq_true_iff.mp ht
  obtain ⟨s', hstep, hs'⟩ := (Option.any_eq_true _ _).mp hnext
  obtain ⟨hclosed, hnone⟩ := of_decide_eq_true hs'
  have henough := (hall sampleOptions 0 s s' (.settle 0 true) hrun trivial hstep
    (of_decide_eq_true hhalf) hclosed).enough
  rw [hnone] at henough
  exact absurd henough (by decide)

end Runs

end Record

end RailwayBooking.Resilience
