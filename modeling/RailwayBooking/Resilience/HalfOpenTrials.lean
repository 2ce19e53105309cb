import Mathlib.Data.List.Perm.Basic
import RailwayBooking.Concurrency.Transition
import RailwayBooking.Resilience.CircuitBreaker

namespace RailwayBooking.Resilience

open Concurrency System

/-- A breaker with the calls that wait for their operations. The half-open periods are
counted, and a call remembers which of them admitted it as a trial. -/
structure Circuit where
  now : Nat
  breaker : CircuitBreaker
  period : Nat
  inFlight : List (Option Nat)
  deriving DecidableEq

namespace Circuit

inductive Label
  | execute
  | settle (i : Nat) (success : Bool)
  | reset
  | forceOpen
  | forceHalfOpen
  | tick (d : Nat)

variable (o : CircuitBreakerOptions)

/-- A half-open period begins where the breaker turns half-open. -/
def put (s : Circuit) (b : CircuitBreaker) : Circuit :=
  { s with
    breaker := b
    period :=
      if b.state = .halfOpen ∧ s.breaker.state ≠ .halfOpen then s.period + 1 else s.period }

def trialOf (s : Circuit) : Option Nat :=
  if s.breaker.state = .halfOpen then some s.period else none

def settled (s : Circuit) (success : Bool) : CircuitBreaker :=
  if success then s.breaker.handleSuccess o s.now else s.breaker.handleFailure o s.now

def step (s : Circuit) : Label → Option Circuit
  | .execute =>
    match s.breaker.execute o s.now with
    | (some _, b) => some (s.put b)
    | (none, b) => some { s.put b with inFlight := s.inFlight ++ [(s.put b).trialOf] }
  | .settle i success =>
    if i < s.inFlight.length then
      some { s.put (s.settled o success) with inFlight := s.inFlight.eraseIdx i }
    else none
  | .reset => some (s.put (s.breaker.reset s.now))
  | .forceOpen => some (s.put (s.breaker.forceOpen s.now))
  | .forceHalfOpen => some (s.put (s.breaker.forceHalfOpen s.now))
  | .tick d => some { s with now := s.now + d }

def init (now : Nat) : Circuit := ⟨now, .create now, 0, []⟩

@[reducible] def system : System := ⟨Circuit, Label, step o⟩

/-- The trials of the current half-open period that are in flight. -/
def trials (s : Circuit) : Nat := s.inFlight.count (some s.period)

/-- While trials are in flight and a success does not close the breaker, the calls that
succeed are trials of the period. -/
def OwnSuccess (s : Circuit) : Label → Prop
  | .settle i true => s.breaker.state = .halfOpen → s.inFlight[i]? ≠ some (some s.period) →
      s.breaker.activeTrialsCount = 0 ∨
        s.breaker.successCount + 1 ≥ o.successThreshold.getD 3
  | _ => True

/-- The counter of a half-open breaker counts the trials of the period. -/
structure Inv (s : Circuit) : Prop where
  periods : ∀ n, some n ∈ s.inFlight → n ≤ s.period
  counted : s.breaker.state = .halfOpen → s.breaker.activeTrialsCount = s.trials
  limited : s.breaker.state = .halfOpen → s.trials ≤ o.halfOpenMaxTrials.getD 3

end Circuit

section Breaker

variable {o : CircuitBreakerOptions} {now : Nat} {b : CircuitBreaker} {st : CircuitBreakerState}

@[simp] theorem transitionTo_state : (b.transitionTo now st).state = st := by
  unfold CircuitBreaker.transitionTo
  split
  · assumption
  · cases st <;> rfl

theorem transitionTo_same (h : b.state = st) : b.transitionTo now st = b := if_pos h

theorem transitionTo_count (h : b.state ≠ st) : (b.transitionTo now st).activeTrialsCount = 0 := by
  unfold CircuitBreaker.transitionTo
  rw [if_neg h]
  cases st <;> rfl

theorem checkRecovery_cases : b.checkRecovery o now = b ∨
    (b.state ≠ .halfOpen ∧ (b.checkRecovery o now).state = .halfOpen ∧
      (b.checkRecovery o now).activeTrialsCount = 0) := by
  unfold CircuitBreaker.checkRecovery
  split
  · next h =>
    have hne : b.state ≠ .halfOpen := by
      rw [h.1]
      exact CircuitBreakerState.noConfusion
    exact .inr ⟨hne, transitionTo_state, transitionTo_count hne⟩
  · exact .inl rfl

/-- What `execute` does with a breaker that has had its chance to recover. -/
inductive Admission (o : CircuitBreakerOptions) (b : CircuitBreaker) :
    Option CircuitBreakerError → CircuitBreaker → Prop
  | refused (e : CircuitBreakerError) : Admission o b (some e) b
  | closed (state : b.state = .closed) : Admission o b none b
  | trial (state : b.state = .halfOpen) (free : b.activeTrialsCount < o.halfOpenMaxTrials.getD 3) :
      Admission o b none { b with activeTrialsCount := b.activeTrialsCount + 1 }

theorem admission : Admission o (b.checkRecovery o now) (b.execute o now).1 (b.execute o now).2 := by
  unfold CircuitBreaker.execute
  dsimp only
  generalize b.checkRecovery o now = b'
  split
  · exact .refused _
  · next hb =>
    split
    · exact .refused _
    · next hfree => exact .trial hb (Nat.lt_of_not_le hfree)
  · next hb => exact .closed hb

/-- After a success the breaker is half-open only when it was so before and the success
did not close it. -/
theorem handleSuccess_halfOpen (h : (b.handleSuccess o now).state = .halfOpen) :
    b.state = .halfOpen ∧ b.successCount + 1 < o.successThreshold.getD 3 ∧
      (b.handleSuccess o now).activeTrialsCount = b.activeTrialsCount - 1 := by
  unfold CircuitBreaker.handleSuccess at h ⊢
  dsimp only at h ⊢
  split at h
  · next hb =>
    split at h
    · rw [transitionTo_state] at h
      cases h
    · next hlt =>
      rw [if_neg hlt]
      exact ⟨hb, by omega, rfl⟩
  · next hb =>
    rw [hb] at h
    cases h
  · next hb =>
    rw [hb] at h
    cases h

theorem handleFailure_not_halfOpen : (b.handleFailure o now).state ≠ .halfOpen := by
  unfold CircuitBreaker.handleFailure
  dsimp only
  split
  · rw [transitionTo_state]
    exact CircuitBreakerState.noConfusion
  · next hb =>
    split
    · rw [transitionTo_state]
      exact CircuitBreakerState.noConfusion
    · rw [hb]
      exact CircuitBreakerState.noConfusion
  · next hb =>
    rw [hb]
    exact CircuitBreakerState.noConfusion

end Breaker

namespace Circuit

variable {o : CircuitBreakerOptions} {s s' : Circuit} {b : CircuitBreaker}

section Put

@[simp] theorem put_breaker : (s.put b).breaker = b := rfl

@[simp] theorem put_inFlight : (s.put b).inFlight = s.inFlight := rfl

theorem put_period_of_eq (h : s.breaker.state = .halfOpen) : (s.put b).period = s.period :=
  if_neg fun hx => hx.2 h

theorem put_period_of_new (h : b.state = .halfOpen) (hs : s.breaker.state ≠ .halfOpen) :
    (s.put b).period = s.period + 1 :=
  if_pos ⟨h, hs⟩

theorem put_period_congr {b' : CircuitBreaker} (h : b'.state = b.state) :
    (s.put b').period = (s.put b).period := by
  simp only [put, h]

theorem period_le_put : s.period ≤ (s.put b).period := by
  by_cases h : b.state = .halfOpen ∧ s.breaker.state ≠ .halfOpen
  · rw [put_period_of_new h.1 h.2]
    exact Nat.le_succ _
  · exact Nat.le_of_eq (if_neg h).symm

theorem Inv.count_next (h : Inv o s) : s.inFlight.count (some (s.period + 1)) = 0 := by
  rw [List.count_eq_zero]
  intro hmem
  have hle := h.periods _ hmem
  omega

theorem Inv.put (h : Inv o s) (hb : b.state = .halfOpen →
    (s.breaker.state = .halfOpen ∧ b.activeTrialsCount = s.breaker.activeTrialsCount) ∨
      (s.breaker.state ≠ .halfOpen ∧ b.activeTrialsCount = 0)) : Inv o (s.put b) := by
  refine ⟨fun n hn => Nat.le_trans (h.periods n hn) period_le_put,
    fun (hhalf : b.state = .halfOpen) => ?_, fun (hhalf : b.state = .halfOpen) => ?_⟩
  · obtain ⟨hs, hcount⟩ | ⟨hs, hcount⟩ := hb hhalf
    · rw [put_breaker, hcount, h.counted hs, trials, trials, put_period_of_eq hs, put_inFlight]
    · rw [put_breaker, hcount, trials, put_period_of_new hhalf hs, put_inFlight, h.count_next]
  · obtain ⟨hs, hcount⟩ | ⟨hs, hcount⟩ := hb hhalf
    · rw [trials, put_period_of_eq hs, put_inFlight]
      exact h.limited hs
    · rw [trials, put_period_of_new hhalf hs, put_inFlight, h.count_next]
      exact Nat.zero_le _

end Put

section Steps

theorem Inv.admit (h : Inv o (s.put b)) (hb : b.state = .halfOpen)
    (hfree : b.activeTrialsCount < o.halfOpenMaxTrials.getD 3) :
    Inv o { s.put { b with activeTrialsCount := b.activeTrialsCount + 1 } with
      inFlight := s.inFlight ++ [some (s.put b).period] } := by
  have hperiod : (s.put { b with activeTrialsCount := b.activeTrialsCount + 1 }).period =
      (s.put b).period := put_period_congr rfl
  have hcount : b.activeTrialsCount = s.inFlight.count (some (s.put b).period) := h.counted hb
  have htrials : ∀ q, (s.inFlight ++ [some q]).count (some q) = s.inFlight.count (some q) + 1 := by
    simp
  refine ⟨fun n hn => ?_, fun _ => ?_, fun _ => ?_⟩
  · change n ≤ (s.put _).period
    rw [hperiod]
    obtain hn | hn := List.mem_append.mp hn
    · exact h.periods n hn
    · cases List.mem_singleton.mp hn
      exact Nat.le_refl _
  · change b.activeTrialsCount + 1 = (s.inFlight ++ _).count (some (s.put _).period)
    rw [hperiod, htrials, hcount]
  · change (s.inFlight ++ _).count (some (s.put _).period) ≤ _
    rw [hperiod, htrials, ← hcount]
    exact hfree

theorem Inv.execute (h : Inv o s) (hs : step o s .execute = some s') : Inv o s' := by
  have hrec : Inv o (s.put (s.breaker.checkRecovery o s.now)) := by
    apply h.put
    intro hhalf
    obtain hsame | ⟨hne, _, hcount⟩ := (checkRecovery_cases :
        s.breaker.checkRecovery o s.now = s.breaker ∨ _)
    · rw [hsame] at hhalf ⊢
      exact .inl ⟨hhalf, rfl⟩
    · exact .inr ⟨hne, hcount⟩
  have hadm : Admission o (s.breaker.checkRecovery o s.now) (s.breaker.execute o s.now).1
      (s.breaker.execute o s.now).2 := admission
  unfold Circuit.step at hs
  generalize s.breaker.execute o s.now = r at hadm hs
  generalize s.breaker.checkRecovery o s.now = b at hadm hrec
  obtain ⟨e, b'⟩ := r
  cases hadm with
  | refused e =>
    obtain rfl := Option.some.inj hs
    exact hrec
  | closed hb =>
    obtain rfl := Option.some.inj hs
    have hne : b'.state ≠ .halfOpen := by
      rw [hb]
      exact CircuitBreakerState.noConfusion
    refine ⟨fun n hn => ?_, fun hhalf => absurd hhalf hne, fun hhalf => absurd hhalf hne⟩
    obtain hn | hn := List.mem_append.mp hn
    · exact hrec.periods n hn
    · rw [trialOf, put_breaker, if_neg hne] at hn
      simp at hn
  | trial hb hfree =>
    obtain rfl := Option.some.inj hs
    have hperiod : (s.put { b with activeTrialsCount := b.activeTrialsCount + 1 }).period =
        (s.put b).period := put_period_congr rfl
    rw [trialOf, put_breaker, if_pos hb, hperiod]
    exact hrec.admit hb hfree

theorem count_eraseIdx {i : Nat} (hi : i < s.inFlight.length) (x : Option Nat) :
    (s.inFlight.eraseIdx i).count x + (if s.inFlight[i]? = some x then 1 else 0) =
      s.inFlight.count x := by
  rw [← (List.getElem_cons_eraseIdx_perm hi).count_eq x, List.count_cons, List.getElem?_eq_getElem hi]
  simp

/-- A call that succeeds leaves the counter right when it is a trial of the period, or
when it has no effect on it. -/
theorem Inv.settle_success (h : Inv o s) {i : Nat} (hi : i < s.inFlight.length)
    (hown : OwnSuccess o s (.settle i true)) :
    Inv o { s.put (s.breaker.handleSuccess o s.now) with inFlight := s.inFlight.eraseIdx i } := by
  have hmem : ∀ n, some n ∈ s.inFlight.eraseIdx i → n ≤ s.period :=
    fun n hn => h.periods n (List.mem_of_mem_eraseIdx hn)
  by_cases hhalf : (s.breaker.handleSuccess o s.now).state = .halfOpen
  · obtain ⟨hs, hlt, hcount⟩ := handleSuccess_halfOpen hhalf
    have herase := count_eraseIdx hi (some s.period)
    have hcounted := h.counted hs
    have hlimited := h.limited hs
    have hperiod := put_period_of_eq (b := s.breaker.handleSuccess o s.now) hs
    rw [trials] at hcounted hlimited
    have hnew : (s.inFlight.eraseIdx i).count (some s.period) = s.breaker.activeTrialsCount - 1 := by
      by_cases htrial : s.inFlight[i]? = some (some s.period)
      · rw [if_pos htrial] at herase
        omega
      · rw [if_neg htrial] at herase
        have hnone := hown hs htrial
        omega
    refine ⟨fun n hn => ?_, fun _ => ?_, fun _ => ?_⟩
    · change n ≤ (s.put _).period
      rw [hperiod]
      exact hmem n hn
    · change (s.breaker.handleSuccess o s.now).activeTrialsCount =
        (s.inFlight.eraseIdx i).count (some (s.put _).period)
      rw [hcount, hperiod, hnew]
    · change (s.inFlight.eraseIdx i).count (some (s.put _).period) ≤ _
      rw [hperiod, hnew]
      omega
  · refine ⟨fun n hn => ?_, fun hx => absurd hx hhalf, fun hx => absurd hx hhalf⟩
    exact Nat.le_trans (hmem n hn) period_le_put

theorem Inv.settle_failure (h : Inv o s) {i : Nat} :
    Inv o { s.put (s.breaker.handleFailure o s.now) with inFlight := s.inFlight.eraseIdx i } := by
  refine ⟨fun n hn => ?_, fun hx => absurd hx handleFailure_not_halfOpen,
    fun hx => absurd hx handleFailure_not_halfOpen⟩
  exact Nat.le_trans (h.periods n (List.mem_of_mem_eraseIdx hn)) period_le_put

theorem Inv.transitionTo (h : Inv o s) (st : CircuitBreakerState) :
    Inv o (s.put (s.breaker.transitionTo s.now st)) := by
  apply h.put
  intro hhalf
  by_cases hs : s.breaker.state = st
  · rw [transitionTo_same hs] at hhalf ⊢
    exact .inl ⟨hhalf, rfl⟩
  · refine .inr ⟨?_, transitionTo_count hs⟩
    rw [transitionTo_state] at hhalf
    rw [← hhalf]
    exact hs

theorem Inv.step (h : Inv o s) {a : Label} (ha : OwnSuccess o s a) (hs : step o s a = some s') :
    Inv o s' := by
  cases a with
  | execute => exact h.execute hs
  | settle i success =>
    simp only [Circuit.step] at hs
    split at hs
    · next hi =>
      obtain rfl := Option.some.inj hs
      cases success with
      | true => exact h.settle_success hi ha
      | false => exact h.settle_failure
    · cases hs
  | reset =>
    obtain rfl := Option.some.inj hs
    exact h.put fun hhalf => nomatch hhalf
  | forceOpen =>
    obtain rfl := Option.some.inj hs
    exact h.transitionTo _
  | forceHalfOpen =>
    obtain rfl := Option.some.inj hs
    exact h.transitionTo _
  | tick d =>
    obtain rfl := Option.some.inj hs
    exact ⟨h.periods, h.counted, h.limited⟩

theorem inv_init (o : CircuitBreakerOptions) (now : Nat) : Inv o (init now) :=
  ⟨fun _ h => absurd h List.not_mem_nil, fun h => (nomatch h), fun h => (nomatch h)⟩

end Steps

/-- In runs in which the successes of calls from before a half-open period do not count
as those of its trials, no more trials of a period are in flight than the breaker
admits. -/
theorem trials_le_of_ownSuccess {now : Nat} (h : Run (system o) (OwnSuccess o) (init now) s)
    (hs : s.breaker.state = .halfOpen) : s.trials ≤ o.halfOpenMaxTrials.getD 3 := by
  have hinv : Inv o s := h.invariant (inv_init o now) fun _ _ _ _ hi ha hstep => hi.step ha hstep
  exact hinv.limited hs

section Runs

def sampleOptions : CircuitBreakerOptions := .ofThresholds 1 3 1 (by decide)

def ownTest (s : Circuit) : Label → Bool
  | .settle i true => s.breaker.state ≠ .halfOpen || s.inFlight[i]? = some (some s.period)
  | _ => true

/-- A trial succeeds, and the next one is admitted. -/
theorem trials_le_recovered : ∃ s, Run (system sampleOptions) (OwnSuccess sampleOptions) (init 0) s ∧
    s.breaker.state = .halfOpen ∧ s.inFlight = [some 1] ∧ s.trials ≤ 1 := by
  obtain ⟨s, hs, ht⟩ := exists_run (T := system sampleOptions) (OwnSuccess sampleOptions) (init 0)
    ownTest [.execute, .settle 0 false, .tick 50, .execute, .settle 0 true, .execute]
    (fun s => decide (s.breaker.state = .halfOpen ∧ s.inFlight = [some 1]))
    (fun s a _ h => by
      unfold OwnSuccess
      split
      · intro hhalf hne
        simp [ownTest, hhalf, hne] at h
      · trivial)
    (by decide)
  obtain ⟨hhalf, hin⟩ := of_decide_eq_true ht
  exact ⟨s, hs, hhalf, hin, trials_le_of_ownSuccess hs hhalf⟩

/-- A call from before the breaker opened succeeds while the only trial is in flight, and
another trial is admitted. -/
theorem not_trials_le : ¬ ∀ (o : CircuitBreakerOptions) (now : Nat) (s : Circuit),
    Run (system o) (fun _ _ => True) (init now) s → s.breaker.state = .halfOpen →
      s.trials ≤ o.halfOpenMaxTrials.getD 3 := by
  intro hall
  obtain ⟨s, hs, ht⟩ := exists_run (T := system sampleOptions) (fun _ _ => True) (init 0)
    (fun _ _ => true)
    [.execute, .execute, .settle 1 false, .tick 50, .execute, .settle 0 true, .execute]
    (fun s => decide (s.breaker.state = .halfOpen ∧ s.trials = 2))
    (fun _ _ _ _ => trivial) (by decide)
  obtain ⟨hhalf, htwo⟩ := of_decide_eq_true ht
  have hle := hall sampleOptions 0 s hs hhalf
  rw [htwo] at hle
  exact absurd hle (by decide)

end Runs

end Circuit

end RailwayBooking.Resilience
