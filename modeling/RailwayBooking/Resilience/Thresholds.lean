import RailwayBooking.Resilience.ClosingEvidence

namespace RailwayBooking.Resilience

open Concurrency System

/-- A record with the number of completions at which the breaker last became closed, and the
time at which it last opened. -/
structure Watch where
  record : Record
  closedFrom : Nat
  openedAt : Nat
  deriving DecidableEq

def Circuit.Covered (s : Circuit) : Prop :=
  s.breaker.state = .halfOpen → s.breaker.activeTrialsCount ≤ s.trials

namespace Watch

variable (o : CircuitBreakerOptions)

abbrev breaker (s : Watch) : CircuitBreaker := s.record.circuit.breaker

def step (s : Watch) (a : Circuit.Label) : Option Watch :=
  (s.record.step o a).map (fun record =>
    { record
      closedFrom :=
        if record.circuit.breaker.state = .closed ∧ s.breaker.state ≠ .closed then
          record.completions.length
        else s.closedFrom
      openedAt :=
        if record.circuit.breaker.state = .opened ∧ s.breaker.state ≠ .opened then
          s.record.circuit.now
        else s.openedAt })

def init (now : Nat) : Watch := ⟨.init now, 0, 0⟩

@[reducible] def system : System := ⟨Watch, Circuit.Label, step o⟩

def Calls (s : Watch) (a : Circuit.Label) : Prop := Record.Calls s.record a

/-- How the calls have ended that completed since the breaker last became closed. -/
def outcomes (s : Watch) : List Bool := (s.record.completions.drop s.closedFrom).map (·.success)

/-- A call that starts now is let through to its operation. -/
def Admits (s : Watch) : Prop := (s.breaker.execute o s.record.circuit.now).1 = none

/-- The breaker opens at the threshold, stays shut until it may recover, and does not count
trials that are gone. -/
structure Punctual (s : Watch) : Prop where
  opens : ∀ a s', s.Calls a → step o s a = some s' → s.breaker.state = .closed →
    (s'.breaker.state = .opened ↔
      List.replicate (o.failureThreshold.getD 5) false <:+ s'.outcomes)
  shut : s.breaker.state = .opened →
    s.record.circuit.now < s.openedAt + o.recoveryTimeout.getD 60000 → ¬ s.Admits o
  counted : s.breaker.state = .halfOpen → s.breaker.activeTrialsCount ≤ s.record.circuit.trials
  free : s.breaker.state = .halfOpen → s.record.circuit.trials = 0 → s.Admits o

structure Tail (s : Watch) : Prop where
  below : s.breaker.failureCount < o.failureThreshold.getD 5
  count : ∀ k, List.replicate k false <:+ s.outcomes ↔ k ≤ s.breaker.failureCount

structure Inv (s : Watch) : Prop where
  closedFrom : s.closedFrom ≤ s.record.completions.length
  tail : s.breaker.state = .closed → s.Tail o
  openedAt : s.breaker.state = .opened → s.breaker.lastOpenTime = s.openedAt
  covered : s.record.circuit.Covered

end Watch

section Failures

variable {l : List Bool} {k : Nat}

theorem replicate_false_suffix_success :
    List.replicate k false <:+ l ++ [true] ↔ k = 0 := by
  cases k with
  | zero => simp
  | succ k =>
    rw [List.replicate_succ', List.suffix_concat_iff]
    simp

theorem replicate_false_suffix_failure :
    List.replicate (k + 1) false <:+ l ++ [false] ↔ List.replicate k false <:+ l := by
  rw [List.replicate_succ', List.suffix_append_self_iff]

end Failures

section Breaker

variable {o : CircuitBreakerOptions} {now : Nat} {b : CircuitBreaker}

theorem failureThreshold_pos (o : CircuitBreakerOptions) : 0 < o.failureThreshold.getD 5 :=
  getD_pos (o.positive _ (by simp)) (Nat.zero_lt_succ 4)

theorem recoveryTimeout_pos (o : CircuitBreakerOptions) : 0 < o.recoveryTimeout.getD 60000 :=
  getD_pos (o.positive _ (by simp)) (Nat.zero_lt_succ 59999)

theorem halfOpenMaxTrials_pos (o : CircuitBreakerOptions) : 0 < o.halfOpenMaxTrials.getD 3 :=
  getD_pos (o.positive _ (by simp)) (Nat.zero_lt_succ 2)

theorem execute_same (h : (b.execute o now).2.state ≠ .halfOpen) : (b.execute o now).2 = b := by
  have hadm : Admission o (b.checkRecovery o now) (b.execute o now).1 (b.execute o now).2 :=
    admission
  have hrec : (b.checkRecovery o now).state ≠ .halfOpen → b.checkRecovery o now = b := by
    intro hne
    obtain hsame | ⟨_, hhalf, _⟩ := (checkRecovery_cases : b.checkRecovery o now = b ∨ _)
    · exact hsame
    · exact absurd hhalf hne
  generalize b.execute o now = r at h hadm
  obtain ⟨e, b'⟩ := r
  cases hadm with
  | refused e => exact hrec h
  | closed _ => exact hrec h
  | trial hhalf _ => exact absurd hhalf h

theorem handleSuccess_failures (hb : b.state = .closed) :
    (b.handleSuccess o now).state = .closed ∧ (b.handleSuccess o now).failureCount = 0 := by
  unfold CircuitBreaker.handleSuccess
  rw [hb]
  exact ⟨rfl, rfl⟩

theorem handleSuccess_fresh (hb : b.state ≠ .closed) (h : (b.handleSuccess o now).state = .closed) :
    (b.handleSuccess o now).failureCount = 0 := by
  unfold CircuitBreaker.handleSuccess at h ⊢
  dsimp only at h ⊢
  split at h
  · next hhalf =>
    split at h
    · next hle =>
      rw [if_pos hle]
      unfold CircuitBreaker.transitionTo
      rw [if_neg hb]
    · exact absurd h hb
  · next hclosed => exact absurd hclosed hb
  · exact absurd h hb

theorem handleFailure_unclosed (hb : b.state ≠ .closed) :
    (b.handleFailure o now).state ≠ .closed := by
  by_cases hhalf : b.state = .halfOpen
  · exact handleFailure_not_closed hhalf
  · unfold CircuitBreaker.handleFailure
    dsimp only
    split
    · next h => exact absurd h hhalf
    · next h => exact absurd h hb
    · exact hb

theorem handleFailure_closed (o : CircuitBreakerOptions) (now : Nat) (hb : b.state = .closed) :
    (o.failureThreshold.getD 5 ≤ b.failureCount + 1 ∧
        (b.handleFailure o now).state = .opened) ∨
      (b.failureCount + 1 < o.failureThreshold.getD 5 ∧
        (b.handleFailure o now).state = .closed ∧
        (b.handleFailure o now).failureCount = b.failureCount + 1) := by
  unfold CircuitBreaker.handleFailure
  rw [hb]
  dsimp only
  split
  · next hle => exact .inl ⟨hle, transitionTo_state⟩
  · next hlt => exact .inr ⟨Nat.lt_of_not_le hlt, rfl, rfl⟩

theorem settled_openTime {success : Bool}
    (h : (if success then b.handleSuccess o now else b.handleFailure o now).state = .opened) :
    (if success then b.handleSuccess o now else b.handleFailure o now).lastOpenTime =
      if b.state = .opened then b.lastOpenTime else now := by
  have hopen : ∀ b' : CircuitBreaker, b'.state ≠ .opened →
      (b'.transitionTo now .opened).lastOpenTime = now := by
    intro b' hb'
    unfold CircuitBreaker.transitionTo
    rw [if_neg hb']
  cases success with
  | true =>
    simp only [if_true] at h ⊢
    unfold CircuitBreaker.handleSuccess at h ⊢
    dsimp only at h ⊢
    split at h
    · next hb =>
      split at h
      · rw [transitionTo_state] at h
        cases h
      · cases hb.symm.trans h
    · next hb => cases hb.symm.trans h
    · next hb => rw [if_pos hb]
  | false =>
    simp only [Bool.false_eq_true, if_false] at h ⊢
    unfold CircuitBreaker.handleFailure at h ⊢
    dsimp only at h ⊢
    split at h
    · next hb =>
      have hne : b.state ≠ .opened := hb ▸ CircuitBreakerState.noConfusion
      rw [if_neg hne]
      exact hopen _ hne
    · next hb =>
      have hne : b.state ≠ .opened := hb ▸ CircuitBreakerState.noConfusion
      rw [if_neg hne]
      split at h
      · next hle =>
        rw [if_pos hle]
        exact hopen _ hne
      · exact absurd h hne
    · next hb => rw [if_pos hb]

theorem execute_shut (hb : b.state = .opened)
    (h : now < b.lastOpenTime + o.recoveryTimeout.getD 60000) :
    (b.execute o now).1 = some .opened := by
  have hpos := recoveryTimeout_pos o
  have hrec : b.checkRecovery o now = b := if_neg fun hx => by
    have hle := hx.2
    omega
  unfold CircuitBreaker.execute
  rw [hrec]
  dsimp only
  rw [hb]

theorem execute_free (hb : b.state = .halfOpen) (h : b.activeTrialsCount = 0) :
    (b.execute o now).1 = none := by
  have hrec : b.checkRecovery o now = b := if_neg fun hx => by
    rw [hb] at hx
    cases hx.1
  unfold CircuitBreaker.execute
  rw [hrec]
  dsimp only
  rw [hb, h]
  exact congrArg Prod.fst (if_neg (Nat.not_le_of_lt (halfOpenMaxTrials_pos o)))

end Breaker

namespace Circuit

variable {o : CircuitBreakerOptions} {s s' : Circuit} {b : CircuitBreaker}

theorem covered_of_ne (h : s.breaker.state ≠ .halfOpen) : s.Covered := fun hs => absurd hs h

theorem Covered.put (h : s.Covered) (hb : b.state = .halfOpen →
    (s.breaker.state = .halfOpen ∧ b.activeTrialsCount = s.breaker.activeTrialsCount) ∨
      b.activeTrialsCount = 0) : (s.put b).Covered := by
  intro (hhalf : b.state = .halfOpen)
  obtain ⟨hs, hcount⟩ | hcount := hb hhalf
  · rw [put_breaker, hcount, trials, put_period_of_eq hs]
    exact h hs
  · rw [put_breaker, hcount]
    exact Nat.zero_le _

theorem Covered.transitionTo (h : s.Covered) (st : CircuitBreakerState) :
    (s.put (s.breaker.transitionTo s.now st)).Covered := by
  apply h.put
  intro hhalf
  by_cases hs : s.breaker.state = st
  · rw [transitionTo_same hs] at hhalf ⊢
    exact .inl ⟨hhalf, rfl⟩
  · exact .inr (transitionTo_count hs)

theorem Covered.execute (h : s.Covered) (hs : step o s .execute = some s') : s'.Covered := by
  have hrec : (s.put (s.breaker.checkRecovery o s.now)).Covered := by
    apply h.put
    intro hhalf
    obtain hsame | ⟨_, _, hcount⟩ := (checkRecovery_cases :
        s.breaker.checkRecovery o s.now = s.breaker ∨ _)
    · rw [hsame] at hhalf ⊢
      exact .inl ⟨hhalf, rfl⟩
    · exact .inr hcount
  have hadm : Admission o (s.breaker.checkRecovery o s.now) (s.breaker.execute o s.now).1
      (s.breaker.execute o s.now).2 := admission
  unfold Circuit.step at hs
  generalize s.breaker.execute o s.now = r at hadm hs
  generalize s.breaker.checkRecovery o s.now = b at hadm hrec
  obtain ⟨e, b'⟩ := r
  cases hadm with
  | refused e =>
    obtain rfl := Option.some.inj hs
    exact hrec
  | closed hb =>
    obtain rfl := Option.some.inj hs
    exact covered_of_ne fun hhalf => CircuitBreakerState.noConfusion (hb.symm.trans hhalf)
  | trial hb hfree =>
    obtain rfl := Option.some.inj hs
    intro _
    -- the call that is counted is in flight
    have hperiod : (s.put { b with activeTrialsCount := b.activeTrialsCount + 1 }).period =
        (s.put b).period := put_period_congr rfl
    have hle : b.activeTrialsCount ≤ s.inFlight.count (some (s.put b).period) := hrec hb
    change b.activeTrialsCount + 1 ≤
      (s.inFlight ++ [(s.put _).trialOf]).count (some (s.put _).period)
    rw [trialOf, put_breaker, if_pos hb, hperiod, List.count_append, List.count_singleton_self]
    exact Nat.succ_le_succ hle

theorem Covered.settle (h : s.Covered) {i : Nat} {success : Bool} (hi : i < s.inFlight.length) :
    Covered { s.put (s.settled o success) with inFlight := s.inFlight.eraseIdx i } := by
  intro hhalf
  cases success with
  | false => exact absurd hhalf handleFailure_not_halfOpen
  | true =>
    obtain ⟨hs, _, hcount⟩ := handleSuccess_halfOpen hhalf
    have hle := h hs
    have herase := count_eraseIdx hi (some s.period)
    change (s.breaker.handleSuccess o s.now).activeTrialsCount ≤
      (s.inFlight.eraseIdx i).count (some (s.put (s.breaker.handleSuccess o s.now)).period)
    rw [hcount, put_period_of_eq hs]
    rw [trials] at hle
    split at herase <;> omega

theorem Covered.step (h : s.Covered) {a : Label} (hs : step o s a = some s') : s'.Covered := by
  cases a with
  | execute => exact h.execute hs
  | settle i success =>
    simp only [Circuit.step] at hs
    split at hs
    · next hi =>
      obtain rfl := Option.some.inj hs
      exact h.settle hi
    · cases hs
  | reset =>
    obtain rfl := Option.some.inj hs
    exact covered_of_ne CircuitBreakerState.noConfusion
  | forceOpen =>
    obtain rfl := Option.some.inj hs
    exact h.transitionTo _
  | forceHalfOpen =>
    obtain rfl := Option.some.inj hs
    exact h.transitionTo _
  | tick d =>
    obtain rfl := Option.some.inj hs
    exact h

end Circuit

namespace Watch

variable {o : CircuitBreakerOptions} {s s' : Watch} {a : Circuit.Label}

theorem step_cases (ha : s.Calls a) (hs : step o s a = some s') :
    (s'.record.completions = s.record.completions ∧
        (s'.breaker.state ≠ .halfOpen → s'.breaker = s.breaker)) ∨
      ∃ i success, s'.record.completions = s.record.completions ++ [s.record.completion i success] ∧
        s'.breaker = s.record.circuit.settled o success := by
  obtain ⟨record, hrecord, rfl⟩ := Option.map_eq_some_iff.mp hs
  obtain ⟨circuit, hcircuit, rfl⟩ := Option.map_eq_some_iff.mp hrecord
  cases a with
  | execute =>
    refine .inl ⟨rfl, fun (hne : circuit.breaker.state ≠ .halfOpen) => ?_⟩
    have hbreaker : circuit.breaker = (s.breaker.execute o s.record.circuit.now).2 := by
      unfold Circuit.step at hcircuit
      dsimp only at hcircuit
      split at hcircuit
      · next h =>
        obtain rfl := Option.some.inj hcircuit
        exact (congrArg Prod.snd h).symm
      · next h =>
        obtain rfl := Option.some.inj hcircuit
        exact (congrArg Prod.snd h).symm
    rw [hbreaker] at hne
    exact hbreaker.trans (execute_same hne)
  | settle i success =>
    simp only [Circuit.step] at hcircuit
    split at hcircuit
    · obtain rfl := Option.some.inj hcircuit
      exact .inr ⟨i, success, rfl, rfl⟩
    · cases hcircuit
  | reset => exact ha.elim
  | forceOpen => exact ha.elim
  | forceHalfOpen => exact ha.elim
  | tick d =>
    obtain rfl := Option.some.inj hcircuit
    exact .inl ⟨rfl, fun _ => rfl⟩

theorem closedFrom_of_step (hs : step o s a = some s') :
    s'.closedFrom = if s'.breaker.state = .closed ∧ s.breaker.state ≠ .closed then
      s'.record.completions.length else s.closedFrom := by
  obtain ⟨record, _, rfl⟩ := Option.map_eq_some_iff.mp hs
  rfl

theorem openedAt_of_step (hs : step o s a = some s') :
    s'.openedAt = if s'.breaker.state = .opened ∧ s.breaker.state ≠ .opened then
      s.record.circuit.now else s.openedAt := by
  obtain ⟨record, _, rfl⟩ := Option.map_eq_some_iff.mp hs
  rfl

theorem covered_of_step (h : s.record.circuit.Covered) (hs : step o s a = some s') :
    s'.record.circuit.Covered := by
  obtain ⟨record, hrecord, rfl⟩ := Option.map_eq_some_iff.mp hs
  obtain ⟨circuit, hcircuit, rfl⟩ := Option.map_eq_some_iff.mp hrecord
  have hcovered : circuit.Covered := h.step hcircuit
  cases a <;> exact hcovered

theorem outcomes_closing (hs : step o s a = some s') (hne : s.breaker.state ≠ .closed)
    (hclosed : s'.breaker.state = .closed) : s'.outcomes = [] := by
  unfold outcomes
  rw [closedFrom_of_step hs, if_pos ⟨hclosed, hne⟩, List.drop_length]
  rfl

theorem closedFrom_same (hs : step o s a = some s') (hclosed : s.breaker.state = .closed) :
    s'.closedFrom = s.closedFrom := by
  rw [closedFrom_of_step hs, if_neg fun hx => hx.2 hclosed]

theorem Tail.fail (h : s.Tail o) (k : Nat) :
    List.replicate k false <:+ s.outcomes ++ [false] ↔ k ≤ s.breaker.failureCount + 1 := by
  cases k with
  | zero => simp
  | succ k => rw [replicate_false_suffix_failure, h.count, Nat.succ_le_succ_iff]

theorem Inv.outcomes_settle (h : Inv o s) (hclosed : s.breaker.state = .closed)
    (hs : step o s a = some s') {i : Nat} {success : Bool}
    (hc : s'.record.completions = s.record.completions ++ [s.record.completion i success]) :
    s'.outcomes = s.outcomes ++ [success] := by
  unfold outcomes
  rw [closedFrom_same hs hclosed, hc, List.drop_append_of_le_length h.closedFrom, List.map_append]
  rfl

theorem outcomes_same (hclosed : s.breaker.state = .closed) (hs : step o s a = some s')
    (hc : s'.record.completions = s.record.completions) : s'.outcomes = s.outcomes := by
  unfold outcomes
  rw [closedFrom_same hs hclosed, hc]

theorem tail_of_zero (hcount : s.breaker.failureCount = 0)
    (h : ∀ k, List.replicate k false <:+ s.outcomes ↔ k = 0) : s.Tail o := by
  refine ⟨?_, fun k => ?_⟩
  · rw [hcount]
    exact failureThreshold_pos o
  · rw [h k, hcount, Nat.le_zero]

theorem Inv.tail_step (h : Inv o s) (ha : s.Calls a) (hs : step o s a = some s')
    (hs' : s'.breaker.state = .closed) : s'.Tail o := by
  obtain ⟨hc, hsame⟩ | ⟨i, success, hc, hbreaker⟩ := step_cases ha hs
  · have hbreaker := hsame (hs' ▸ CircuitBreakerState.noConfusion)
    have hclosed : s.breaker.state = .closed := hbreaker ▸ hs'
    obtain ⟨hbelow, hcount⟩ := h.tail hclosed
    refine ⟨?_, fun k => ?_⟩
    · rw [hbreaker]
      exact hbelow
    · rw [outcomes_same hclosed hs hc, hbreaker, hcount]
  · by_cases hclosed : s.breaker.state = .closed
    · have htail := h.tail hclosed
      have houtcomes := h.outcomes_settle hclosed hs hc
      cases success with
      | true =>
        refine tail_of_zero (hbreaker ▸ (handleSuccess_failures hclosed).2) fun k => ?_
        rw [houtcomes, replicate_false_suffix_success]
      | false =>
        obtain ⟨_, hopened⟩ | ⟨hlt, _, hcount⟩ :=
          handleFailure_closed o s.record.circuit.now hclosed
        · rw [hbreaker] at hs'
          cases hopened.symm.trans hs'
        · have hcount : s'.breaker.failureCount = s.breaker.failureCount + 1 := by
            rw [hbreaker]
            exact hcount
          refine ⟨?_, fun k => ?_⟩
          · rw [hcount]
            exact hlt
          · rw [houtcomes, htail.fail, hcount]
    · cases success with
      | true =>
        have hzero : s'.breaker.failureCount = 0 := by
          rw [hbreaker] at hs' ⊢
          exact handleSuccess_fresh hclosed hs'
        refine tail_of_zero hzero fun k => ?_
        rw [outcomes_closing hs hclosed hs', List.suffix_nil, List.replicate_eq_nil_iff]
      | false =>
        rw [hbreaker] at hs'
        exact absurd hs' (handleFailure_unclosed hclosed)

theorem Inv.openedAt_step (h : Inv o s) (ha : s.Calls a) (hs : step o s a = some s')
    (hs' : s'.breaker.state = .opened) : s'.breaker.lastOpenTime = s'.openedAt := by
  have hopenedAt : s'.openedAt = if s.breaker.state = .opened then s.openedAt
      else s.record.circuit.now := by
    rw [openedAt_of_step hs]
    by_cases hopened : s.breaker.state = .opened
    · rw [if_neg fun hx => hx.2 hopened, if_pos hopened]
    · rw [if_pos ⟨hs', hopened⟩, if_neg hopened]
  have htime : s'.breaker.lastOpenTime = if s.breaker.state = .opened then
      s.breaker.lastOpenTime else s.record.circuit.now := by
    obtain ⟨_, hsame⟩ | ⟨i, success, _, hbreaker⟩ := step_cases ha hs
    · have hbreaker := hsame (hs' ▸ CircuitBreakerState.noConfusion)
      rw [if_pos (hbreaker ▸ hs'), hbreaker]
    · rw [hbreaker] at hs' ⊢
      exact settled_openTime hs'
  rw [htime, hopenedAt]
  by_cases hopened : s.breaker.state = .opened
  · rw [if_pos hopened, if_pos hopened, h.openedAt hopened]
  · rw [if_neg hopened, if_neg hopened]

theorem Inv.step (h : Inv o s) (ha : s.Calls a) (hs : step o s a = some s') : Inv o s' := by
  refine ⟨?_, h.tail_step ha hs, h.openedAt_step ha hs, covered_of_step h.covered hs⟩
  rw [closedFrom_of_step hs]
  split
  · exact Nat.le_refl _
  · obtain ⟨hc, _⟩ | ⟨i, success, hc, _⟩ := step_cases ha hs
    · rw [hc]
      exact h.closedFrom
    · rw [hc, List.length_append]
      exact Nat.le_trans h.closedFrom (Nat.le_add_right _ _)

theorem inv_init (o : CircuitBreakerOptions) (now : Nat) : Inv o (init now) := by
  refine ⟨Nat.le_refl _, fun _ => tail_of_zero rfl fun k => ?_, nofun, nofun⟩
  change List.replicate k false <:+ [] ↔ k = 0
  rw [List.suffix_nil, List.replicate_eq_nil_iff]

theorem Inv.opens (h : Inv o s) (ha : s.Calls a) (hs : Watch.step o s a = some s')
    (hclosed : s.breaker.state = .closed) : s'.breaker.state = .opened ↔
      List.replicate (o.failureThreshold.getD 5) false <:+ s'.outcomes := by
  have htail := h.tail hclosed
  have hpos := failureThreshold_pos o
  obtain ⟨hc, hsame⟩ | ⟨i, success, hc, hbreaker⟩ := step_cases ha hs
  · rw [outcomes_same hclosed hs hc, htail.count]
    refine iff_of_false (fun hopened => ?_) (Nat.not_le_of_lt htail.below)
    rw [hsame (hopened ▸ CircuitBreakerState.noConfusion), hclosed] at hopened
    cases hopened
  · rw [h.outcomes_settle hclosed hs hc, hbreaker]
    cases success with
    | true =>
      rw [replicate_false_suffix_success]
      refine iff_of_false (fun hopened => ?_) (Nat.ne_of_gt hpos)
      cases (handleSuccess_failures hclosed).1.symm.trans hopened
    | false =>
      rw [htail.fail]
      obtain ⟨hle, hopened⟩ | ⟨hlt, hstill, _⟩ :=
        handleFailure_closed o s.record.circuit.now hclosed
      · exact iff_of_true hopened hle
      · refine iff_of_false (fun hopened => ?_) (Nat.not_le_of_lt hlt)
        cases hstill.symm.trans hopened

/-- In every run of calls the breaker opens exactly at the threshold, lets nothing through
until it may recover, and lets a call through when no trial is in flight. -/
theorem punctual_of_calls {now : Nat} (h : Run (system o) Calls (init now) s) : s.Punctual o := by
  have hinv : Inv o s := h.invariant (inv_init o now) fun _ _ _ _ hi ha hstep => hi.step ha hstep
  refine ⟨fun a s' ha hs hclosed => hinv.opens ha hs hclosed, fun hopened hnow hadmits => ?_,
    hinv.covered, fun hhalf hnone => ?_⟩
  · rw [← hinv.openedAt hopened] at hnow
    cases (execute_shut hopened hnow).symm.trans hadmits
  · exact execute_free hhalf (Nat.le_zero.mp (hnone ▸ hinv.covered hhalf))

section Runs

def sampleOptions : CircuitBreakerOptions := .ofThresholds 2 2 1 (by decide)

def callTest (s : Watch) : Circuit.Label → Bool := Record.callTest s.record

def overtaken : List Circuit.Label :=
  [.execute, .execute, .execute, .settle 0 false, .settle 0 false, .tick 50, .execute,
    .settle 0 true]

theorem punctual_overtaken : ∃ s, Run (system sampleOptions) Calls (init 0) s ∧
    s.breaker.state = .halfOpen ∧ s.breaker.activeTrialsCount = 0 ∧
    s.record.circuit.trials = 1 ∧ s.Punctual sampleOptions := by
  obtain ⟨s, hrun, ht⟩ := exists_run (T := system sampleOptions) Calls (init 0) callTest overtaken
    (fun s => decide (s.breaker.state = .halfOpen ∧ s.breaker.activeTrialsCount = 0 ∧
      s.record.circuit.trials = 1))
    (fun s a _ h => Record.calls_of_callTest h) (by decide)
  obtain ⟨hhalf, hcount, htrials⟩ := of_decide_eq_true ht
  exact ⟨s, hrun, hhalf, hcount, htrials, punctual_of_calls hrun⟩

end Runs

end Watch

end RailwayBooking.Resilience
