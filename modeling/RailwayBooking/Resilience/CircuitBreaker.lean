import Mathlib.Data.Option.Basic

namespace RailwayBooking.Resilience

/-- The options that the constructor accepts. Callbacks do not touch the breaker, and
their errors are only logged; they are left out. -/
structure CircuitBreakerOptions where
  failureThreshold : Option Nat
  successThreshold : Option Nat
  recoveryTimeout : Option Nat
  halfOpenMaxTrials : Option Nat
  timeoutMs : Option Nat
  positive : ∀ x ∈ [failureThreshold, successThreshold, recoveryTimeout, halfOpenMaxTrials,
    timeoutMs], x ≠ some 0

def CircuitBreakerOptions.ofThresholds (failureThreshold successThreshold halfOpenMaxTrials : Nat)
    (h : 0 < failureThreshold ∧ 0 < successThreshold ∧ 0 < halfOpenMaxTrials) :
    CircuitBreakerOptions where
  failureThreshold := some failureThreshold
  successThreshold := some successThreshold
  recoveryTimeout := some 50
  halfOpenMaxTrials := some halfOpenMaxTrials
  timeoutMs := none
  positive x hx := by
    simp only [List.mem_cons, List.not_mem_nil, or_false] at hx
    obtain rfl | rfl | rfl | rfl | rfl := hx <;> simp <;> omega

/-- `OPEN` is `opened` here. -/
inductive CircuitBreakerState
  | closed
  | opened
  | halfOpen
  deriving DecidableEq, Repr

inductive CircuitBreakerError
  | timeout
  | opened
  | halfOpen
  deriving DecidableEq, Repr

structure CircuitBreaker where
  state : CircuitBreakerState
  failureCount : Nat
  successCount : Nat
  lastFailureTime : Nat
  lastSuccessTime : Nat
  lastOpenTime : Nat
  lastHalfOpenTime : Nat
  lastClosedTime : Nat
  activeTrialsCount : Nat
  deriving DecidableEq

namespace CircuitBreaker

def create (now : Nat) : CircuitBreaker := ⟨.closed, 0, 0, 0, 0, 0, 0, now, 0⟩

def reset (now : Nat) (_ : CircuitBreaker) : CircuitBreaker := ⟨.closed, 0, 0, 0, 0, 0, 0, now, 0⟩

variable (o : CircuitBreakerOptions) (now : Nat) (b : CircuitBreaker)

def transitionTo (newState : CircuitBreakerState) : CircuitBreaker :=
  if b.state = newState then b
  else
    match newState with
    | .closed =>
      { b with
        state := newState
        failureCount := 0
        successCount := 0
        activeTrialsCount := 0
        lastClosedTime := now }
    | .opened => { b with state := newState, lastOpenTime := now, activeTrialsCount := 0 }
    | .halfOpen =>
      { b with
        state := newState
        successCount := 0
        failureCount := 0
        activeTrialsCount := 0
        lastHalfOpenTime := now }

/-- The method `open`. -/
def forceOpen : CircuitBreaker := b.transitionTo now .opened

/-- The method `halfOpen`. -/
def forceHalfOpen : CircuitBreaker := b.transitionTo now .halfOpen

def checkRecovery : CircuitBreaker :=
  if b.state = .opened ∧ now - b.lastOpenTime ≥ o.recoveryTimeout.getD 60000 then
    b.transitionTo now .halfOpen
  else b

/-- `execute` as far as it runs before it waits for the operation: the error with
which it ends there, if any. -/
def execute : Option CircuitBreakerError × CircuitBreaker :=
  let b := b.checkRecovery o now
  match b.state with
  | .opened => (some .opened, b)
  | .halfOpen =>
    if b.activeTrialsCount ≥ o.halfOpenMaxTrials.getD 3 then (some .halfOpen, b)
    else (none, { b with activeTrialsCount := b.activeTrialsCount + 1 })
  | .closed => (none, b)

def handleSuccess : CircuitBreaker :=
  let b := { b with lastSuccessTime := now }
  match b.state with
  | .halfOpen =>
    let b := { b with
      activeTrialsCount := b.activeTrialsCount - 1
      successCount := b.successCount + 1 }
    if b.successCount ≥ o.successThreshold.getD 3 then b.transitionTo now .closed else b
  | .closed => { b with failureCount := 0 }
  | .opened => b

/-- Timeouts are failures as well. -/
def handleFailure : CircuitBreaker :=
  let b := { b with lastFailureTime := now }
  match b.state with
  | .halfOpen => { b with activeTrialsCount := b.activeTrialsCount - 1 }.transitionTo now .opened
  | .closed =>
    let b := { b with failureCount := b.failureCount + 1 }
    if b.failureCount ≥ o.failureThreshold.getD 5 then b.transitionTo now .opened else b
  | .opened => b

end CircuitBreaker

end RailwayBooking.Resilience
