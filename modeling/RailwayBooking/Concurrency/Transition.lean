import Mathlib.Logic.Basic

namespace RailwayBooking.Concurrency

/-- A transition system whose labels determine the step. -/
structure System where
  State : Type
  Label : Type
  step : State → Label → Option State

namespace System

variable {T : System} {ok ok' : T.State → T.Label → Prop} {s₀ s s' : T.State}

/-- The states reached from `s₀` by steps that are admitted where they are taken. -/
inductive Run (T : System) (ok : T.State → T.Label → Prop) (s₀ : T.State) : T.State → Prop
  | start : Run T ok s₀ s₀
  | step {s s' : T.State} (h : Run T ok s₀ s) {a : T.Label} (ha : ok s a)
      (hs : T.step s a = some s') : Run T ok s₀ s'

/-- What holds at the start and survives every admitted step holds throughout.
The step may use what is known of all runs already. -/
theorem Run.invariant {I : T.State → Prop} (h₀ : I s₀)
    (hI : ∀ s a s', Run T ok s₀ s → I s → ok s a → T.step s a = some s' → I s')
    (h : Run T ok s₀ s) : I s := by
  induction h with
  | start => exact h₀
  | step h ha hs ih => exact hI _ _ _ h ih ha hs

theorem Run.trans {s₁ : T.State} (h : Run T ok s₀ s) (h' : Run T ok s s₁) : Run T ok s₀ s₁ := by
  induction h' with
  | start => exact h
  | step _ ha hs ih => exact ih.step ha hs

theorem Run.mono (hle : ∀ s a, ok s a → ok' s a) (h : Run T ok s₀ s) : Run T ok' s₀ s := by
  induction h with
  | start => exact .start
  | step _ ha hs ih => exact ih.step (hle _ _ ha) hs

/-- The state after a list of labels, if each of them passes the guard. -/
def play (T : System) (guard : T.State → T.Label → Bool) (s : T.State) :
    List T.Label → Option T.State
  | [] => some s
  | a :: as => if guard s a then (T.step s a).bind (fun s' => play T guard s' as) else none

theorem run_play {guard : T.State → T.Label → Bool}
    (hg : ∀ s a, Run T ok s₀ s → guard s a = true → ok s a) {as : List T.Label}
    (h : Run T ok s₀ s) (hp : T.play guard s as = some s') : Run T ok s₀ s' := by
  induction as generalizing s with
  | nil =>
    cases hp
    exact h
  | cons a as ih =>
    simp only [play] at hp
    split at hp
    · next ha =>
      obtain ⟨s₁, h₁, hp⟩ := Option.bind_eq_some_iff.mp hp
      exact ih (h.step (hg s a h ha) h₁) hp
    · cases hp

/-- A list of labels that plays through and ends in a state that passes a test. -/
theorem exists_run (ok : T.State → T.Label → Prop) (s₀ : T.State)
    (guard : T.State → T.Label → Bool) (as : List T.Label) (test : T.State → Bool)
    (hg : ∀ s a, Run T ok s₀ s → guard s a = true → ok s a)
    (h : (T.play guard s₀ as).any test = true) : ∃ s, Run T ok s₀ s ∧ test s = true := by
  cases hp : T.play guard s₀ as with
  | none =>
    rw [hp] at h
    cases h
  | some s =>
    rw [hp] at h
    exact ⟨s, run_play hg .start hp, h⟩

section Script

variable {X : Type} (T) (guard : T.State → T.Label → Bool) (label : T.State → X → T.Label)

/-- The state after a script, whose entries name their labels where they are taken. -/
def script (s : T.State) : List X → Option T.State
  | [] => some s
  | x :: xs =>
    if guard s (label s x) then (T.step s (label s x)).bind (fun s' => script s' xs) else none

variable {T guard label}

theorem exists_run_script (hg : ∀ s x, guard s (label s x) = true → ok s (label s x))
    (xs : List X) (test : T.State → Bool) (h : (T.script guard label s xs).any test = true) :
    ∃ s', Run T ok s s' ∧ test s' = true := by
  induction xs generalizing s with
  | nil => exact ⟨s, .start, h⟩
  | cons x xs ih =>
    simp only [script] at h
    split at h
    · next hx =>
      cases hs : T.step s (label s x) with
      | none =>
        rw [hs] at h
        cases h
      | some s₁ =>
        rw [hs] at h
        obtain ⟨s', h', ht⟩ := ih h
        exact ⟨s', (Run.start.step (hg s x hx) hs).trans h', ht⟩
    · cases h

end Script

end System

end RailwayBooking.Concurrency
