import Mathlib.Data.Option.Basic
import Mathlib.Logic.Function.Basic

namespace RailwayBooking.Redis

structure Counter where
  value : Nat
  expires : Option Nat

abbrev Counters (K : Type) := K → Option Counter

namespace Counters

variable {K : Type} [DecidableEq K]

def empty : Counters K := fun _ => none

/-- The counter of a key that has not expired. -/
def live (s : Counters K) (now : Nat) (k : K) : Option Counter :=
  (s k).filter (fun c => c.expires.all (fun t => now < t))

def get (s : Counters K) (now : Nat) (k : K) : Option Nat := (s.live now k).map Counter.value

/-- `INCR`: a key that is missing counts from 0, and gets no expiry time. -/
def incr (s : Counters K) (now : Nat) (k : K) : Nat × Counters K :=
  match s.live now k with
  | some c => (c.value + 1, Function.update s k (some { c with value := c.value + 1 }))
  | none => (1, Function.update s k (some ⟨1, none⟩))

/-- `EXPIRE`. -/
def expire (s : Counters K) (now : Nat) (k : K) (expires : Nat) : Counters K :=
  match s.live now k with
  | some c => Function.update s k (some { c with expires := some expires })
  | none => s

/-- `TTL` in seconds: rounded, -1 without an expiry time, -2 without the key. -/
def ttl (s : Counters K) (now : Nat) (k : K) : Int :=
  match s.live now k with
  | some ⟨_, some t⟩ => ((t - now + 500) / 1000 : Nat)
  | some ⟨_, none⟩ => -1
  | none => -2

section Lemmas

variable {s : Counters K} {now later : Nat} {k k' : K} {n : Nat}

omit [DecidableEq K] in
theorem live_congr {s' : Counters K} (h : s k = s' k) : s.live now k = s'.live now k := by
  rw [live, live, h]

omit [DecidableEq K] in
theorem get_earlier (hle : now ≤ later) (h : s.get later k = some n) : s.get now k = some n := by
  obtain ⟨c, hc, rfl⟩ := Option.map_eq_some_iff.mp h
  obtain ⟨hs, hlive⟩ := Option.filter_eq_some_iff.mp hc
  refine Option.map_eq_some_iff.mpr ⟨c, Option.filter_eq_some_iff.mpr ⟨hs, ?_⟩, rfl⟩
  obtain ⟨v, expires⟩ := c
  cases expires with
  | none => rfl
  | some t =>
    have hlt : later < t := of_decide_eq_true hlive
    exact decide_eq_true (Nat.lt_of_le_of_lt hle hlt)

theorem incr_pos : 0 < (s.incr now k).1 := by
  unfold incr
  cases s.live now k <;> exact Nat.succ_pos _

theorem live_incr_same :
    ∃ c, (s.incr now k).2.live now k = some c ∧ c.value = (s.incr now k).1 := by
  unfold incr
  cases h : s.live now k with
  | none => exact ⟨⟨1, none⟩, by simp [live], rfl⟩
  | some c =>
    obtain ⟨-, hc⟩ := Option.filter_eq_some_iff.mp h
    refine ⟨{ c with value := c.value + 1 }, ?_, rfl⟩
    simp only [live, Function.update_self]
    exact Option.filter_some_pos hc

theorem get_incr_same : (s.incr now k).2.get now k = some (s.incr now k).1 := by
  obtain ⟨c, hc, hv⟩ : ∃ c, (s.incr now k).2.live now k = some c ∧ c.value = (s.incr now k).1 :=
    live_incr_same
  rw [get, hc, Option.map_some, hv]

theorem get_incr_ne (h : k' ≠ k) : (s.incr now k).2.get now k' = s.get now k' := by
  have hsame : (s.incr now k).2 k' = s k' := by
    unfold incr
    cases s.live now k <;> exact Function.update_of_ne h _ _
  rw [get, live_congr hsame, get]

theorem get_lt_incr (h : s.get now k = some n) : n < (s.incr now k).1 := by
  obtain ⟨c, hc, rfl⟩ := Option.map_eq_some_iff.mp h
  rw [incr, hc]
  exact Nat.lt_succ_self _

theorem get_expire (h : now < later) : (s.expire now k later).get now k' = s.get now k' := by
  unfold expire
  cases hl : s.live now k with
  | none => rfl
  | some c =>
    by_cases hk : k' = k
    · subst hk
      have hself : Counters.live (Function.update s k' (some { c with expires := some later }))
          now k' = some { c with expires := some later } := by
        rw [live, Function.update_self]
        exact Option.filter_some_pos (decide_eq_true h)
      rw [get, hself, get, hl]
      rfl
    · rw [get, live_congr (Function.update_of_ne hk _ _), get]

end Lemmas

end Counters

end RailwayBooking.Redis
