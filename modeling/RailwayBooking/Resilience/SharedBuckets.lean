import RailwayBooking.Resilience.TokenBucket

namespace RailwayBooking.Resilience

open Numeric

structure Grant (K : Type) where
  key : K
  time : Nat
  allowed : Bool
  deriving DecidableEq

/-- The options give no more than `M` tokens, no more than `R` of them a second, and the key is
kept for as long as `M` tokens need to come in at this rate. -/
structure Tempered (M R : ℚ) (o : TokenBucketOptions) : Prop where
  capacity : o.capacity ≤ M
  rate : o.refillPerSec ≤ R
  kept : M ≤ R * ttlSec o

section Definitions

variable {K : Type} [DecidableEq K] (M R : ℚ) (s : Redis.Store K Bucket) (key : K)

/-- How many requests on the key were let through from `a` to `u`. -/
def granted (a u : ℚ) (log : List (Grant K)) : Nat :=
  log.countP (fun g => g.key = key ∧ g.allowed ∧ a ≤ g.time ∧ g.time ≤ u)

def budget (now : Nat) : ℚ :=
  match s key with
  | none => M
  | some e => refilled M R e.value.tokens (((now - e.value.lastRefill : Nat) : ℚ) / 1000)

/-- Runs with different options on one store keep each window of a key below the bound. -/
structure Metered (log : List (Grant K)) (now : Nat) : Prop where
  live : ∀ e ∈ s key, 0 ≤ e.value.tokens ∧ e.value.lastRefill ≤ now ∧
    ∃ ttl : Nat, e.expires = e.value.lastRefill + 1000 * ttl ∧ M ≤ R * ttl
  past : ∀ g ∈ log, g.time ≤ now
  within : ∀ a u : ℚ, a ≤ u → (granted key a u log : ℚ) ≤ M + R * ((u - a) / 1000)
  left : ∀ a : ℚ, a ≤ now →
    (granted key a now log : ℚ) + budget M R s key now ≤ M + R * ((now - a) / 1000)

end Definitions

variable {K : Type} [DecidableEq K] {M R : ℚ} {s : Redis.Store K Bucket} {key key' : K}
  {log : List (Grant K)} {now later : Nat} {o : TokenBucketOptions}

omit [DecidableEq K] in
theorem budget_le : budget M R s key now ≤ M := by
  unfold budget
  split
  · exact le_refl M
  · exact refilled_le_capacity

omit [DecidableEq K] in
theorem budget_nonneg (hM : 0 ≤ M) (hR : 0 ≤ R) (h : ∀ e ∈ s key, 0 ≤ e.value.tokens) :
    0 ≤ budget M R s key now := by
  unfold budget
  split
  · exact hM
  · next e he => exact refilled_nonneg hM hR (h e he) (by positivity)

omit [DecidableEq K] in
theorem budget_later (hR : 0 ≤ R) (hle : now ≤ later) (h : ∀ e ∈ s key, e.value.lastRefill ≤ now) :
    budget M R s key later ≤ budget M R s key now + R * ((later - now) / 1000) := by
  have hcame : 0 ≤ R * (((later : ℚ) - now) / 1000) := by
    have hsub : (0 : ℚ) ≤ later - now := sub_nonneg.mpr (by exact_mod_cast hle)
    positivity
  unfold budget
  split
  · exact le_add_of_nonneg_right hcame
  · next e he =>
    have hlast := h e he
    rw [refilled, refilled, ← min_add_add_right]
    refine min_le_min (le_add_of_nonneg_right hcame) (le_of_eq ?_)
    rw [Nat.cast_sub hlast, Nat.cast_sub (hlast.trans hle)]
    ring

omit [DecidableEq K] in
theorem level_le_budget (ho : Tempered M R o) (hR : 0 ≤ R)
    (h : ∀ e ∈ s key, 0 ≤ e.value.tokens ∧ e.value.lastRefill ≤ now ∧
      ∃ ttl : Nat, e.expires = e.value.lastRefill + 1000 * ttl ∧ M ≤ R * ttl) :
    level o (s.get now key) now ≤ budget M R s key now := by
  cases he : s key with
  | none =>
    rw [Redis.Store.get_of_none he, budget, he]
    exact ho.capacity
  | some e =>
    obtain ⟨htokens, hlast, ttl, hexpires, hkept⟩ := h e he
    have hbudget : budget M R s key now =
        refilled M R e.value.tokens (((now - e.value.lastRefill : Nat) : ℚ) / 1000) := by
      rw [budget, he]
    rw [hbudget]
    by_cases hlive : now < e.expires
    · rw [Redis.Store.get_eq_some.mpr ⟨e.expires, he, hlive⟩]
      refine min_le_min ho.capacity (add_le_add_right ?_ _)
      exact mul_le_mul_of_nonneg_left ho.rate (by positivity)
    · have hgone : s.get now key = none := by
        rw [Redis.Store.get, he]
        simp [hlive]
      rw [hgone]
      have htime : (ttl : ℚ) ≤ ((now - e.value.lastRefill : Nat) : ℚ) / 1000 := by
        rw [le_div_iff₀ (by norm_num)]
        exact_mod_cast (by omega : ttl * 1000 ≤ now - e.value.lastRefill)
      rw [mul_comm] at hkept
      refine le_min ho.capacity (ho.capacity.trans (hkept.trans ?_))
      exact (mul_le_mul_of_nonneg_right htime hR).trans (le_add_of_nonneg_left htokens)

variable (M R s key now o) in
theorem budget_incrementToken : budget M R (incrementToken o s now key).2 key now +
    (if (incrementToken o s now key).1.allowed then 1 else 0) ≤ level o (s.get now key) now := by
  have hleft : budget M R (incrementToken o s now key).2 key now =
      refilled M R (consume o (s.get now key) now).2.tokens 0 := by
    rw [budget]
    simp [incrementToken, Redis.Store.set, lastRefill_consume]
  have hanswer : (incrementToken o s now key).1 = (consume o (s.get now key) now).1 := rfl
  rw [hleft, hanswer, refilled, zero_mul, add_zero]
  obtain ⟨-, hallowed, hrest⟩ | ⟨-, hdenied, hrest⟩ := consume_cases o (s.get now key) now
  · rw [hrest, hallowed]
    have hmin := min_le_right M (level o (s.get now key) now - 1)
    simp only [if_true]
    linarith
  · rw [hrest, hdenied]
    simp

theorem granted_of_lt {a u : ℚ} (h : ∀ g ∈ log, (g.time : ℚ) < a) :
    granted key a u log = 0 := by
  apply List.countP_eq_zero.mpr
  intro g hg
  simp [not_le.mpr (h g hg)]

theorem granted_until {a u v : ℚ} (hv : ∀ g ∈ log, (g.time : ℚ) ≤ v) (hle : v ≤ u) :
    granted key a u log = granted key a v log := by
  apply List.countP_congr
  intro g hg
  have hgv := hv g hg
  simp [hgv, hgv.trans hle]

theorem granted_concat {a u : ℚ} {g : Grant K} : granted key a u (log ++ [g]) =
    granted key a u log + if g.key = key ∧ g.allowed ∧ a ≤ g.time ∧ g.time ≤ u then 1 else 0 := by
  rw [granted, List.countP_append, List.countP_singleton]
  simp [granted]

namespace Metered

theorem new (hM : 0 ≤ M) (hR : 0 ≤ R) (hnew : s key = none) : Metered M R s key [] now where
  live e he := by
    rw [hnew] at he
    cases he
  past g hg := absurd hg List.not_mem_nil
  within a u hle := by
    have hwindow : 0 ≤ R * ((u - a) / 1000) := by
      have := sub_nonneg.mpr hle
      positivity
    simpa [granted] using add_nonneg hM hwindow
  left a hle := by
    have hwindow : 0 ≤ R * ((now - a) / 1000) := by
      have := sub_nonneg.mpr hle
      positivity
    have hbudget : budget M R s key now ≤ M := budget_le
    simpa [granted] using hbudget.trans (le_add_of_nonneg_right hwindow)

theorem wait (h : Metered M R s key log now) (hR : 0 ≤ R) (hle : now ≤ later) :
    Metered M R s key log later where
  live e he := by
    obtain ⟨htokens, hlast, hkept⟩ := h.live e he
    exact ⟨htokens, hlast.trans hle, hkept⟩
  past g hg := (h.past g hg).trans hle
  within := h.within
  left a ha := by
    have htime : (now : ℚ) ≤ later := by exact_mod_cast hle
    have hpast : ∀ g ∈ log, (g.time : ℚ) ≤ now := fun g hg => by exact_mod_cast h.past g hg
    rw [granted_until hpast htime]
    obtain hbefore | hafter := le_or_gt a now
    · have hleft := h.left a hbefore
      have hcame : budget M R s key later ≤ budget M R s key now + R * ((later - now) / 1000) :=
        budget_later hR hle fun e he => (h.live e he).2.1
      have hsum : R * ((now - a) / 1000) + R * ((later - now) / 1000) = R * ((later - a) / 1000) := by
        ring
      linarith
    · -- the window begins after the last run
      rw [granted_of_lt fun g hg => lt_of_le_of_lt (hpast g hg) hafter, Nat.cast_zero, zero_add]
      refine budget_le.trans (le_add_of_nonneg_right ?_)
      have := sub_nonneg.mpr ha
      positivity

theorem level_nonneg (h : Metered M R s key log now) : 0 ≤ level o (s.get now key) now := by
  cases hget : s.get now key with
  | none => exact le_of_lt o.capacity_pos
  | some b =>
    obtain ⟨expires, he, -⟩ := Redis.Store.get_eq_some.mp hget
    exact refilled_nonneg (le_of_lt o.capacity_pos) (le_of_lt o.refillPerSec_pos)
      (h.live _ he).1 (by positivity)

theorem live_incrementToken (h : Metered M R s key log now) (ho : Tempered M R o) :
    ∀ e ∈ (incrementToken o s now key).2 key, 0 ≤ e.value.tokens ∧ e.value.lastRefill ≤ now ∧
      ∃ ttl : Nat, e.expires = e.value.lastRefill + 1000 * ttl ∧ M ≤ R * ttl := by
  intro e he
  have hset : (incrementToken o s now key).2 key =
      some ⟨(consume o (s.get now key) now).2, now + 1000 * ttlSec o⟩ := by
    simp [incrementToken, Redis.Store.set]
  rw [hset] at he
  obtain rfl := Option.some.inj he
  have hlast : (consume o (s.get now key) now).2.lastRefill = now := lastRefill_consume
  refine ⟨?_, le_of_eq hlast, ttlSec o, by rw [hlast], ho.kept⟩
  obtain ⟨hone, -, hrest⟩ | ⟨-, -, hrest⟩ := consume_cases o (s.get now key) now
  · rw [hrest]
    exact sub_nonneg.mpr hone
  · rw [hrest]
    exact h.level_nonneg

theorem other (h : Metered M R s key log now) {s' : Redis.Store K Bucket} (hsame : s' key = s key)
    {g : Grant K} (hne : g.key ≠ key) (hg : g.time ≤ now) : Metered M R s' key (log ++ [g]) now := by
  have hgranted : ∀ a u : ℚ, granted key a u (log ++ [g]) = granted key a u log := by
    intro a u
    rw [granted_concat, if_neg fun hx => hne hx.1, Nat.add_zero]
  have hbudget : budget M R s' key now = budget M R s key now := by
    rw [budget, budget, hsame]
  refine ⟨fun e he => h.live e (hsame ▸ he), fun x hx => ?_, fun a u hle => ?_, fun a ha => ?_⟩
  · obtain hx | hx := List.mem_append.mp hx
    · exact h.past x hx
    · rw [List.mem_singleton.mp hx]
      exact hg
  · rw [hgranted]
    exact h.within a u hle
  · rw [hgranted, hbudget]
    exact h.left a ha

theorem incrementToken_same (h : Metered M R s key log now) (hM : 0 ≤ M) (hR : 0 ≤ R)
    (ho : Tempered M R o) : Metered M R (incrementToken o s now key).2 key
      (log ++ [⟨key, now, (incrementToken o s now key).1.allowed⟩]) now := by
  have hpast : ∀ g ∈ log, (g.time : ℚ) ≤ now := fun g hg => by exact_mod_cast h.past g hg
  have hlive := h.live_incrementToken ho
  have hspent := budget_incrementToken M R s key now o
  have hfound := level_le_budget ho hR h.live
  generalize hs' : (incrementToken o s now key).2 = s' at hlive hspent ⊢
  generalize hallowed : (incrementToken o s now key).1.allowed = allowed at hspent ⊢
  have hleft : ∀ a : ℚ, a ≤ now → (granted key a now (log ++ [⟨key, now, allowed⟩]) : ℚ) +
      budget M R s' key now ≤ M + R * ((now - a) / 1000) := by
    intro a ha
    have hbefore := h.left a ha
    rw [granted_concat]
    cases allowed with
    | true =>
      simp only [ha, le_refl, and_self, if_true, Nat.cast_add, Nat.cast_one] at hspent ⊢
      linarith
    | false =>
      simp only [Bool.false_eq_true, false_and, and_false, if_false, Nat.add_zero] at hspent ⊢
      linarith
  refine ⟨hlive, fun x hx => ?_, fun a u hle => ?_, hleft⟩
  · obtain hx | hx := List.mem_append.mp hx
    · exact h.past x hx
    · rw [List.mem_singleton.mp hx]
  · obtain hbefore | hafter := lt_or_ge u now
    · rw [granted_concat, if_neg fun hx => absurd hx.2.2.2 (not_le.mpr hbefore), Nat.add_zero]
      exact h.within a u hle
    · have huntil : ∀ g ∈ log ++ [⟨key, now, allowed⟩], (g.time : ℚ) ≤ now := by
        intro g hg
        obtain hg | hg := List.mem_append.mp hg
        · exact hpast g hg
        · rw [List.mem_singleton.mp hg]
      rw [granted_until huntil hafter]
      have hrest : 0 ≤ budget M R s' key now := budget_nonneg hM hR fun e he => (hlive e he).1
      obtain ha | ha := le_or_gt a now
      · have hnow := hleft a ha
        have htime : R * ((now - a) / 1000) ≤ R * ((u - a) / 1000) :=
          mul_le_mul_of_nonneg_left (by linarith) hR
        linarith
      · rw [granted_of_lt fun g hg => lt_of_le_of_lt (huntil g hg) ha, Nat.cast_zero]
        have := sub_nonneg.mpr hle
        positivity

theorem incrementToken (h : Metered M R s key log now) (hM : 0 ≤ M) (hR : 0 ≤ R)
    (ho : Tempered M R o) (key' : K) : Metered M R (incrementToken o s now key').2 key
      (log ++ [⟨key', now, (Resilience.incrementToken o s now key').1.allowed⟩]) now := by
  by_cases hkey : key' = key
  · subst hkey
    exact h.incrementToken_same hM hR ho
  · have hsame : (Resilience.incrementToken o s now key').2 key = s key := by
      simp [Resilience.incrementToken, Redis.Store.set, Ne.symm hkey]
    exact h.other hsame hkey (le_refl now)

end Metered

end RailwayBooking.Resilience
