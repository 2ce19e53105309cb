import Mathlib.Data.Rat.Floor
import RailwayBooking.Numeric.Refill
import RailwayBooking.Redis.Store

namespace RailwayBooking.Resilience

open Numeric

/-- Tokens and rates are exact. -/
structure TokenBucketOptions where
  capacity : ℚ
  refillPerSec : ℚ
  capacity_pos : 0 < capacity
  refillPerSec_pos : 0 < refillPerSec

/-- The hash under the key. -/
structure Bucket where
  tokens : ℚ
  lastRefill : Nat
  deriving DecidableEq

structure RateLimitResult where
  allowed : Bool
  remaining : Int
  resetMs : Nat
  deriving DecidableEq

section Script

variable (o : TokenBucketOptions)

/-- `increment-token.lua` from the hash that it finds to its answer and the hash that it
leaves. -/
def consume (found : Option Bucket) (nowMs : Nat) : RateLimitResult × Bucket :=
  let bucket := found.getD ⟨o.capacity, nowMs⟩
  let elapsedMs := nowMs - bucket.lastRefill
  let elapsedSec : ℚ := elapsedMs / 1000
  let refill := elapsedSec * o.refillPerSec
  let tokens := min o.capacity (bucket.tokens + refill)
  if tokens ≥ 1 then (⟨true, ⌊tokens - 1⌋, 0⟩, ⟨tokens - 1, nowMs⟩)
  else
    let deficit := 1 - tokens
    (⟨false, ⌊tokens⌋, ⌈deficit / o.refillPerSec * 1000⌉₊⟩, ⟨tokens, nowMs⟩)

def ttlSec : Nat := ⌈o.capacity / o.refillPerSec⌉₊ + 1

/-- `increment-token.lua`. -/
def incrementToken {K : Type} [DecidableEq K] (s : Redis.Store K Bucket) (nowMs : Nat) (key : K) :
    RateLimitResult × Redis.Store K Bucket :=
  let r := consume o (s.get nowMs key) nowMs
  (r.1, s.set key r.2 (nowMs + 1000 * ttlSec o))

end Script

section Buckets

variable (o : TokenBucketOptions)

/-- Between nothing and the capacity. -/
def Bucket.Valid (b : Bucket) : Prop := 0 ≤ b.tokens ∧ b.tokens ≤ o.capacity

/-- What there is at a time in a bucket that was full when it was new. -/
def level (found : Option Bucket) (nowMs : Nat) : ℚ :=
  match found with
  | none => o.capacity
  | some b => refilled o.capacity o.refillPerSec b.tokens (((nowMs - b.lastRefill : Nat) : ℚ) / 1000)

variable {o} {found : Option Bucket} {b : Bucket} {nowMs later : Nat}

theorem level_nonneg (hb : ∀ b ∈ found, b.Valid o) : 0 ≤ level o found nowMs := by
  cases found with
  | none => exact le_of_lt o.capacity_pos
  | some b =>
    exact refilled_nonneg (le_of_lt o.capacity_pos) (le_of_lt o.refillPerSec_pos) (hb b rfl).1
      (by positivity)

theorem level_le_capacity : level o found nowMs ≤ o.capacity := by
  cases found with
  | none => exact le_refl _
  | some b => exact refilled_le_capacity

theorem consume_eq : consume o found nowMs =
    if level o found nowMs ≥ 1 then
      (⟨true, ⌊level o found nowMs - 1⌋, 0⟩, ⟨level o found nowMs - 1, nowMs⟩)
    else
      (⟨false, ⌊level o found nowMs⌋, ⌈(1 - level o found nowMs) / o.refillPerSec * 1000⌉₊⟩,
        ⟨level o found nowMs, nowMs⟩) := by
  cases found with
  | some b => rfl
  | none =>
    have hfull : min o.capacity (o.capacity + ((nowMs - nowMs : Nat) : ℚ) / 1000 * o.refillPerSec) =
        o.capacity := by
      simp
    unfold consume level
    dsimp only [Option.getD_none]
    rw [hfull]

theorem consume_congr {found' : Option Bucket} (h : level o found nowMs = level o found' nowMs) :
    consume o found nowMs = consume o found' nowMs := by
  rw [consume_eq, consume_eq, h]

variable (o found nowMs) in
theorem consume_cases : (1 ≤ level o found nowMs ∧ (consume o found nowMs).1.allowed = true ∧
      (consume o found nowMs).2 = ⟨level o found nowMs - 1, nowMs⟩) ∨
    (level o found nowMs < 1 ∧ (consume o found nowMs).1.allowed = false ∧
      (consume o found nowMs).2 = ⟨level o found nowMs, nowMs⟩) := by
  rw [consume_eq]
  split
  · next h => exact .inl ⟨h, rfl, rfl⟩
  · next h => exact .inr ⟨lt_of_not_ge h, rfl, rfl⟩

theorem allowed_iff : (consume o found nowMs).1.allowed = true ↔ 1 ≤ level o found nowMs := by
  obtain ⟨hone, hallowed, -⟩ | ⟨hlt, hdenied, -⟩ := consume_cases o found nowMs
  · exact iff_of_true hallowed hone
  · exact iff_of_false (by simp [hdenied]) (not_le.mpr hlt)

theorem consume_denied (h : (consume o found nowMs).1.allowed = false) :
    (consume o found nowMs).1.resetMs = ⌈(1 - level o found nowMs) / o.refillPerSec * 1000⌉₊ ∧
      (consume o found nowMs).2 = ⟨level o found nowMs, nowMs⟩ := by
  rw [consume_eq] at h ⊢
  split at h
  · cases h
  · next hlt =>
    rw [if_neg hlt]
    exact ⟨rfl, rfl⟩

theorem lastRefill_consume : (consume o found nowMs).2.lastRefill = nowMs := by
  rw [consume_eq]
  split <;> rfl

theorem valid_consume (hb : ∀ b ∈ found, b.Valid o) : (consume o found nowMs).2.Valid o := by
  have hcapacity : level o found nowMs ≤ o.capacity := level_le_capacity
  obtain ⟨hone, -, hleft⟩ | ⟨-, -, hleft⟩ := consume_cases o found nowMs
  · rw [hleft]
    exact ⟨sub_nonneg.mpr hone, le_trans (sub_le_self _ zero_le_one) hcapacity⟩
  · rw [hleft]
    exact ⟨level_nonneg hb, hcapacity⟩

theorem level_level (hle : nowMs ≤ later) (hlast : ∀ b ∈ found, b.lastRefill ≤ nowMs) :
    level o (some ⟨level o found nowMs, nowMs⟩) later = level o found later := by
  have hnonneg : (0 : ℚ) ≤ ((later - nowMs : Nat) : ℚ) / 1000 := by positivity
  cases found with
  | none =>
    apply le_antisymm refilled_le_capacity
    refine le_min (le_refl _) (le_add_of_nonneg_right ?_)
    exact mul_nonneg hnonneg (le_of_lt o.refillPerSec_pos)
  | some b =>
    have hb := hlast b rfl
    have htime : ((nowMs - b.lastRefill : Nat) : ℚ) / 1000 + ((later - nowMs : Nat) : ℚ) / 1000 =
        ((later - b.lastRefill : Nat) : ℚ) / 1000 := by
      rw [← add_div, ← Nat.cast_add]
      congr 2
      omega
    simp only [level]
    rw [refilled_refilled (le_of_lt o.refillPerSec_pos) hnonneg, htime]

end Buckets

section Runs

variable (o : TokenBucketOptions)

/-- Runs of the script on one key, each with its answer. -/
def requests {K : Type} [DecidableEq K] (key : K) (s : Redis.Store K Bucket) :
    List Nat → List (Nat × RateLimitResult) × Redis.Store K Bucket
  | [] => ([], s)
  | t :: ts =>
    let r := incrementToken o s t key
    let rest := requests key r.2 ts
    ((t, r.1) :: rest.1, rest.2)

/-- The same on a hash that never expires. -/
def lasting (found : Option Bucket) : List Nat → List (Nat × RateLimitResult) × Option Bucket
  | [] => ([], found)
  | t :: ts =>
    let r := consume o found t
    let rest := lasting (some r.2) ts
    ((t, r.1) :: rest.1, rest.2)

/-- How many requests are allowed from `a` to `u`. -/
def allowedWithin (a u : ℚ) (xs : List (Nat × RateLimitResult)) : Nat :=
  xs.countP (fun x => x.2.allowed ∧ a ≤ x.1 ∧ x.1 ≤ u)

variable {o} {found : Option Bucket} {a u : ℚ} {t : Nat} {ts : List Nat}

theorem valid_lasting (hb : ∀ b ∈ found, b.Valid o) : ∀ b ∈ (lasting o found ts).2, b.Valid o := by
  induction ts generalizing found with
  | nil => exact hb
  | cons t ts ih =>
    apply ih
    rintro b ⟨⟩
    exact valid_consume hb

theorem time_mem_lasting {x : Nat × RateLimitResult} (hx : x ∈ (lasting o found ts).1) :
    x.1 ∈ ts := by
  induction ts generalizing found with
  | nil => cases hx
  | cons t ts ih =>
    obtain rfl | hx := List.mem_cons.mp hx
    · exact List.mem_cons_self
    · exact List.mem_cons_of_mem t (ih hx)

theorem allowedWithin_early (h : ∀ t ∈ ts, u < t) : allowedWithin a u (lasting o found ts).1 = 0 := by
  apply List.countP_eq_zero.mpr
  intro x hx
  have hlt := h x.1 (time_mem_lasting hx)
  simp [not_le.mpr hlt]

theorem allowedWithin_cons {r : RateLimitResult} {xs : List (Nat × RateLimitResult)} :
    allowedWithin a u ((t, r) :: xs) ≤ (if r.allowed then 1 else 0) + allowedWithin a u xs := by
  unfold allowedWithin
  rw [List.countP_cons]
  by_cases hr : r.allowed
  · by_cases hin : a ≤ t ∧ (t : ℚ) ≤ u
    · simp [hr, hin, Nat.add_comm]
    · simp [hr, hin]
  · simp [hr]

theorem level_le_add {start : Nat} (hle : start ≤ t) (hlast : ∀ b ∈ found, b.lastRefill ≤ start) :
    level o found t ≤ level o found start + o.refillPerSec * ((t - start) / 1000) := by
  rw [← level_level hle hlast, mul_comm, ← Nat.cast_sub hle]
  exact refilled_le_add

theorem level_consume (hb : ∀ b ∈ found, b.Valid o) :
    level o (some (consume o found t).2) t + (if (consume o found t).1.allowed then 1 else 0) =
      level o found t := by
  have hleft : (consume o found t).2.tokens ≤ o.capacity := (valid_consume hb).2
  have hsame : level o (some (consume o found t).2) t = (consume o found t).2.tokens := by
    obtain ⟨-, -, heq⟩ | ⟨-, -, heq⟩ := consume_cases o found t
    all_goals
      rw [heq] at hleft ⊢
      simp only [level, Nat.sub_self, Nat.cast_zero, zero_div]
      exact refilled_zero hleft
  rw [hsame]
  obtain ⟨-, hallowed, heq⟩ | ⟨-, hdenied, heq⟩ := consume_cases o found t
  · rw [heq, hallowed]
    simp
  · rw [heq, hdenied]
    simp

theorem allowedWithin_le {start : Nat} (hb : ∀ b ∈ found, b.Valid o)
    (hlast : ∀ b ∈ found, b.lastRefill ≤ start) (hts : (start :: ts).Pairwise (· ≤ ·))
    (hu : (start : ℚ) ≤ u) :
    (allowedWithin a u (lasting o found ts).1 : ℚ) ≤
      level o found start + o.refillPerSec * ((u - start) / 1000) := by
  have hrate := le_of_lt o.refillPerSec_pos
  have hrest : 0 ≤ level o found start + o.refillPerSec * ((u - start) / 1000) :=
    add_nonneg (level_nonneg hb) (mul_nonneg hrate (by linarith))
  induction ts generalizing found start with
  | nil =>
    rw [show allowedWithin a u (lasting o found []).1 = 0 from rfl, Nat.cast_zero]
    exact hrest
  | cons t ts ih =>
    obtain ⟨hstart, hts⟩ := List.pairwise_cons.mp hts
    obtain hlt | hle := lt_or_ge u t
    · rw [allowedWithin_early, Nat.cast_zero]
      · exact hrest
      · intro t' ht'
        obtain rfl | ht' := List.mem_cons.mp ht'
        · exact hlt
        · have htt : (t : ℚ) ≤ t' := by exact_mod_cast (List.pairwise_cons.mp hts).1 t' ht'
          exact lt_of_lt_of_le hlt htt
    · have hlast' : ∀ b ∈ some (consume o found t).2, b.lastRefill ≤ t := by
        rintro b ⟨⟩
        exact le_of_eq lastRefill_consume
      have hb' : ∀ b ∈ some (consume o found t).2, b.Valid o := by
        rintro b ⟨⟩
        exact valid_consume hb
      have hlevel := level_le_add (o := o) (hstart t List.mem_cons_self) hlast
      have hspent := level_consume (t := t) hb
      have hih := ih hb' hlast' hts hle
        (add_nonneg (level_nonneg hb') (mul_nonneg hrate (by linarith)))
      have hcons : (allowedWithin a u (lasting o found (t :: ts)).1 : ℚ) ≤
          (if (consume o found t).1.allowed then 1 else 0) +
            allowedWithin a u (lasting o (some (consume o found t).2) ts).1 := by
        exact_mod_cast allowedWithin_cons
      linarith

theorem allowedWithin_le_capacity (hb : ∀ b ∈ found, b.Valid o)
    (hlast : ∀ b ∈ found, ∀ t ∈ ts, b.lastRefill ≤ t) (hts : ts.Pairwise (· ≤ ·)) {T : ℚ}
    (hT : 0 ≤ T) : (allowedWithin a (a + 1000 * T) (lasting o found ts).1 : ℚ) ≤
      o.capacity + o.refillPerSec * T := by
  have hrate := le_of_lt o.refillPerSec_pos
  have hbound : 0 ≤ o.capacity + o.refillPerSec * T :=
    add_nonneg (le_of_lt o.capacity_pos) (mul_nonneg hrate hT)
  induction ts generalizing found with
  | nil =>
    rw [show allowedWithin a (a + 1000 * T) (lasting o found []).1 = 0 from rfl, Nat.cast_zero]
    exact hbound
  | cons t ts ih =>
    obtain ⟨ht, hrest⟩ := List.pairwise_cons.mp hts
    obtain hlt | hle := lt_or_ge (t : ℚ) a
    · -- the window begins after this request
      have hskip : allowedWithin a (a + 1000 * T) (lasting o found (t :: ts)).1 =
          allowedWithin a (a + 1000 * T) (lasting o (some (consume o found t).2) ts).1 := by
        apply List.countP_cons_of_neg
        simp [not_le.mpr hlt]
      rw [hskip]
      apply ih
      · rintro b ⟨⟩
        exact valid_consume hb
      · rintro b ⟨⟩ t' ht'
        rw [lastRefill_consume]
        exact ht t' ht'
      · exact hrest
    · obtain hu | hu := lt_or_ge (a + 1000 * T) t
      · rw [allowedWithin_early, Nat.cast_zero]
        · exact hbound
        · intro t' ht'
          obtain rfl | ht' := List.mem_cons.mp ht'
          · exact hu
          · have htt : (t : ℚ) ≤ t' := by exact_mod_cast ht t' ht'
            exact lt_of_lt_of_le hu htt
      · have hwithin := allowedWithin_le (a := a) hb (fun b h => hlast b h t List.mem_cons_self)
          (List.pairwise_cons.mpr ⟨List.forall_mem_cons.mpr ⟨le_refl t, ht⟩, hts⟩) hu
        have hcapacity : level o found t ≤ o.capacity := level_le_capacity
        have htime : o.refillPerSec * ((a + 1000 * T - t) / 1000) ≤ o.refillPerSec * T :=
          mul_le_mul_of_nonneg_left (by linarith) hrate
        linarith

end Runs

section Expiry

variable {o : TokenBucketOptions} {K : Type} [DecidableEq K] {s : Redis.Store K Bucket} {key : K}
  {found : Option Bucket} {t later : Nat} {ts : List Nat}

def Kept (o : TokenBucketOptions) (s : Redis.Store K Bucket) (key : K) (found : Option Bucket) :
    Prop :=
  s key = found.map (fun b => ⟨b, b.lastRefill + 1000 * ttlSec o⟩)

theorem level_expired {b : Bucket} (hb : b.Valid o) (h : b.lastRefill + 1000 * ttlSec o ≤ later) :
    level o (some b) later = o.capacity := by
  apply refilled_full o.refillPerSec_pos hb.1
  have hceil : o.capacity / o.refillPerSec ≤ (ttlSec o : ℚ) := by
    refine le_trans (Nat.le_ceil _) ?_
    exact_mod_cast Nat.le_succ _
  have htime : (1000 * ttlSec o : ℚ) ≤ ((later - b.lastRefill : Nat) : ℚ) := by
    exact_mod_cast Nat.le_sub_of_add_le' h
  linarith

omit [DecidableEq K] in
theorem Kept.level (h : Kept o s key found) (hb : ∀ b ∈ found, b.Valid o) :
    level o (s.get later key) later = Resilience.level o found later := by
  cases found with
  | none =>
    rw [Redis.Store.get_of_none h]
  | some b =>
    by_cases hlive : later < b.lastRefill + 1000 * ttlSec o
    · rw [Redis.Store.get_eq_some.mpr ⟨_, h, hlive⟩]
    · have hgone : s.get later key = none := by
        rw [Redis.Store.get, h]
        simp [hlive]
      rw [hgone, level_expired (hb b rfl) (Nat.le_of_not_lt hlive)]
      rfl

theorem Kept.incrementToken (h : Kept o s key found) (hb : ∀ b ∈ found, b.Valid o) :
    (incrementToken o s t key).1 = (consume o found t).1 ∧
      Kept o (incrementToken o s t key).2 key (some (consume o found t).2) := by
  have hsame : consume o (s.get t key) t = consume o found t := consume_congr (h.level hb)
  unfold Resilience.incrementToken
  dsimp only
  rw [hsame]
  refine ⟨rfl, ?_⟩
  rw [Kept, Redis.Store.set, Function.update_self, Option.map_some, lastRefill_consume]

variable (ts) in
theorem Kept.requests (h : Kept o s key found) (hb : ∀ b ∈ found, b.Valid o) :
    (requests o key s ts).1 = (lasting o found ts).1 ∧
      Kept o (requests o key s ts).2 key (lasting o found ts).2 := by
  induction ts generalizing s found with
  | nil => exact ⟨rfl, h⟩
  | cons t ts ih =>
    obtain ⟨hanswer, hkept⟩ := h.incrementToken (t := t) hb
    have hb' : ∀ b ∈ some (consume o found t).2, b.Valid o := by
      rintro b ⟨⟩
      exact valid_consume hb
    obtain ⟨hrest, hlast⟩ := ih hkept hb'
    refine ⟨?_, hlast⟩
    simp only [Resilience.requests, lasting, hanswer, hrest]

/-- However the requests come, no window lets through more than the bucket holds and what
comes in meanwhile, the level stays between nothing and the capacity, and the expiry of the
key changes no answer. -/
theorem rateBound_of_requests (o : TokenBucketOptions) {K : Type} [DecidableEq K]
    (s : Redis.Store K Bucket) (key : K) (hnew : s key = none) (ts : List Nat)
    (hts : ts.Pairwise (· ≤ ·)) :
    (∀ a T : ℚ, 0 ≤ T → (allowedWithin a (a + 1000 * T) (requests o key s ts).1 : ℚ) ≤
      o.capacity + o.refillPerSec * T) ∧
    (∀ e ∈ (requests o key s ts).2 key, 0 ≤ e.value.tokens ∧ e.value.tokens ≤ o.capacity) ∧
    (requests o key s ts).1 = (lasting o none ts).1 := by
  have hnone : ∀ b ∈ (none : Option Bucket), b.Valid o := fun _ hb => by cases hb
  have hkept : Kept o s key none := hnew
  obtain ⟨hanswers, hlast⟩ := hkept.requests ts hnone
  refine ⟨fun a T hT => ?_, fun e he => ?_, hanswers⟩
  · rw [hanswers]
    exact allowedWithin_le_capacity hnone (fun _ hb => by cases hb) hts hT
  · rw [hlast] at he
    obtain ⟨b, hb, rfl⟩ := Option.mem_map.mp he
    exact valid_lasting hnone b hb

def sampleTokenOptions : TokenBucketOptions := ⟨2, 5 / 2, by norm_num, by norm_num⟩

/-- Two requests are allowed at once, the third waits, and the last one comes after the key has
expired. -/
theorem rateBound_refilled :
    (requests sampleTokenOptions 0 .empty [0, 0, 100, 399, 400, 9000]).1.map (fun x => x.2.allowed) =
      [true, true, false, false, true, true] ∧
    (allowedWithin 0 (0 + 1000 * (2 / 5))
      (requests sampleTokenOptions 0 .empty [0, 0, 100, 399, 400, 9000]).1 : ℚ) ≤ 3 := by
  obtain ⟨hbound, -, -⟩ := rateBound_of_requests sampleTokenOptions .empty 0 rfl
    [0, 0, 100, 399, 400, 9000] (by decide)
  refine ⟨by decide +kernel, ?_⟩
  have hwindow := hbound 0 (2 / 5) (by norm_num)
  norm_num [sampleTokenOptions] at hwindow ⊢
  exact hwindow

theorem one_le_level_iff (hcapacity : 1 ≤ o.capacity)
    (h : (consume o found t).1.allowed = false) (hle : t ≤ later) :
    1 ≤ level o (some (consume o found t).2) later ↔ t + (consume o found t).1.resetMs ≤ later := by
  obtain ⟨hreset, hleft⟩ := consume_denied h
  have htime : ((later - t : Nat) : ℚ) / 1000 * 1000 = (later - t : Nat) := by
    rw [div_mul_cancel₀]
    norm_num
  rw [hleft, hreset, ← Nat.le_sub_iff_add_le' hle, Nat.ceil_le, ← htime,
    mul_le_mul_iff_left₀ (by norm_num)]
  exact le_refilled_iff o.refillPerSec_pos hcapacity

/-- A denied request tells exactly when the next one is allowed, if there is none meanwhile. -/
theorem retryExact_of_denied (o : TokenBucketOptions) (hcapacity : 1 ≤ o.capacity) {K : Type}
    [DecidableEq K] (s : Redis.Store K Bucket) (key : K) (hnew : s key = none) (ts : List Nat)
    (t : Nat)
    (hdenied : (incrementToken o (requests o key s ts).2 t key).1.allowed = false) (later : Nat)
    (hlater : t ≤ later) :
    (incrementToken o (incrementToken o (requests o key s ts).2 t key).2 later key).1.allowed = true ↔
      t + (incrementToken o (requests o key s ts).2 t key).1.resetMs ≤ later := by
  have hnone : ∀ b ∈ (none : Option Bucket), b.Valid o := fun _ hb => by cases hb
  have hkept : Kept o s key none := hnew
  obtain ⟨-, hlast⟩ := hkept.requests ts hnone
  have hvalid : ∀ b ∈ (lasting o none ts).2, b.Valid o := valid_lasting hnone
  obtain ⟨hanswer, hleft⟩ := hlast.incrementToken (t := t) hvalid
  have hvalid' : ∀ b ∈ some (consume o (lasting o none ts).2 t).2, b.Valid o := by
    rintro b ⟨⟩
    exact valid_consume hvalid
  obtain ⟨hretry, -⟩ := hleft.incrementToken (t := later) hvalid'
  rw [hanswer] at hdenied ⊢
  rw [hretry, allowed_iff]
  exact one_le_level_iff hcapacity hdenied hlater

/-- The third request at the time 100 is told to come back at 400. -/
theorem retryExact_waited :
    (incrementToken sampleTokenOptions (requests sampleTokenOptions 0 .empty [0, 0]).2 100 0).1 =
      ⟨false, 0, 300⟩ ∧
    ∀ later, 100 ≤ later →
      ((incrementToken sampleTokenOptions (incrementToken sampleTokenOptions
        (requests sampleTokenOptions 0 .empty [0, 0]).2 100 0).2 later 0).1.allowed = true ↔
          100 + 300 ≤ later) := by
  have hanswer : (incrementToken sampleTokenOptions
      (requests sampleTokenOptions 0 .empty [0, 0]).2 100 0).1 = ⟨false, 0, 300⟩ := by
    decide +kernel
  refine ⟨hanswer, fun later hlater => ?_⟩
  have hexact := retryExact_of_denied sampleTokenOptions (by decide +kernel) .empty 0 rfl [0, 0] 100
    (congrArg RateLimitResult.allowed hanswer) later hlater
  rw [hanswer] at hexact
  exact hexact

end Expiry

end RailwayBooking.Resilience
