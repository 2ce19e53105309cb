import RailwayBooking.Concurrency.Transition
import RailwayBooking.Redis.SeatLock

namespace RailwayBooking.Redis

open Concurrency System

section Live

variable {K V : Type} {s : Store K V} {now later : Nat} {k : K} {v : V} {e : Entry V}

/-- The keys that have not run out: what a client of the store can see. -/
def Store.live (s : Store K V) (now : Nat) : Store K V :=
  fun k => (s k).filter (fun e => now < e.expires)

theorem Store.live_eq_some : s.live now k = some e ↔ s k = some e ∧ now < e.expires := by
  simp [live, Option.filter_eq_some_iff]

theorem Store.live_eq_none : s.live now k = none ↔ s.get now k = none := by
  cases hs : s k with
  | none => simp [live, get, hs]
  | some e => simp [live, get, hs, Option.filter_eq_none_iff]

theorem Store.get_eq_live : s.get now k = some v ↔ ∃ t, s.live now k = some ⟨v, t⟩ := by
  simp only [get_eq_some, live_eq_some]

theorem Store.live_congr {s' : Store K V} (h : s' k = s k) : s'.live now k = s.live now k := by
  simp only [live, h]

end Live

variable {K Token : Type} [DecidableEq K] [DecidableEq Token]

/-- A run of `seat-lock.lua`, `seat-renew.lua` or `seat-unlock.lua`. -/
inductive Script (K Token : Type)
  | lock (keys : List K) (lockValue : Token) (ttlSeconds : Nat)
  | renew (keys : List K) (lockValue : Token) (ttlSeconds : Nat)
  | unlock (keys : List K) (lockValue : Token)

namespace Script

def token : Script K Token → Token
  | lock _ v _ | renew _ v _ | unlock _ v => v

def Timed : Script K Token → Prop
  | lock _ _ ttl | renew _ _ ttl => 0 < ttl
  | unlock _ _ => True

def eval (s : Store K Token) (now : Nat) : Script K Token → Store K Token
  | lock keys v ttl => (seatLock s now keys v ttl).2
  | renew keys v ttl => (seatRenew s now keys v ttl).2
  | unlock keys v => (seatUnlock s now keys v).2

end Script

/-- The store and the time. -/
structure Keyspace (K Token : Type) where
  now : Nat
  store : Store K Token

namespace Keyspace

variable (s : Keyspace K Token)

def live : Store K Token := s.store.live s.now

/-- Scripts run one after the other, and time passes between them. -/
inductive Label (K Token : Type)
  | script (x : Script K Token)
  | tick (d : Nat)

def step : Label K Token → Option (Keyspace K Token)
  | .script x => some { s with store := x.eval s.store s.now }
  | .tick d => some { s with now := s.now + d }

@[reducible] def system (K Token : Type) [DecidableEq K] [DecidableEq Token] : System :=
  ⟨Keyspace K Token, Label K Token, step⟩

/-- Only tokens other than `v` run scripts. -/
def Foreign (v : Token) (_ : Keyspace K Token) : Label K Token → Prop
  | .script x => x.Timed ∧ x.token ≠ v
  | .tick _ => True

/-- Token `v` owns the listed keys. -/
def Owns (v : Token) (keys : List K) : Prop := ∀ k ∈ keys, ∃ t, s.live k = some ⟨v, t⟩

/-- What the three scripts do to a store, and what no script of another token does. -/
structure Exact : Prop where
  lock : ∀ keys v ttl, 0 < ttl →
    (let r := seatLock s.store s.now keys v ttl
     (r.1 = true ∧ ∀ k, r.2.live s.now k =
        if k ∈ keys then some ⟨v, s.now + 1000 * ttl⟩ else s.live k) ∨
      (r.1 = false ∧ r.2.live s.now = s.live))
  renew : ∀ keys v ttl, 0 < ttl →
    (let r := seatRenew s.store s.now keys v ttl
     (s.Owns v keys ∧ r.1 = true ∧ ∀ k, r.2.live s.now k =
        if k ∈ keys then some ⟨v, s.now + 1000 * ttl⟩ else s.live k) ∨
      (¬ s.Owns v keys ∧ r.1 = false ∧ r.2.live s.now = s.live))
  unlock : ∀ keys v k,
    (let s' := (seatUnlock s.store s.now keys v).2
     (k ∈ keys ∧ s.Owns v [k] → s'.live s.now k = none) ∧
      (¬ (k ∈ keys ∧ s.Owns v [k]) → s'.live s.now k = s.live k))
  foreign : ∀ v s', Run (system K Token) (Foreign v) s s' → ∀ k t, s.live k = some ⟨v, t⟩ →
    s'.now < t → s'.live k = some ⟨v, t⟩

variable {s} {keys : List K} {v : Token} {ttl : Nat} {k : K}

omit [DecidableEq K] [DecidableEq Token] in
theorem owns_iff : s.Owns v keys ↔ ∀ k ∈ keys, s.store.get s.now k = some v :=
  forall₂_congr fun _ _ => Store.get_eq_live.symm

omit [DecidableEq K] [DecidableEq Token] in
theorem owns_singleton : s.Owns v [k] ↔ s.store.get s.now k = some v := by
  rw [owns_iff]
  simp

omit [DecidableEq Token] in
theorem lock_exact (keys : List K) (v : Token) (httl : 0 < ttl) :
    ((seatLock s.store s.now keys v ttl).1 = true ∧
      ∀ k, (seatLock s.store s.now keys v ttl).2.live s.now k =
        if k ∈ keys then some ⟨v, s.now + 1000 * ttl⟩ else s.live k) ∨
    ((seatLock s.store s.now keys v ttl).1 = false ∧
      (seatLock s.store s.now keys v ttl).2.live s.now = s.live) := by
  cases hr : (seatLock s.store s.now keys v ttl).1 with
  | true =>
    obtain ⟨-, htaken, hothers⟩ := seatLock_taken httl hr
    refine .inl ⟨rfl, fun k => ?_⟩
    by_cases hk : k ∈ keys
    · rw [if_pos hk]
      exact Store.live_eq_some.mpr ⟨htaken k hk, by dsimp only; omega⟩
    · rw [if_neg hk]
      exact Store.live_congr (hothers k hk)
  | false =>
    refine .inr ⟨rfl, ?_⟩
    funext k
    obtain hk | ⟨hfree, hk⟩ := seatLock_refused httl hr k
    · exact Store.live_congr hk
    · -- the script took the key, which was free, and gave it back
      have hgone : (seatLock s.store s.now keys v ttl).2.live s.now k = none := by
        simp [Store.live, hk]
      rw [hgone, live, Store.live_eq_none.mpr hfree]

theorem renew_exact (keys : List K) (v : Token) (httl : 0 < ttl) :
    (s.Owns v keys ∧ (seatRenew s.store s.now keys v ttl).1 = true ∧
      ∀ k, (seatRenew s.store s.now keys v ttl).2.live s.now k =
        if k ∈ keys then some ⟨v, s.now + 1000 * ttl⟩ else s.live k) ∨
    (¬ s.Owns v keys ∧ (seatRenew s.store s.now keys v ttl).1 = false ∧
      (seatRenew s.store s.now keys v ttl).2.live s.now = s.live) := by
  cases hr : (seatRenew s.store s.now keys v ttl).1 with
  | true =>
    obtain ⟨howned, hstore⟩ := seatRenew_renewed hr
    refine .inl ⟨owns_iff.mpr howned, rfl, fun k => ?_⟩
    by_cases hk : k ∈ keys
    · rw [if_pos hk]
      refine Store.live_eq_some.mpr ⟨?_, by dsimp only; omega⟩
      rw [hstore, if_pos hk]
    · rw [if_neg hk]
      apply Store.live_congr
      rw [hstore, if_neg hk]
  | false =>
    refine .inr ⟨fun howns => ?_, rfl, by rw [seatRenew_refused hr]; rfl⟩
    have hall : keys.all (fun key => s.store.get s.now key = some v) = true :=
      List.all_eq_true.mpr fun k hk => decide_eq_true (owns_iff.mp howns k hk)
    rw [seatRenew, if_pos hall] at hr
    cases hr

theorem unlock_removed (h : k ∈ keys ∧ s.Owns v [k]) :
    (seatUnlock s.store s.now keys v).2.live s.now k = none := by
  rw [Store.live, seatUnlock_apply, if_pos ⟨h.1, owns_singleton.mp h.2⟩]
  rfl

theorem unlock_kept (h : ¬ (k ∈ keys ∧ s.Owns v [k])) :
    (seatUnlock s.store s.now keys v).2.live s.now k = s.live k := by
  apply Store.live_congr
  rw [seatUnlock_apply, if_neg]
  rwa [owns_singleton] at h

theorem eval_foreign {x : Script K Token} (hx : x.Timed) (hv : x.token ≠ v) {t : Nat}
    (h : s.live k = some ⟨v, t⟩) : (x.eval s.store s.now).live s.now k = some ⟨v, t⟩ := by
  cases x with
  | lock keys v' ttl =>
    obtain ⟨hr, hlive⟩ | ⟨-, hlive⟩ := lock_exact (s := s) keys v' hx
    · have hk : k ∉ keys := by
        intro hk
        have hfree := (seatLock_taken hx hr).1 k hk
        rw [← Store.live_eq_none] at hfree
        rw [live, hfree] at h
        cases h
      exact (hlive k).trans ((if_neg hk).trans h)
    · exact (congrFun hlive k).trans h
  | renew keys v' ttl =>
    obtain ⟨howns, -, hlive⟩ | ⟨-, -, hlive⟩ := renew_exact (s := s) keys v' hx
    · have hk : k ∉ keys := by
        intro hk
        obtain ⟨t', ht'⟩ := howns k hk
        rw [h] at ht'
        cases ht'
        exact hv rfl
      exact (hlive k).trans ((if_neg hk).trans h)
    · exact (congrFun hlive k).trans h
  | unlock keys v' =>
    refine (unlock_kept ?_).trans h
    rintro ⟨-, howns⟩
    obtain ⟨t', ht'⟩ := howns k (List.mem_singleton_self k)
    rw [h] at ht'
    cases ht'
    exact hv rfl

theorem run_foreign {s' : Keyspace K Token} {t : Nat} (hs : s.live k = some ⟨v, t⟩)
    (h : Run (system K Token) (Foreign v) s s') : s'.now < t → s'.live k = some ⟨v, t⟩ := by
  refine h.invariant (I := fun (s' : Keyspace K Token) => s'.now < t →
    s'.live k = some ⟨v, t⟩) (fun _ => hs) ?_
  intro s₁ a s₂ _ ih ha hstep hlt
  cases a with
  | script x =>
    cases hstep
    exact eval_foreign ha.1 ha.2 (ih hlt)
  | tick d =>
    cases hstep
    have hlive := ih (Nat.lt_of_le_of_lt (Nat.le_add_right _ d) hlt)
    exact Store.live_eq_some.mpr ⟨(Store.live_eq_some.mp hlive).1, hlt⟩

/-- The scripts are all or nothing and keep to their own keys, from every store on. -/
theorem scripts_exact (s : Keyspace K Token) : s.Exact where
  lock keys v _ httl := lock_exact keys v httl
  renew keys v _ httl := renew_exact keys v httl
  unlock _ _ _ := ⟨unlock_removed, unlock_kept⟩
  foreign _ _ hrun _ _ hs := run_foreign hs hrun

/-- Token 1 holds key 0, and key 5 has run out. -/
def contended : Keyspace Nat Nat := ⟨0, (Store.empty.set 0 1 50).set 5 3 0⟩

/-- A lock with a held key or with one key twice is refused and leaves nothing; a renewal of
held keys extends them. -/
theorem scripts_exact_contended : contended.Exact ∧
    (seatLock contended.store contended.now [5, 0] 2 1).1 = false ∧
    (seatLock contended.store contended.now [5, 5] 1 1).1 = false ∧
    (seatLock contended.store contended.now [5] 2 1).1 = true ∧
    (seatRenew contended.store contended.now [0] 1 1).1 = true :=
  ⟨scripts_exact contended, by decide⟩

end Keyspace

end RailwayBooking.Redis
