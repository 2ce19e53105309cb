import Mathlib.Logic.Function.Basic
import Mathlib.Data.Option.Basic

namespace RailwayBooking.Redis

structure Entry (V : Type) where
  value : V
  expires : Nat

/-- Keys with values and expiry times. Commands receive the current time. -/
abbrev Store (K V : Type) := K → Option (Entry V)

/-- A command succeeds, fails without effect, or takes effect and fails before its
answer arrives. -/
inductive Outcome
  | ok
  | fault
  | lost
  deriving DecidableEq, Repr

namespace Store

variable {K V : Type} [DecidableEq K]

def empty : Store K V := fun _ => none

def get (s : Store K V) (now : Nat) (k : K) : Option V :=
  (s k).bind (fun e => if now < e.expires then some e.value else none)

def set (s : Store K V) (k : K) (v : V) (expires : Nat) : Store K V :=
  Function.update s k (some ⟨v, expires⟩)

/-- `SET k v NX`. -/
def setNx (s : Store K V) (now : Nat) (k : K) (v : V) (expires : Nat) : Bool × Store K V :=
  match s.get now k with
  | some _ => (false, s)
  | none => (true, s.set k v expires)

/-- `EXPIRE`. -/
def expire (s : Store K V) (now : Nat) (k : K) (expires : Nat) : Store K V :=
  match s.get now k with
  | some v => s.set k v expires
  | none => s

def del (s : Store K V) (k : K) : Store K V := Function.update s k none

@[simp] theorem get_set_same (s : Store K V) (now : Nat) (k : K) (v : V) (t : Nat) :
    (s.set k v t).get now k = if now < t then some v else none := by
  simp [get, set]

@[simp] theorem get_set_ne (s : Store K V) (now : Nat) {k k' : K} (v : V) (t : Nat)
    (h : k' ≠ k) : (s.set k v t).get now k' = s.get now k' := by
  simp [get, set, h]

@[simp] theorem get_del_same (s : Store K V) (now : Nat) (k : K) : (s.del k).get now k = none := by
  simp [get, del]

@[simp] theorem get_del_ne (s : Store K V) (now : Nat) {k k' : K} (h : k' ≠ k) :
    (s.del k).get now k' = s.get now k' := by
  simp [get, del, h]

omit [DecidableEq K] in
theorem get_eq_some {s : Store K V} {now : Nat} {k : K} {v : V} :
    s.get now k = some v ↔ ∃ t, s k = some ⟨v, t⟩ ∧ now < t := by
  simp only [get, Option.bind_eq_some_iff, Option.ite_none_right_eq_some, Option.some.injEq]
  constructor
  · rintro ⟨⟨v', t⟩, he, hlt, rfl⟩
    exact ⟨t, he, hlt⟩
  · rintro ⟨t, he, hlt⟩
    exact ⟨⟨v, t⟩, he, hlt, rfl⟩

omit [DecidableEq K] in
theorem get_congr {s s' : Store K V} {now : Nat} {k : K} (h : s k = s' k) :
    s.get now k = s'.get now k := by
  rw [get, get, h]

omit [DecidableEq K] in
theorem get_of_none {s : Store K V} {now : Nat} {k : K} (h : s k = none) : s.get now k = none := by
  rw [get, h, Option.bind_none]

theorem get_set_cases {s : Store K V} {now t : Nat} {k k' : K} {v v' : V}
    (h : (s.set k v t).get now k' = some v') :
    (k' = k ∧ v = v') ∨ (k' ≠ k ∧ s.get now k' = some v') := by
  by_cases hk : k' = k
  · subst hk
    rw [get_set_same, Option.ite_none_right_eq_some, Option.some.injEq] at h
    exact .inl ⟨rfl, h.2⟩
  · rw [get_set_ne _ _ _ _ hk] at h
    exact .inr ⟨hk, h⟩

omit [DecidableEq K] in
theorem get_of_erased {s : Store K V} {gone : K → Prop} [DecidablePred gone] {now : Nat} {k : K}
    {v : V} (h : Store.get (fun k => if gone k then none else s k) now k = some v) :
    s.get now k = some v := by
  by_cases hk : gone k
  · cases (get_of_none (if_pos hk)).symm.trans h
  · exact (get_congr (if_neg hk)).symm.trans h

theorem set_eq_some {s : Store K V} {k k' : K} {v : V} {t : Nat} {e : Entry V} :
    s.set k v t k' = some e ↔ (k' = k ∧ e = ⟨v, t⟩) ∨ (k' ≠ k ∧ s k' = some e) := by
  unfold set
  by_cases hk : k' = k
  · subst hk
    simp [eq_comm]
  · simp [hk]

theorem del_eq_some {s : Store K V} {k k' : K} {e : Entry V} :
    s.del k k' = some e ↔ k' ≠ k ∧ s k' = some e := by
  unfold del
  by_cases hk : k' = k
  · subst hk
    simp
  · simp [hk]

theorem expire_eq {s : Store K V} {now t : Nat} {k : K} (k' : K) :
    s.expire now k t k' = (s k').map (fun e =>
      if k' = k ∧ now < e.expires then { e with expires := t } else e) := by
  unfold expire
  by_cases hk : k' = k
  · subst hk
    cases hs : s k' with
    | none => simp [get, hs]
    | some e =>
      by_cases hlt : now < e.expires
      · simp [get, hs, hlt, set]
      · simp [get, hs, hlt]
  · cases s.get now k with
    | some v => simp [set, hk]
    | none => simp [hk]

theorem expire_keeps {s : Store K V} {now t : Nat} {k k' : K} {e : Entry V} (h : s k' = some e) :
    ∃ e', s.expire now k t k' = some e' ∧ e'.value = e.value ∧
      (e'.expires = e.expires ∨ e'.expires = t) := by
  rw [expire_eq, h, Option.map_some]
  split
  · exact ⟨_, rfl, rfl, .inr rfl⟩
  · exact ⟨_, rfl, rfl, .inl rfl⟩

omit [DecidableEq K] in
theorem get_earlier {s : Store K V} {now later : Nat} {k : K} {v : V} (hle : now ≤ later)
    (h : s.get later k = some v) : s.get now k = some v := by
  simp only [get, Option.bind_eq_some_iff, Option.ite_none_right_eq_some] at h ⊢
  obtain ⟨e, he, hlt, hv⟩ := h
  exact ⟨e, he, by omega, hv⟩

end Store

end RailwayBooking.Redis
