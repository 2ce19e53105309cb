import Mathlib.Data.List.Basic
import RailwayBooking.Redis.Store

namespace RailwayBooking.Redis

namespace Store

variable {K V : Type} [DecidableEq K] [DecidableEq V]

/-- `SMEMBERS`. -/
def smembers (s : Store K (List V)) (now : Nat) (k : K) : List V := (s.get now k).getD []

/-- `SADD` followed by `EXPIRE`. -/
def sadd (s : Store K (List V)) (now : Nat) (k : K) (v : V) (expires : Nat) : Store K (List V) :=
  s.set k ((s.smembers now k).insert v) expires

/-- `SREM`. A set without members is no key. -/
def srem (s : Store K (List V)) (k : K) (v : V) : Store K (List V) :=
  Function.update s k ((s k).bind (fun e =>
    let members := e.value.filter (fun x => x ≠ v)
    if members = [] then none else some { e with value := members }))

/-- `DEL` with several keys. -/
def delAll {W : Type} (s : Store K W) (ks : List K) : Store K W :=
  fun k => if k ∈ ks then none else s k

omit [DecidableEq K] [DecidableEq V] in
theorem mem_smembers {s : Store K (List V)} {now : Nat} {k : K} {v : V} :
    v ∈ s.smembers now k ↔ ∃ e, s k = some e ∧ now < e.expires ∧ v ∈ e.value := by
  unfold smembers
  constructor
  · intro h
    cases hget : s.get now k with
    | none =>
      rw [hget] at h
      cases h
    | some ms =>
      rw [hget] at h
      obtain ⟨t, ht, hlt⟩ := get_eq_some.mp hget
      exact ⟨_, ht, hlt, h⟩
  · rintro ⟨e, he, hlt, hv⟩
    rw [get_eq_some.mpr ⟨e.expires, he, hlt⟩]
    exact hv

theorem srem_other {s : Store K (List V)} {k k' : K} {v : V} (h : k' ≠ k) :
    s.srem k v k' = s k' :=
  Function.update_of_ne h _ _

theorem srem_keeps {s : Store K (List V)} {k : K} {v v' : V} {e : Entry (List V)} (hk : s k = some e)
    (hv : v' ∈ e.value) (hne : v' ≠ v) :
    ∃ e', s.srem k v k = some e' ∧ v' ∈ e'.value ∧ e'.expires = e.expires := by
  have hmem : v' ∈ e.value.filter (fun x => x ≠ v) := List.mem_filter.mpr ⟨hv, decide_eq_true hne⟩
  refine ⟨{ e with value := e.value.filter (fun x => x ≠ v) }, ?_, hmem, rfl⟩
  rw [srem, Function.update_self, hk, Option.bind_some, if_neg (List.ne_nil_of_mem hmem)]

theorem srem_mem {s : Store K (List V)} {k k' : K} {v : V} {e : Entry (List V)}
    (h : s.srem k v k' = some e) : ∃ e', s k' = some e' ∧ ∀ x ∈ e.value, x ∈ e'.value := by
  by_cases hk : k' = k
  · subst hk
    rw [srem, Function.update_self, Option.bind_eq_some_iff] at h
    obtain ⟨e', he', h⟩ := h
    simp only [Option.ite_none_left_eq_some, Option.some.injEq] at h
    obtain ⟨-, rfl⟩ := h
    exact ⟨e', he', fun x hx => (List.mem_filter.mp hx).1⟩
  · rw [srem_other hk] at h
    exact ⟨e, h, fun x hx => hx⟩

omit [DecidableEq V] in
theorem get_delAll {W : Type} {s : Store K W} {now : Nat} {ks : List K} {k : K} :
    (s.delAll ks).get now k = if k ∈ ks then none else s.get now k := by
  unfold get delAll
  split <;> rfl

end Store

end RailwayBooking.Redis
