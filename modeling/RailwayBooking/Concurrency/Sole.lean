import Mathlib.Data.List.Nodup

namespace RailwayBooking.Concurrency

variable {X α : Type} {holds holds' : Nat → X → Prop} {out out' : Nat → Prop}

def Sole (holds : Nat → X → Prop) (out : Nat → Prop) : Prop :=
  ∀ x i j, i ≠ j → holds i x → holds j x → out i ∨ out j

theorem Sole.step (h : Sole holds out) (hout : ∀ i x, holds i x → out i → out' i)
    (hnew : ∀ i x, holds' i x → holds i x ∨ ∀ j, j ≠ i → holds' j x → out' j) :
    Sole holds' out' := by
  intro x i j hij hi hj
  obtain hi' | hothers := hnew i x hi
  · obtain hj' | hothers := hnew j x hj
    · exact (h x i j hij hi' hj').imp (hout i x hi') (hout j x hj')
    · exact .inl (hothers i hij hi)
  · exact .inr (hothers j (Ne.symm hij) hj)

theorem Sole.length_le_one (h : Sole holds out) {x : X} {f : α → Nat} {uses : List α}
    (hn : (uses.map f).Nodup) (hu : ∀ a ∈ uses, holds (f a) x ∧ ¬ out (f a)) :
    uses.length ≤ 1 := by
  match uses with
  | [] => exact Nat.zero_le 1
  | [a] => exact Nat.le_refl 1
  | a :: b :: rest =>
    obtain ⟨ha, hna⟩ := hu a List.mem_cons_self
    obtain ⟨hb, hnb⟩ := hu b (List.mem_cons_of_mem _ List.mem_cons_self)
    have hne : f a ≠ f b := by
      intro heq
      refine (List.nodup_cons.mp hn).1 ?_
      rw [heq]
      exact List.mem_cons_self
    exact absurd (h x (f a) (f b) hne ha hb) (not_or.mpr ⟨hna, hnb⟩)

end RailwayBooking.Concurrency
