import Mathlib.Data.List.Induction
import RailwayBooking.Concurrency.Reachable

namespace RailwayBooking.Concurrency

variable {V : Service} {M : Machine V}

/-- The tables are what the logged transactions make of the initial ones, and each
of these met the discipline and passed the scope when it committed. -/
structure History (D : Discipline M) (S : Scope M) (d₀ : V.Db) (w : World V M.Call) : Prop where
  db : w.db = World.replay d₀ w.log
  entry : ∀ before c t later, w.log = before ++ (c, t) :: later →
    ∃ v : World V M.Call, v.db = World.replay d₀ before ∧ v.log = before ∧
      D.inv v ∧ D.pre c v ∧ D.commits c t v ∧ S.Passes c t v

variable {D : Discipline M} {S : Scope M}

theorem replay_append {Call : Type} (d : V.Db) (log : List (Call × Tx V)) (c : Call) (t : Tx V) :
    World.replay d (log ++ [(c, t)]) = t.view (World.replay d log) := by
  simp [World.replay]

theorem replay_filter {Call : Type} {keep : Call × Tx V → Bool} {log : List (Call × Tx V)} (d : V.Db)
    (h : ∀ x ∈ log, keep x = false → x.2.writes = []) :
    World.replay d (log.filter keep) = World.replay d log := by
  induction log generalizing d with
  | nil => rfl
  | cons x log ih =>
    have htail := fun d => ih d fun y hy => h y (List.mem_cons_of_mem _ hy)
    cases hk : keep x with
    | true =>
      rw [List.filter_cons_of_pos hk]
      exact htail (x.2.view d)
    | false =>
      have hview : x.2.view d = d := by
        rw [Tx.view, h x List.mem_cons_self hk]
        rfl
      rw [List.filter_cons_of_neg (by simp [hk]), htail d]
      exact congrArg (World.replay · log) hview.symm

theorem append_singleton_cases {α : Type} {xs before later : List α} {x y : α}
    (h : xs ++ [x] = before ++ y :: later) :
    (before = xs ∧ y = x) ∨ ∃ later', xs = before ++ y :: later' := by
  cases later using List.reverseRecOn with
  | nil =>
    obtain ⟨hx, hy⟩ := List.append_inj' h rfl
    exact .inl ⟨hx.symm, (List.cons.inj hy).1.symm⟩
  | append_singleton later z =>
    rw [← List.cons_append, ← List.append_assoc] at h
    exact .inr ⟨later, (List.append_inj' h rfl).1⟩

theorem keeps_history (d₀ : V.Db) : Keeps D S (History D S d₀) where
  commit w c t hi hp hc _ hs h := by
    refine ⟨?_, fun before c' t' later he => ?_⟩
    · rw [World.commit, replay_append, ← h.db]
    · obtain ⟨rfl, hx⟩ | ⟨later', he⟩ := append_singleton_cases he
      · cases hx
        exact ⟨w, h.db, rfl, hi, hp, hc, hs⟩
      · exact h.entry before c' t' later' he
  drift w e _ h := ⟨h.db, h.entry⟩

theorem history_init (d : V.Db) (e : V.Env) : History D S d (Pool.init (M := M) d e).world where
  db := rfl
  entry before c t later he := by simp [Pool.init] at he

end RailwayBooking.Concurrency
