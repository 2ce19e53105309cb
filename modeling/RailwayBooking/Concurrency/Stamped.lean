import RailwayBooking.Concurrency.Schedule

namespace RailwayBooking.Concurrency

variable {V : Service}

/-- The machine whose calls carry the environment in which they arrive. -/
@[reducible] def Machine.stamped (M : Machine V) : Machine V :=
  ⟨M.Call × V.Env, M.Out, fun c => M.body c.1⟩

variable {M : Machine V} {S : Scope M.stamped} {p p' : Pool M.stamped}

/-- What holds of the environment from some time on holds when a later call arrives. -/
theorem Reachable.arrived (hS : ∀ c w, S.start c w → c.2 = w.env) {F : V.Env → Prop}
    (hF : ∀ q, Reachable S p q → F q.world.env) (h : Reachable S p p') :
    ∀ c ∈ (p'.threads.map Thread.call).drop p.threads.length, F c.2 := by
  induction h with
  | start =>
    intro c hc
    rw [List.drop_of_length_le (Nat.le_of_eq (List.length_map _))] at hc
    cases hc
  | @spawn q h c hc ih =>
    intro c' hc'
    rw [Pool.spawn, List.map_append, List.drop_append, List.mem_append] at hc'
    obtain hc' | hc' := hc'
    · exact ih c' hc'
    · obtain rfl := List.mem_singleton.mp (List.mem_of_mem_drop hc')
      rw [hS c' q.world hc]
      exact hF q h
  | act _ _ hp ih =>
    rw [act_calls hp]
    exact ih

section Play

variable (ok : Pool M.stamped → Action V → Bool)

def Pool.moveStamped (p : Pool M.stamped) : Move M → Option (Pool M.stamped)
  | .call c => some (p.spawn (c, p.world.env))
  | .step a => p.guarded ok a
  | .burst i n => some (p.burst ok i n)

def Pool.playStamped (p : Pool M.stamped) : List (Move M) → Option (Pool M.stamped)
  | [] => some p
  | m :: ms => (p.moveStamped ok m).bind (fun p' => p'.playStamped ms)

variable {ok}

theorem reachable_playStamped (hok : ∀ p a, ok p a = true → S.Permits p a)
    (hstart : ∀ c w, S.start (c, w.env) w) {ms : List (Move M)} {p₀ p p' : Pool M.stamped}
    (h : Reachable S p₀ p) (hp : p.playStamped ok ms = some p') : Reachable S p₀ p' := by
  induction ms generalizing p with
  | nil =>
    cases hp
    exact h
  | cons m ms ih =>
    simp only [Pool.playStamped, Option.bind_eq_some_iff] at hp
    obtain ⟨p₁, h₁, hp⟩ := hp
    refine ih ?_ hp
    cases m with
    | call c =>
      cases h₁
      exact h.spawn (hstart c _)
    | step a => exact reachable_guarded hok h h₁
    | burst i n =>
      cases h₁
      exact reachable_burst hok i n h

/-- A schedule of calls stamped when they arrive, and another one from where it ends. -/
theorem exists_reachable_stamped (S : Scope M.stamped) (p₀ : Pool M.stamped)
    (ok : Pool M.stamped → Action V → Bool) (ms ms' : List (Move M))
    (test : Pool M.stamped → Pool M.stamped → Bool)
    (hok : ∀ p a, ok p a = true → S.Permits p a) (hstart : ∀ c w, S.start (c, w.env) w)
    (h : (p₀.playStamped ok ms).any (fun p => (p.playStamped ok ms').any (test p)) = true) :
    ∃ p p', Reachable S p₀ p ∧ Reachable S p p' ∧ test p p' = true := by
  cases hp : p₀.playStamped ok ms with
  | none =>
    rw [hp] at h
    cases h
  | some p =>
    rw [hp, Option.any_some] at h
    cases hp' : p.playStamped ok ms' with
    | none =>
      rw [hp'] at h
      cases h
    | some p' =>
      rw [hp'] at h
      exact ⟨p, p', reachable_playStamped hok hstart .start hp,
        reachable_playStamped hok hstart .start hp', h⟩

end Play

end RailwayBooking.Concurrency
