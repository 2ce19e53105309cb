import RailwayBooking.Concurrency.Rules

namespace RailwayBooking.Concurrency

variable {V : Service} {M : Machine V}

/-- The code leaves the database alone, and what it asks of the environment satisfies
`P`. -/
def Issues (P : V.Aux → Prop) {α : Type} : Code V α → Prop
  | .ret _ => True
  | .raise _ => True
  | .call (.aux a) k => P a ∧ ∀ r, Issues P (k r)
  | .call _ _ => False

section Issues

variable {P : V.Aux → Prop} {α β : Type}

theorem Issues.handle {p : Code V α} {f : α → Code V β} {g : V.Err → Code V β} (h : Issues P p)
    (hf : ∀ a, Issues P (f a)) (hg : ∀ e, Issues P (g e)) : Issues P (p.handle f g) := by
  induction p with
  | ret a => exact hf a
  | raise e => exact hg e
  | call s k ih =>
    cases s with
    | aux a => exact ⟨h.1, fun r => ih r (h.2 r)⟩
    | begin site => exact h
    | commit t => exact h
    | rollback t => exact h
    | sql t q => exact h

theorem issues_aux {a : V.Aux} (h : P a) : Issues P (Code.aux a) := by
  refine ⟨h, fun r => ?_⟩
  cases r with
  | ok x => trivial
  | error e => trivial

theorem Issues.mono {Q : V.Aux → Prop} (hPQ : ∀ a, P a → Q a) {p : Code V α} (h : Issues P p) :
    Issues Q p := by
  induction p with
  | ret a => trivial
  | raise e => trivial
  | call s k ih =>
    cases s with
    | aux a => exact ⟨hPQ a h.1, fun r => ih r (h.2 r)⟩
    | begin site => exact h
    | commit t => exact h
    | rollback t => exact h
    | sql t q => exact h

theorem Issues.bind {p : Code V α} {f : α → Code V β} (h : Issues P p)
    (hf : ∀ a, Issues P (f a)) : Issues P (p >>= f) :=
  h.handle hf fun _ => trivial

theorem Issues.attempt {p : Code V α} {g : V.Err → Code V α} (h : Issues P p)
    (hg : ∀ e, Issues P (g e)) : Issues P (p.attempt g) :=
  h.handle (fun _ => trivial) hg

end Issues

section Runs

variable {S : Scope M} {P : M.Call → V.Aux → Prop} {p₀ p : Pool M}

def Pool.Issuing (P : M.Call → V.Aux → Prop) (p : Pool M) : Prop :=
  ∀ (i : Nat) c code, p.threads[i]? = some ⟨c, some code⟩ → Issues (P c) code

theorem Pool.Issuing.spawn (h : p.Issuing P) {c : M.Call} (hc : Issues (P c) (M.body c)) :
    (p.spawn c).Issuing P := by
  intro i c' code ht
  rw [Pool.spawn, List.getElem?_append] at ht
  split at ht
  · exact h i c' code ht
  · obtain ⟨hlt, hx⟩ := List.getElem?_eq_some_iff.mp ht
    simp only [List.getElem_singleton, Thread.mk.injEq, Option.some.injEq] at hx
    obtain ⟨rfl, rfl⟩ := hx
    exact hc

/-- What an action does to the environment of calls that only ask it: an operation, the
passing of time, or nothing. -/
inductive Asked (P : M.Call → V.Aux → Prop) (S : Scope M) (w : World V M.Call) :
    World V M.Call → Prop
  | same : Asked P S w w
  | ask {i : Nat} {c : M.Call} {a : V.Aux} {ch : Choice V.Reply} {r : Except V.Err (V.AuxAns a)}
      {e : V.Env} (issues : P c a) (allow : S.allow c none w (.aux a))
      (answer : V.ask w.env i a ch = some (r, e)) : Asked P S w (w.setEnv e)
  | tick (d : Nat) : Asked P S w (w.setEnv (V.tick d w.env))

theorem Pool.Issuing.act (h : p.Issuing P) {a : Action V} (ha : S.Permits p a) {p' : Pool M}
    (hp : p.act a = some p') : p'.Issuing P ∧ Asked P S p.world p'.world := by
  have hset : ∀ {σ : Shared V M.Call} {i : Nat} {x : Thread M},
      (∀ c code, x = ⟨c, some code⟩ → Issues (P c) code) →
        (Pool.mk σ (p.threads.set i x)).Issuing P := by
    intro σ i x hx j c code ht
    obtain ⟨rfl, rfl⟩ | ⟨-, ht⟩ := thread_set ht
    · exact hx c code rfl
    · exact h j c code ht
  cases a with
  | run i ch =>
    obtain ⟨c, s, k, r, σ, ht, hexec, rfl⟩ := Pool.run_cases hp
    have hissues := h i c _ ht
    cases s with
    | begin site => exact hissues.elim
    | commit t => exact hissues.elim
    | rollback t => exact hissues.elim
    | sql t q => exact hissues.elim
    | aux a =>
      obtain ⟨⟨r', e⟩, hask, heq⟩ := Option.map_eq_some_iff.mp hexec
      cases heq
      refine ⟨hset fun c' code' hx => ?_, .ask hissues.1 (ha c _ k ht) hask⟩
      cases hx
      exact hissues.2 r'
  | crash i =>
    obtain ⟨c, s, k, -, rfl⟩ := Pool.crash_cases hp
    exact ⟨hset fun c' code' hx => (nomatch hx), .same⟩
  | tick d =>
    cases hp
    exact ⟨h, .tick d⟩

theorem Asked.keep {w w' : World V M.Call} (h : Asked P S w w') {I : V.Env → Prop}
    (hask : ∀ w i c a ch r e, I w.env → P c a → S.allow c none w (.aux a) →
      V.ask w.env i a ch = some (r, e) → I e)
    (htick : ∀ d e, I e → I (V.tick d e)) (hI : I w.env) : I w'.env := by
  cases h with
  | same => exact hI
  | ask hP hallow hans => exact hask _ _ _ _ _ _ _ hI hP hallow hans
  | tick d => exact htick d _ hI

/-- What holds of the environment at the start and survives every operation that a call
may ask for holds in every run. -/
theorem Reachable.env_invariant (h : Reachable S p₀ p)
    (hbody : ∀ c w, S.start c w → Issues (P c) (M.body c)) {I : V.Env → Prop}
    (hask : ∀ w i c a ch r e, I w.env → P c a → S.allow c none w (.aux a) →
      V.ask w.env i a ch = some (r, e) → I e)
    (htick : ∀ d e, I e → I (V.tick d e)) (h₀ : p₀.threads = []) (hI : I p₀.world.env) :
    I p.world.env := by
  have hall : p.Issuing P ∧ I p.world.env := by
    induction h with
    | start => exact ⟨fun i c code ht => by simp [h₀] at ht, hI⟩
    | spawn _ hc ih => exact ⟨ih.1.spawn (hbody _ _ hc), ih.2⟩
    | act _ ha hp ih =>
      obtain ⟨hissuing, hasked⟩ := ih.1.act ha hp
      exact ⟨hissuing, hasked.keep hask htick ih.2⟩
  exact hall.2

end Runs

end RailwayBooking.Concurrency
