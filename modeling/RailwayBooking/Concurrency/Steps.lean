import RailwayBooking.Concurrency.Reachable

namespace RailwayBooking.Concurrency

variable {V : Service} {M : Machine V}

/-- What a statement of thread `i` does, with its answer. -/
inductive Shared.Effect {Call : Type} (σ : Shared V Call) (i : Nat) (c : Call) :
    (s : Stmt V) → Choice V.Reply → Except V.Err s.Ans → Shared V Call → Prop
  | failed {s : Stmt V} {ch : Choice V.Reply} (e : V.Err) (stmt : ∀ a, s ≠ .aux a) :
      Effect σ i c s ch (.error e) σ
  | begun {ch : Choice V.Reply} (site : V.Site) :
      Effect σ i c (.begin site) ch (.ok σ.next) (begun σ i site)
  | broken {h : Nat} {t : Tx V} (tx : σ.txs h = some t) (owner : t.owner = i) :
      Effect σ i c (.commit h) .fault (.error V.fault) (σ.close h)
  | committed {h : Nat} {t : Tx V} {ch : Choice V.Reply} (tx : σ.txs h = some t)
      (owner : t.owner = i) :
      Effect σ i c (.commit h) ch (ch.answer V.fault ()) ((σ.close h).settle c t)
  | rolledBack {h : Nat} {t : Tx V} {ch : Choice V.Reply} (tx : σ.txs h = some t)
      (owner : t.owner = i) : Effect σ i c (.rollback h) ch (.ok ()) (σ.close h)
  | recorded {h : Nat} {t : Tx V} {q : V.Sql} {a : V.Rows q} {ws : List V.Write}
      {ks : List V.Key} {ch : Choice V.Reply} (tx : σ.txs h = some t) (owner : t.owner = i)
      (run : V.run q (t.view σ.world.db) = .ok (a, ws, ks))
      (choice : ch ≠ .fault ∧ ch ≠ .lost) :
      Effect σ i c (.sql (some h) q) ch (.ok a) (σ.put h (t.record q a ws ks))
  | read {q : V.Sql} {a : V.Rows q} {ks : List V.Key} {ch : Choice V.Reply}
      (run : V.run q σ.world.db = .ok (a, [], ks)) :
      Effect σ i c (.sql none q) ch (ch.answer V.fault a) σ
  | single {q : V.Sql} {a : V.Rows q} {ws : List V.Write} {ks : List V.Key}
      {ch : Choice V.Reply} (run : V.run q σ.world.db = .ok (a, ws, ks)) (writes : ws ≠ []) :
      Effect σ i c (.sql none q) ch (ch.answer V.fault a) (σ.settle c (Shared.single V i q a ws ks))
  | asked {a : V.Aux} {ch : Choice V.Reply} {r : Except V.Err (V.AuxAns a)} {e : V.Env}
      (answer : V.ask σ.world.env i a ch = some (r, e)) :
      Effect σ i c (.aux a) ch r { σ with world := σ.world.setEnv e }

section Effects

variable {Call : Type} {σ σ' : Shared V Call} {i : Nat} {c : Call} {s : Stmt V}
  {ch : Choice V.Reply} {r : Except V.Err s.Ans}

theorem Shared.effect_sql {h : Nat} {q : V.Sql} {r : Except V.Err (V.Rows q)}
    (he : σ.exec i c (.sql (some h) q) ch = some (r, σ')) :
    σ.Effect i c (.sql (some h) q) ch r σ' := by
  by_cases hch : ch = .fault ∨ ch = .lost
  · obtain rfl | rfl := hch
    · cases he
      exact .failed _ nofun
    · cases he
      exact .failed _ nofun
  rw [not_or] at hch
  have hx : σ.exec i c (.sql (some h) q) .ok = some (r, σ') := by
    cases ch with
    | fault => exact absurd rfl hch.1
    | lost => exact absurd rfl hch.2
    | ok => exact he
    | reply x => exact he
  simp only [Shared.exec] at hx
  split at hx
  · cases hx
  next t ht =>
  split at hx
  · next howner =>
    split at hx
    · cases hx
      exact .failed _ nofun
    · next a ws ks hrun =>
      split at hx
      · cases hx
        exact .recorded ht howner hrun hch
      · cases hx
  · cases hx

theorem Shared.effect_single {q : V.Sql} {r : Except V.Err (V.Rows q)}
    (he : σ.exec i c (.sql none q) ch = some (r, σ')) : σ.Effect i c (.sql none q) ch r σ' := by
  cases ch with
  | fault =>
    cases he
    exact .failed _ nofun
  | lost | ok | reply y =>
    simp only [Shared.exec] at he
    split at he
    · cases he
      exact .failed _ nofun
    · next a ws ks hrun =>
      split at he
      · obtain ⟨rfl, rfl⟩ := Prod.mk.inj (Option.some.inj he)
        cases ws with
        | nil => exact .read hrun
        | cons x ws => exact .single hrun (List.cons_ne_nil x ws)
      · cases he

theorem Shared.exec_effect (he : σ.exec i c s ch = some (r, σ')) : σ.Effect i c s ch r σ' := by
  cases s with
  | begin site =>
    cases ch with
    | fault | lost =>
      cases he
      exact .failed _ nofun
    | ok | reply x =>
      cases he
      exact .begun site
  | commit h =>
    simp only [Shared.exec] at he
    split at he
    · cases he
    next t ht =>
    split at he
    · next howner =>
      split at he
      · cases he
        exact .broken ht howner
      · cases he
        exact .committed ht howner
    · cases he
  | rollback h =>
    simp only [Shared.exec] at he
    split at he
    · cases he
    next t ht =>
    split at he
    · next howner =>
      cases he
      exact .rolledBack ht howner
    · cases he
  | sql h q =>
    cases h with
    | none => exact effect_single he
    | some h => exact effect_sql he
  | aux a =>
    obtain ⟨⟨r', e⟩, hask, heq⟩ := Option.map_eq_some_iff.mp he
    cases heq
    exact .asked hask

theorem Shared.exec_ask {a : V.Aux} {r : Except V.Err (V.AuxAns a)}
    (he : σ.exec i c (.aux a) ch = some (r, σ')) :
    V.ask σ.world.env i a ch = some (r, σ'.world.env) := by
  obtain ⟨⟨r', e⟩, hask, heq⟩ := Option.map_eq_some_iff.mp he
  cases heq
  exact hask

theorem Shared.Effect.env (h : σ.Effect i c s ch r σ') (hs : ∀ a, s ≠ .aux a) :
    σ'.world.env = σ.world.env := by
  cases h with
  | asked => exact absurd rfl (hs _)
  | _ => rfl

theorem Shared.Effect.foreign (h : σ.Effect i c s ch r σ') (hc : Coherent σ) : Foreign i σ σ' := by
  cases h with
  | begun site => exact foreign_begin hc
  | broken ht howner | committed ht howner | rolledBack ht howner => exact foreign_close ht howner
  | recorded ht howner _ _ => exact foreign_put ht howner
  | _ => exact .refl i σ

end Effects

/-- What an action does to a pool, by the statement of the acting call. -/
inductive Pool.Step (p : Pool M) : Action V → Pool M → Prop
  | asked {i : Nat} {ch : Choice V.Reply} {c : M.Call} {a : V.Aux}
      {k : Except V.Err (V.AuxAns a) → Code V M.Out} {r : Except V.Err (V.AuxAns a)} {e : V.Env}
      (thread : p.threads[i]? = some ⟨c, some (.call (.aux a) k)⟩)
      (answer : V.ask p.world.env i a ch = some (r, e)) :
      Step p (.run i ch)
        ⟨{ p.shared with world := p.world.setEnv e }, p.threads.set i ⟨c, some (k r)⟩⟩
  | other {i : Nat} {ch : Choice V.Reply} {c : M.Call} {s : Stmt V}
      {k : Except V.Err s.Ans → Code V M.Out} {r : Except V.Err s.Ans} {σ : Shared V M.Call}
      (thread : p.threads[i]? = some ⟨c, some (.call s k)⟩) (stmt : ∀ a, s ≠ .aux a)
      (env : σ.world.env = p.world.env) : Step p (.run i ch) ⟨σ, p.threads.set i ⟨c, some (k r)⟩⟩
  | crashed {i : Nat} {c : M.Call} {s : Stmt V} {k : Except V.Err s.Ans → Code V M.Out}
      (thread : p.threads[i]? = some ⟨c, some (.call s k)⟩) :
      Step p (.crash i) ⟨p.shared.abort i, p.threads.set i ⟨c, none⟩⟩
  | ticked (d : Nat) :
      Step p (.tick d) { p with shared := { p.shared with
        world := p.world.setEnv (V.tick d p.world.env) } }

theorem Pool.step_of_act {p p' : Pool M} {a : Action V} (h : p.act a = some p') : p.Step a p' := by
  cases a with
  | run i ch =>
    obtain ⟨c, s, k, r, σ, ht, hexec, rfl⟩ := Pool.run_cases h
    by_cases hs : ∀ a, s ≠ .aux a
    · exact .other ht hs ((Shared.exec_effect hexec).env hs)
    · push Not at hs
      obtain ⟨a, rfl⟩ := hs
      obtain ⟨⟨r', e⟩, hask, heq⟩ := Option.map_eq_some_iff.mp hexec
      cases heq
      exact .asked ht hask
  | crash i =>
    obtain ⟨c, s, k, ht, rfl⟩ := Pool.crash_cases h
    exact .crashed ht
  | tick d =>
    cases h
    exact .ticked d

end RailwayBooking.Concurrency
