import RailwayBooking.Concurrency.Rules
import RailwayBooking.Concurrency.Schedule

namespace RailwayBooking.Concurrency

variable {V : Service} {M : Machine V} {Call : Type}

/-- How code ends that runs alone: no statement fails, and nothing else happens
before the end. Where it waits for a lock it does not end. -/
def Code.alone (i : Nat) (c : Call) {α : Type} :
    Code V α → Shared V Call → Option (Except V.Err α × Shared V Call)
  | .ret a, σ => some (.ok a, σ)
  | .raise e, σ => some (.error e, σ)
  | .call s k, σ => (σ.exec i c s .ok).bind (fun x => Code.alone i c (k x.1) x.2)

/-- Run alone, the code ends with `r` and leaves `σ'`. -/
def Ends (i : Nat) (c : Call) {α : Type} (p : Code V α) (σ : Shared V Call) (r : Except V.Err α)
    (σ' : Shared V Call) : Prop :=
  p.alone i c σ = some (r, σ')

namespace Shared

variable (σ : Shared V Call)

/-- The lock table names open transactions only, and the next handle is new. -/
structure Tidy : Prop where
  fresh : ∀ h t, σ.txs h = some t → h < σ.next
  held : ∀ k h, σ.locked k = some h → h < σ.next

/-- The same transactions are open and hold the same locks. -/
structure Rests (σ' : Shared V Call) : Prop where
  txs : σ'.txs = σ.txs
  locked : σ'.locked = σ.locked
  next : σ.next ≤ σ'.next

/-- No transaction is open. -/
def Quiet : Prop := ∀ h < σ.next, (σ.txs h).isNone = true

instance : Decidable σ.Quiet := inferInstanceAs (Decidable (∀ h < σ.next, _))

/-- Transaction `t` of call `i` holds only rows that no other transaction holds. -/
structure Holds (i : Nat) (t : Tx V) : Prop where
  owner : t.owner = i
  locks : ∀ k ∈ t.locks, σ.locked k = none

def moveTo (w : World V Call) (n : Nat) : Shared V Call := { σ with world := w, next := n }

variable {σ} {σ' σ'' : Shared V Call} {h : Nat} {t t' : Tx V}

theorem holds_start (i : Nat) (site : V.Site) : σ.Holds i (Tx.start i site) :=
  ⟨rfl, fun _ hk => by cases hk⟩

theorem Holds.record {i : Nat} {q : V.Sql} {a : V.Rows q} {ws : List V.Write} {ks : List V.Key}
    (ht : σ.Holds i t) (hk : ∀ k ∈ Tx.rowKeys V ws ks, σ.locked k = none) :
    σ.Holds i (t.record q a ws ks) where
  owner := ht.owner
  locks k hm := by
    obtain hm | hm := List.mem_append.mp hm
    · exact ht.locks k hm
    · exact hk k hm

theorem Rests.refl (σ : Shared V Call) : σ.Rests σ := ⟨rfl, rfl, Nat.le_refl _⟩

theorem Rests.trans (h : σ.Rests σ') (h' : σ'.Rests σ'') : σ.Rests σ'' :=
  ⟨h'.txs.trans h.txs, h'.locked.trans h.locked, Nat.le_trans h.next h'.next⟩

theorem Rests.tidy (h : σ.Rests σ') (hσ : σ.Tidy) : σ'.Tidy where
  fresh k t ht := Nat.lt_of_lt_of_le (hσ.fresh k t (h.txs ▸ ht)) h.next
  held k n hk := Nat.lt_of_lt_of_le (hσ.held k n (h.locked ▸ hk)) h.next

theorem rests_moveTo (w : World V Call) {n : Nat} (h : σ.next ≤ n) : σ.Rests (σ.moveTo w n) :=
  ⟨rfl, rfl, h⟩

theorem Rests.eq_put (hr : (σ.put h t).Rests σ') : σ' = (σ.moveTo σ'.world σ'.next).put h t := by
  obtain ⟨w, txs, locked, next⟩ := σ'
  obtain ⟨rfl, rfl, -⟩ := hr
  rfl

theorem put_put (hl : ∀ k ∈ t.locks, k ∈ t'.locks) : (σ.put h t).put h t' = σ.put h t' := by
  unfold put
  congr 1
  · exact Function.update_idem _ _ _
  · funext k
    by_cases hk : k ∈ t'.locks
    · simp [hk]
    · have hk' : k ∉ t.locks := fun hk' => hk (hl k hk')
      simp [hk, hk']

theorem close_put (hf : σ.txs h = none) (hh : ∀ k, σ.locked k ≠ some h)
    (hl : ∀ k ∈ t.locks, σ.locked k = none) : (σ.put h t).close h = σ := by
  obtain ⟨w, txs, locked, next⟩ := σ
  unfold close put
  congr 1
  · simp only [Function.update_idem]
    exact Function.update_eq_self_iff.mpr hf.symm
  · funext k
    by_cases hk : k ∈ t.locks
    · simp [hk, (hl k hk).symm]
    · simp [hk, hh k]

theorem tidy_put (hσ : σ.Tidy) (hh : h < σ.next) : (σ.put h t).Tidy where
  fresh k t' ht := by
    by_cases hk : k = h
    · exact hk ▸ hh
    · exact hσ.fresh k t' (by simpa [put, hk] using ht)
  held k n hk := by
    simp only [put] at hk
    split at hk
    · exact Option.some.inj hk ▸ hh
    · exact hσ.held k n hk

end Shared

section Rules

variable {i : Nat} {c : Call} {α β : Type} {σ σ₁ σ₂ : Shared V Call} {e : V.Err}

theorem alone_handle (p : Code V α) (f : α → Code V β) (g : V.Err → Code V β)
    (σ : Shared V Call) :
    Code.alone i c (p.handle f g) σ = (p.alone i c σ).bind (fun x =>
      match x.1 with
      | .ok a => Code.alone i c (f a) x.2
      | .error e => Code.alone i c (g e) x.2) := by
  induction p generalizing σ with
  | ret a => rfl
  | raise e => rfl
  | call s k ih =>
    simp only [Program.handle, Code.alone, Option.bind_assoc]
    congr
    funext x
    exact ih x.1 x.2

theorem ends_ret (a : α) : Ends (V := V) i c (.ret a) σ (.ok a) σ := rfl

theorem ends_raise (e : V.Err) : Ends (V := V) (α := α) i c (.raise e) σ (.error e) σ := rfl

theorem Ends.handle {p : Code V α} {f : α → Code V β} {g : V.Err → Code V β} {a : α}
    {r : Except V.Err β} (h : Ends i c p σ (.ok a) σ₁) (h' : Ends i c (f a) σ₁ r σ₂) :
    Ends i c (p.handle f g) σ r σ₂ := by
  unfold Ends at *
  rw [alone_handle, h]
  exact h'

theorem Ends.handle_error {p : Code V α} {f : α → Code V β} {g : V.Err → Code V β}
    {r : Except V.Err β} (h : Ends i c p σ (.error e) σ₁) (h' : Ends i c (g e) σ₁ r σ₂) :
    Ends i c (p.handle f g) σ r σ₂ := by
  unfold Ends at *
  rw [alone_handle, h]
  exact h'

theorem Ends.bind {p : Code V α} {f : α → Code V β} {a : α} {r : Except V.Err β}
    (h : Ends i c p σ (.ok a) σ₁) (h' : Ends i c (f a) σ₁ r σ₂) : Ends i c (p >>= f) σ r σ₂ :=
  h.handle h'

theorem Ends.bind_error {p : Code V α} {f : α → Code V β} (h : Ends i c p σ (.error e) σ₁) :
    Ends i c (p >>= f) σ (.error e) σ₁ :=
  h.handle_error (ends_raise e)

theorem Ends.attempt {p : Code V α} {g : V.Err → Code V α} {a : α}
    (h : Ends i c p σ (.ok a) σ₁) : Ends i c (Program.attempt p g) σ (.ok a) σ₁ :=
  h.handle (ends_ret a)

theorem Ends.attempt_error {p : Code V α} {g : V.Err → Code V α} {r : Except V.Err α}
    (h : Ends i c p σ (.error e) σ₁) (h' : Ends i c (g e) σ₁ r σ₂) :
    Ends i c (Program.attempt p g) σ r σ₂ :=
  h.handle_error h'

theorem Ends.ensure {p : Code V α} {f : Code V Unit} {a : α} {u : Unit}
    (h : Ends i c p σ (.ok a) σ₁) (hf : Ends i c f σ₁ (.ok u) σ₂) :
    Ends i c (Program.ensure p f) σ (.ok a) σ₂ :=
  h.handle (hf.handle (ends_ret a))

theorem Ends.ensure_error {p : Code V α} {f : Code V Unit} {u : Unit}
    (h : Ends i c p σ (.error e) σ₁) (hf : Ends i c f σ₁ (.ok u) σ₂) :
    Ends i c (Program.ensure p f) σ (.error e) σ₂ :=
  h.handle_error (hf.handle (ends_raise e))

theorem ends_aux {a : V.Aux} {r : Except V.Err (V.AuxAns a)} {e : V.Env}
    (h : V.ask σ.world.env i a .ok = some (r, e)) :
    Ends i c (Code.aux a) σ r { σ with world := σ.world.setEnv e } := by
  unfold Ends Code.aux Program.issue
  simp only [Code.alone, Shared.exec, h, Option.map_some, Option.bind_some]
  cases r <;> rfl

theorem ends_read {q : V.Sql} {a : V.Rows q} (h : V.run q σ.world.db = .ok (a, [], [])) :
    Ends i c (Code.sql none q) σ (.ok a) σ := by
  unfold Ends Code.sql Program.issue
  simp only [Code.alone, Shared.exec, h]
  rfl

theorem ends_single {q : V.Sql} {a : V.Rows q} {ws : List V.Write} {ks : List V.Key}
    (h : V.run q σ.world.db = .ok (a, ws, ks)) (hws : ws ≠ [])
    (hf : ∀ k ∈ Tx.rowKeys V ws ks, σ.locked k = none) :
    Ends i c (Code.sql none q) σ (.ok a) (σ.settle c (Shared.single V i q a ws ks)) := by
  have hfree : σ.free none (Tx.rowKeys V ws ks) = true :=
    List.all_eq_true.mpr fun k hk => by simp [hf k hk]
  unfold Ends Code.sql Program.issue
  simp only [Code.alone, Shared.exec, h, hfree, if_true, Choice.answer, Option.bind_some,
    List.isEmpty_iff, if_neg hws]

theorem ends_inside {h : Nat} {t : Tx V} {q : V.Sql} {a : V.Rows q} {ws : List V.Write}
    {ks : List V.Key} (ht : σ.Holds i t) (hrun : V.run q (t.view σ.world.db) = .ok (a, ws, ks))
    (hf : ∀ k ∈ Tx.rowKeys V ws ks, σ.locked k = none) :
    Ends i c (Code.sql (some h) q) (σ.put h t) (.ok a) (σ.put h (t.record q a ws ks)) := by
  have hfree : (σ.put h t).free (some h) (Tx.rowKeys V ws ks) = true := by
    refine List.all_eq_true.mpr fun k hk => ?_
    by_cases hkl : k ∈ t.locks
    · simp [Shared.put, hkl]
    · simp [Shared.put, hkl, hf k hk]
  have hput : (σ.put h t).put h (t.record q a ws ks) = σ.put h (t.record q a ws ks) :=
    Shared.put_put fun k hk => List.mem_append_left _ hk
  have htx : (σ.put h t).txs h = some t := Function.update_self _ _ _
  have hrun' : V.run q (t.view (σ.put h t).world.db) = .ok (a, ws, ks) := hrun
  unfold Ends Code.sql Program.issue
  simp only [Code.alone, Shared.exec, htx, ht.owner, if_true, hrun', hfree, Option.bind_some, hput]

theorem exists_inside {h : Nat} {t : Tx V} {q : V.Sql} {a : V.Rows q} {ws : List V.Write}
    {ks : List V.Key} (ht : σ.Holds i t) (hrun : V.run q (t.view σ.world.db) = .ok (a, ws, ks))
    (hf : ∀ k ∈ Tx.rowKeys V ws ks, σ.locked k = none) :
    ∃ t', Ends i c (Code.sql (some h) q) (σ.put h t) (.ok a) (σ.put h t') ∧ σ.Holds i t' ∧
      t'.writes = t.writes ++ ws :=
  ⟨_, ends_inside ht hrun hf, ht.record hf, rfl⟩

section Transaction

variable {site : V.Site} {body : Nat → Code V α} {t : Tx V} (hσ : σ.Tidy) (hr : σ.Rests σ₁)
  (ht : σ₁.Holds i t)

include hσ hr ht in
theorem close_begun : (σ₁.put σ.next t).close σ.next = σ₁ := by
  apply Shared.close_put
  · rw [hr.txs]
    cases hx : σ.txs σ.next with
    | none => rfl
    | some t' => exact absurd (hσ.fresh _ _ hx) (Nat.lt_irrefl _)
  · intro k hk
    rw [hr.locked] at hk
    exact absurd (hσ.held _ _ hk) (Nat.lt_irrefl _)
  · exact ht.locks

include hσ hr ht

theorem ends_transaction {a : α} (h : Ends i c (body σ.next)
    ((σ.moveTo σ.world (σ.next + 1)).put σ.next (Tx.start i site)) (.ok a) (σ₁.put σ.next t)) :
    Ends i c (Code.transaction site body) σ (.ok a) (σ₁.settle c t) := by
  have htx : (σ₁.put σ.next t).txs σ.next = some t := Function.update_self _ _ _
  have hcommit : Ends i c (Program.issue (L := V.sig) (.commit σ.next)) (σ₁.put σ.next t) (.ok ())
      (σ₁.settle c t) := by
    unfold Ends Program.issue
    simp only [Code.alone, Shared.exec, htx, ht.owner, if_true, close_begun hσ hr ht, Choice.answer,
      Option.bind_some]
  have hbegin : Ends i c (Program.issue (L := V.sig) (.begin site)) σ (.ok σ.next)
      ((σ.moveTo σ.world (σ.next + 1)).put σ.next (Tx.start i site)) := rfl
  exact hbegin.bind (h.handle (hcommit.bind (ends_ret a)))

theorem ends_rolledBack (h : Ends i c (body σ.next)
    ((σ.moveTo σ.world (σ.next + 1)).put σ.next (Tx.start i site)) (.error e) (σ₁.put σ.next t)) :
    Ends i c (Code.transaction site body) σ (.error e) σ₁ := by
  have htx : (σ₁.put σ.next t).txs σ.next = some t := Function.update_self _ _ _
  have hroll : Ends i c (Program.issue (L := V.sig) (.rollback σ.next)) (σ₁.put σ.next t) (.ok ())
      σ₁ := by
    unfold Ends Program.issue
    simp only [Code.alone, Shared.exec, htx, ht.owner, if_true, close_begun hσ hr ht, Option.bind_some]
  have hbegin : Ends i c (Program.issue (L := V.sig) (.begin site)) σ (.ok σ.next)
      ((σ.moveTo σ.world (σ.next + 1)).put σ.next (Tx.start i site)) := rfl
  exact hbegin.bind (h.handle_error (hroll.bind (ends_raise e)))

end Transaction

end Rules

section Held

variable {i h : Nat} {σ σ' : Shared V Call}

def Shared.Held (σ : Shared V Call) : Prop := ∀ k h, σ.locked k = some h → (σ.txs h).isSome

theorem held_put {t : Tx V} (hh : σ.Held) : (σ.put h t).Held := by
  intro k h' hk
  by_cases he : h' = h
  · subst he
    simp [Shared.put]
  · simp only [Shared.put] at hk ⊢
    rw [Function.update_of_ne he]
    split at hk
    · exact absurd (Option.some.inj hk).symm he
    · exact hh k h' hk

theorem held_close (hh : σ.Held) : (σ.close h).Held := by
  intro k h' hk
  simp only [Shared.close] at hk ⊢
  split at hk
  · cases hk
  · next hne =>
    have he : h' ≠ h := by
      rintro rfl
      exact hne hk
    rw [Function.update_of_ne he]
    exact hh k h' hk

theorem held_exec {c : Call} {s : Stmt V} {ch : Choice V.Reply} {r : Except V.Err s.Ans}
    (hh : σ.Held) (he : σ.exec i c s ch = some (r, σ')) : σ'.Held := by
  unfold Shared.exec at he
  split at he
  case h_1 | h_2 | h_6 | h_7 =>
    cases he
    exact hh
  case h_3 =>
    cases he
    exact held_put (h := σ.next) (t := Tx.start i _) hh
  case h_4 =>
    split at he
    · cases he
    · split at he
      · split at he <;> cases he <;> exact held_close hh
      · cases he
  case h_5 =>
    split at he
    · cases he
    · split at he
      · cases he
        exact held_close hh
      · cases he
  case h_8 =>
    split at he
    · cases he
    · split at he
      · split at he
        · cases he
          exact hh
        · split at he
          · cases he
            exact held_put hh
          · cases he
      · cases he
  case h_9 =>
    split at he
    · cases he
      exact hh
    · split at he
      · cases he
        split <;> exact hh
      · cases he
  case h_10 =>
    obtain ⟨x, -, hx⟩ := Option.map_eq_some_iff.mp he
    cases hx
    exact hh

theorem held_act {p p' : Pool M} {a : Action V} (hh : p.shared.Held) (hp : p.act a = some p') :
    p'.shared.Held := by
  cases a with
  | run i ch =>
    obtain ⟨c, s, k, r, σ, -, hx, rfl⟩ := Pool.run_cases hp
    exact held_exec hh hx
  | crash i =>
    obtain ⟨c, s, k, -, rfl⟩ := Pool.crash_cases hp
    intro k' h hk
    simp only [Shared.abort, Option.filter_eq_some_iff] at hk ⊢
    exact hk.2
  | tick d =>
    cases hp
    exact hh

theorem Reachable.held {S : Scope M} {p₀ p : Pool M} (h : Reachable S p₀ p)
    (h₀ : p₀.shared.Held) : p.shared.Held := by
  induction h with
  | start => exact h₀
  | spawn _ _ ih => exact ih
  | act _ _ hp ih => exact held_act ih hp

theorem held_init (d : V.Db) (e : V.Env) : (Pool.init (M := M) d e).shared.Held :=
  fun _ _ hk => by cases hk

theorem Shared.Quiet.tx (hq : σ.Quiet) (hc : Coherent σ) (h : Nat) : σ.txs h = none := by
  cases ht : σ.txs h with
  | none => rfl
  | some t =>
    have hnone := hq h (hc.next h t ht)
    rw [ht] at hnone
    cases hnone

theorem Shared.Quiet.unlocked (hq : σ.Quiet) (hc : Coherent σ) (hh : σ.Held) (k : V.Key) :
    σ.locked k = none := by
  cases hk : σ.locked k with
  | none => rfl
  | some h =>
    have hopen := hh k h hk
    rw [hq.tx hc h] at hopen
    cases hopen

theorem Shared.Quiet.tidy (hq : σ.Quiet) (hc : Coherent σ) (hh : σ.Held) : σ.Tidy where
  fresh h t ht := hc.next h t ht
  held k h hk := by
    rw [hq.unlocked hc hh k] at hk
    cases hk

end Held

/-- What is left of code that has ended. -/
def outcome {α : Type} : Except V.Err α → Code V α
  | .ok a => .ret a
  | .error e => .raise e

/-- A new call that nothing fails and nobody disturbs. -/
def Pool.serve (p : Pool M) (c : M.Call) : Option (Except V.Err M.Out × Shared V M.Call) :=
  Code.alone p.threads.length c (M.body c) p.shared

theorem reachable_alone {p₀ p : Pool M} {start : M.Call → Prop} {i : Nat} {c : M.Call}
    {code : Code V M.Out} {r : Except V.Err M.Out} {σ' : Shared V M.Call}
    (h : Reachable (Scope.calls start) p₀ p) (ht : p.threads[i]? = some ⟨c, some code⟩)
    (hr : Ends i c code p.shared r σ') :
    Reachable (Scope.calls start) p₀ ⟨σ', p.threads.set i ⟨c, some (outcome r)⟩⟩ := by
  induction code generalizing p with
  | ret a | raise e =>
    cases hr
    obtain ⟨hi, hx⟩ := List.getElem?_eq_some_iff.mp ht
    have hset : p.threads.set i p.threads[i] = p.threads := List.set_getElem_self hi
    rw [hx] at hset
    exact (congrArg (Reachable _ p₀) (congrArg (Pool.mk p.shared) hset.symm)).mp h
  | call s k ih =>
    obtain ⟨⟨r', σ₁⟩, he, hr⟩ := Option.bind_eq_some_iff.mp hr
    have hi : i < p.threads.length := (List.getElem?_eq_some_iff.mp ht).1
    have hact : p.act (.run i .ok) = some ⟨σ₁, p.threads.set i ⟨c, some (k r')⟩⟩ := by
      simp only [Pool.act, ht, Option.bind_some, Pool.runThread, he, Option.map_some]
    have hnext := ih r' (h.act (permits_calls p _) hact) (List.getElem?_set_self hi) hr
    rwa [List.set_set] at hnext

theorem reachable_serve {p₀ p : Pool M} {start : M.Call → Prop} {c : M.Call}
    {r : Except V.Err M.Out} {σ' : Shared V M.Call} (h : Reachable (Scope.calls start) p₀ p)
    (hc : start c) (hr : p.serve c = some (r, σ')) :
    Reachable (Scope.calls start) p₀ ⟨σ', p.threads ++ [⟨c, some (outcome r)⟩]⟩ := by
  have hlast : (p.spawn c).threads[p.threads.length]? = some ⟨c, some (M.body c)⟩ := by
    simp [Pool.spawn]
  have hend := reachable_alone (h.spawn (c := c) hc) hlast hr
  rwa [Pool.spawn, List.set_append_right _ _ (Nat.le_refl _), Nat.sub_self, List.set_cons_zero]
    at hend

/-- The pool after a call that has been served. -/
def Pool.served (p : Pool M) (c : M.Call) (x : Except V.Err M.Out × Shared V M.Call) : Pool M :=
  ⟨x.2, p.threads ++ [⟨c, some (outcome x.1)⟩]⟩

/-- Calls served one after the other. -/
def Pool.serveAll (p : Pool M) : List M.Call → Option (Pool M)
  | [] => some p
  | c :: cs => (p.serve c).bind (fun x => (p.served c x).serveAll cs)

theorem reachable_serveAll {p₀ p p' : Pool M} {start : M.Call → Prop} {cs : List M.Call}
    (h : Reachable (Scope.calls start) p₀ p) (hcs : ∀ c ∈ cs, start c)
    (hr : p.serveAll cs = some p') : Reachable (Scope.calls start) p₀ p' := by
  induction cs generalizing p with
  | nil =>
    cases hr
    exact h
  | cons c cs ih =>
    obtain ⟨⟨r, σ⟩, hserve, hr⟩ := Option.bind_eq_some_iff.mp hr
    exact ih (reachable_serve h (hcs c List.mem_cons_self) hserve)
      (fun c' hc' => hcs c' (List.mem_cons_of_mem _ hc')) hr

end RailwayBooking.Concurrency
