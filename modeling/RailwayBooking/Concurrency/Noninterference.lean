import RailwayBooking.Concurrency.Ledger

namespace RailwayBooking.Concurrency

variable {V : Service} {G Call α : Type}

/-- How the statements of a call are answered that nobody disturbs, and the time that passes
before each of them. -/
structure Script (V : Service) where
  answer : Nat → Stmt V → Choice V.Reply
  wait : Nat → Nat

def Shared.pass (σ : Shared V Call) (d : Nat) : Shared V Call :=
  { σ with world := σ.world.setEnv (V.tick d σ.world.env) }

/-- No transaction is open. -/
def World.idle (w : World V Call) : Shared V Call := ⟨w, fun _ => none, fun _ => none, 0⟩

/-- How code ends whose statements, from number `n` on, are answered by a script. -/
def Code.play (i : Nat) (c : Call) (x : Script V) :
    Nat → Code V α → Shared V Call → Option (Except V.Err α × Shared V Call)
  | _, .ret a, σ => some (.ok a, σ)
  | _, .raise e, σ => some (.error e, σ)
  | n, .call s k, σ =>
      ((σ.pass (x.wait n)).exec i c s (x.answer n s)).bind
        (fun y => Code.play i c x (n + 1) (k y.1) y.2)

variable {i : Nat} {c : Call} {s : Stmt V} {ch : Choice V.Reply} {r : Except V.Err s.Ans}
  {σ σ' τ : Shared V Call} {d d' : V.Db}

theorem Code.play_bind_error {β : Type} {x : Script V} {n : Nat} {p : Code V α} {f : α → Code V β}
    {e : V.Err} (h : p.play i c x n σ = some (.error e, σ')) :
    (p >>= f).play i c x n σ = some (.error e, σ') := by
  induction p generalizing n σ with
  | ret a => cases h
  | raise e' =>
    cases h
    rfl
  | call s k ih =>
    obtain ⟨y, hexec, hk⟩ := Option.bind_eq_some_iff.mp h
    exact Option.bind_eq_some_iff.mpr ⟨y, hexec, ih y.1 hk⟩

section Agreement

/-- Two states that an observer cannot tell apart by the tables and the environment it looks
at, with the same open transactions. -/
structure Shared.Agree (D : V.Db → V.Db → Prop) (E : V.Env → V.Env → Prop)
    (σ τ : Shared V Call) : Prop where
  db : D σ.world.db τ.world.db
  env : E σ.world.env τ.world.env
  txs : σ.txs = τ.txs
  locked : σ.locked = τ.locked
  next : σ.next = τ.next

def Sees (D : V.Db → V.Db → Prop) (E : V.Env → V.Env → Prop) (i : Nat) : Stmt V → Prop
  | .sql _ q => ∀ d d', D d d' → V.run q d = V.run q d'
  | .aux a => ∀ e e' ch r e₁, E e e' → V.ask e i a ch = some (r, e₁) →
      ∃ e₂, V.ask e' i a ch = some (r, e₂) ∧ E e₁ e₂
  | _ => True

variable {D : V.Db → V.Db → Prop} {E : V.Env → V.Env → Prop}

theorem Tx.view_agree (happly : ∀ x d d', D d d' → D (V.apply x d) (V.apply x d')) (t : Tx V)
    (h : D d d') : D (t.view d) (t.view d') := by
  unfold Tx.view
  induction t.writes generalizing d d' with
  | nil => exact h
  | cons x ws ih => exact ih (happly x d d' h)

variable (happly : ∀ x d d', D d d' → D (V.apply x d) (V.apply x d'))

include happly in
theorem Shared.Agree.sql (h : σ.Agree D E τ) {n : Option Nat} {q : V.Sql}
    {r : Except V.Err (V.Rows q)} (hs : ∀ d d', D d d' → V.run q d = V.run q d')
    (he : σ.exec i c (.sql n q) ch = some (r, σ')) :
    ∃ τ', τ.exec i c (.sql n q) ch = some (r, τ') ∧ σ'.Agree D E τ' := by
  obtain ⟨⟨d, log, e⟩, txs, locked, next⟩ := σ
  obtain ⟨⟨d', log', e'⟩, txs', locked', next'⟩ := τ
  obtain ⟨hdb, henv, rfl, rfl, rfl⟩ := h
  have hview := fun t : Tx V => Tx.view_agree happly t hdb
  cases n with
  | some n =>
    cases ch with
    | fault | lost =>
      cases he
      exact ⟨_, rfl, hdb, henv, rfl, rfl, rfl⟩
    | ok | reply y =>
      simp only [Shared.exec] at he ⊢
      split at he
      · cases he
      next t ht =>
      split at he
      · next howner =>
        rw [if_pos howner, ← hs _ _ (hview t)]
        generalize V.run q (t.view d) = found at he ⊢
        cases found with
        | error y =>
          cases he
          exact ⟨_, rfl, hdb, henv, rfl, rfl, rfl⟩
        | ok y =>
          simp only at he ⊢
          split at he
          · next hfree =>
            cases he
            exact ⟨_, if_pos hfree, hdb, henv, rfl, rfl, rfl⟩
          · cases he
      · cases he
  | none =>
    cases ch with
    | fault =>
      cases he
      exact ⟨_, rfl, hdb, henv, rfl, rfl, rfl⟩
    | lost | ok | reply y =>
      simp only [Shared.exec] at he ⊢
      rw [← hs _ _ hdb]
      generalize V.run q d = found at he ⊢
      cases found with
      | error y =>
        cases he
        exact ⟨_, rfl, hdb, henv, rfl, rfl, rfl⟩
      | ok y =>
        simp only at he ⊢
        split at he
        · next hfree =>
          cases he
          refine ⟨_, if_pos hfree, ?_⟩
          split
          · exact ⟨hdb, henv, rfl, rfl, rfl⟩
          · exact ⟨hview _, henv, rfl, rfl, rfl⟩
        · cases he

include happly in
theorem Shared.Agree.exec (h : σ.Agree D E τ) (hs : Sees D E i s)
    (he : σ.exec i c s ch = some (r, σ')) :
    ∃ τ', τ.exec i c s ch = some (r, τ') ∧ σ'.Agree D E τ' := by
  cases s with
  | sql n q => exact h.sql happly hs he
  | aux a =>
    obtain ⟨⟨r', e₁⟩, hask, heq⟩ := Option.map_eq_some_iff.mp he
    cases heq
    obtain ⟨e₂, hask', henv⟩ := hs _ _ ch _ e₁ h.env hask
    exact ⟨_, congrArg (Option.map _) hask', h.db, henv, h.txs, h.locked, h.next⟩
  | begin site =>
    obtain ⟨⟨d, log, e⟩, txs, locked, next⟩ := σ
    obtain ⟨⟨d', log', e'⟩, txs', locked', next'⟩ := τ
    obtain ⟨hdb, henv, rfl, rfl, rfl⟩ := h
    cases ch with
    | fault | lost | ok | reply y =>
      cases he
      exact ⟨_, rfl, hdb, henv, rfl, rfl, rfl⟩
  | commit n =>
    obtain ⟨⟨d, log, e⟩, txs, locked, next⟩ := σ
    obtain ⟨⟨d', log', e'⟩, txs', locked', next'⟩ := τ
    obtain ⟨hdb, henv, rfl, rfl, rfl⟩ := h
    simp only [Shared.exec] at he ⊢
    split at he
    · cases he
    next t ht =>
    split at he
    · next howner =>
      rw [if_pos howner]
      split at he
      · cases he
        exact ⟨_, rfl, hdb, henv, rfl, rfl, rfl⟩
      · cases he
        exact ⟨_, rfl, Tx.view_agree happly t hdb, henv, rfl, rfl, rfl⟩
    · cases he
  | rollback n =>
    obtain ⟨⟨d, log, e⟩, txs, locked, next⟩ := σ
    obtain ⟨⟨d', log', e'⟩, txs', locked', next'⟩ := τ
    obtain ⟨hdb, henv, rfl, rfl, rfl⟩ := h
    simp only [Shared.exec] at he ⊢
    split at he
    · cases he
    next t ht =>
    split at he
    · next howner =>
      rw [if_pos howner]
      cases he
      exact ⟨_, rfl, hdb, henv, rfl, rfl, rfl⟩
    · cases he

variable {L : Ledger V G} {Q : α → G → Prop} {X : V.Err → G → Prop} {x : Script V}

include happly in
theorem Follows.play_agree (htick : ∀ n e e', E e e' → E (V.tick n e) (V.tick n e'))
    (hcan : ∀ (σ σ' : Shared V Call) n s r, σ.exec i c s (x.answer n s) = some (r, σ') → L.can s r)
    (hsees : ∀ g s, L.may g s → Sees D E i s) {p : Code V α} {g : G} (hp : Follows L Q X p g)
    (h : σ.Agree D E τ) {n : Nat} {o : Except V.Err α} (ho : p.play i c x n σ = some (o, σ')) :
    ∃ τ', p.play i c x n τ = some (o, τ') ∧ σ'.Agree D E τ' := by
  induction p generalizing g n σ τ with
  | ret a | raise e =>
    cases ho
    exact ⟨τ, rfl, h⟩
  | call s k ih =>
    obtain ⟨hmay, hk⟩ := hp
    obtain ⟨⟨r, σ₁⟩, he, ho⟩ := Option.bind_eq_some_iff.mp ho
    have hpass : (σ.pass (x.wait n)).Agree D E (τ.pass (x.wait n)) :=
      ⟨h.db, htick _ _ _ h.env, h.txs, h.locked, h.next⟩
    obtain ⟨τ₁, he', h₁⟩ := hpass.exec happly (hsees g s hmay) he
    obtain ⟨τ', ho', h'⟩ := ih r (hk r (hcan _ _ _ _ _ he)) h₁ ho
    refine ⟨τ', ?_, h'⟩
    simp only [Code.play, he']
    exact ho'

end Agreement

section Hiding

variable {D : V.Db → V.Db → Prop} {E : V.Env → V.Env → Prop}

def Hidden (D : V.Db → V.Db → Prop) (x : V.Write) : Prop := ∀ d, D d (V.apply x d)

def Misses (D : V.Db → V.Db → Prop) (E : V.Env → V.Env → Prop) (i : Nat) : Stmt V → Prop
  | .sql _ q => ∀ d a ws ks, V.run q d = .ok (a, ws, ks) → ∀ x ∈ ws, Hidden D x
  | .aux a => ∀ e e' ch r, V.ask e i a ch = some (r, e') → E e e'
  | _ => True

def Shared.Hides (D : V.Db → V.Db → Prop) (σ : Shared V Call) : Prop :=
  ∀ h t, σ.txs h = some t → ∀ x ∈ t.writes, Hidden D x

variable (hD : Equivalence D)

include hD in
theorem Tx.view_hidden {t : Tx V} (ht : ∀ x ∈ t.writes, Hidden D x) (d : V.Db) :
    D d (t.view d) := by
  unfold Tx.view
  generalize t.writes = ws at ht
  induction ws generalizing d with
  | nil => exact hD.refl d
  | cons x ws ih =>
    obtain ⟨hx, hws⟩ := List.forall_mem_cons.mp ht
    exact hD.trans (hx d) (ih _ hws)

theorem Shared.Hides.close (h : σ.Hides D) (n : Nat) : (σ.close n).Hides D := by
  intro m t ht
  change Function.update σ.txs n none m = some t at ht
  rw [Function.update_apply] at ht
  split at ht
  · cases ht
  · exact h m t ht

theorem Shared.Hides.put (h : σ.Hides D) (n : Nat) {t : Tx V} (ht : ∀ x ∈ t.writes, Hidden D x) :
    (σ.put n t).Hides D := by
  intro m t' ht'
  change Function.update σ.txs n (some t) m = some t' at ht'
  rw [Function.update_apply] at ht'
  split at ht'
  · cases ht'
    exact ht
  · exact h m t' ht'

include hD in
theorem Shared.Hides.exec (hrefl : ∀ e, E e e) (h : σ.Hides D) (hs : Misses D E i s)
    (he : σ.exec i c s ch = some (r, σ')) :
    D σ.world.db σ'.world.db ∧ E σ.world.env σ'.world.env ∧ σ'.Hides D := by
  have hsame : D σ.world.db σ.world.db ∧ E σ.world.env σ.world.env :=
    ⟨hD.refl _, hrefl _⟩
  cases Shared.exec_effect he with
  | failed e => exact ⟨hsame.1, hsame.2, h⟩
  | begun site => exact ⟨hsame.1, hsame.2, h.put _ fun x hx => by cases hx⟩
  | broken ht => exact ⟨hsame.1, hsame.2, h.close _⟩
  | committed ht => exact ⟨Tx.view_hidden hD (h _ _ ht) _, hsame.2, h.close _⟩
  | rolledBack ht => exact ⟨hsame.1, hsame.2, h.close _⟩
  | recorded ht _ hrun =>
    refine ⟨hsame.1, hsame.2, h.put _ fun x hx => ?_⟩
    obtain hx | hx := List.mem_append.mp hx
    · exact h _ _ ht x hx
    · exact hs _ _ _ _ hrun x hx
  | read hrun => exact ⟨hsame.1, hsame.2, h⟩
  | single hrun => exact ⟨Tx.view_hidden hD (hs _ _ _ _ hrun) _, hsame.2, h⟩
  | asked hask => exact ⟨hsame.1, hs _ _ _ _ hask, h⟩

variable {L : Ledger V G} {Q : α → G → Prop} {X : V.Err → G → Prop} {x : Script V}

include hD in
theorem Follows.play_hidden (hE : Equivalence E) (htick : ∀ n e, E e (V.tick n e))
    (hcan : ∀ (σ σ' : Shared V Call) n s r, σ.exec i c s (x.answer n s) = some (r, σ') → L.can s r)
    (hmisses : ∀ g s, L.may g s → Misses D E i s) {p : Code V α} {g : G}
    (hp : Follows L Q X p g) (h : σ.Hides D) {n : Nat} {o : Except V.Err α}
    (ho : p.play i c x n σ = some (o, σ')) :
    D σ.world.db σ'.world.db ∧ E σ.world.env σ'.world.env := by
  induction p generalizing g n σ with
  | ret a | raise e =>
    cases ho
    exact ⟨hD.refl _, hE.refl _⟩
  | call s k ih =>
    obtain ⟨hmay, hk⟩ := hp
    obtain ⟨⟨r, σ₁⟩, he, ho⟩ := Option.bind_eq_some_iff.mp ho
    have hpass : (σ.pass (x.wait n)).Hides D := h
    obtain ⟨hdb, henv, h₁⟩ := hpass.exec hD hE.refl (hmisses g s hmay) he
    obtain ⟨hdb', henv'⟩ := ih r (hk r (hcan _ _ _ _ _ he)) h₁ ho
    exact ⟨hD.trans hdb hdb', hE.trans (htick _ _) (hE.trans henv henv')⟩

end Hiding

section Sequences

variable {A S O : Type} (serve : A → S → Option (O × S))

/-- Requests served one after another, each with what it returns. -/
def serveAll : List A → S → Option (List (A × O) × S)
  | [], s => some ([], s)
  | a :: as, s =>
      (serve a s).bind (fun x => (serveAll as x.2).map (fun y => ((a, x.1) :: y.1, y.2)))

theorem serveAll_filter {R : S → S → Prop} {keep : A → Bool} {as : List A}
    (hkept : ∀ a ∈ as, keep a = true → ∀ s t o s', R s t → serve a s = some (o, s') →
      ∃ t', serve a t = some (o, t') ∧ R s' t')
    (hleft : ∀ a ∈ as, keep a = false → ∀ s t o s', R s t → serve a s = some (o, s') → R s' t)
    {s t s' : S} {os : List (A × O)} (h : R s t) (hs : serveAll serve as s = some (os, s')) :
    ∃ t', serveAll serve (as.filter keep) t = some (os.filter (fun x => keep x.1), t') ∧
      R s' t' := by
  induction as generalizing s t os with
  | nil =>
    cases hs
    exact ⟨t, rfl, h⟩
  | cons a as ih =>
    obtain ⟨⟨o, s₁⟩, hserve, hs⟩ := Option.bind_eq_some_iff.mp hs
    obtain ⟨⟨os', s₂⟩, hrest, heq⟩ := Option.map_eq_some_iff.mp hs
    cases heq
    replace ih := @ih (fun b hb => hkept b (List.mem_cons_of_mem a hb))
      (fun b hb => hleft b (List.mem_cons_of_mem a hb))
    cases ha : keep a with
    | true =>
      obtain ⟨t₁, hserve', h₁⟩ := hkept a List.mem_cons_self ha s t o s₁ h hserve
      obtain ⟨t', hrest', h'⟩ := ih h₁ hrest
      refine ⟨t', ?_, h'⟩
      rw [List.filter_cons_of_pos ha, List.filter_cons_of_pos (by exact ha)]
      simp only [serveAll, hserve', Option.bind_some, hrest', Option.map_some]
    | false =>
      have h₁ := hleft a List.mem_cons_self ha s t o s₁ h hserve
      obtain ⟨t', hrest', h'⟩ := ih h₁ hrest
      refine ⟨t', ?_, h'⟩
      rw [List.filter_cons_of_neg (by simp [ha]), List.filter_cons_of_neg (by simp [ha])]
      exact hrest'

end Sequences

end RailwayBooking.Concurrency
