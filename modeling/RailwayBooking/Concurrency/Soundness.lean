import Mathlib.Data.List.Nodup
import Mathlib.Tactic.Common
import RailwayBooking.Concurrency.Discipline

namespace RailwayBooking.Concurrency

variable {V : Service} {M : Machine V}

namespace Stack

theorem tx_mem {ts : Stack V} {h : Nat} {t : Tx V} (hx : ts.tx h = some t) : (h, t) ∈ ts := by
  induction ts with
  | nil => simp [tx] at hx
  | cons p ts ih =>
    obtain ⟨h', t'⟩ := p
    by_cases hh : h' = h
    · simp only [tx, hh, ↓reduceIte, Option.some.injEq] at hx
      simp [hh, hx]
    · simp only [tx, hh, ↓reduceIte] at hx
      exact List.mem_cons_of_mem _ (ih hx)

theorem set_fst (ts : Stack V) (h : Nat) (t : Tx V) :
    (ts.set h t).map Prod.fst = ts.map Prod.fst := by
  induction ts with
  | nil => rfl
  | cons p ts ih =>
    obtain ⟨h', t'⟩ := p
    by_cases hh : h' = h <;> simp [set, hh, ih]

theorem remove_sublist (ts : Stack V) (h : Nat) : (ts.remove h).Sublist ts := by
  induction ts with
  | nil => exact List.Sublist.refl _
  | cons p ts ih =>
    obtain ⟨h', t'⟩ := p
    by_cases hh : h' = h
    · simp [remove, hh]
    · simpa [remove, hh] using ih

theorem mem_set {ts : Stack V} {h : Nat} {t : Tx V} (hn : (ts.map Prod.fst).Nodup)
    {x : Nat × Tx V} (hx : x ∈ ts.set h t) : x = (h, t) ∨ (x ∈ ts ∧ x.1 ≠ h) := by
  induction ts with
  | nil => simp [set] at hx
  | cons p ts ih =>
    obtain ⟨h', t'⟩ := p
    simp only [List.map_cons, List.nodup_cons] at hn
    by_cases hh : h' = h
    · simp only [set, hh, ↓reduceIte, List.mem_cons] at hx
      rcases hx with hx | hx
      · exact .inl hx
      · refine .inr ⟨List.mem_cons_of_mem _ hx, fun he => hn.1 ?_⟩
        exact List.mem_map.mpr ⟨x, hx, by rw [he, hh]⟩
    · simp only [set, hh, ↓reduceIte, List.mem_cons] at hx
      rcases hx with rfl | hx
      · exact .inr ⟨by simp, hh⟩
      · rcases ih hn.2 hx with hx | hx
        · exact .inl hx
        · exact .inr ⟨List.mem_cons_of_mem _ hx.1, hx.2⟩

theorem ne_of_mem_remove {ts : Stack V} {h : Nat} (hn : (ts.map Prod.fst).Nodup)
    {x : Nat × Tx V} (hx : x ∈ ts.remove h) : x.1 ≠ h := by
  induction ts with
  | nil => simp [remove] at hx
  | cons p ts ih =>
    obtain ⟨h', t'⟩ := p
    simp only [List.map_cons, List.nodup_cons] at hn
    by_cases hh : h' = h
    · simp only [remove, hh, ↓reduceIte] at hx
      intro he
      exact hn.1 (List.mem_map.mpr ⟨x, hx, by rw [he, hh]⟩)
    · simp only [remove, hh, ↓reduceIte, List.mem_cons] at hx
      rcases hx with rfl | hx
      · exact hh
      · exact ih hn.2 hx

end Stack

/-- The lock table and the open transactions agree. -/
structure Coherent {Call : Type} (σ : Shared V Call) : Prop where
  next : ∀ h t, σ.txs h = some t → h < σ.next
  locked : ∀ h t k, σ.txs h = some t → k ∈ t.locks → σ.locked k = some h
  covered : ∀ h t, σ.txs h = some t → t.Covered

/-- The stack lists open transactions of thread `i`. -/
structure Owned {Call : Type} (σ : Shared V Call) (i : Nat) (ts : Stack V) : Prop where
  nodup : (ts.map Prod.fst).Nodup
  mem : ∀ x ∈ ts, σ.txs x.1 = some x.2 ∧ x.2.owner = i

theorem Owned.tx {Call : Type} {σ : Shared V Call} {i h : Nat} {t : Tx V} {ts : Stack V}
    (ho : Owned σ i ts) (ht : ts.tx h = some t) : σ.txs h = some t ∧ t.owner = i :=
  ho.mem (h, t) (Stack.tx_mem ht)

/-- The transactions of the other threads stay open. -/
def Foreign {Call : Type} (i : Nat) (σ σ' : Shared V Call) : Prop :=
  ∀ h t, σ.txs h = some t → t.owner ≠ i → σ'.txs h = some t

/-- What statement `s` of thread `i`, call `c`, does to the committed state. -/
inductive Moved (D : Discipline M) (i : Nat) (c : M.Call) (σ : Shared V M.Call) (s : Stmt V) :
    World V M.Call → Prop
  | none : Moved D i c σ s σ.world
  | drift {e : V.Env} (h : D.drift σ.world e) : Moved D i c σ s (σ.world.setEnv e)
  | commit {t : Tx V} (settles : σ.Settles i s t) (commits : D.commits c t σ.world)
      (covered : t.Covered)
      (apart : ∀ h t', σ.txs h = some t' → t'.owner ≠ i → ∀ k ∈ t.locks, k ∉ t'.locks) :
      Moved D i c σ s (σ.world.commit c t)

theorem Shared.Settles.owner {Call : Type} {σ : Shared V Call} {i : Nat} {s : Stmt V} {t : Tx V}
    (h : σ.Settles i s t) : t.owner = i := by
  cases h with
  | commit _ howner => exact howner
  | single _ _ => rfl

theorem exclusive {Call : Type} {σ : Shared V Call} (hc : Coherent σ) {h h' : Nat} {t t' : Tx V}
    (ht : σ.txs h = some t) (ht' : σ.txs h' = some t') (ho : t'.owner ≠ t.owner) :
    ∀ k ∈ t.locks, k ∉ t'.locks := by
  intro k hk hk'
  have he := (hc.locked h t k ht hk).symm.trans (hc.locked h' t' k ht' hk')
  cases he
  exact ho (congrArg Tx.owner (Option.some.inj (ht'.symm.trans ht)))

section Close

variable {Call : Type} {σ : Shared V Call} {i h : Nat} {t : Tx V}

theorem coherent_close (hc : Coherent σ) : Coherent (σ.close h) where
  next h' t' ht := by
    by_cases hh : h' = h
    · simp [Shared.close, hh] at ht
    · exact hc.next h' t' (by simpa [Shared.close, hh] using ht)
  locked h' t' k ht hk := by
    by_cases hh : h' = h
    · simp [Shared.close, hh] at ht
    · have hl := hc.locked h' t' k (by simpa [Shared.close, hh] using ht) hk
      simp [Shared.close, hl, hh]
  covered h' t' ht := by
    by_cases hh : h' = h
    · simp [Shared.close, hh] at ht
    · exact hc.covered h' t' (by simpa [Shared.close, hh] using ht)

theorem owned_close {ts : Stack V} (ho : Owned σ i ts) : Owned (σ.close h) i (ts.remove h) where
  nodup := ho.nodup.sublist ((ts.remove_sublist h).map _)
  mem x hx := by
    have hm := ho.mem x ((ts.remove_sublist h).subset hx)
    have hne := Stack.ne_of_mem_remove ho.nodup hx
    simpa [Shared.close, hne] using hm

theorem foreign_close (ht : σ.txs h = some t) (ho : t.owner = i) : Foreign i σ (σ.close h) := by
  intro h' t' ht' hne
  have hh : h' ≠ h := by
    rintro rfl
    exact hne (by rw [← Option.some.inj (ht.symm.trans ht'), ho])
  simpa [Shared.close, hh] using ht'

end Close

section Put

variable {Call : Type} {σ : Shared V Call} {i h : Nat} {t : Tx V}

theorem free_some (hf : σ.free (some h) ks = true) {k : V.Key} (hk : k ∈ ks) :
    σ.locked k = none ∨ σ.locked k = some h := by
  have := List.all_eq_true.mp hf k hk
  simpa using this

theorem coherent_record (hc : Coherent σ) (ht : σ.txs h = some t) {q : V.Sql} {a : V.Rows q}
    {ws : List V.Write} {ks : List V.Key} (hf : σ.free (some h) (Tx.rowKeys V ws ks) = true) :
    Coherent (σ.put h (t.record q a ws ks)) where
  next h' t' ht' := by
    by_cases hh : h' = h
    · subst h'; exact hc.next h t ht
    · exact hc.next h' t' (by simpa [Shared.put, hh] using ht')
  locked h' t' k ht' hk := by
    by_cases hh : h' = h
    · subst h'
      have he : t' = t.record q a ws ks := by simpa [Shared.put, eq_comm] using ht'
      subst t'
      simp [Shared.put, hk, -Tx.record_locks]
    · have ho : σ.txs h' = some t' := by simpa [Shared.put, hh] using ht'
      have hl := hc.locked h' t' k ho hk
      have hk' : k ∉ (t.record q a ws ks).locks := by
        intro hm
        rcases List.mem_append.mp hm with hm | hm
        · have := hc.locked h t k ht hm
          rw [hl] at this
          exact hh (Option.some.inj this)
        · rcases free_some hf hm with hn | hn
          · rw [hl] at hn; cases hn
          · rw [hl] at hn; exact hh (Option.some.inj hn)
      simp [Shared.put, hk', hl, -Tx.record_locks]
  covered h' t' ht' := by
    by_cases hh : h' = h
    · subst h'
      have he : t' = t.record q a ws ks := by simpa [Shared.put, eq_comm] using ht'
      rw [he]
      exact Tx.covered_record (hc.covered h t ht) q a ws ks
    · exact hc.covered h' t' (by simpa [Shared.put, hh] using ht')

theorem owned_record {ts : Stack V} (ho : Owned σ i ts) (ht : t.owner = i) :
    Owned (σ.put h t) i (ts.set h t) where
  nodup := by rw [Stack.set_fst]; exact ho.nodup
  mem x hx := by
    rcases Stack.mem_set ho.nodup hx with rfl | ⟨hm, hne⟩
    · simp [Shared.put, ht]
    · simpa [Shared.put, hne] using ho.mem x hm

theorem foreign_put {t' : Tx V} (ht : σ.txs h = some t) (ho : t.owner = i) :
    Foreign i σ (σ.put h t') := by
  intro h' t₁ ht₁ hne
  have hh : h' ≠ h := by
    rintro rfl
    exact hne (by rw [← Option.some.inj (ht.symm.trans ht₁), ho])
  simpa [Shared.put, hh] using ht₁

end Put

section Begin

variable {Call : Type} {σ : Shared V Call} {i : Nat} {site : V.Site}

def begun (σ : Shared V Call) (i : Nat) (site : V.Site) : Shared V Call :=
  { σ.put σ.next (Tx.start i site) with next := σ.next + 1 }

theorem fresh_handle (hc : Coherent σ) {ts : Stack V} (ho : Owned σ i ts) :
    σ.next ∉ ts.map Prod.fst := by
  intro hm
  obtain ⟨x, hx, he⟩ := List.mem_map.mp hm
  have := hc.next x.1 x.2 (ho.mem x hx).1
  omega

theorem coherent_begin (hc : Coherent σ) : Coherent (begun σ i site) where
  next h t ht := by
    by_cases hh : h = σ.next
    · subst h; exact Nat.lt_succ_self _
    · have := hc.next h t (by simpa [begun, Shared.put, hh] using ht)
      exact Nat.lt_succ_of_lt this
  locked h t k ht hk := by
    by_cases hh : h = σ.next
    · subst h
      have he : t = Tx.start i site := by simpa [begun, Shared.put, eq_comm] using ht
      subst t
      simp [Tx.start] at hk
    · simpa [begun, Shared.put, Tx.start] using
        hc.locked h t k (by simpa [begun, Shared.put, hh] using ht) hk
  covered h t ht := by
    by_cases hh : h = σ.next
    · subst h
      have he : t = Tx.start i site := by simpa [begun, Shared.put, eq_comm] using ht
      rw [he]
      exact Tx.covered_start i site
    · exact hc.covered h t (by simpa [begun, Shared.put, hh] using ht)

theorem owned_begin (hc : Coherent σ) {ts : Stack V} (ho : Owned σ i ts) :
    Owned (begun σ i site) i ((σ.next, Tx.start i site) :: ts) where
  nodup := List.nodup_cons.mpr ⟨fresh_handle hc ho, ho.nodup⟩
  mem x hx := by
    rcases List.mem_cons.mp hx with rfl | hx
    · simp [begun, Shared.put, Tx.start]
    · have hne : x.1 ≠ σ.next := fun he =>
        fresh_handle hc ho (List.mem_map.mpr ⟨x, hx, he⟩)
      simpa [begun, Shared.put, hne] using ho.mem x hx

theorem foreign_begin (hc : Coherent σ) : Foreign i σ (begun σ i site) := by
  intro h t ht _
  have hne : h ≠ σ.next := Nat.ne_of_lt (hc.next h t ht)
  simpa [begun, Shared.put, hne] using ht

end Begin

theorem Foreign.refl {Call : Type} (i : Nat) (σ : Shared V Call) : Foreign i σ σ :=
  fun _ _ h _ => h

variable {D : Discipline M}

theorem begin_sound {σ σ' : Shared V M.Call} {i : Nat} {c : M.Call} {site : V.Site}
    {ch : Choice V.Reply} {r : Except V.Err Nat}
    {post : Except V.Err Nat → Stack V → World V M.Call → Prop} {ts : Stack V}
    (hc : Coherent σ) (ho : Owned σ i ts) (he : σ.exec i c (.begin site) ch = some (r, σ'))
    (hw : wp D i c (.begin site) post ts σ.world) :
    ∃ ts', Coherent σ' ∧ Owned σ' i ts' ∧ post r ts' σ'.world ∧ Foreign i σ σ' ∧
      Moved D i c σ (.begin site) σ'.world := by
  have hstart : ∀ r σ', some (Except.ok σ.next, begun σ i site) = some (r, σ') →
      ∃ ts', Coherent σ' ∧ Owned σ' i ts' ∧ post r ts' σ'.world ∧ Foreign i σ σ' ∧
        Moved D i c σ (.begin site) σ'.world := by
    rintro r σ' ⟨rfl, rfl⟩
    exact ⟨_, coherent_begin hc, owned_begin hc ho, hw.2 _ (fresh_handle hc ho),
      foreign_begin hc, .none⟩
  cases ch with
  | ok => exact hstart r σ' he
  | reply x => exact hstart r σ' he
  | fault =>
    cases he
    exact ⟨ts, hc, ho, hw.1, .refl i _, .none⟩
  | lost =>
    cases he
    exact ⟨ts, hc, ho, hw.1, .refl i _, .none⟩

theorem answer_cases {α : Type} {post : Except V.Err α → Stack V → World V M.Call → Prop} {a : α}
    {ts : Stack V} {w : World V M.Call} (ch : Choice V.Reply) (hok : post (.ok a) ts w)
    (hlost : post (.error V.fault) ts w) : post (ch.answer V.fault a) ts w := by
  cases ch with
  | lost => exact hlost
  | _ => exact hok

theorem commit_sound {σ σ' : Shared V M.Call} {i : Nat} {c : M.Call} {h : Nat}
    {ch : Choice V.Reply} {r : Except V.Err Unit}
    {post : Except V.Err Unit → Stack V → World V M.Call → Prop} {ts : Stack V}
    (hc : Coherent σ) (ho : Owned σ i ts) (he : σ.exec i c (.commit h) ch = some (r, σ'))
    (hw : wp D i c (.commit h) post ts σ.world) :
    ∃ ts', Coherent σ' ∧ Owned σ' i ts' ∧ post r ts' σ'.world ∧ Foreign i σ σ' ∧
      Moved D i c σ (.commit h) σ'.world := by
  obtain ⟨t, ht, hw⟩ := hw
  obtain ⟨hx, hown⟩ := ho.tx ht
  have hv := hc.covered h t hx
  obtain ⟨hfault, hcommit, hpost, hlost⟩ := hw hv
  simp only [Shared.exec, hx, hown, ↓reduceIte] at he
  by_cases hch : ch = .fault
  · subst hch
    cases he
    exact ⟨ts.remove h, coherent_close hc, owned_close ho, hfault, foreign_close hx hown, .none⟩
  · have he : some (ch.answer V.fault (), (σ.close h).settle c t) = some (r, σ') := by
      cases ch with
      | fault => exact absurd rfl hch
      | _ => exact he
    cases he
    refine ⟨ts.remove h, ?_, ?_, answer_cases ch hpost hlost, foreign_close hx hown, ?_⟩
    · exact ⟨(coherent_close hc).next, (coherent_close hc).locked, (coherent_close hc).covered⟩
    · exact ⟨(owned_close ho).nodup, (owned_close ho).mem⟩
    · exact .commit (.commit hx hown) hcommit hv fun h' t' ht' hne =>
        exclusive hc hx ht' (by rw [hown]; exact hne)

theorem rollback_sound {σ σ' : Shared V M.Call} {i : Nat} {c : M.Call} {h : Nat}
    {ch : Choice V.Reply} {r : Except V.Err Unit}
    {post : Except V.Err Unit → Stack V → World V M.Call → Prop} {ts : Stack V}
    (hc : Coherent σ) (ho : Owned σ i ts) (he : σ.exec i c (.rollback h) ch = some (r, σ'))
    (hw : wp D i c (.rollback h) post ts σ.world) :
    ∃ ts', Coherent σ' ∧ Owned σ' i ts' ∧ post r ts' σ'.world ∧ Foreign i σ σ' ∧
      Moved D i c σ (.rollback h) σ'.world := by
  obtain ⟨⟨t, ht⟩, hpost⟩ := hw
  obtain ⟨hx, hown⟩ := ho.tx ht
  simp only [Shared.exec, hx, hown, ↓reduceIte] at he
  cases he
  exact ⟨ts.remove h, coherent_close hc, owned_close ho, hpost, foreign_close hx hown, .none⟩

theorem sql_sound {σ σ' : Shared V M.Call} {i : Nat} {c : M.Call} {h : Nat} {q : V.Sql}
    {ch : Choice V.Reply} {r : Except V.Err (V.Rows q)}
    {post : Except V.Err (V.Rows q) → Stack V → World V M.Call → Prop} {ts : Stack V}
    (hc : Coherent σ) (ho : Owned σ i ts) (he : σ.exec i c (.sql (some h) q) ch = some (r, σ'))
    (hw : wp D i c (.sql (some h) q) post ts σ.world) :
    ∃ ts', Coherent σ' ∧ Owned σ' i ts' ∧ post r ts' σ'.world ∧ Foreign i σ σ' ∧
      Moved D i c σ (.sql (some h) q) σ'.world := by
  obtain ⟨hfault, t, ht, hrun⟩ := hw
  obtain ⟨hx, hown⟩ := ho.tx ht
  by_cases hch : ch = .fault ∨ ch = .lost
  · have he : some (Except.error V.fault, σ) = some (r, σ') := by
      rcases hch with rfl | rfl <;> exact he
    cases he
    exact ⟨ts, hc, ho, hfault, .refl i _, .none⟩
  · rw [not_or] at hch
    rw [Shared.exec] at he
    · simp only [hx, hown, ↓reduceIte] at he
      cases hq : V.run q (t.view σ.world.db) with
      | error e =>
        rw [hq] at he hrun
        cases he
        exact ⟨ts, hc, ho, hrun, .refl i _, .none⟩
      | ok x =>
        obtain ⟨a, ws, ks⟩ := x
        rw [hq] at he hrun
        simp only [Option.ite_none_right_eq_some] at he
        obtain ⟨hf, he⟩ := he
        cases he
        exact ⟨_, coherent_record hc hx hf, owned_record ho hown, hrun, foreign_put hx hown, .none⟩
    · exact hch.1
    · exact hch.2

theorem single_sound {σ σ' : Shared V M.Call} {i : Nat} {c : M.Call} {q : V.Sql}
    {ch : Choice V.Reply} {r : Except V.Err (V.Rows q)}
    {post : Except V.Err (V.Rows q) → Stack V → World V M.Call → Prop} {ts : Stack V}
    (hc : Coherent σ) (ho : Owned σ i ts) (he : σ.exec i c (.sql none q) ch = some (r, σ'))
    (hw : wp D i c (.sql none q) post ts σ.world) :
    ∃ ts', Coherent σ' ∧ Owned σ' i ts' ∧ post r ts' σ'.world ∧ Foreign i σ σ' ∧
      Moved D i c σ (.sql none q) σ'.world := by
  obtain ⟨hfault, hrun⟩ := hw
  by_cases hch : ch = .fault
  · subst hch
    cases he
    exact ⟨ts, hc, ho, hfault, .refl i _, .none⟩
  · rw [Shared.exec] at he
    · cases hq : V.run q σ.world.db with
      | error e =>
        rw [hq] at he hrun
        cases he
        exact ⟨ts, hc, ho, hrun, .refl i _, .none⟩
      | ok x =>
        obtain ⟨a, ws, ks⟩ := x
        rw [hq] at he hrun
        simp only [Option.ite_none_right_eq_some] at he
        obtain ⟨hf, he⟩ := he
        cases he
        by_cases hws : ws.isEmpty
        · simp only [hws, ↓reduceIte] at hrun ⊢
          exact ⟨ts, hc, ho, answer_cases ch hrun hfault, .refl i _, .none⟩
        · simp only [hws, Bool.false_eq_true, ↓reduceIte] at hrun ⊢
          refine ⟨ts, ⟨hc.next, hc.locked, hc.covered⟩, ⟨ho.nodup, ho.mem⟩,
            answer_cases ch hrun.2.1 hrun.2.2, fun _ _ h _ => h,
            .commit (.single hq (by simpa using hws)) hrun.1 (Shared.covered_single i q a ws ks)
              fun h' t' ht' _ k hk hk' => ?_⟩
          have hl := hc.locked h' t' k ht' hk'
          have hn := List.all_eq_true.mp hf k (by simpa [Shared.single, Tx.record, Tx.start] using hk)
          simp [hl] at hn
    · exact hch

/-- One statement of a thread whose weakest condition holds leaves its
postcondition, keeps the lock table coherent, does not touch the other threads'
transactions, and moves the committed state as the discipline says. -/
theorem exec_sound (hl : D.Lawful) {σ σ' : Shared V M.Call} {i : Nat} {c : M.Call} {s : Stmt V}
    {ch : Choice V.Reply} {r : Except V.Err s.Ans}
    {post : Except V.Err s.Ans → Stack V → World V M.Call → Prop} {ts : Stack V}
    (hc : Coherent σ) (ho : Owned σ i ts) (he : σ.exec i c s ch = some (r, σ'))
    (hw : wp D i c s post ts σ.world) :
    ∃ ts', Coherent σ' ∧ Owned σ' i ts' ∧ post r ts' σ'.world ∧ Foreign i σ σ' ∧
      Moved D i c σ s σ'.world := by
  cases s with
  | begin site => exact begin_sound hc ho he hw
  | commit h => exact commit_sound hc ho he hw
  | rollback h => exact rollback_sound hc ho he hw
  | sql h q =>
    cases h with
    | none => exact single_sound hc ho he hw
    | some h => exact sql_sound hc ho he hw
  | aux a =>
    simp only [Shared.exec, Option.map_eq_some_iff] at he
    obtain ⟨⟨r', e⟩, ha, he⟩ := he
    cases he
    exact ⟨ts, ⟨hc.next, hc.locked, hc.covered⟩, ⟨ho.nodup, ho.mem⟩, hw.2 ch r' e ha,
      fun _ _ h _ => h, .drift (hl.ask _ _ _ _ _ _ _ hw.1 ha)⟩

end RailwayBooking.Concurrency
