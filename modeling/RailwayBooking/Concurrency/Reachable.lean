import RailwayBooking.Concurrency.Soundness

namespace RailwayBooking.Concurrency

variable {V : Service} {M : Machine V} {D : Discipline M}

theorem Ok.moved (hl : D.Lawful) {i j : Nat} {c c' : M.Call} {σ : Shared V M.Call} {s : Stmt V}
    {w' : World V M.Call} (hij : i ≠ j) (hi : D.inv σ.world) (hp : D.pre c σ.world)
    (hm : Moved D i c σ s w') {code : Code V M.Out} {ts : Stack V} (ho : Owned σ j ts)
    (h : Ok D j c' (fun a _ w => D.post c' a w) (fun _ _ _ => True) code ts σ.world) :
    Ok D j c' (fun a _ w => D.post c' a w) (fun _ _ _ => True) code ts w' := by
  have hkeep : ∀ F, Stable D j ts.locks F → F σ.world → F w' := by
    intro F hF hw
    cases hm with
    | none => exact hw
    | drift hd => exact hF.drift _ _ hd hw
    | commit hst hc hv hapart =>
      refine hF.commit _ _ _ hi hp hc hv (by rw [hst.owner]; exact hij) (fun k hk hk' => ?_) hw
      obtain ⟨x, hx, hkx⟩ := List.mem_flatMap.mp hk'
      obtain ⟨hx', hox⟩ := ho.mem x hx
      exact hapart x.1 x.2 hx' (by rw [hox]; exact hij.symm) k hk hkx
  cases code with
  | ret a => exact hkeep _ ((hl.post c' a).stable D j ts.locks) h
  | raise e => trivial
  | call s k =>
    obtain ⟨F, hs, hF, hin, hw⟩ := h
    exact ⟨F, hs, hkeep F hs hF, hin, hw⟩

theorem Owned.foreign {Call : Type} {i j : Nat} {σ σ' : Shared V Call} {ts : Stack V}
    (hij : i ≠ j) (hf : Foreign i σ σ') (ho : Owned σ j ts) : Owned σ' j ts where
  nodup := ho.nodup
  mem x hx := by
    obtain ⟨ht, hown⟩ := ho.mem x hx
    exact ⟨hf _ _ ht (by rw [hown]; exact hij.symm), hown⟩

theorem coherent_abort {Call : Type} {σ : Shared V Call} (hc : Coherent σ) (i : Nat) :
    Coherent (σ.abort i) where
  next h t ht := by
    simp only [Shared.abort, Option.filter_eq_some_iff] at ht
    exact hc.next h t ht.1
  locked h t k ht hk := by
    simp only [Shared.abort, Option.filter_eq_some_iff] at ht
    have hlk := hc.locked h t k ht.1 hk
    simp [Shared.abort, hlk, ht.1, ht.2]
  covered h t ht := by
    simp only [Shared.abort, Option.filter_eq_some_iff] at ht
    exact hc.covered h t ht.1

theorem foreign_abort {Call : Type} (σ : Shared V Call) (i : Nat) : Foreign i σ (σ.abort i) := by
  intro h t ht hne
  simp [Shared.abort, ht, Option.filter, hne]

/-- The tables are as the discipline says and every thread keeps it. -/
structure WellFormed (D : Discipline M) (p : Pool M) : Prop where
  coherent : Coherent p.shared
  inv : D.inv p.world
  threads : ∀ i c code, p.threads[i]? = some ⟨c, some code⟩ → D.pre c p.world ∧
    ∃ ts, Owned p.shared i ts ∧
      Ok D i c (fun a _ w => D.post c a w) (fun _ _ _ => True) code ts p.world

def Discipline.Sound (D : Discipline M) : Prop :=
  ∀ i c w, D.inv w → D.pre c w →
    Ok D i c (fun a _ w => D.post c a w) (fun _ _ _ => True) (M.body c) [] w

theorem wellFormed_init {d : V.Db} {e : V.Env} (h : D.inv ⟨d, [], e⟩) :
    WellFormed D (Pool.init (M := M) d e) where
  coherent :=
    ⟨fun h t ht => by simp [Pool.init] at ht, fun h t k ht => by simp [Pool.init] at ht,
      fun h t ht => by simp [Pool.init] at ht⟩
  inv := h
  threads i c code ht := by simp [Pool.init] at ht

theorem wellFormed_spawn (hs : D.Sound) {p : Pool M} (h : WellFormed D p) {c : M.Call}
    (hp : D.pre c p.world) : WellFormed D (p.spawn c) where
  coherent := h.coherent
  inv := h.inv
  threads i c' code ht := by
    by_cases hi : i < p.threads.length
    · rw [Pool.spawn, List.getElem?_append_left hi] at ht
      exact h.threads i c' code ht
    · rw [Pool.spawn, List.getElem?_append_right (Nat.le_of_not_lt hi)] at ht
      obtain ⟨hlt, hx⟩ := List.getElem?_eq_some_iff.mp ht
      obtain rfl : i = p.threads.length := by simp at hlt; omega
      simp only [Nat.sub_self, List.getElem_cons_zero, Thread.mk.injEq, Option.some.injEq] at hx
      obtain ⟨rfl, rfl⟩ := hx
      exact ⟨hp, [], ⟨by simp, by simp⟩, hs _ _ _ h.inv hp⟩

theorem Stmt.Within.via_eq {Call : Type} {σ : Shared V Call} {i : Nat} {ts : Stack V}
    (ho : Owned σ i ts) {s : Stmt V} (h : s.Within ts) : s.via.bind σ.txs = s.via.bind ts.tx := by
  cases hv : s.via with
  | none => rfl
  | some k =>
    obtain ⟨t, ht⟩ := h k hv
    simp [ht, (ho.tx ht).1]

theorem Lasting.moved {F : World V M.Call → Prop} (h : Lasting D F) {σ : Shared V M.Call}
    {i : Nat} {c : M.Call} {s : Stmt V} {w' : World V M.Call} (hi : D.inv σ.world)
    (hp : D.pre c σ.world) (hm : Moved D i c σ s w') (hF : F σ.world) : F w' := by
  cases hm with
  | none => exact hF
  | drift hd => exact h.drift _ _ hd hF
  | commit _ hc hv _ => exact h.commit _ _ _ hi hp hc hv hF

/-- The statements and calls that a set of runs considers. -/
structure Scope (M : Machine V) where
  start : M.Call → World V M.Call → Prop
  allow : M.Call → Option (Tx V) → World V M.Call → Stmt V → Prop

namespace Scope

def Permits (S : Scope M) (p : Pool M) : Action V → Prop
  | .run i _ => ∀ c s k, p.threads[i]? = some ⟨c, some (.call s k)⟩ →
      S.allow c (s.via.bind p.shared.txs) p.world s
  | _ => True

/-- The scope admits nothing that the discipline does not cover. -/
structure Within (S : Scope M) (D : Discipline M) : Prop where
  start : ∀ c w, S.start c w → D.pre c w
  allow : ∀ c t w s, S.allow c t w s → D.allow c t w s

/-- The scope admits the statement that commits `t`. -/
inductive Passes (S : Scope M) (c : M.Call) (t : Tx V) (w : World V M.Call) : Prop
  | commit (h : Nat) (allow : S.allow c (some t) w (.commit h))
  | single (i : Nat) (q : V.Sql) (a : V.Rows q) (ws : List V.Write) (ks : List V.Key)
      (run : V.run q w.db = .ok (a, ws, ks)) (writes : ws ≠ [])
      (tx : t = Shared.single V i q a ws ks) (allow : S.allow c none w (.sql none q))

theorem Permits.within {S : Scope M} (hS : S.Within D) {p : Pool M} {a : Action V}
    (h : S.Permits p a) : ∀ i ch, a = .run i ch →
      ∀ c s k, p.threads[i]? = some ⟨c, some (.call s k)⟩ →
        D.allow c (s.via.bind p.shared.txs) p.world s := by
  rintro i ch rfl c s k ht
  exact hS.allow _ _ _ _ (h c s k ht)

end Scope

/-- `F` survives the commits that the scope admits. -/
structure Keeps (D : Discipline M) (S : Scope M) (F : World V M.Call → Prop) : Prop where
  commit : ∀ w c t, D.inv w → D.pre c w → D.commits c t w → t.Covered → S.Passes c t w → F w →
    F (w.commit c t)
  drift : ∀ w e, D.drift w e → F w → F (w.setEnv e)

theorem Lasting.keeps {F : World V M.Call → Prop} (h : Lasting D F) (S : Scope M) : Keeps D S F :=
  ⟨fun w c t hi hp hc hv _ => h.commit w c t hi hp hc hv, h.drift⟩

theorem Shared.Settles.passes {S : Scope M} {σ : Shared V M.Call} {i : Nat} {c : M.Call}
    {s : Stmt V} {t : Tx V} (h : σ.Settles i s t) (ha : S.allow c (s.via.bind σ.txs) σ.world s) :
    S.Passes c t σ.world := by
  cases h with
  | commit hx _ =>
    rw [show (Stmt.commit (V := V) _).via.bind σ.txs = some _ from hx] at ha
    exact .commit _ ha
  | single hrun hws => exact .single _ _ _ _ _ hrun hws rfl ha

/-- How the committed state may change when a pool takes action `a`. -/
inductive Evolves (D : Discipline M) (S : Scope M) (p : Pool M) (a : Action V) :
    World V M.Call → Prop
  | none : Evolves D S p a p.world
  | drift {e : V.Env} (h : D.drift p.world e) : Evolves D S p a (p.world.setEnv e)
  | commit {i : Nat} {ch : Choice V.Reply} {c : M.Call} {t : Tx V} {s : Stmt V}
      {k : Except V.Err s.Ans → Code V M.Out} (action : a = .run i ch)
      (thread : p.threads[i]? = some ⟨c, some (.call s k)⟩)
      (settles : p.shared.Settles i s t) (pre : D.pre c p.world) (commits : D.commits c t p.world)
      (covered : t.Covered) (passes : S.Passes c t p.world) : Evolves D S p a (p.world.commit c t)

theorem Moved.evolves {S : Scope M} {p : Pool M} {i : Nat} {ch : Choice V.Reply} {c : M.Call}
    {s : Stmt V} {k : Except V.Err s.Ans → Code V M.Out} {w' : World V M.Call}
    (ht : p.threads[i]? = some ⟨c, some (.call s k)⟩) (hp : D.pre c p.world)
    (ha : S.allow c (s.via.bind p.shared.txs) p.world s) (hm : Moved D i c p.shared s w') :
    Evolves D S p (.run i ch) w' := by
  cases hm with
  | none => exact .none
  | drift hd => exact .drift hd
  | commit hst hc hv _ => exact .commit rfl ht hst hp hc hv (hst.passes ha)

theorem thread_set {p : Pool M} {i j : Nat} {x : Thread M} {c : M.Call}
    {code : Option (Code V M.Out)} (h : (p.threads.set i x)[j]? = some ⟨c, code⟩) :
    (i = j ∧ x = ⟨c, code⟩) ∨ (i ≠ j ∧ p.threads[j]? = some ⟨c, code⟩) := by
  rw [List.getElem?_set] at h
  by_cases hij : i = j
  · rw [if_pos hij] at h
    split at h
    · exact .inl ⟨hij, Option.some.inj h⟩
    · cases h
  · rw [if_neg hij] at h
    exact .inr ⟨hij, h⟩

theorem wellFormed_run (hl : D.Lawful) {p p' : Pool M} {i : Nat} {ch : Choice V.Reply}
    (h : WellFormed D p)
    (ha : ∀ c s k, p.threads[i]? = some ⟨c, some (.call s k)⟩ →
      D.allow c (s.via.bind p.shared.txs) p.world s)
    (hp : p.act (.run i ch) = some p') :
    WellFormed D p' ∧ ∃ c s k, p.threads[i]? = some ⟨c, some (.call s k)⟩ ∧ D.pre c p.world ∧
      Moved D i c p.shared s p'.world := by
  obtain ⟨c, s, k, r, σ', hth, he, rfl⟩ := Pool.run_cases hp
  obtain ⟨hpre, ts, ho, F, hs, hF, hin, hw⟩ := h.threads i c _ hth
  have hallow := ha c s k hth
  rw [hin.via_eq ho] at hallow
  obtain ⟨ts', hc', ho', hpost, hf, hm⟩ :=
    exec_sound hl h.coherent ho he (hw _ h.inv hpre hF hallow)
  refine ⟨⟨hc', hl.inv.moved h.inv hpre hm h.inv, fun j c' code' hj => ?_⟩,
    c, s, k, hth, hpre, hm⟩
  obtain ⟨rfl, hx⟩ | ⟨hij, hj⟩ := thread_set hj
  · cases hx
    exact ⟨(hl.pre c).moved h.inv hpre hm hpre, ts', ho', hpost⟩
  · obtain ⟨hpre', ts₁, ho₁, hok⟩ := h.threads j c' code' hj
    exact ⟨(hl.pre c').moved h.inv hpre hm hpre', ts₁, ho₁.foreign hij hf,
      hok.moved hl hij h.inv hpre hm ho₁⟩

theorem wellFormed_crash {p p' : Pool M} {i : Nat} (h : WellFormed D p)
    (hp : p.act (.crash i) = some p') : WellFormed D p' ∧ p'.world = p.world := by
  obtain ⟨c, s, k, hth, rfl⟩ := Pool.crash_cases hp
  refine ⟨⟨coherent_abort h.coherent i, h.inv, fun j c' code' hj => ?_⟩, rfl⟩
  obtain ⟨rfl, hx⟩ | ⟨hij, hj⟩ := thread_set hj
  · cases hx
  · obtain ⟨hpre', ts₁, ho₁, hok⟩ := h.threads j c' code' hj
    exact ⟨hpre', ts₁, ho₁.foreign hij (foreign_abort p.shared i), hok⟩

theorem wellFormed_tick (hl : D.Lawful) {p p' : Pool M} {d : Nat} (h : WellFormed D p)
    (hp : p.act (.tick d) = some p') : WellFormed D p' ∧ ∃ e, D.drift p.world e ∧
      p'.world = p.world.setEnv e := by
  cases hp
  refine ⟨⟨⟨h.coherent.next, h.coherent.locked, h.coherent.covered⟩,
    hl.inv.drift _ _ (hl.tick d _) h.inv, ?_⟩, _, hl.tick d _, rfl⟩
  intro j c code hj
  obtain ⟨hpre, ts, ho, hok⟩ := h.threads j c code hj
  refine ⟨(hl.pre c).drift _ _ (hl.tick d _) hpre, ts, ⟨ho.nodup, ho.mem⟩, ?_⟩
  have hm : Moved D (j + 1) c p.shared (.rollback 0) _ := .drift (hl.tick d p.world)
  exact hok.moved hl (Nat.succ_ne_self j) h.inv hpre hm ho

/-- One step of a well-formed pool leaves it well formed and changes the
committed state only as the discipline says. -/
theorem wellFormed_act (hl : D.Lawful) {S : Scope M} (hS : S.Within D) {p p' : Pool M}
    {a : Action V} (h : WellFormed D p) (ha : S.Permits p a) (hp : p.act a = some p') :
    WellFormed D p' ∧ Evolves D S p a p'.world := by
  cases a with
  | run i ch =>
    obtain ⟨h', c, s, k, ht, hpre, hm⟩ := wellFormed_run hl h (ha.within hS i ch rfl) hp
    exact ⟨h', hm.evolves ht hpre (ha c s k ht)⟩
  | crash i =>
    obtain ⟨h', hw⟩ := wellFormed_crash h hp
    exact ⟨h', hw ▸ .none⟩
  | tick d =>
    obtain ⟨h', e, hd, hw⟩ := wellFormed_tick hl h hp
    exact ⟨h', hw ▸ .drift hd⟩

theorem keeps_act (hl : D.Lawful) {S : Scope M} (hS : S.Within D) {p p' : Pool M}
    {a : Action V} (h : WellFormed D p) (ha : S.Permits p a) (hp : p.act a = some p')
    {F : World V M.Call → Prop} (hF : Keeps D S F) (hw : F p.world) : F p'.world := by
  obtain ⟨_, he⟩ := wellFormed_act hl hS h ha hp
  generalize p'.world = w' at he
  cases he with
  | none => exact hw
  | drift hd => exact hF.drift _ _ hd hw
  | commit _ _ _ hpre hc hv hs => exact hF.commit _ _ _ h.inv hpre hc hv hs hw

theorem act_calls {p p' : Pool M} {a : Action V} (hp : p.act a = some p') :
    p'.threads.map Thread.call = p.threads.map Thread.call := by
  have hset : ∀ (i : Nat) (x y : Thread M), p.threads[i]? = some x → y.call = x.call →
      (p.threads.set i y).map Thread.call = p.threads.map Thread.call := by
    intro i x y hx hy
    obtain ⟨hi, rfl⟩ := List.getElem?_eq_some_iff.mp hx
    rw [List.map_set, hy, ← List.getElem_map Thread.call (h := by simpa using hi),
      List.set_getElem_self]
  cases a with
  | run i ch =>
    obtain ⟨c, s, k, r, σ, hth, -, rfl⟩ := Pool.run_cases hp
    exact hset i _ _ hth rfl
  | crash i =>
    obtain ⟨c, s, k, hth, rfl⟩ := Pool.crash_cases hp
    exact hset i _ _ hth rfl
  | tick d =>
    cases hp
    rfl

/-- The pools that calls of the scope, running in any interleaving, can reach. -/
inductive Reachable (S : Scope M) (p₀ : Pool M) : Pool M → Prop
  | start : Reachable S p₀ p₀
  | spawn {p : Pool M} (h : Reachable S p₀ p) {c : M.Call} (hc : S.start c p.world) :
      Reachable S p₀ (p.spawn c)
  | act {p p' : Pool M} (h : Reachable S p₀ p) {a : Action V} (ha : S.Permits p a)
      (hp : p.act a = some p') : Reachable S p₀ p'

section Reach

variable {S : Scope M} {p₀ p : Pool M}

theorem Reachable.trans {p' : Pool M} (h : Reachable S p₀ p) (h' : Reachable S p p') :
    Reachable S p₀ p' := by
  induction h' with
  | start => exact h
  | spawn _ hc ih => exact ih.spawn hc
  | act _ ha hp ih => exact ih.act ha hp

theorem Reachable.mono {S' : Scope M} (hstart : ∀ c w, S.start c w → S'.start c w)
    (hpermits : ∀ p a, S.Permits p a → S'.Permits p a) (h : Reachable S p₀ p) :
    Reachable S' p₀ p := by
  induction h with
  | start => exact .start
  | spawn _ hc ih => exact ih.spawn (hstart _ _ hc)
  | act _ ha hp ih => exact ih.act (hpermits _ _ ha) hp

theorem Reachable.wellFormed (hl : D.Lawful) (hs : D.Sound) (hS : S.Within D)
    (h₀ : WellFormed D p₀) (h : Reachable S p₀ p) : WellFormed D p := by
  induction h with
  | start => exact h₀
  | spawn _ hc ih => exact wellFormed_spawn hs ih (hS.start _ _ hc)
  | act _ ha hp ih => exact (wellFormed_act hl hS ih ha hp).1

/-- What every admitted commit and every move of the environment keep holds in
every reachable pool. -/
theorem Reachable.keeps (hl : D.Lawful) (hs : D.Sound) (hS : S.Within D) (h₀ : WellFormed D p₀)
    {F : World V M.Call → Prop} (hF : Keeps D S F) (hF₀ : F p₀.world) (h : Reachable S p₀ p) :
    F p.world := by
  induction h with
  | start => exact hF₀
  | spawn _ _ ih => exact ih
  | act h ha hp ih => exact keeps_act hl hS (Reachable.wellFormed hl hs hS h₀ h) ha hp hF ih

theorem Reachable.started (h₀ : p₀.threads = []) (h : Reachable S p₀ p) :
    ∀ c ∈ p.threads.map Thread.call, ∃ w, S.start c w := by
  induction h with
  | start => simp [h₀]
  | @spawn p h c hc ih =>
    intro c' hc'
    simp only [Pool.spawn, List.map_append, List.map_cons, List.map_nil, List.mem_append,
      List.mem_singleton] at hc'
    obtain hc' | rfl := hc'
    · exact ih c' hc'
    · exact ⟨_, hc⟩
  | act _ _ hp ih =>
    rw [act_calls hp]
    exact ih

end Reach

theorem WellFormed.commits {p : Pool M} (h : WellFormed D p) {i n : Nat} {c : M.Call} {t : Tx V}
    {k : Except V.Err Unit → Code V M.Out}
    (ht : p.threads[i]? = some ⟨c, some (.call (.commit n) k)⟩) (hx : p.shared.txs n = some t)
    (ha : D.allow c (some t) p.world (.commit n)) : D.commits c t p.world := by
  obtain ⟨hpre, ts, ho, F, -, hF, hin, hw⟩ := h.threads i c _ ht
  have hvia : (Stmt.commit (V := V) n).via.bind ts.tx = some t := (hin.via_eq ho).symm.trans hx
  obtain ⟨t', ht', hw⟩ := hw _ h.inv hpre hF (by rw [hvia]; exact ha)
  obtain rfl : t' = t := Option.some.inj ((ho.tx ht').1.symm.trans hx)
  exact (hw (h.coherent.covered n _ hx)).2.1

theorem WellFormed.returned {p : Pool M} (h : WellFormed D p) {i : Nat} {c : M.Call} {a : M.Out}
    (ht : p.threads[i]? = some ⟨c, some (.ret a)⟩) : D.post c a p.world := by
  obtain ⟨_, ts, _, hok⟩ := h.threads i c _ ht
  exact hok

end RailwayBooking.Concurrency
