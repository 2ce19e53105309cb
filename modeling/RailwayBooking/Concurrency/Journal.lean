import RailwayBooking.Concurrency.Ledger

namespace RailwayBooking.Concurrency

variable {V : Service} {M : Machine V} {G : Type}

/-- What is put on record of each call: how an answer, and the state that the statement met,
change the record. -/
structure Journal (M : Machine V) where
  Entry : Type
  blank : Entry
  after : Entry → World V M.Call → (s : Stmt V) → Except V.Err s.Ans → Entry

/-- A ledger that asks for nothing. -/
def Ledger.free (V : Service) (G : Type) : Ledger V G :=
  ⟨fun _ _ => True, fun _ _ => True, fun g _ _ => g⟩

theorem follows_free {α : Type} {Q : α → G → Prop} {X : V.Err → G → Prop} {g : G} (hQ : ∀ a, Q a g)
    (hX : ∀ e, X e g) (p : Code V α) : Follows (.free V G) Q X p g := by
  induction p with
  | ret a => exact hQ a
  | raise e => exact hX e
  | call s k ih => exact ⟨trivial, fun r _ => ih r⟩

namespace Journal

variable (J : Journal M)

/-- A pool with the record of each call. -/
structure State where
  pool : Pool M
  entries : Nat → J.Entry

variable {J} in
/-- The records after a step of call `i`. -/
def State.enter (s : J.State) (i : Nat) (ch : Choice V.Reply) : Nat → J.Entry :=
  match s.pool.threads[i]? with
  | some ⟨c, some (.call stmt _)⟩ =>
    match s.pool.shared.exec i c stmt ch with
    | some (r, _) => Function.update s.entries i (J.after (s.entries i) s.pool.world stmt r)
    | none => s.entries
  | _ => s.entries

def step (s : J.State) : Event M → Option J.State
  | .call c => some ⟨s.pool.spawn c, s.entries⟩
  | .act (.run i ch) => (s.pool.act (.run i ch)).map (fun p => ⟨p, s.enter i ch⟩)
  | .act a => (s.pool.act a).map (fun p => ⟨p, s.entries⟩)

@[reducible] def system : System := ⟨J.State, Event M, J.step⟩

def start (p : Pool M) : J.State := ⟨p, fun _ => J.blank⟩

variable {J} {s s' : J.State} {e : Event M}

/-- What a step does to the pool and the records. -/
inductive Stepped (s : J.State) : Event M → J.State → Prop
  | called (c : M.Call) : Stepped s (.call c) ⟨s.pool.spawn c, s.entries⟩
  | ran {i : Nat} {ch : Choice V.Reply} {c : M.Call} {stmt : Stmt V}
      {k : Except V.Err stmt.Ans → Code V M.Out} {r : Except V.Err stmt.Ans}
      {σ : Shared V M.Call} (thread : s.pool.threads[i]? = some ⟨c, some (.call stmt k)⟩)
      (exec : s.pool.shared.exec i c stmt ch = some (r, σ)) :
      Stepped s (.act (.run i ch)) ⟨⟨σ, s.pool.threads.set i ⟨c, some (k r)⟩⟩,
        Function.update s.entries i (J.after (s.entries i) s.pool.world stmt r)⟩
  | crashed {i : Nat} {c : M.Call} {stmt : Stmt V} {k : Except V.Err stmt.Ans → Code V M.Out}
      (thread : s.pool.threads[i]? = some ⟨c, some (.call stmt k)⟩) :
      Stepped s (.act (.crash i))
        ⟨⟨s.pool.shared.abort i, s.pool.threads.set i ⟨c, none⟩⟩, s.entries⟩
  | ticked (d : Nat) :
      Stepped s (.act (.tick d)) ⟨{ s.pool with shared := { s.pool.shared with
        world := s.pool.world.setEnv (V.tick d s.pool.world.env) } }, s.entries⟩

theorem stepped (h : J.step s e = some s') : Stepped s e s' := by
  cases e with
  | call c =>
    cases h
    exact .called c
  | act a =>
    cases a with
    | run i ch =>
      obtain ⟨p, hp, rfl⟩ := Option.map_eq_some_iff.mp h
      obtain ⟨c, stmt, k, r, σ, ht, hexec, rfl⟩ := Pool.run_cases hp
      have henter : s.enter i ch = Function.update s.entries i
          (J.after (s.entries i) s.pool.world stmt r) := by
        simp only [State.enter, ht, hexec]
      rw [henter]
      exact .ran ht hexec
    | crash i =>
      obtain ⟨p, hp, rfl⟩ := Option.map_eq_some_iff.mp h
      obtain ⟨c, stmt, k, ht, rfl⟩ := Pool.crash_cases hp
      exact .crashed ht
    | tick d =>
      cases h
      exact .ticked d

theorem Stepped.entry (h : Stepped s e s') (i : Nat) :
    s'.entries i = s.entries i ∨ ∃ (ch : Choice V.Reply) (c : M.Call) (stmt : Stmt V)
      (k : Except V.Err stmt.Ans → Code V M.Out) (r : Except V.Err stmt.Ans),
      e = .act (.run i ch) ∧ s.pool.threads[i]? = some ⟨c, some (.call stmt k)⟩ ∧
        s.pool.shared.exec i c stmt ch = some (r, s'.pool.shared) ∧
          s'.entries i = J.after (s.entries i) s.pool.world stmt r := by
  cases h with
  | @ran j ch c stmt k r σ ht hexec =>
    by_cases hij : i = j
    · subst hij
      exact .inr ⟨ch, c, stmt, k, r, rfl, ht, hexec, Function.update_self _ _ _⟩
    · exact .inl (Function.update_of_ne hij _ _)
  | _ => exact .inl rfl

theorem Stepped.entry_of_ne {i j : Nat} {ch : Choice V.Reply}
    (h : Stepped s (.act (.run i ch)) s') (hj : j ≠ i) : s'.entries j = s.entries j := by
  obtain hsame | ⟨ch', c, stmt, k, r, he, -⟩ := h.entry j
  · exact hsame
  · cases he
    exact absurd rfl hj

theorem Stepped.thread (h : Stepped s e s') {i : Nat} {c : M.Call} {code : Option (Code V M.Out)}
    (ht : s'.pool.threads[i]? = some ⟨c, code⟩) :
    (∃ code', s.pool.threads[i]? = some ⟨c, code'⟩) ∨ s.pool.threads.length ≤ i := by
  have hset : ∀ {j : Nat} {c' : M.Call} {code₀ code' : Option (Code V M.Out)},
      s.pool.threads[j]? = some ⟨c', code₀⟩ →
      (s.pool.threads.set j ⟨c', code'⟩)[i]? = some ⟨c, code⟩ →
      ∃ code', s.pool.threads[i]? = some ⟨c, code'⟩ := by
    intro j c' code₀ code' hj hi
    obtain ⟨rfl, hx⟩ | ⟨-, hi⟩ := thread_set hi
    · cases hx
      exact ⟨code₀, hj⟩
    · exact ⟨code, hi⟩
  cases h with
  | called c' =>
    by_cases hi : i < s.pool.threads.length
    · change (s.pool.threads ++ [_])[i]? = _ at ht
      rw [List.getElem?_append_left hi] at ht
      exact .inl ⟨code, ht⟩
    · exact .inr (Nat.le_of_not_lt hi)
  | ran hj _ => exact .inl (hset hj ht)
  | crashed hj => exact .inl (hset hj ht)
  | ticked d => exact .inl ⟨code, ht⟩

theorem Stepped.stays (h : Stepped s e s') {i : Nat} {c : M.Call} {code : Option (Code V M.Out)}
    (ht : s.pool.threads[i]? = some ⟨c, code⟩) : ∃ code', s'.pool.threads[i]? = some ⟨c, code'⟩ := by
  have hi := (List.getElem?_eq_some_iff.mp ht).1
  have hset : ∀ {j : Nat} {c' : M.Call} {code₀ code' : Option (Code V M.Out)},
      s.pool.threads[j]? = some ⟨c', code₀⟩ →
      ∃ code'', (s.pool.threads.set j ⟨c', code'⟩)[i]? = some ⟨c, code''⟩ := by
    intro j c' code₀ code' hj
    by_cases hij : j = i
    · subst hij
      obtain ⟨rfl, -⟩ := Thread.mk.inj (Option.some.inj (hj.symm.trans ht))
      exact ⟨code', List.getElem?_set_self hi⟩
    · exact ⟨code, (List.getElem?_set_ne hij).trans ht⟩
  cases h with
  | called c' =>
    refine ⟨code, ?_⟩
    change (s.pool.threads ++ [_])[i]? = _
    rw [List.getElem?_append_left hi]
    exact ht
  | ran hj _ => exact hset hj
  | crashed hj => exact hset hj
  | ticked d => exact ⟨code, ht⟩

/-- The call takes no further step. -/
def State.Over (s : J.State) (i : Nat) : Prop :=
  ∀ c stmt k, s.pool.threads[i]? ≠ some ⟨c, some (.call stmt k)⟩

theorem Stepped.over (h : Stepped s e s') {i : Nat} (hi : i < s.pool.threads.length)
    (ho : s.Over i) : s'.Over i := by
  have hset : ∀ {j : Nat} {x : Thread M} {c : M.Call} {stmt : Stmt V}
      {k : Except V.Err stmt.Ans → Code V M.Out},
      s.pool.threads[j]? = some ⟨c, some (.call stmt k)⟩ →
      ∀ c' stmt' k', (s.pool.threads.set j x)[i]? ≠ some ⟨c', some (.call stmt' k')⟩ := by
    intro j x c stmt k hj c' stmt' k' ht
    obtain ⟨rfl, -⟩ | ⟨-, ht⟩ := thread_set ht
    · exact ho _ _ _ hj
    · exact ho _ _ _ ht
  cases h with
  | called c =>
    intro c' stmt k ht
    change (s.pool.threads ++ [_])[i]? = _ at ht
    rw [List.getElem?_append_left hi] at ht
    exact ho _ _ _ ht
  | ran hj _ => exact hset hj
  | crashed hj => exact hset hj
  | ticked d => exact ho

theorem step_pool (h : J.step s e = some s') : s.pool.take e = some s'.pool := by
  cases e with
  | call c =>
    cases h
    rfl
  | act a =>
    cases a with
    | run i ch =>
      obtain ⟨p, hp, rfl⟩ := Option.map_eq_some_iff.mp h
      exact hp
    | crash i =>
      obtain ⟨p, hp, rfl⟩ := Option.map_eq_some_iff.mp h
      exact hp
    | tick d =>
      cases h
      rfl

theorem reachable {S : Scope M} {ok : J.State → Event M → Prop} {s₀ : J.State}
    (hcall : ∀ s c, ok s (.call c) → S.start c s.pool.world)
    (hact : ∀ s a, ok s (.act a) → S.Permits s.pool a) (h : System.Run J.system ok s₀ s) :
    Reachable S s₀.pool s.pool := by
  have hkeep : ∀ (q : J.State) (e : Event M) (q' : J.State), Reachable S s₀.pool q.pool → ok q e →
      J.step q e = some q' → Reachable S s₀.pool q'.pool := by
    intro q e q' hq hok hstep
    have hpool := step_pool hstep
    cases e with
    | call c =>
      rw [← Option.some.inj hpool]
      exact hq.spawn (hcall q c hok)
    | act a => exact hq.act (hact q a hok) hpool
  exact h.invariant Reachable.start fun q e q' _ => hkeep q e q'

def Mine (i : Nat) : Event M → Prop
  | .act (.run j _) | .act (.crash j) => j = i
  | _ => False

theorem Stepped.txs (h : Stepped s e s') (hc : Coherent s.pool.shared) {i : Nat} (he : ¬ Mine i e)
    {n : Nat} {t : Tx V} (ht : s.pool.shared.txs n = some t) (ho : t.owner = i) :
    s'.pool.shared.txs n = some t := by
  cases h with
  | called c => exact ht
  | ran _ hexec =>
    exact (Shared.exec_effect hexec).foreign hc n t ht (by rw [ho]; exact Ne.symm he)
  | @crashed j _ _ _ _ =>
    exact foreign_abort s.pool.shared j n t ht (by rw [ho]; exact Ne.symm he)
  | ticked d => exact ht

section Noted

variable {L : Nat → M.Call → Ledger V G}
  {means : Nat → M.Call → G → J.Entry → Shared V M.Call → Prop}
  {Q : M.Call → M.Out → G → Prop}

/-- Calls that have not arrived have blank records. The others follow their ledgers, and
their notes are true of the records and the state. -/
structure Noted (L : Nat → M.Call → Ledger V G)
    (means : Nat → M.Call → G → J.Entry → Shared V M.Call → Prop) (Q : M.Call → M.Out → G → Prop)
    (s : J.State) : Prop where
  blank : ∀ i, s.pool.threads.length ≤ i → s.entries i = J.blank
  notes : ∀ (i : Nat) c code, s.pool.threads[i]? = some ⟨c, some code⟩ →
    ∃ g, means i c g (s.entries i) s.pool.shared ∧ Follows (L i c) (Q c) (fun _ _ => True) code g

theorem noted_start {p : Pool M} (hp : p.threads = []) : Noted L means Q (J.start p) where
  blank _ _ := rfl
  notes i c code ht := by
    change p.threads[i]? = _ at ht
    rw [hp] at ht
    cases ht

theorem Noted.step (h : Noted L means Q s) (hs : Stepped s e s')
    (hcall : ∀ c, e = .call c → ∃ g, means s.pool.threads.length c g J.blank s.pool.shared ∧
      Follows (L s.pool.threads.length c) (Q c) (fun _ _ => True) (M.body c) g)
    (hown : ∀ i ch c stmt k r σ g, e = .act (.run i ch) →
      s.pool.threads[i]? = some ⟨c, some (.call stmt k)⟩ →
      s.pool.shared.exec i c stmt ch = some (r, σ) → means i c g (s.entries i) s.pool.shared →
      (L i c).may g stmt → (L i c).can stmt r ∧
        means i c ((L i c).after g stmt r) (J.after (s.entries i) s.pool.world stmt r) σ)
    (hothers : ∀ i c g, ¬ Mine i e → means i c g (s.entries i) s.pool.shared →
      means i c g (s.entries i) s'.pool.shared) : Noted L means Q s' := by
  cases hs with
  | called c =>
    refine ⟨fun i hi => h.blank i ?_, fun i c' code ht => ?_⟩
    · refine Nat.le_trans ?_ hi
      simp [Pool.spawn]
    · change (s.pool.threads ++ [_])[i]? = _ at ht
      rw [List.getElem?_append] at ht
      split at ht
      · obtain ⟨g, hg, hcode⟩ := h.notes i c' code ht
        exact ⟨g, hothers i c' g id hg, hcode⟩
      · next hlt =>
        obtain ⟨hi, hx⟩ := List.getElem?_eq_some_iff.mp ht
        obtain rfl : i = s.pool.threads.length := by
          simp at hi
          omega
        simp only [List.getElem_singleton, Thread.mk.injEq, Option.some.injEq] at hx
        obtain ⟨rfl, rfl⟩ := hx
        obtain ⟨g, hg, hcode⟩ := hcall c rfl
        rw [← h.blank _ (Nat.le_refl _)] at hg
        exact ⟨g, hothers _ c g id hg, hcode⟩
  | @ran i ch c stmt k r σ ht hexec =>
    have hi : i < s.pool.threads.length := (List.getElem?_eq_some_iff.mp ht).1
    refine ⟨fun j hj => ?_, fun j c' code hj => ?_⟩
    · change (s.pool.threads.set i _).length ≤ j at hj
      rw [List.length_set] at hj
      have hne : j ≠ i := by omega
      exact (Function.update_of_ne hne _ _).trans (h.blank j hj)
    · obtain ⟨g, hg, hmay, hk⟩ := h.notes i c _ ht
      obtain ⟨hcan, hafter⟩ := hown i ch c stmt k r σ g rfl ht hexec hg hmay
      obtain ⟨rfl, hx⟩ | ⟨hij, hj⟩ := thread_set hj
      · cases hx
        refine ⟨_, ?_, hk r hcan⟩
        change means _ _ _ (Function.update s.entries _ _ _) σ
        rw [Function.update_self]
        exact hafter
      · obtain ⟨g', hg', hcode⟩ := h.notes j c' code hj
        have hkept := hothers j c' g' hij hg'
        refine ⟨g', ?_, hcode⟩
        change means _ _ _ (Function.update s.entries _ _ _) σ
        rw [Function.update_of_ne (Ne.symm hij)]
        exact hkept
  | @crashed i c stmt k ht =>
    refine ⟨fun j hj => h.blank j ?_, fun j c' code hj => ?_⟩
    · change (s.pool.threads.set i _).length ≤ j at hj
      rwa [List.length_set] at hj
    · obtain ⟨-, hx⟩ | ⟨hij, hj⟩ := thread_set hj
      · cases hx
      · obtain ⟨g, hg, hcode⟩ := h.notes j c' code hj
        exact ⟨g, hothers j c' g hij hg, hcode⟩
  | ticked d =>
    refine ⟨h.blank, fun i c code ht => ?_⟩
    obtain ⟨g, hg, hcode⟩ := h.notes i c code ht
    exact ⟨g, hothers i c g id hg, hcode⟩

end Noted

end Journal

end RailwayBooking.Concurrency
