import RailwayBooking.Concurrency.Reachable

namespace RailwayBooking.Concurrency

variable {V : Service} {M : Machine V}

/-- An entry of a schedule: a call arrives, one action is taken, or a thread runs
as far as it gets within `n` statements. -/
inductive Move (M : Machine V) : Type
  | call (c : M.Call)
  | step (a : Action V)
  | burst (i : Nat) (n : Nat)

def Move.started : Move M → List M.Call
  | .call c => [c]
  | _ => []

/-- The calls arrive one after the other, and each runs as far as it gets within `n`
statements. -/
def inTurn (n : Nat) (cs : List M.Call) : List (Move M) :=
  cs.zipIdx.flatMap (fun x => [.call x.1, .burst x.2 n])

theorem started_inTurn {n : Nat} {cs : List M.Call} {m : Move M} (hm : m ∈ inTurn n cs) {c : M.Call}
    (hc : c ∈ m.started) : c ∈ cs := by
  obtain ⟨x, hx, hm⟩ := List.mem_flatMap.mp hm
  obtain rfl | hm := List.mem_cons.mp hm
  · rw [List.mem_singleton.mp hc]
    exact List.fst_mem_of_mem_zipIdx hx
  · rw [List.mem_singleton.mp hm] at hc
    cases hc

/-- What a call has returned. -/
def Thread.returned (x : Thread M) : Option M.Out :=
  match x.code with
  | some (.ret a) => some a
  | _ => none

theorem Thread.returned_eq {x : Thread M} {a : M.Out} (h : x.returned = some a) :
    x = ⟨x.call, some (.ret a)⟩ := by
  obtain ⟨c, code⟩ := x
  match code, h with
  | some (.ret b), h =>
    cases h
    rfl

def Thread.broken (x : Thread M) : Bool :=
  match x.code with
  | none | some (.raise _) => true
  | _ => false

/-- The call has returned or raised an error. -/
def Thread.finished (x : Thread M) : Bool :=
  match x.code with
  | some (.ret _) | some (.raise _) => true
  | _ => false

/-- No call is in progress. -/
def Pool.Quiet (p : Pool M) : Prop := ∀ x ∈ p.threads, x.finished = true

theorem WellFormed.post {D : Discipline M} {p : Pool M} (h : WellFormed D p) {i : Nat}
    {x : Thread M} {a : M.Out} (hx : p.threads[i]? = some x) (ha : x.returned = some a) :
    D.post x.call a p.world := by
  rw [Thread.returned_eq ha] at hx
  exact h.returned hx

/-- The call has been made and has returned. -/
def Pool.Handled (p : Pool M) (c : M.Call) : Prop :=
  ∃ x ∈ p.threads, x.call = c ∧ x.returned.isSome = true

def Pool.handles (p : Pool M) (test : M.Call → Bool) : Bool :=
  p.threads.any (fun x => x.returned.isSome && test x.call)

theorem Pool.handled_of_handles {p : Pool M} {test : M.Call → Bool} {c : M.Call}
    (htest : ∀ c', test c' = true → c' = c) (h : p.handles test = true) : p.Handled c := by
  obtain ⟨x, hx, ht⟩ := List.any_eq_true.mp h
  obtain ⟨hret, hcall⟩ := Bool.and_eq_true_iff.mp ht
  exact ⟨x, hx, htest _ hcall, hret⟩

theorem WellFormed.handled {D : Discipline M} {p : Pool M} (h : WellFormed D p) {c : M.Call}
    (hc : p.Handled c) : ∃ a, D.post c a p.world := by
  obtain ⟨x, hx, rfl, hret⟩ := hc
  obtain ⟨i, hi⟩ := List.mem_iff_getElem?.mp hx
  obtain ⟨a, ha⟩ := Option.isSome_iff_exists.mp hret
  exact ⟨a, h.post hi ha⟩

namespace Pool

variable (ok : Pool M → Action V → Bool)

def guarded (p : Pool M) (a : Action V) : Option (Pool M) := if ok p a then p.act a else none

def burst (i : Nat) : Nat → Pool M → Pool M
  | 0, p => p
  | n + 1, p =>
    match p.guarded ok (.run i .ok) with
    | none => p
    | some p' => burst i n p'

def move (p : Pool M) : Move M → Option (Pool M)
  | .call c => some (p.spawn c)
  | .step a => p.guarded ok a
  | .burst i n => some (p.burst ok i n)

def play (p : Pool M) : List (Move M) → Option (Pool M)
  | [] => some p
  | m :: ms => (p.move ok m).bind (fun p' => p'.play ms)

end Pool

section Play

variable {S : Scope M} {ok : Pool M → Action V → Bool} {p₀ p p' : Pool M}

theorem reachable_guarded (hok : ∀ p a, ok p a = true → S.Permits p a) {a : Action V}
    (h : Reachable S p₀ p) (hp : p.guarded ok a = some p') : Reachable S p₀ p' := by
  unfold Pool.guarded at hp
  split at hp
  · next ha => exact h.act (hok p a ha) hp
  · cases hp

theorem reachable_burst (hok : ∀ p a, ok p a = true → S.Permits p a) (i n : Nat)
    (h : Reachable S p₀ p) : Reachable S p₀ (p.burst ok i n) := by
  induction n generalizing p with
  | zero => exact h
  | succ n ih =>
    simp only [Pool.burst]
    split
    · exact h
    · next p' he => exact ih (reachable_guarded hok h he)

theorem reachable_move (hok : ∀ p a, ok p a = true → S.Permits p a) {m : Move M}
    (hm : ∀ c ∈ m.started, ∀ w, S.start c w) (h : Reachable S p₀ p) (hp : p.move ok m = some p') :
    Reachable S p₀ p' := by
  cases m with
  | call c =>
    cases hp
    exact h.spawn (hm c (List.mem_singleton.mpr rfl) _)
  | step a => exact reachable_guarded hok h hp
  | burst i n =>
    cases hp
    exact reachable_burst hok i n h

/-- A schedule that plays through ends in a reachable pool. -/
theorem reachable_play (hok : ∀ p a, ok p a = true → S.Permits p a) {ms : List (Move M)}
    (hm : ∀ m ∈ ms, ∀ c ∈ m.started, ∀ w, S.start c w) (h : Reachable S p₀ p)
    (hp : p.play ok ms = some p') : Reachable S p₀ p' := by
  induction ms generalizing p with
  | nil =>
    cases hp
    exact h
  | cons m ms ih =>
    simp only [Pool.play, Option.bind_eq_some_iff] at hp
    obtain ⟨p₁, h₁, hp⟩ := hp
    exact ih (fun m' hm' => hm m' (List.mem_cons_of_mem _ hm'))
      (reachable_move hok (hm m List.mem_cons_self) h h₁) hp

/-- A schedule that plays through and ends in a pool that passes a test. -/
theorem exists_reachable (S : Scope M) (p₀ : Pool M) (ok : Pool M → Action V → Bool)
    (ms : List (Move M)) (test : Pool M → Bool) (hok : ∀ p a, ok p a = true → S.Permits p a)
    (hm : ∀ m ∈ ms, ∀ c ∈ m.started, ∀ w, S.start c w)
    (h : (p₀.play ok ms).any test = true) : ∃ p, Reachable S p₀ p ∧ test p = true := by
  cases hp : p₀.play ok ms with
  | none =>
    rw [hp] at h
    cases h
  | some p =>
    rw [hp] at h
    exact ⟨p, reachable_play hok hm .start hp, h⟩

theorem exists_reachable_then (S S' : Scope M) (p₀ : Pool M) (ok ok' : Pool M → Action V → Bool)
    (ms ms' : List (Move M)) (test : Pool M → Pool M → Bool)
    (hok : ∀ p a, ok p a = true → S.Permits p a) (hok' : ∀ p a, ok' p a = true → S'.Permits p a)
    (hm : ∀ m ∈ ms, ∀ c ∈ m.started, ∀ w, S.start c w)
    (hm' : ∀ m ∈ ms', ∀ c ∈ m.started, ∀ w, S'.start c w)
    (h : (p₀.play ok ms).any (fun p => (p.play ok' ms').any (test p)) = true) :
    ∃ p p', Reachable S p₀ p ∧ Reachable S' p p' ∧ test p p' = true := by
  obtain ⟨p, hp, h⟩ := exists_reachable S p₀ ok ms _ hok hm h
  obtain ⟨p', hp', h⟩ := exists_reachable S' p ok' ms' _ hok' hm' h
  exact ⟨p, p', hp, hp', h⟩

end Play

/-- The scope of all statements, for calls that satisfy `start`. -/
@[reducible] def Scope.calls (start : M.Call → Prop) : Scope M :=
  ⟨fun c _ => start c, fun _ _ _ _ => True⟩

theorem permits_calls {start : M.Call → Prop} (p : Pool M) (a : Action V) :
    (Scope.calls start).Permits p a := by
  cases a with
  | run i ch => exact fun _ _ _ _ => trivial
  | crash i => trivial
  | tick d => trivial

def guards (test : M.Call → World V M.Call → Stmt V → Bool) (p : Pool M) : Action V → Bool
  | .run i _ =>
    match p.threads[i]? with
    | some ⟨c, some (.call s _)⟩ => test c p.world s
    | _ => true
  | _ => true

theorem permits_guards {test : M.Call → World V M.Call → Stmt V → Bool} {S : Scope M}
    (hS : ∀ c t w s, test c w s = true → S.allow c t w s) (p : Pool M) (a : Action V)
    (h : guards test p a = true) : S.Permits p a := by
  cases a with
  | run i ch =>
    intro c s k hth
    apply hS
    simpa only [guards, hth] using h
  | crash i => trivial
  | tick d => trivial

section Commits

def committing (p : Pool M) (i : Nat) : Option (Tx V) :=
  match p.threads[i]? with
  | some ⟨_, some (.call (.commit h) _)⟩ => p.shared.txs h
  | _ => none

def commitsOnly (test : Tx V → World V M.Call → Bool) (p : Pool M) : Action V → Bool
  | .run i _ => (committing p i).all (fun t => test t p.world)
  | _ => true

theorem permits_commitsOnly {test : Tx V → World V M.Call → Bool} {S : Scope M}
    (hS : ∀ c t w s, (∀ h t', s = .commit h → t = some t' → test t' w = true) → S.allow c t w s)
    (p : Pool M) (a : Action V) (h : commitsOnly test p a = true) : S.Permits p a := by
  cases a with
  | run i ch =>
    intro c s k hth
    apply hS
    rintro h' t' rfl ht
    simp only [Stmt.via, Option.bind_some] at ht
    simpa only [commitsOnly, committing, hth, ht, Option.all_some] using h
  | crash i => trivial
  | tick d => trivial

def guardsCommits (test : M.Call → Tx V → World V M.Call → Bool) (p : Pool M) : Action V → Bool
  | .run i _ =>
    (p.threads[i]?).all (fun x => (committing p i).all (fun t => test x.call t p.world))
  | _ => true

theorem permits_guardsCommits {test : M.Call → Tx V → World V M.Call → Bool} {S : Scope M}
    (hS : ∀ c t w s, (∀ h t', s = .commit h → t = some t' → test c t' w = true) →
      S.allow c t w s)
    (p : Pool M) (a : Action V) (h : guardsCommits test p a = true) : S.Permits p a := by
  cases a with
  | run i ch =>
    intro c s k hth
    apply hS
    rintro h' t' rfl ht
    simp only [Stmt.via, Option.bind_some] at ht
    simpa only [guardsCommits, committing, hth, ht, Option.all_some] using h
  | crash i => trivial
  | tick d => trivial

end Commits

end RailwayBooking.Concurrency
