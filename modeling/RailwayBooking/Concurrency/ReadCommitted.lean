import Mathlib.Data.List.Basic
import Mathlib.Logic.Function.Basic
import RailwayBooking.Concurrency.Program

namespace RailwayBooking.Concurrency

theorem filter_eq_singleton {α β : Type} [DecidableEq β] {f : α → β} {xs : List α}
    (hn : (xs.map f).Nodup) {x : α} (hx : x ∈ xs) : xs.filter (fun y => f y = f x) = [x] := by
  induction xs with
  | nil => cases hx
  | cons y ys ih =>
    obtain ⟨hy, hys⟩ := List.nodup_cons.mp hn
    obtain rfl | hx := List.mem_cons.mp hx
    · have hrest : ys.filter (fun y => f y = f x) = [] := by
        apply List.filter_eq_nil_iff.mpr
        intro z hz he
        exact hy (List.mem_map.mpr ⟨z, hz, of_decide_eq_true he⟩)
      rw [List.filter_cons_of_pos (by simp), hrest]
    · have hne : ¬ f y = f x := fun he => hy (he ▸ List.mem_map_of_mem hx)
      rw [List.filter_cons_of_neg (by simpa using hne), ih hys hx]

theorem find?_update {α β : Type} [DecidableEq β] (key : α → β) (f : α → α)
    (hf : ∀ a, key (f a) = key a) (as : List α) (k : β) :
    (as.map f).find? (fun a => key a = k) = (as.find? (fun a => key a = k)).map f := by
  rw [List.find?_map]
  congr 2
  funext a
  simp [Function.comp, hf]

/-- What the scheduler decides about a statement: it succeeds, the connection
breaks before it takes effect or before its answer arrives, or a party outside
the model answers. -/
inductive Choice (R : Type)
  | ok
  | fault
  | lost
  | reply (r : R)

/-- The answer to a statement that has taken effect. -/
def Choice.answer {R E α : Type} (fault : E) (a : α) : Choice R → Except E α
  | .lost => .error fault
  | _ => .ok a

/-- A service: the tables of its database with its SQL statements, and an
environment (clock, caches, remote parties) reached by auxiliary operations.
A statement reads one snapshot and yields its answer, the row writes it makes
and the rows it locks beyond those it writes. -/
structure Service where
  Db : Type
  Sql : Type
  Rows : Sql → Type
  Write : Type
  Key : Type
  Site : Type
  Aux : Type
  AuxAns : Aux → Type
  Env : Type
  Err : Type
  Reply : Type
  fault : Err
  auto : Site
  run : (q : Sql) → Db → Except Err (Rows q × List Write × List Key)
  apply : Write → Db → Db
  keys : Write → List Key
  ask : Env → Nat → (a : Aux) → Choice Reply → Option (Except Err (AuxAns a) × Env)
  tick : Nat → Env → Env
  [decKey : DecidableEq Key]

attribute [instance] Service.decKey

/-- `tx` handles are numbers; a statement without one commits by itself. -/
inductive Stmt (V : Service) : Type
  | begin (site : V.Site)
  | commit (h : Nat)
  | rollback (h : Nat)
  | sql (h : Option Nat) (q : V.Sql)
  | aux (a : V.Aux)

namespace Stmt

@[reducible] def Ans {V : Service} : Stmt V → Type
  | .begin _ => Nat
  | .commit _ => Unit
  | .rollback _ => Unit
  | .sql _ q => V.Rows q
  | .aux a => V.AuxAns a

end Stmt

@[reducible] def Service.sig (V : Service) : Signature := ⟨Stmt V, Stmt.Ans, V.Err⟩

abbrev Code (V : Service) (α : Type) := Program V.sig α

/-- An open transaction: the call that owns it, the place in the source that
opened it, the statements answered so far, its uncommitted writes and the row
locks it holds until it ends. -/
structure Tx (V : Service) where
  owner : Nat
  site : V.Site
  stmts : List (Σ q, V.Rows q)
  writes : List V.Write
  locks : List V.Key

namespace Tx

variable {V : Service}

def start (i : Nat) (site : V.Site) : Tx V := ⟨i, site, [], [], []⟩

def rowKeys (V : Service) (ws : List V.Write) (ks : List V.Key) : List V.Key :=
  ws.flatMap V.keys ++ ks

def record (t : Tx V) (q : V.Sql) (a : V.Rows q) (ws : List V.Write) (ks : List V.Key) : Tx V :=
  { t with
    stmts := t.stmts ++ [⟨q, a⟩]
    writes := t.writes ++ ws
    locks := t.locks ++ rowKeys V ws ks }

/-- The transaction issued `q` and was answered `a`. -/
def Answered (t : Tx V) (q : V.Sql) (a : V.Rows q) : Prop :=
  (⟨q, a⟩ : Σ q, V.Rows q) ∈ t.stmts

def Covered (t : Tx V) : Prop := ∀ x ∈ t.writes, ∀ k ∈ V.keys x, k ∈ t.locks

/-- A statement sees the committed tables under the writes of its own
transaction. -/
def view (t : Tx V) (d : V.Db) : V.Db := t.writes.foldl (fun d x => V.apply x d) d

section Record

variable (t : Tx V) (q : V.Sql) (a : V.Rows q) (ws : List V.Write) (ks : List V.Key)

@[simp] theorem record_owner : (t.record q a ws ks).owner = t.owner := rfl

@[simp] theorem record_site : (t.record q a ws ks).site = t.site := rfl

@[simp] theorem record_writes : (t.record q a ws ks).writes = t.writes ++ ws := rfl

@[simp] theorem record_locks : (t.record q a ws ks).locks = t.locks ++ rowKeys V ws ks := rfl

theorem answered_record : (t.record q a ws ks).Answered q a :=
  List.mem_append_right _ List.mem_cons_self

variable {t} in
theorem Answered.record {q' : V.Sql} {a' : V.Rows q'} (h : t.Answered q' a') :
    (t.record q a ws ks).Answered q' a' :=
  List.mem_append_left _ h

theorem not_answered_start (i : Nat) (site : V.Site) : ¬ (start i site).Answered q a :=
  List.not_mem_nil

variable {q} in
theorem not_answered_record {q' : V.Sql} {a' : V.Rows q'} (h : ¬ t.Answered q' a')
    (hne : (⟨q', a'⟩ : Σ q, V.Rows q) ≠ ⟨q, a⟩) : ¬ (t.record q a ws ks).Answered q' a' := by
  intro hm
  obtain hm | hm := List.mem_append.mp hm
  · exact h hm
  · exact hne (List.mem_singleton.mp hm)

end Record

theorem covered_start (i : Nat) (site : V.Site) : (start (V := V) i site).Covered := by
  simp [Covered, start]

theorem Covered.untouched {t : Tx V} (h : t.Covered) {ks : List V.Key}
    (hd : ∀ k ∈ t.locks, k ∉ ks) {k : V.Key} (hk : k ∈ ks) : ∀ x ∈ t.writes, k ∉ V.keys x :=
  fun x hx hkey => hd k (h x hx k hkey) hk

theorem covered_record {t : Tx V} (h : t.Covered) (q : V.Sql) (a : V.Rows q) (ws : List V.Write)
    (ks : List V.Key) : (t.record q a ws ks).Covered := by
  intro x hx k hk
  obtain hx | hx := List.mem_append.mp hx
  · exact List.mem_append_left _ (h x hx k hk)
  · apply List.mem_append_right
    apply List.mem_append_left
    exact List.mem_flatMap.mpr ⟨x, hx, hk⟩

end Tx

/-- The committed state with the log of the transactions that produced it. -/
structure World (V : Service) (Call : Type) where
  db : V.Db
  log : List (Call × Tx V)
  env : V.Env

namespace World

variable {V : Service} {Call : Type}

def commit (w : World V Call) (c : Call) (t : Tx V) : World V Call :=
  { w with db := t.view w.db, log := w.log ++ [(c, t)] }

def setEnv (w : World V Call) (e : V.Env) : World V Call := { w with env := e }

/-- The tables after the transactions of a log, one after another. -/
def replay (d : V.Db) (log : List (Call × Tx V)) : V.Db :=
  log.foldl (fun d x => x.2.view d) d

end World

structure Shared (V : Service) (Call : Type) where
  world : World V Call
  txs : Nat → Option (Tx V)
  locked : V.Key → Option Nat
  next : Nat

namespace Shared

variable {V : Service} {Call : Type}

/-- No other transaction holds one of the rows. -/
def free (σ : Shared V Call) (h : Option Nat) (ks : List V.Key) : Bool :=
  ks.all (fun k => σ.locked k == none || (h.isSome && σ.locked k == h))

def close (σ : Shared V Call) (h : Nat) : Shared V Call :=
  { σ with
    txs := Function.update σ.txs h none
    locked := fun k => if σ.locked k = some h then none else σ.locked k }

def put (σ : Shared V Call) (h : Nat) (t : Tx V) : Shared V Call :=
  { σ with
    txs := Function.update σ.txs h (some t)
    locked := fun k => if k ∈ t.locks then some h else σ.locked k }

def settle (σ : Shared V Call) (c : Call) (t : Tx V) : Shared V Call :=
  { σ with world := σ.world.commit c t }

def abort (σ : Shared V Call) (i : Nat) : Shared V Call :=
  { σ with
    txs := fun h => (σ.txs h).filter (fun t => t.owner != i)
    locked := fun k => (σ.locked k).filter (fun h => ((σ.txs h).filter (fun t => t.owner != i)).isSome) }

/-- The committed form of a statement issued outside a transaction. -/
def single (V : Service) (i : Nat) (q : V.Sql) (a : V.Rows q) (ws : List V.Write)
    (ks : List V.Key) : Tx V :=
  (Tx.start i V.auto).record q a ws ks

theorem covered_single (i : Nat) (q : V.Sql) (a : V.Rows q) (ws : List V.Write)
    (ks : List V.Key) : (single V i q a ws ks).Covered :=
  Tx.covered_record (Tx.covered_start i V.auto) q a ws ks

/-- The transaction that a statement of thread `i` commits when it succeeds. -/
inductive Settles (σ : Shared V Call) (i : Nat) : Stmt V → Tx V → Prop
  | commit {h : Nat} {t : Tx V} (tx : σ.txs h = some t) (owner : t.owner = i) :
      Settles σ i (.commit h) t
  | single {q : V.Sql} {a : V.Rows q} {ws : List V.Write} {ks : List V.Key}
      (run : V.run q σ.world.db = .ok (a, ws, ks)) (writes : ws ≠ []) :
      Settles σ i (.sql none q) (single V i q a ws ks)

/-- One statement of call `c`, running as thread `i`. A statement that meets a
row lock of another transaction waits: it has no result yet. -/
def exec (σ : Shared V Call) (i : Nat) (c : Call) :
    (s : Stmt V) → Choice V.Reply → Option (Except V.Err s.Ans × Shared V Call)
  | .begin _, .fault | .begin _, .lost => some (.error V.fault, σ)
  | .begin site, _ =>
      some (.ok σ.next, { σ.put σ.next (Tx.start i site) with next := σ.next + 1 })
  | .commit h, ch =>
      match σ.txs h with
      | none => none
      | some t =>
        if t.owner = i then
          match ch with
          | .fault => some (.error V.fault, σ.close h)
          | ch => some (ch.answer V.fault (), (σ.close h).settle c t)
        else none
  | .rollback h, _ =>
      match σ.txs h with
      | none => none
      | some t => if t.owner = i then some (.ok (), σ.close h) else none
  | .sql _ _, .fault | .sql (some _) _, .lost => some (.error V.fault, σ)
  | .sql (some h) q, _ =>
      match σ.txs h with
      | none => none
      | some t =>
        if t.owner = i then
          match V.run q (t.view σ.world.db) with
          | .error e => some (.error e, σ)
          | .ok (a, ws, ks) =>
            if σ.free (some h) (Tx.rowKeys V ws ks) then
              some (.ok a, σ.put h (t.record q a ws ks))
            else none
        else none
  | .sql none q, ch =>
      match V.run q σ.world.db with
      | .error e => some (.error e, σ)
      | .ok (a, ws, ks) =>
        if σ.free none (Tx.rowKeys V ws ks) then
          some (ch.answer V.fault a, if ws.isEmpty then σ else σ.settle c (single V i q a ws ks))
        else none
  | .aux a, ch =>
      (V.ask σ.world.env i a ch).map
        (fun p => (p.1, { σ with world := σ.world.setEnv p.2 }))

end Shared

/-- The calls a service answers and the code of each. -/
structure Machine (V : Service) where
  Call : Type
  Out : Type
  body : Call → Code V Out

/-- A call in progress; a crashed call has no code left. -/
structure Thread {V : Service} (M : Machine V) where
  call : M.Call
  code : Option (Code V M.Out)

structure Pool {V : Service} (M : Machine V) where
  shared : Shared V M.Call
  threads : List (Thread M)

inductive Action (V : Service) : Type
  | run (i : Nat) (ch : Choice V.Reply)
  | crash (i : Nat)
  | tick (d : Nat)

namespace Pool

variable {V : Service} {M : Machine V}

@[reducible] def world (p : Pool M) : World V M.Call := p.shared.world

def init (d : V.Db) (e : V.Env) : Pool M :=
  ⟨⟨⟨d, [], e⟩, fun _ => none, fun _ => none, 0⟩, []⟩

def spawn (p : Pool M) (c : M.Call) : Pool M :=
  { p with threads := p.threads ++ [⟨c, some (M.body c)⟩] }

def runThread (p : Pool M) (i : Nat) (ch : Choice V.Reply) : Thread M → Option (Pool M)
  | ⟨c, some (.call s k)⟩ =>
      (p.shared.exec i c s ch).map (fun x => ⟨x.2, p.threads.set i ⟨c, some (k x.1)⟩⟩)
  | _ => none

def crashThread (p : Pool M) (i : Nat) : Thread M → Option (Pool M)
  | ⟨c, some (.call _ _)⟩ => some ⟨p.shared.abort i, p.threads.set i ⟨c, none⟩⟩
  | _ => none

def act (p : Pool M) : Action V → Option (Pool M)
  | .run i ch => (p.threads[i]?).bind (p.runThread i ch)
  | .crash i => (p.threads[i]?).bind (p.crashThread i)
  | .tick d =>
      some { p with shared := { p.shared with
        world := p.world.setEnv (V.tick d p.world.env) } }

variable {p p' : Pool M} {i : Nat}

theorem run_cases {ch : Choice V.Reply} (h : p.act (.run i ch) = some p') :
    ∃ c s k r σ, p.threads[i]? = some ⟨c, some (.call s k)⟩ ∧
      p.shared.exec i c s ch = some (r, σ) ∧ p' = ⟨σ, p.threads.set i ⟨c, some (k r)⟩⟩ := by
  obtain ⟨⟨c, code⟩, ht, hrun⟩ := Option.bind_eq_some_iff.mp h
  match code with
  | none => cases hrun
  | some (.ret x) => cases hrun
  | some (.raise x) => cases hrun
  | some (.call s k) =>
    obtain ⟨⟨r, σ⟩, hexec, rfl⟩ := Option.map_eq_some_iff.mp hrun
    exact ⟨c, s, k, r, σ, ht, hexec, rfl⟩

theorem crash_cases (h : p.act (.crash i) = some p') :
    ∃ c s k, p.threads[i]? = some ⟨c, some (.call s k)⟩ ∧
      p' = ⟨p.shared.abort i, p.threads.set i ⟨c, none⟩⟩ := by
  obtain ⟨⟨c, code⟩, ht, hcrash⟩ := Option.bind_eq_some_iff.mp h
  match code with
  | none => cases hcrash
  | some (.ret x) => cases hcrash
  | some (.raise x) => cases hcrash
  | some (.call s k) =>
    cases hcrash
    exact ⟨c, s, k, ht, rfl⟩

end Pool

end RailwayBooking.Concurrency
