import RailwayBooking.Concurrency.Rules
import RailwayBooking.Concurrency.Steps
import RailwayBooking.Concurrency.Transition

namespace RailwayBooking.Concurrency

variable {V : Service} {G : Type} {α β : Type}

/-- What is noted of a call beside its code: the statements it may issue next, the answers
that it can get, and the note after an answer. -/
structure Ledger (V : Service) (G : Type) where
  may : G → Stmt V → Prop
  can : (s : Stmt V) → Except V.Err s.Ans → Prop
  after : G → (s : Stmt V) → Except V.Err s.Ans → G

/-- The code issues only what it may, whatever it is answered. -/
def Follows (L : Ledger V G) (Q : α → G → Prop) (X : V.Err → G → Prop) : Code V α → G → Prop
  | .ret a, g => Q a g
  | .raise e, g => X e g
  | .call s k, g => L.may g s ∧ ∀ r, L.can s r → Follows L Q X (k r) (L.after g s r)

section Rules

variable {L : Ledger V G} {g : G} {Q : β → G → Prop} {X : V.Err → G → Prop}

/-- Code followed by a continuation: the note that the first part leaves is what the
continuation starts from. -/
theorem Follows.handle {Q' : α → G → Prop} {X' : V.Err → G → Prop} {p : Code V α}
    {f : α → Code V β} {f' : V.Err → Code V β} (h : Follows L Q' X' p g)
    (hf : ∀ a g, Q' a g → Follows L Q X (f a) g)
    (hf' : ∀ e g, X' e g → Follows L Q X (f' e) g) : Follows L Q X (p.handle f f') g := by
  induction p generalizing g with
  | ret a => exact hf a g h
  | raise e => exact hf' e g h
  | call s k ih =>
    obtain ⟨hmay, hk⟩ := h
    exact ⟨hmay, fun r hr => ih r (hk r hr)⟩

theorem Follows.mono {Q' : β → G → Prop} {X' : V.Err → G → Prop} {p : Code V β}
    (h : Follows L Q X p g) (hQ : ∀ a g, Q a g → Q' a g) (hX : ∀ e g, X e g → X' e g) :
    Follows L Q' X' p g := by
  induction p generalizing g with
  | ret a => exact hQ a g h
  | raise e => exact hX e g h
  | call s k ih =>
    obtain ⟨hmay, hk⟩ := h
    exact ⟨hmay, fun r hr => ih r (hk r hr)⟩

theorem Follows.bind {Q' : α → G → Prop} {p : Code V α} {f : α → Code V β}
    (h : Follows L Q' X p g) (hf : ∀ a g, Q' a g → Follows L Q X (f a) g) :
    Follows L Q X (p >>= f) g :=
  h.handle hf fun _ _ hx => hx

theorem Follows.attempt {X' : V.Err → G → Prop} {p : Code V β} {f : V.Err → Code V β}
    (h : Follows L Q X' p g) (hf : ∀ e g, X' e g → Follows L Q X (f e) g) :
    Follows L Q X (p.attempt f) g :=
  h.handle (fun _ _ hq => hq) hf

theorem follows_seq {s : Stmt V} {f : s.Ans → Code V β} (hmay : L.may g s)
    (hok : ∀ a, L.can s (.ok a) → Follows L Q X (f a) (L.after g s (.ok a)))
    (herr : ∀ e, L.can s (.error e) → X e (L.after g s (.error e))) :
    Follows L Q X (Program.issue (L := V.sig) s >>= f) g := by
  refine ⟨hmay, fun r hr => ?_⟩
  cases r with
  | ok a => exact hok a hr
  | error e => exact herr e hr

theorem follows_issue {s : Stmt V} {Q : s.Ans → G → Prop} (hmay : L.may g s)
    (hok : ∀ a, L.can s (.ok a) → Q a (L.after g s (.ok a)))
    (herr : ∀ e, L.can s (.error e) → X e (L.after g s (.error e))) :
    Follows L Q X (Program.issue (L := V.sig) s) g := by
  refine ⟨hmay, fun r hr => ?_⟩
  cases r with
  | ok a => exact hok a hr
  | error e => exact herr e hr

def Still (L : Ledger V G) (g : G) (p : Code V α) : Prop :=
  Follows L (fun _ g' => g' = g) (fun _ g' => g' = g) p g

theorem Still.bind {p : Code V α} {f : α → Code V β} (h : Still L g p) (hX : ∀ e, X e g)
    (hf : ∀ a, Follows L Q X (f a) g) : Follows L Q X (p >>= f) g := by
  refine h.handle ?_ ?_
  · rintro a _ rfl
    exact hf a
  · rintro e _ rfl
    exact hX e

theorem Still.attempt {p : Code V α} {f : V.Err → Code V α} (h : Still L g p)
    (hf : ∀ e, Still L g (f e)) : Still L g (p.attempt f) := by
  refine h.handle ?_ ?_
  · rintro a _ rfl
    exact rfl
  · rintro e _ rfl
    exact hf e

theorem still_issue {s : Stmt V} (hmay : L.may g s) (hafter : ∀ r, L.after g s r = g) :
    Still L g (Program.issue (L := V.sig) s) :=
  follows_issue hmay (fun a _ => hafter (.ok a)) fun e _ => hafter (.error e)

theorem follows_transaction {site : V.Site} {body : Nat → Code V β}
    (hbegin : L.may g (.begin site)) (hfault : ∀ e, X e (L.after g (.begin site) (.error e)))
    (hbody : ∀ h, Follows L
      (fun a g => L.may g (.commit h) ∧ Q a (L.after g (.commit h) (.ok ())) ∧
        ∀ e, X e (L.after g (.commit h) (.error e)))
      (fun e g => L.may g (.rollback h) ∧ X e (L.after g (.rollback h) (.ok ())) ∧
        ∀ e', X e' (L.after g (.rollback h) (.error e')))
      (body h) (L.after g (.begin site) (.ok h))) :
    Follows L Q X (Code.transaction site body) g := by
  refine follows_seq hbegin (fun h _ => ?_) fun e _ => hfault e
  refine (hbody h).handle ?_ ?_
  · rintro a g' ⟨hmay, hok, herr⟩
    exact follows_seq hmay (fun _ _ => hok) fun e _ => herr e
  · rintro e g' ⟨hmay, hok, herr⟩
    exact follows_seq hmay (fun _ _ => hok) fun e' _ => herr e'

end Rules

section Pools

variable {M : Machine V}

/-- A call arrives, or an action is taken. -/
inductive Event (M : Machine V) : Type
  | call (c : M.Call)
  | act (a : Action V)

/-- A thread takes `n` steps, and none of them fails. -/
def Machine.burst (M : Machine V) (i n : Nat) : List (Event M) :=
  List.replicate n (.act (.run i .ok))

def Pool.take (p : Pool M) : Event M → Option (Pool M)
  | .call c => some (p.spawn c)
  | .act a => p.act a

@[reducible] def pools (M : Machine V) : System := ⟨Pool M, Event M, Pool.take⟩

theorem reachable_run {S : Scope M} {ok : Pool M → Event M → Prop} {p₀ p : Pool M}
    (hcall : ∀ p c, ok p (.call c) → S.start c p.world) (hact : ∀ p a, ok p (.act a) → S.Permits p a)
    (h : System.Run (pools M) ok p₀ p) : Reachable S p₀ p := by
  refine h.invariant .start ?_
  intro q x q' _ hq hok hstep
  cases x with
  | call c =>
    cases hstep
    exact hq.spawn (hcall q c hok)
  | act a => exact hq.act (hact q a hok) hstep

variable (L : Nat → Ledger V G) (means : Nat → G → Shared V M.Call → Prop) (done : G → Prop)

def Pool.Noted (p : Pool M) : Prop :=
  ∀ (i : Nat) c code, p.threads[i]? = some ⟨c, some code⟩ →
    ∃ g, means i g p.shared ∧ Follows (L i) (fun _ => done) (fun _ => done) code g

variable {L means done} {p p' : Pool M}

theorem Pool.Noted.spawn (h : p.Noted L means done) {c : M.Call} {g : G}
    (hg : means p.threads.length g p.shared)
    (hc : Follows (L p.threads.length) (fun _ => done) (fun _ => done) (M.body c) g) :
    (p.spawn c).Noted L means done := by
  intro i c' code ht
  rw [Pool.spawn, List.getElem?_append] at ht
  split at ht
  · exact h i c' code ht
  · next hlt =>
    obtain ⟨hi, hx⟩ := List.getElem?_eq_some_iff.mp ht
    obtain rfl : i = p.threads.length := by
      simp at hi
      omega
    simp only [List.getElem_singleton, Thread.mk.injEq, Option.some.injEq] at hx
    obtain ⟨rfl, rfl⟩ := hx
    exact ⟨g, hg, hc⟩

theorem Pool.Noted.run (h : p.Noted L means done) {i : Nat} {ch : Choice V.Reply} {c : M.Call}
    {s : Stmt V} {k : Except V.Err s.Ans → Code V M.Out} {r : Except V.Err s.Ans}
    {σ : Shared V M.Call} (ht : p.threads[i]? = some ⟨c, some (.call s k)⟩)
    (hstep : ∀ g, means i g p.shared → (L i).may g s → p.shared.exec i c s ch = some (r, σ) →
      (L i).can s r ∧ means i ((L i).after g s r) σ ∧
        ∀ j g', j ≠ i → means j g' p.shared → means j g' σ)
    (he : p.shared.exec i c s ch = some (r, σ)) :
    Pool.Noted L means done ⟨σ, p.threads.set i ⟨c, some (k r)⟩⟩ := by
  obtain ⟨g, hg, hmay, hk⟩ := h i c _ ht
  obtain ⟨hcan, hafter, hothers⟩ := hstep g hg hmay he
  intro j c' code hj
  obtain ⟨rfl, hx⟩ | ⟨hij, hj⟩ := thread_set hj
  · cases hx
    exact ⟨_, hafter, hk r hcan⟩
  · obtain ⟨g', hg', hcode⟩ := h j c' code hj
    exact ⟨g', hothers j g' (Ne.symm hij) hg', hcode⟩

theorem Pool.Noted.other (h : p.Noted L means done)
    (hthreads : ∀ (j : Nat) c code, p'.threads[j]? = some ⟨c, some code⟩ →
      p.threads[j]? = some ⟨c, some code⟩ ∧ ∀ g, means j g p.shared → means j g p'.shared) :
    p'.Noted L means done := by
  intro j c code hj
  obtain ⟨ht, hmeans⟩ := hthreads j c code hj
  obtain ⟨g, hg, hcode⟩ := h j c code ht
  exact ⟨g, hmeans g hg, hcode⟩

end Pools

end RailwayBooking.Concurrency
