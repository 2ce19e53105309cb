import RailwayBooking.Concurrency.Ledger

namespace RailwayBooking.Concurrency

/-- How the statements of a service are statements of a larger one, and how the answers and
errors of the larger one are read. -/
structure Extension (V W : Service) where
  site : V.Site → W.Site
  sql : V.Sql → W.Sql
  aux : V.Aux → W.Aux
  rows : ∀ q, W.Rows (sql q) → V.Rows q
  ans : ∀ a, W.AuxAns (aux a) → V.AuxAns a
  err : W.Err → V.Err
  raise : V.Err → W.Err

namespace Extension

variable {V W : Service} (E : Extension V W)

def stmt : Stmt V → Stmt W
  | .begin site => .begin (E.site site)
  | .commit h => .commit h
  | .rollback h => .rollback h
  | .sql h q => .sql h (E.sql q)
  | .aux a => .aux (E.aux a)

def value : (s : Stmt V) → (E.stmt s).Ans → s.Ans
  | .begin _, h => h
  | .commit _, u => u
  | .rollback _, u => u
  | .sql _ q, a => E.rows q a
  | .aux a, x => E.ans a x

def answer (s : Stmt V) (r : Except W.Err (E.stmt s).Ans) : Except V.Err s.Ans :=
  match r with
  | .ok a => .ok (E.value s a)
  | .error e => .error (E.err e)

variable {α β G : Type}

/-- Code of the service, run as code of the larger one. -/
def lift : Code V α → Code W α
  | .ret a => .ret a
  | .raise e => .raise (E.raise e)
  | .call s k => .call (E.stmt s) (fun r => lift (k (E.answer s r)))

theorem lift_bind (p : Code V α) (f : α → Code V β) :
    E.lift (p >>= f) = E.lift p >>= fun a => E.lift (f a) := by
  induction p with
  | ret a => rfl
  | raise e => rfl
  | call s k ih =>
    change Program.call _ _ = Program.call _ _
    congr
    funext r
    exact ih (E.answer s r)

variable {L : Ledger W G} {g : G} {Q : α → G → Prop} {X : W.Err → G → Prop}

theorem follows_lift_issue {s : Stmt V} {Q : s.Ans → G → Prop} (hmay : L.may g (E.stmt s))
    (hok : ∀ a, L.can (E.stmt s) (.ok a) → Q (E.value s a) (L.after g (E.stmt s) (.ok a)))
    (herr : ∀ e, L.can (E.stmt s) (.error e) →
      X (E.raise (E.err e)) (L.after g (E.stmt s) (.error e))) :
    Follows L Q X (E.lift (Program.issue (L := V.sig) s)) g := by
  refine ⟨hmay, fun r hr => ?_⟩
  cases r with
  | ok a => exact hok a hr
  | error e => exact herr e hr

end Extension

end RailwayBooking.Concurrency
