import Mathlib.Logic.Basic

namespace RailwayBooking.Concurrency

/-- The atomic statements a program may issue, the type of the answer to each,
and the errors a statement or the program itself may raise. -/
structure Signature where
  Stmt : Type
  Ans : Stmt → Type
  Err : Type

/-- A program is the tree of its statements. Between two statements it holds
nothing but the answers it has received. -/
inductive Program (L : Signature) (α : Type) : Type
  | ret (a : α)
  | raise (e : L.Err)
  | call (s : L.Stmt) (k : Except L.Err (L.Ans s) → Program L α)

namespace Program

variable {L : Signature} {α β γ : Type}

/-- Continue after normal return with `f` and after an error with `g`. -/
def handle : Program L α → (α → Program L β) → (L.Err → Program L β) → Program L β
  | .ret a, f, _ => f a
  | .raise e, _, g => g e
  | .call s k, f, g => .call s (fun r => handle (k r) f g)

instance : Monad (Program L) where
  pure := .ret
  bind p f := p.handle f .raise

def issue (s : L.Stmt) : Program L (L.Ans s) :=
  .call s (fun
    | .ok a => .ret a
    | .error e => .raise e)

/-- `try p catch c`. -/
def attempt (p : Program L α) (c : L.Err → Program L α) : Program L α :=
  p.handle .ret c

/-- `try p finally f`. An error of `f` replaces the outcome of `p`. -/
def ensure (p : Program L α) (f : Program L Unit) : Program L α :=
  p.handle (fun a => f.handle (fun _ => .ret a) .raise)
    (fun e => f.handle (fun _ => .raise e) .raise)

def each (xs : List β) (f : β → Program L Unit) : Program L Unit :=
  match xs with
  | [] => .ret ()
  | x :: xs => (f x).handle (fun _ => each xs f) .raise

/-- Run a program alone: `answer` answers each statement and moves the state on. -/
def eval {σ : Type} (answer : (s : L.Stmt) → σ → Except L.Err (L.Ans s) × σ) :
    Program L α → σ → Except L.Err α × σ
  | .ret a, x => (.ok a, x)
  | .raise e, x => (.error e, x)
  | .call s k, x => (k (answer s x).1).eval answer (answer s x).2

theorem bind_eq (p : Program L α) (f : α → Program L β) : p >>= f = p.handle f .raise := rfl

theorem handle_assoc (p : Program L α) (f : α → Program L β) (g : L.Err → Program L β)
    (f' : β → Program L γ) (g' : L.Err → Program L γ) :
    (p.handle f g).handle f' g' =
      p.handle (fun a => (f a).handle f' g') (fun e => (g e).handle f' g') := by
  induction p with
  | ret a => rfl
  | raise e => rfl
  | call s k ih =>
    simp only [handle]
    congr
    funext r
    exact ih r

end Program

end RailwayBooking.Concurrency
