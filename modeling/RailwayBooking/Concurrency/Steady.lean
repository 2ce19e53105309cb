import RailwayBooking.Concurrency.Rules

namespace RailwayBooking.Concurrency

variable {V : Service} {M : Machine V} {D : Discipline M} {i : Nat} {c : M.Call} {α β : Type}

theorem Ok.aux_allowed {a : V.Aux} {ts : Stack V} {w : World V M.Call}
    {Q : V.AuxAns a → Stack V → World V M.Call → Prop}
    {X : V.Err → Stack V → World V M.Call → Prop} (F : World V M.Call → Prop)
    (hs : Stable D i ts.locks F) (hF : F w)
    (ha : ∀ w', D.inv w' → D.pre c w' → F w' → D.allow c none w' (.aux a) → D.asks c a w' ∧
      ∀ ch r e, V.ask w'.env i a ch = some (r, e) →
        (∀ x, r = .ok x → Q x ts (w'.setEnv e)) ∧ (∀ x, r = .error x → X x ts (w'.setEnv e))) :
    Ok D i c Q X (Code.aux a) ts w := by
  refine ⟨F, hs, hF, fun k hk => (by cases hk), fun w' hi hp hf hal => ?_⟩
  obtain ⟨hasks, hans⟩ := ha w' hi hp hf hal
  refine ⟨hasks, fun ch r e he => ?_⟩
  obtain ⟨hok, herr⟩ := hans ch r e he
  cases r with
  | ok x => exact hok x rfl
  | error x => exact herr x rfl

def Steady (D : Discipline M) (i : Nat) (c : M.Call) (p : Code V α) : Prop :=
  ∀ ts w, Ok D i c (fun _ ts' _ => ts' = ts) (fun _ ts' _ => ts' = ts) p ts w

namespace Steady

theorem pure (a : α) : Steady D i c (.ret a) := fun _ _ => rfl

theorem raise (e : V.Err) : Steady D i c (.raise e : Code V α) := fun _ _ => rfl

theorem handle {p : Code V α} {f : α → Code V β} {g : V.Err → Code V β} (h : Steady D i c p)
    (hf : ∀ a, Steady D i c (f a)) (hg : ∀ e, Steady D i c (g e)) :
    Steady D i c (p.handle f g) := by
  intro ts w
  refine Ok.handle ?_ ?_ (h ts w)
  · rintro a ts' w' rfl
    exact hf a ts' w'
  · rintro e ts' w' rfl
    exact hg e ts' w'

theorem bind {p : Code V α} {f : α → Code V β} (h : Steady D i c p)
    (hf : ∀ a, Steady D i c (f a)) : Steady D i c (p >>= f) :=
  h.handle hf raise

theorem aux {a : V.Aux} (h : ∀ w, D.allow c none w (.aux a) → D.asks c a w) :
    Steady D i c (Code.aux a) := by
  intro ts w
  exact Ok.aux_allowed (fun _ => True) (stable_const D i _ True) trivial fun w' _ _ _ ha =>
    ⟨h w' ha, fun _ _ _ _ => ⟨fun _ _ => rfl, fun _ _ => rfl⟩⟩

theorem sql (hl : D.Lawful) {q : V.Sql}
    (h : ∀ w a ws ks, D.inv w → D.pre c w → V.run q w.db = .ok (a, ws, ks) →
      D.commits c (Shared.single V i q a ws ks) w) : Steady D i c (Code.sql none q) := by
  intro ts w
  refine Ok.mono (fun _ _ _ hq => hq) (fun _ _ _ hx => hx.2)
    (Ok.auto hl (fun _ => True) (stable_const D i _ True) trivial
      fun w' hi hp _ _ a ws ks hr => ?_)
  split
  · rfl
  · exact ⟨h w' a ws ks hi hp hr, rfl⟩

theorem lasting (hl : D.Lawful) {p : Code V α} (h : Steady D i c p) {F : World V M.Call → Prop}
    (hF : Lasting D F) {ts : Stack V} {w : World V M.Call} (hw : F w) :
    Ok D i c (fun _ ts' w => ts' = ts ∧ F w) (fun _ ts' w => ts' = ts ∧ F w) p ts w :=
  (h ts w).frame hl hF hw

end Steady

end RailwayBooking.Concurrency
