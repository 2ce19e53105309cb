import RailwayBooking.Concurrency.Reachable

namespace RailwayBooking.Concurrency

variable {V : Service} {M : Machine V}

namespace Code

variable {α : Type}

def sql (h : Option Nat) (q : V.Sql) : Code V (V.Rows q) :=
  Program.issue (L := V.sig) (.sql h q)

def aux (a : V.Aux) : Code V (V.AuxAns a) :=
  Program.issue (L := V.sig) (.aux a)

/-- Run `body` in a transaction of its own. An error of the body rolls it back
and is passed on. -/
def transaction (site : V.Site) (body : Nat → Code V α) : Code V α :=
  Program.issue (L := V.sig) (.begin site) >>= fun h =>
    (body h).handle
      (fun a => Program.issue (L := V.sig) (.commit h) >>= fun _ => .ret a)
      (fun e => Program.issue (L := V.sig) (.rollback h) >>= fun _ => .raise e)

end Code

variable {D : Discipline M} {i : Nat} {c : M.Call} {α β : Type}

def Inside (D : Discipline M) (h : Nat) (ts : Stack V) (e : V.Err) (ts' : Stack V)
    (_ : World V M.Call) : Prop :=
  D.raises e ∧ ∃ t, ts' = (h, t) :: ts

def Outside (D : Discipline M) (ts : Stack V) (e : V.Err) (ts' : Stack V)
    (_ : World V M.Call) : Prop :=
  D.raises e ∧ ts' = ts

theorem Ok.seq {Q : β → Stack V → World V M.Call → Prop}
    {X : V.Err → Stack V → World V M.Call → Prop} {p : Code V α} {f : α → Code V β}
    {ts : Stack V} {w : World V M.Call}
    (h : Ok D i c (fun a ts w => Ok D i c Q X (f a) ts w) X p ts w) :
    Ok D i c Q X (p >>= f) ts w :=
  Ok.bind (fun _ _ _ h => h) h

theorem Stack.tx_top (h : Nat) (t : Tx V) (ts : Stack V) : Stack.tx ((h, t) :: ts) h = some t := by
  simp [Stack.tx]

theorem Ok.sql (hl : D.Lawful) {h : Nat} {q : V.Sql} {t : Tx V} {ts : Stack V} {w : World V M.Call}
    {Q : V.Rows q → Stack V → World V M.Call → Prop} (F : World V M.Call → Prop)
    (hs : Stable D i (t.locks ++ ts.locks) F) (hF : F w)
    (hq : ∀ w', D.inv w' → D.pre c w' → F w' → D.allow c (some t) w' (.sql (some h) q) →
      ∀ a ws ks, V.run q (t.view w'.db) = .ok (a, ws, ks) →
        Q a ((h, t.record q a ws ks) :: ts) w') :
    Ok D i c Q (Inside D h ts) (Code.sql (some h) q) ((h, t) :: ts) w := by
  refine ⟨F, hs, hF, fun k hk => ?_, fun w' hi hp hf ha => ?_⟩
  · cases hk
    exact ⟨t, Stack.tx_top h t ts⟩
  · rw [show (Stmt.sql (some h) q).via.bind (Stack.tx ((h, t) :: ts)) = some t from
      Stack.tx_top h t ts] at ha
    refine ⟨⟨hl.fault, t, rfl⟩, t, Stack.tx_top h t ts, ?_⟩
    have hrun := hq w' hi hp hf ha
    split
    · next e he => exact ⟨hl.run _ _ _ he, t, rfl⟩
    · next a ws ks he =>
      rw [show Stack.set ((h, t) :: ts) h (t.record q a ws ks) = (h, t.record q a ws ks) :: ts from
        if_pos rfl]
      exact hrun a ws ks he

section Reading

/-- The transaction has only read since. -/
structure Tx.Reads (t t' : Tx V) : Prop where
  site : t'.site = t.site
  writes : t'.writes = t.writes
  locks : t'.locks = t.locks
  answered : ∀ q a, t.Answered q a → t'.Answered q a

theorem Tx.Reads.refl (t : Tx V) : t.Reads t := ⟨rfl, rfl, rfl, fun _ _ h => h⟩

theorem Tx.Reads.trans {t₁ t₂ t₃ : Tx V} (h : t₁.Reads t₂) (h' : t₂.Reads t₃) : t₁.Reads t₃ :=
  ⟨h'.site.trans h.site, h'.writes.trans h.writes, h'.locks.trans h.locks,
    fun q a ha => h'.answered q a (h.answered q a ha)⟩

def Reading (h : Nat) (ts : Stack V) (t : Tx V) (P : Tx V → World V M.Call → Prop)
    (ts' : Stack V) (w : World V M.Call) : Prop :=
  ∃ t', ts' = (h, t') :: ts ∧ t.Reads t' ∧ P t' w

theorem Ok.find (hl : D.Lawful) {h : Nat} {q : V.Sql} {t : Tx V} {ts : Stack V}
    {w : World V M.Call} {F : World V M.Call → Prop}
    (hq : ∀ d a ws ks, V.run q d = .ok (a, ws, ks) → ws = [] ∧ ks = [])
    (hs : Stable D i (t.locks ++ ts.locks) F) (hF : F w) :
    Ok D i c (fun a => Reading h ts t fun t' w => D.inv w ∧ F w ∧ t'.Answered q a ∧
      ∃ ws ks, V.run q (t.view w.db) = .ok (a, ws, ks)) (Inside D h ts) (Code.sql (some h) q)
      ((h, t) :: ts) w := by
  refine Ok.sql hl F hs hF fun w' hi _ hf _ a ws ks hr => ?_
  obtain ⟨rfl, rfl⟩ := hq _ _ _ _ hr
  exact ⟨_, rfl, ⟨rfl, List.append_nil _, List.append_nil _, fun _ _ h => h.record _ _ _ _⟩, hi, hf,
    t.answered_record q a _ _, _, _, hr⟩

end Reading

theorem Stable.record {F : World V M.Call → Prop} {t : Tx V} {ts : Stack V}
    (h : Stable D i (t.locks ++ ts.locks) F) (q : V.Sql) (a : V.Rows q) (ws : List V.Write)
    (ks : List V.Key) : Stable D i ((t.record q a ws ks).locks ++ ts.locks) F := by
  refine h.mono D fun k hk => ?_
  obtain hk | hk := List.mem_append.mp hk
  · exact List.mem_append_left _ (List.mem_append_left _ hk)
  · exact List.mem_append_right _ hk

theorem Ok.auto (hl : D.Lawful) {q : V.Sql} {ts : Stack V} {w : World V M.Call}
    {Q : V.Rows q → Stack V → World V M.Call → Prop} (F : World V M.Call → Prop)
    (hs : Stable D i ts.locks F) (hF : F w)
    (hq : ∀ w', D.inv w' → D.pre c w' → F w' → D.allow c none w' (.sql none q) →
      ∀ a ws ks, V.run q w'.db = .ok (a, ws, ks) →
        if ws.isEmpty then Q a ts w'
        else D.commits c (Shared.single V i q a ws ks) w' ∧
          Q a ts (w'.commit c (Shared.single V i q a ws ks))) :
    Ok D i c Q (Outside D ts) (Code.sql none q) ts w := by
  refine ⟨F, hs, hF, fun k hk => (by cases hk), fun w' hi hp hf ha => ⟨⟨hl.fault, rfl⟩, ?_⟩⟩
  have hrun := hq w' hi hp hf ha
  split
  · next e he => exact ⟨hl.run _ _ _ he, rfl⟩
  · next a ws ks he =>
    have hx := hrun a ws ks he
    split at hx
    · rw [if_pos ‹_›]
      exact hx
    · rw [if_neg ‹_›]
      exact ⟨hx.1, hx.2, hl.fault, rfl⟩

theorem Ok.read (hl : D.Lawful) {q : V.Sql} {ts : Stack V} {w : World V M.Call}
    {Q : V.Rows q → Stack V → World V M.Call → Prop} (F : World V M.Call → Prop)
    (hs : Stable D i ts.locks F) (hF : F w)
    (hr : ∀ d a ws ks, V.run q d = .ok (a, ws, ks) → ws = [])
    (hq : ∀ w', D.inv w' → D.pre c w' → F w' → D.allow c none w' (.sql none q) →
      ∀ a ws ks, V.run q w'.db = .ok (a, ws, ks) → Q a ts w') :
    Ok D i c Q (Outside D ts) (Code.sql none q) ts w := by
  refine Ok.auto hl F hs hF fun w' hi hp hf ha a ws ks he => ?_
  rw [if_pos (by rw [hr _ _ _ _ he]; rfl)]
  exact hq w' hi hp hf ha a ws ks he

theorem Ok.aux {a : V.Aux} {ts : Stack V} {w : World V M.Call}
    {Q : V.AuxAns a → Stack V → World V M.Call → Prop}
    {X : V.Err → Stack V → World V M.Call → Prop} (F : World V M.Call → Prop)
    (hs : Stable D i ts.locks F) (hF : F w) (hasks : ∀ w', F w' → D.asks c a w')
    (ha : ∀ w', D.inv w' → D.pre c w' → F w' → D.allow c none w' (.aux a) →
      ∀ ch r e, V.ask w'.env i a ch = some (r, e) →
        (∀ x, r = .ok x → Q x ts (w'.setEnv e)) ∧ (∀ x, r = .error x → X x ts (w'.setEnv e))) :
    Ok D i c Q X (Code.aux a) ts w := by
  refine ⟨F, hs, hF, fun k hk => (by cases hk),
    fun w' hi hp hf hal => ⟨hasks w' hf, fun ch r e he => ?_⟩⟩
  obtain ⟨hok, herr⟩ := ha w' hi hp hf hal ch r e he
  cases r with
  | ok x => exact hok x rfl
  | error x => exact herr x rfl

theorem Ok.aux_any {a : V.Aux} {ts : Stack V} {w : World V M.Call} (hl : D.Lawful)
    {F : World V M.Call → Prop} (hF : Lasting D F) (h : F w) (hasks : ∀ w, F w → D.asks c a w) :
    Ok D i c (fun _ ts' w => ts' = ts ∧ F w) (Outside D ts) (Code.aux a) ts w :=
  Ok.aux F (hF.stable D i _) h hasks fun w' _ _ hf _ _ _ e he =>
    ⟨fun _ _ => ⟨rfl, hF.drift w' e (hl.ask _ _ _ _ _ _ _ (hasks w' hf) he) hf⟩,
      fun _ hx => ⟨hl.answer _ _ _ _ _ _ (hx ▸ he), rfl⟩⟩

def Commits (D : Discipline M) (i : Nat) (c : M.Call) (h : Nat) (ts : Stack V)
    (Q : α → Stack V → World V M.Call → Prop) (a : α) (ts' : Stack V)
    (w : World V M.Call) : Prop :=
  ∃ t, ts' = (h, t) :: ts ∧ ∃ G : World V M.Call → Prop, Stable D i (t.locks ++ ts.locks) G ∧
    G w ∧ ∀ w', D.inv w' → D.pre c w' → G w' → D.allow c (some t) w' (.commit h) →
      D.commits c t w' ∧ Q a ts (w'.commit c t)

theorem Ok.transaction (hl : D.Lawful) {site : V.Site} {body : Nat → Code V α} {ts : Stack V}
    {w : World V M.Call} {Q : α → Stack V → World V M.Call → Prop} (F : World V M.Call → Prop)
    (hs : Stable D i ts.locks F) (hF : F w)
    (hb : ∀ h w', D.inv w' → D.pre c w' → F w' →
      Ok D i c (Commits D i c h ts Q) (Inside D h ts) (body h) ((h, Tx.start i site) :: ts) w') :
    Ok D i c Q (Outside D ts) (Code.transaction site body) ts w := by
  refine ⟨F, hs, hF, fun k hk => (by cases hk),
    fun w' hi hp hf _ => ⟨⟨hl.fault, rfl⟩, fun h _ => ?_⟩⟩
  refine Ok.handle (p := body h) ?_ ?_ (hb h w' hi hp hf)
  · rintro a ts' w'' ⟨t, rfl, G, hG, hg, hc⟩
    refine ⟨G, hG, hg, fun k hk => ?_, fun w₁ hi hp hg ha => ?_⟩
    · cases hk
      exact ⟨t, Stack.tx_top h t ts⟩
    · rw [show (Stmt.commit (V := V) h).via.bind (Stack.tx ((h, t) :: ts)) = some t from
        Stack.tx_top h t ts] at ha
      have hrem : Stack.remove ((h, t) :: ts) h = ts := if_pos rfl
      obtain ⟨hc, hq⟩ := hc w₁ hi hp hg ha
      refine ⟨t, Stack.tx_top h t ts, fun _ => ⟨⟨hl.fault, hrem⟩, hc, ?_, hl.fault, hrem⟩⟩
      rw [hrem]
      exact hq
  · rintro e ts' w'' ⟨he, t, rfl⟩
    refine ⟨fun _ => True, stable_const D i _ _, trivial, fun k hk => ?_, fun w₁ _ _ _ _ => ?_⟩
    · cases hk
      exact ⟨t, Stack.tx_top h t ts⟩
    · exact ⟨⟨t, Stack.tx_top h t ts⟩, he, if_pos rfl⟩

theorem Ok.transaction_any (hl : D.Lawful) {site : V.Site} {body : Nat → Code V α} {ts : Stack V}
    {w : World V M.Call} {Q : α → Stack V → World V M.Call → Prop}
    (hb : ∀ h w', D.inv w' → D.pre c w' →
      Ok D i c (Commits D i c h ts Q) (Inside D h ts) (body h) ((h, Tx.start i site) :: ts) w') :
    Ok D i c Q (Outside D ts) (Code.transaction site body) ts w :=
  Ok.transaction hl (fun _ => True) stable_true trivial fun h w' hi hp _ => hb h w' hi hp

theorem Ok.attempt {Q : α → Stack V → World V M.Call → Prop}
    {X X' : V.Err → Stack V → World V M.Call → Prop} {p : Code V α} {g : V.Err → Code V α}
    {ts : Stack V} {w : World V M.Call} (h : Ok D i c Q X p ts w)
    (hg : ∀ e ts w, X e ts w → Ok D i c Q X' (g e) ts w) :
    Ok D i c Q X' (p.attempt g) ts w :=
  Ok.handle (fun _ _ _ h => h) hg h

theorem Ok.ensure {Q R : α → Stack V → World V M.Call → Prop}
    {X Y : V.Err → Stack V → World V M.Call → Prop} {p : Code V α} {f : Code V Unit}
    {ts : Stack V} {w : World V M.Call} (h : Ok D i c Q X p ts w)
    (hf : ∀ a ts w, Q a ts w → Ok D i c (fun _ ts w => R a ts w) Y f ts w)
    (hg : ∀ e ts w, X e ts w → Ok D i c (fun _ ts w => Y e ts w) Y f ts w) :
    Ok D i c R Y (p.ensure f) ts w :=
  Ok.handle (fun a ts w hq => Ok.handle (fun _ _ _ h => h) (fun _ _ _ h => h) (hf a ts w hq))
    (fun e ts w hx => Ok.handle (fun _ _ _ h => h) (fun _ _ _ h => h) (hg e ts w hx)) h

theorem Ok.passed {p : Code V α} {f : α → Code V M.Out} {w : World V M.Call}
    {Q : α → Stack V → World V M.Call → Prop} {X : V.Err → Stack V → World V M.Call → Prop}
    (hpost : ∀ o w, D.post c o w) (h : Ok D i c Q X p [] w) (hf : ∀ a, ∃ o, f a = pure o) :
    Ok D i c (fun o _ w => D.post c o w) (fun _ _ _ => True) (p >>= f) [] w := by
  refine Ok.bind (fun a _ w _ => ?_) (Ok.mono (fun _ _ _ h => h) (fun _ _ _ _ => trivial) h)
  obtain ⟨o, ho⟩ := hf a
  rw [ho]
  exact hpost o w

section Raising

def Discipline.raising (D : Discipline M) (R : V.Err → Prop) : Discipline M := { D with raises := R }

variable {R : V.Err → Prop}

theorem Stable.raising {ks : List V.Key} {F : World V M.Call → Prop} (h : Stable D i ks F) :
    Stable (D.raising R) i ks F :=
  ⟨h.commit, h.drift⟩

theorem Lasting.raising {F : World V M.Call → Prop} (h : Lasting D F) : Lasting (D.raising R) F :=
  ⟨h.commit, h.drift⟩

theorem Discipline.Lawful.raising (hl : D.Lawful) (h : ∀ e, D.raises e → R e) :
    (D.raising R).Lawful where
  ask := hl.ask
  tick := hl.tick
  fault := h _ hl.fault
  run q d x hx := h x (hl.run q d x hx)
  answer e i a ch x e' hx := h x (hl.answer e i a ch x e' hx)
  inv := hl.inv.raising
  pre c := (hl.pre c).raising
  post c a := (hl.post c a).raising

theorem ok_raising {Q : α → Stack V → World V M.Call → Prop}
    {X : V.Err → Stack V → World V M.Call → Prop} {p : Code V α} {ts : Stack V}
    {w : World V M.Call} : Ok (D.raising R) i c Q X p ts w ↔ Ok D i c Q X p ts w := by
  induction p generalizing ts w with
  | ret a => rfl
  | raise e => rfl
  | call s k ih =>
    constructor
    · rintro ⟨F, hs, hF, hin, hw⟩
      refine ⟨F, ⟨hs.commit, hs.drift⟩, hF, hin, fun w' hi hp hf ha => ?_⟩
      exact wp_mono (fun r ts' w'' h => (ih r).mp h) ts w' (hw w' hi hp hf ha)
    · rintro ⟨F, hs, hF, hin, hw⟩
      refine ⟨F, ⟨hs.commit, hs.drift⟩, hF, hin, fun w' hi hp hf ha => ?_⟩
      exact wp_mono (fun r ts' w'' h => (ih r).mpr h) ts w' (hw w' hi hp hf ha)

end Raising

section Narrowed

def Discipline.narrowed (D : Discipline M) (P : M.Call → Prop)
    (post : M.Call → M.Out → World V M.Call → Prop) : Discipline M :=
  { D with pre := fun c w => P c ∧ D.pre c w, post := post }

variable {P : M.Call → Prop} {post : M.Call → M.Out → World V M.Call → Prop}

theorem Stable.narrowed {ks : List V.Key} {F : World V M.Call → Prop} (h : Stable D i ks F) :
    Stable (D.narrowed P post) i ks F :=
  ⟨fun w c t hi hp => h.commit w c t hi hp.2, h.drift⟩

theorem Lasting.narrowed {F : World V M.Call → Prop} (h : Lasting D F) :
    Lasting (D.narrowed P post) F :=
  ⟨fun w c t hi hp => h.commit w c t hi hp.2, h.drift⟩

theorem Discipline.Lawful.narrowed (hl : D.Lawful) (h : ∀ c a, Lasting D (post c a)) :
    (D.narrowed P post).Lawful where
  ask := hl.ask
  tick := hl.tick
  fault := hl.fault
  run := hl.run
  answer := hl.answer
  inv := hl.inv.narrowed
  pre c := ((lasting_const (P c)).and (hl.pre c)).narrowed
  post c a := (h c a).narrowed

theorem Ok.narrowed {Q : α → Stack V → World V M.Call → Prop}
    {X : V.Err → Stack V → World V M.Call → Prop} {p : Code V α} {ts : Stack V}
    {w : World V M.Call} (h : Ok D i c Q X p ts w) : Ok (D.narrowed P post) i c Q X p ts w := by
  induction p generalizing ts w with
  | ret a => exact h
  | raise e => exact h
  | call s k ih =>
    obtain ⟨F, hs, hF, hin, hw⟩ := h
    refine ⟨F, hs.narrowed, hF, hin, fun w' hi hp hf ha => ?_⟩
    exact wp_mono (fun r ts' w'' h => ih r h) ts w' (hw w' hi hp.2 hf ha)

end Narrowed

end RailwayBooking.Concurrency
