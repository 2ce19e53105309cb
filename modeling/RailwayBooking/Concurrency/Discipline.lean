import RailwayBooking.Concurrency.ReadCommitted

namespace RailwayBooking.Concurrency

variable {V : Service} {M : Machine V}

/-- The open transactions of one thread, innermost first. -/
abbrev Stack (V : Service) := List (Nat × Tx V)

namespace Stack

def locks (ts : Stack V) : List V.Key := ts.flatMap (fun p => p.2.locks)

def tx : Stack V → Nat → Option (Tx V)
  | [], _ => none
  | (h', t) :: ts, h => if h' = h then some t else tx ts h

def set : Stack V → Nat → Tx V → Stack V
  | [], _, _ => []
  | (h', t') :: ts, h, t => if h' = h then (h, t) :: ts else (h', t') :: set ts h t

def remove : Stack V → Nat → Stack V
  | [], _ => []
  | (h', t') :: ts, h => if h' = h then ts else (h', t') :: remove ts h

end Stack

/-- The transaction a statement belongs to. -/
def Stmt.via : Stmt V → Option Nat
  | .commit h | .rollback h => some h
  | .sql h _ => h
  | .begin _ | .aux _ => none

/-- What the calls of a machine agree on. A call `c` runs under `pre c`, every
commit satisfies `commits` and every auxiliary operation `asks`, and a returned
call leaves `post`. `allow` restricts the runs that are considered, `drift` bounds
the moves of the environment and `raises` the errors. -/
structure Discipline (M : Machine V) where
  pre : M.Call → World V M.Call → Prop
  inv : World V M.Call → Prop
  allow : M.Call → Option (Tx V) → World V M.Call → Stmt V → Prop
  commits : M.Call → Tx V → World V M.Call → Prop
  asks : M.Call → V.Aux → World V M.Call → Prop
  drift : World V M.Call → V.Env → Prop
  raises : V.Err → Prop
  post : M.Call → M.Out → World V M.Call → Prop

variable (D : Discipline M)

/-- `F` survives every step of the other threads while thread `i` holds the
row locks `ks`. -/
structure Stable (i : Nat) (ks : List V.Key) (F : World V M.Call → Prop) : Prop where
  commit : ∀ w c t, D.inv w → D.pre c w → D.commits c t w → t.Covered → t.owner ≠ i →
    (∀ k ∈ t.locks, k ∉ ks) → F w → F (w.commit c t)
  drift : ∀ w e, D.drift w e → F w → F (w.setEnv e)

/-- `F` survives every commit and every move of the environment. -/
structure Lasting (F : World V M.Call → Prop) : Prop where
  commit : ∀ w c t, D.inv w → D.pre c w → D.commits c t w → t.Covered → F w →
    F (w.commit c t)
  drift : ∀ w e, D.drift w e → F w → F (w.setEnv e)

structure Discipline.Lawful : Prop where
  ask : ∀ w i c a ch r e, D.asks c a w → V.ask w.env i a ch = some (r, e) → D.drift w e
  tick : ∀ d w, D.drift w (V.tick d w.env)
  fault : D.raises V.fault
  run : ∀ q d x, V.run q d = .error x → D.raises x
  answer : ∀ e i a ch x e', V.ask e i a ch = some (.error x, e') → D.raises x
  inv : Lasting D D.inv
  pre : ∀ c, Lasting D (D.pre c)
  post : ∀ c a, Lasting D (D.post c a)

/-- The weakest condition under which a statement of thread `i`, call `c`, keeps
the discipline and leaves `post`. Blocking only delays it. -/
def wp (i : Nat) (c : M.Call) : (s : Stmt V) →
    (Except V.Err s.Ans → Stack V → World V M.Call → Prop) → Stack V → World V M.Call → Prop
  | .begin site, post, ts, w =>
      post (.error V.fault) ts w ∧
        ∀ h, h ∉ ts.map Prod.fst → post (.ok h) ((h, Tx.start i site) :: ts) w
  | .commit h, post, ts, w =>
      ∃ t, ts.tx h = some t ∧ (t.Covered → post (.error V.fault) (ts.remove h) w ∧
        D.commits c t w ∧ post (.ok ()) (ts.remove h) (w.commit c t) ∧
        post (.error V.fault) (ts.remove h) (w.commit c t))
  | .rollback h, post, ts, w =>
      (∃ t, ts.tx h = some t) ∧ post (.ok ()) (ts.remove h) w
  | .sql (some h) q, post, ts, w =>
      post (.error V.fault) ts w ∧ ∃ t, ts.tx h = some t ∧
        match V.run q (t.view w.db) with
        | .error e => post (.error e) ts w
        | .ok (a, ws, ks) => post (.ok a) (ts.set h (t.record q a ws ks)) w
  | .sql none q, post, ts, w =>
      post (.error V.fault) ts w ∧
        match V.run q w.db with
        | .error e => post (.error e) ts w
        | .ok (a, ws, ks) =>
          if ws.isEmpty then post (.ok a) ts w
          else D.commits c (Shared.single V i q a ws ks) w ∧
            post (.ok a) ts (w.commit c (Shared.single V i q a ws ks)) ∧
            post (.error V.fault) ts (w.commit c (Shared.single V i q a ws ks))
  | .aux a, post, ts, w =>
      D.asks c a w ∧ ∀ ch r e, V.ask w.env i a ch = some (r, e) → post r ts (w.setEnv e)

def Stmt.Within (s : Stmt V) (ts : Stack V) : Prop :=
  ∀ h, s.via = some h → ∃ t, ts.tx h = some t

/-- The code of thread `i` keeps the discipline whatever the other threads do:
before each statement some fact `F` holds that they cannot break, and it gives
the statement its weakest condition. -/
def Ok (i : Nat) (c : M.Call) {α : Type} (Q : α → Stack V → World V M.Call → Prop)
    (X : V.Err → Stack V → World V M.Call → Prop) :
    Code V α → Stack V → World V M.Call → Prop
  | .ret a, ts, w => Q a ts w
  | .raise e, ts, w => X e ts w
  | .call s k, ts, w => ∃ F : World V M.Call → Prop, Stable D i ts.locks F ∧ F w ∧
      s.Within ts ∧ ∀ w', D.inv w' → D.pre c w' → F w' → D.allow c (s.via.bind ts.tx) w' s →
        wp D i c s (fun r ts' w'' => Ok i c Q X (k r) ts' w'') ts w'

variable {D} in
theorem lasting_const (P : Prop) : Lasting D (fun _ => P) :=
  ⟨fun _ _ _ _ _ _ _ h => h, fun _ _ _ h => h⟩

variable {D} in
theorem lasting_true : Lasting D (fun _ => True) := lasting_const True

variable {D} in
theorem Lasting.and {F G : World V M.Call → Prop} (hF : Lasting D F) (hG : Lasting D G) :
    Lasting D (fun w => F w ∧ G w) where
  commit w c t hi hp hc hv h := ⟨hF.commit w c t hi hp hc hv h.1, hG.commit w c t hi hp hc hv h.2⟩
  drift w e hd h := ⟨hF.drift w e hd h.1, hG.drift w e hd h.2⟩

theorem Lasting.stable {F : World V M.Call → Prop} (h : Lasting D F) (i : Nat) (ks : List V.Key) :
    Stable D i ks F :=
  ⟨fun w c t hi hp hc hv _ _ => h.commit w c t hi hp hc hv, h.drift⟩

theorem Stable.and {i : Nat} {ks : List V.Key} {F G : World V M.Call → Prop}
    (hF : Stable D i ks F) (hG : Stable D i ks G) : Stable D i ks (fun w => F w ∧ G w) where
  commit w c t hi hp hc hv ho hk h :=
    ⟨hF.commit w c t hi hp hc hv ho hk h.1, hG.commit w c t hi hp hc hv ho hk h.2⟩
  drift w e hd h := ⟨hF.drift w e hd h.1, hG.drift w e hd h.2⟩

theorem Stable.mono {i : Nat} {ks ks' : List V.Key} {F : World V M.Call → Prop}
    (hF : Stable D i ks F) (h : ∀ k ∈ ks, k ∈ ks') : Stable D i ks' F where
  commit w c t hi hp hc hv ho hk :=
    hF.commit w c t hi hp hc hv ho (fun k hm hn => hk k hm (h k hn))
  drift := hF.drift

theorem stable_const (i : Nat) (ks : List V.Key) (p : Prop) : Stable D i ks (fun _ => p) :=
  ⟨fun _ _ _ _ _ _ _ _ _ h => h, fun _ _ _ h => h⟩

variable {D} in
theorem stable_true {i : Nat} {ks : List V.Key} : Stable D i ks (fun _ => True) :=
  stable_const D i ks True

section Rules

variable {D} {i : Nat} {c : M.Call} {α β : Type}

theorem wp_mono {s : Stmt V} {P P' : Except V.Err s.Ans → Stack V → World V M.Call → Prop}
    (h : ∀ r ts w, P r ts w → P' r ts w) (ts : Stack V) (w : World V M.Call)
    (hw : wp D i c s P ts w) : wp D i c s P' ts w := by
  cases s with
  | begin site => exact ⟨h _ _ _ hw.1, fun k hk => h _ _ _ (hw.2 k hk)⟩
  | commit k =>
    obtain ⟨t, ht, hw⟩ := hw
    refine ⟨t, ht, fun hv => ?_⟩
    obtain ⟨he, hc, hp, hx⟩ := hw hv
    exact ⟨h _ _ _ he, hc, h _ _ _ hp, h _ _ _ hx⟩
  | rollback k => exact ⟨hw.1, h _ _ _ hw.2⟩
  | sql k q =>
    cases k with
    | none =>
      refine ⟨h _ _ _ hw.1, ?_⟩
      have hr := hw.2
      split at hr
      · exact h _ _ _ hr
      · split at hr
        · rw [if_pos ‹_›]
          exact h _ _ _ hr
        · rw [if_neg ‹_›]
          exact ⟨hr.1, h _ _ _ hr.2.1, h _ _ _ hr.2.2⟩
    | some k =>
      obtain ⟨he, t, ht, hr⟩ := hw
      refine ⟨h _ _ _ he, t, ht, ?_⟩
      split at hr
      · exact h _ _ _ hr
      · exact h _ _ _ hr
  | aux a => exact ⟨hw.1, fun ch r e ha => h _ _ _ (hw.2 ch r e ha)⟩

theorem Ok.mono {Q Q' : α → Stack V → World V M.Call → Prop}
    {X X' : V.Err → Stack V → World V M.Call → Prop} {p : Code V α}
    (hQ : ∀ a ts w, Q a ts w → Q' a ts w) (hX : ∀ e ts w, X e ts w → X' e ts w)
    {ts : Stack V} {w : World V M.Call} (h : Ok D i c Q X p ts w) : Ok D i c Q' X' p ts w := by
  induction p generalizing ts w with
  | ret a => exact hQ a ts w h
  | raise e => exact hX e ts w h
  | call s k ih =>
    obtain ⟨F, hs, hF, hin, hw⟩ := h
    refine ⟨F, hs, hF, hin, fun w' hi hp hf ha => ?_⟩
    exact wp_mono (fun r ts' w'' h => ih r h) ts w' (hw w' hi hp hf ha)

theorem Ok.handle {Q : α → Stack V → World V M.Call → Prop}
    {X : V.Err → Stack V → World V M.Call → Prop}
    {Q' : β → Stack V → World V M.Call → Prop} {X' : V.Err → Stack V → World V M.Call → Prop}
    {p : Code V α} {f : α → Code V β} {g : V.Err → Code V β}
    (hf : ∀ a ts w, Q a ts w → Ok D i c Q' X' (f a) ts w)
    (hg : ∀ e ts w, X e ts w → Ok D i c Q' X' (g e) ts w)
    {ts : Stack V} {w : World V M.Call} (h : Ok D i c Q X p ts w) :
    Ok D i c Q' X' (p.handle f g) ts w := by
  induction p generalizing ts w with
  | ret a => exact hf a ts w h
  | raise e => exact hg e ts w h
  | call s k ih =>
    obtain ⟨F, hs, hF, hin, hw⟩ := h
    refine ⟨F, hs, hF, hin, fun w' hi hp hf ha => ?_⟩
    exact wp_mono (fun r ts' w'' h => ih r h) ts w' (hw w' hi hp hf ha)

theorem Ok.bind {Q : α → Stack V → World V M.Call → Prop}
    {X : V.Err → Stack V → World V M.Call → Prop}
    {Q' : β → Stack V → World V M.Call → Prop} {p : Code V α} {f : α → Code V β}
    (hf : ∀ a ts w, Q a ts w → Ok D i c Q' X (f a) ts w)
    {ts : Stack V} {w : World V M.Call} (h : Ok D i c Q X p ts w) :
    Ok D i c Q' X (p >>= f) ts w :=
  Ok.handle hf (fun _ _ _ he => he) h

theorem wp_frame (hl : D.Lawful) {P : World V M.Call → Prop} (hP : Lasting D P) {s : Stmt V}
    {post : Except V.Err s.Ans → Stack V → World V M.Call → Prop} {ts : Stack V}
    {w : World V M.Call} (hi : D.inv w) (hp : D.pre c w) (h : P w) (hw : wp D i c s post ts w) :
    wp D i c s (fun r ts w => post r ts w ∧ P w) ts w := by
  cases s with
  | begin site => exact ⟨⟨hw.1, h⟩, fun k hk => ⟨hw.2 k hk, h⟩⟩
  | commit k =>
    obtain ⟨t, ht, hw⟩ := hw
    refine ⟨t, ht, fun hv => ?_⟩
    obtain ⟨he, hc, hq, hx⟩ := hw hv
    have hP' := hP.commit w c t hi hp hc hv h
    exact ⟨⟨he, h⟩, hc, ⟨hq, hP'⟩, hx, hP'⟩
  | rollback k => exact ⟨hw.1, hw.2, h⟩
  | sql k q =>
    cases k with
    | none =>
      refine ⟨⟨hw.1, h⟩, ?_⟩
      have hr := hw.2
      split at hr
      · exact ⟨hr, h⟩
      · split at hr
        · rw [if_pos ‹_›]
          exact ⟨hr, h⟩
        · rw [if_neg ‹_›]
          have hP' := hP.commit w c _ hi hp hr.1 (Shared.covered_single i q _ _ _) h
          exact ⟨hr.1, ⟨hr.2.1, hP'⟩, hr.2.2, hP'⟩
    | some k =>
      obtain ⟨he, t, ht, hr⟩ := hw
      refine ⟨⟨he, h⟩, t, ht, ?_⟩
      split at hr
      · exact ⟨hr, h⟩
      · exact ⟨hr, h⟩
  | aux a =>
    exact ⟨hw.1, fun ch r e ha =>
      ⟨hw.2 ch r e ha, hP.drift w e (hl.ask _ _ _ _ _ _ _ hw.1 ha) h⟩⟩

theorem Ok.frame (hl : D.Lawful) {P : World V M.Call → Prop} (hP : Lasting D P)
    {Q : α → Stack V → World V M.Call → Prop} {X : V.Err → Stack V → World V M.Call → Prop}
    {p : Code V α} {ts : Stack V} {w : World V M.Call} (hw : P w) (h : Ok D i c Q X p ts w) :
    Ok D i c (fun a ts w => Q a ts w ∧ P w) (fun e ts w => X e ts w ∧ P w) p ts w := by
  induction p generalizing ts w with
  | ret a => exact ⟨h, hw⟩
  | raise e => exact ⟨h, hw⟩
  | call s k ih =>
    obtain ⟨F, hs, hF, hin, h⟩ := h
    refine ⟨fun w => F w ∧ P w, hs.and D (hP.stable D i _), ⟨hF, hw⟩, hin,
      fun w' hi hp hf ha => ?_⟩
    exact wp_mono (fun r ts' w'' h => ih r h.2 h.1) ts w'
      (wp_frame hl hP hi hp hf.2 (h w' hi hp hf.1 ha))

theorem Ok.frame_result (hl : D.Lawful) {P : World V M.Call → Prop} (hP : Lasting D P)
    {Q : α → Stack V → World V M.Call → Prop} {X : V.Err → Stack V → World V M.Call → Prop}
    {p : Code V α} {ts : Stack V} {w : World V M.Call} (hw : P w) (h : Ok D i c Q X p ts w) :
    Ok D i c (fun a ts w => Q a ts w ∧ P w) X p ts w :=
  Ok.mono (fun _ _ _ hq => hq) (fun _ _ _ hx => hx.1) (h.frame hl hP hw)

end Rules

end RailwayBooking.Concurrency
