import RailwayBooking.Concurrency.Schedule

namespace RailwayBooking.Concurrency

variable {V U : Service} {M : Machine V} {N : Machine U}

/-- Two services side by side, with the requests that the left one has made of the
right one. They share nothing but messages. -/
structure Joint (M : Machine V) (N : Machine U) where
  left : Pool M
  right : Pool N
  sent : List N.Call

/-- How two services are linked. A call of one starts on what the other has
committed, or because the left one has requested it; a request may arrive late, more
than once, or never. -/
structure Link (M : Machine V) (N : Machine U) where
  callLeft : M.Call → World V M.Call → World U N.Call → Prop
  callRight : N.Call → World V M.Call → World U N.Call → Prop
  request : V.Aux → Option N.Call
  allowLeft : M.Call → Option (Tx V) → World V M.Call → World U N.Call → Stmt V → Prop
  allowRight : N.Call → Option (Tx U) → World V M.Call → World U N.Call → Stmt U → Prop

namespace Link

/-- What the link admits on the left while the right stands still. -/
def left (L : Link M N) (v : World U N.Call) : Scope M where
  start c w := L.callLeft c w v
  allow c t w s := L.allowLeft c t w v s

def right (L : Link M N) (w : World V M.Call) : Scope N where
  start c v := L.callRight c w v
  allow c t v s := L.allowRight c t w v s

/-- The states that two linked services can reach, in any interleaving. -/
inductive Reachable (L : Link M N) (s₀ : Joint M N) : Joint M N → Prop
  | start : Reachable L s₀ s₀
  | callLeft {s : Joint M N} (h : Reachable L s₀ s) {c : M.Call}
      (hc : L.callLeft c s.left.world s.right.world) :
      Reachable L s₀ { s with left := s.left.spawn c }
  | callRight {s : Joint M N} (h : Reachable L s₀ s) {c : N.Call}
      (hc : L.callRight c s.left.world s.right.world) :
      Reachable L s₀ { s with right := s.right.spawn c }
  | send {s : Joint M N} (h : Reachable L s₀ s) {i : Nat} {c : M.Call} {a : V.Aux}
      {k : Except V.Err (V.AuxAns a) → Code V M.Out} {r : N.Call}
      (ht : s.left.threads[i]? = some ⟨c, some (.call (.aux a) k)⟩) (hr : L.request a = some r)
      (ha : L.allowLeft c none s.left.world s.right.world (.aux a)) :
      Reachable L s₀ { s with sent := s.sent ++ [r] }
  | arrive {s : Joint M N} (h : Reachable L s₀ s) {c : N.Call} (hc : c ∈ s.sent) :
      Reachable L s₀ { s with right := s.right.spawn c }
  | actLeft {s : Joint M N} (h : Reachable L s₀ s) {a : Action V} {p : Pool M}
      (ha : (L.left s.right.world).Permits s.left a) (hp : s.left.act a = some p) :
      Reachable L s₀ { s with left := p }
  | actRight {s : Joint M N} (h : Reachable L s₀ s) {a : Action U} {p : Pool N}
      (ha : (L.right s.left.world).Permits s.right a) (hp : s.right.act a = some p) :
      Reachable L s₀ { s with right := p }

end Link

variable {D : Discipline M} {E : Discipline N} {L : Link M N}

/-- The link admits nothing that the disciplines of the two sides do not cover. -/
structure Link.Within (L : Link M N) (D : Discipline M) (E : Discipline N) : Prop where
  callLeft : ∀ c w v, L.callLeft c w v → D.pre c w
  callRight : ∀ c w v, L.callRight c w v → E.pre c v
  request : ∀ a c v, L.request a = some c → E.pre c v
  allowLeft : ∀ c t w v s, L.allowLeft c t w v s → D.allow c t w s
  allowRight : ∀ c t w v s, L.allowRight c t w v s → E.allow c t v s

theorem Link.Within.left (h : L.Within D E) (v : World U N.Call) : (L.left v).Within D where
  start c w := h.callLeft c w v
  allow c t w s := h.allowLeft c t w v s

theorem Link.Within.right (h : L.Within D E) (w : World V M.Call) : (L.right w).Within E where
  start c v := h.callRight c w v
  allow c t v s := h.allowRight c t w v s

theorem WellFormed.asks {p : Pool M} (h : WellFormed D p) {i : Nat} {c : M.Call} {a : V.Aux}
    {k : Except V.Err (V.AuxAns a) → Code V M.Out}
    (ht : p.threads[i]? = some ⟨c, some (.call (.aux a) k)⟩) (ha : D.allow c none p.world (.aux a)) :
    D.asks c a p.world := by
  obtain ⟨hpre, ts, -, F, -, hF, -, hw⟩ := h.threads i c _ ht
  exact (hw p.world h.inv hpre hF ha).1

/-- Both sides are well formed, and every request made meets its precondition. -/
structure Joint.WellFormed (D : Discipline M) (E : Discipline N) (s : Joint M N) : Prop where
  left : Concurrency.WellFormed D s.left
  right : Concurrency.WellFormed E s.right
  sent : ∀ c ∈ s.sent, ∀ v, E.pre c v

/-- What the calls of each side know of the other side. -/
structure Knowledge (M : Machine V) (N : Machine U) where
  left : M.Call → World U N.Call → Prop
  right : N.Call → World V M.Call → Prop

/-- It holds when a call starts, and the other side does not take it back. -/
structure Knowledge.Sound (K : Knowledge M N) (D : Discipline M) (E : Discipline N)
    (L : Link M N) : Prop where
  left : ∀ c, Lasting E (K.left c)
  right : ∀ c, Lasting D (K.right c)
  callLeft : ∀ c w v, L.callLeft c w v → K.left c v
  callRight : ∀ c w v, L.callRight c w v → K.right c w
  request : ∀ c a w r, D.asks c a w → L.request a = some r → K.right r w

structure Knowledge.Known (K : Knowledge M N) (s : Joint M N) : Prop where
  left : ∀ c ∈ s.left.threads.map Thread.call, K.left c s.right.world
  right : ∀ c ∈ s.right.threads.map Thread.call, K.right c s.left.world
  sent : ∀ c ∈ s.sent, K.right c s.left.world

theorem Joint.WellFormed.start {p : Pool M} {q : Pool N} (hp : Concurrency.WellFormed D p)
    (hq : Concurrency.WellFormed E q) : Joint.WellFormed D E ⟨p, q, []⟩ where
  left := hp
  right := hq
  sent c hc := by cases hc

theorem Knowledge.known_start (K : Knowledge M N) {p : Pool M} {q : Pool N} (hp : p.threads = [])
    (hq : q.threads = []) : K.Known ⟨p, q, []⟩ where
  left c hc := by
    simp only [hp] at hc
    cases hc
  right c hc := by
    simp only [hq] at hc
    cases hc
  sent c hc := by cases hc

/-- `F` survives the commits of both sides that the link admits. -/
structure Link.Keeps (L : Link M N) (D : Discipline M) (E : Discipline N) (K : Knowledge M N)
    (F : World V M.Call → World U N.Call → Prop) : Prop where
  left : ∀ w v c t, D.inv w → E.inv v → D.commits c t w → t.Covered →
    (L.left v).Passes c t w → K.left c v → F w v → F (w.commit c t) v
  right : ∀ w v c t, D.inv w → E.inv v → E.pre c v → E.commits c t v → t.Covered →
    (L.right w).Passes c t v → K.right c w → F w v → F w (v.commit c t)
  driftLeft : ∀ w v e, D.drift w e → F w v → F (w.setEnv e) v
  driftRight : ∀ w v e, E.drift v e → F w v → F w (v.setEnv e)

section Reach

variable {s₀ s : Joint M N} {K : Knowledge M N}

theorem Link.Reachable.wellFormed (hl : D.Lawful) (hs : D.Sound) (el : E.Lawful) (es : E.Sound)
    (hL : L.Within D E) (h₀ : s₀.WellFormed D E) (h : L.Reachable s₀ s) : s.WellFormed D E := by
  induction h with
  | start => exact h₀
  | callLeft _ hc ih => exact ⟨wellFormed_spawn hs ih.left (hL.callLeft _ _ _ hc), ih.right, ih.sent⟩
  | callRight _ hc ih =>
    exact ⟨ih.left, wellFormed_spawn es ih.right (hL.callRight _ _ _ hc), ih.sent⟩
  | send _ _ hr _ ih =>
    refine ⟨ih.left, ih.right, fun c hc v => ?_⟩
    obtain hc | hc := List.mem_append.mp hc
    · exact ih.sent c hc v
    · rw [List.mem_singleton.mp hc]
      exact hL.request _ _ v hr
  | arrive _ hc ih => exact ⟨ih.left, wellFormed_spawn es ih.right (ih.sent _ hc _), ih.sent⟩
  | actLeft _ ha hp ih =>
    exact ⟨(wellFormed_act hl (hL.left _) ih.left ha hp).1, ih.right, ih.sent⟩
  | actRight _ ha hp ih =>
    exact ⟨ih.left, (wellFormed_act el (hL.right _) ih.right ha hp).1, ih.sent⟩

theorem Lasting.act (hl : D.Lawful) {S : Scope M} (hS : S.Within D) {p p' : Pool M} {a : Action V}
    (h : WellFormed D p) (ha : S.Permits p a) (hp : p.act a = some p') {F : World V M.Call → Prop}
    (hF : Lasting D F) (hw : F p.world) : F p'.world :=
  keeps_act hl hS h ha hp (hF.keeps S) hw

theorem mem_calls_spawn {p : Pool M} {c c' : M.Call}
    (h : c' ∈ (p.spawn c).threads.map Thread.call) :
    c' ∈ p.threads.map Thread.call ∨ c' = c := by
  simpa [Pool.spawn] using h

theorem Link.Reachable.known (hl : D.Lawful) (hs : D.Sound) (el : E.Lawful) (es : E.Sound)
    (hL : L.Within D E) (h₀ : s₀.WellFormed D E) (hK : K.Sound D E L) (hK₀ : K.Known s₀)
    (h : L.Reachable s₀ s) : K.Known s := by
  induction h with
  | start => exact hK₀
  | callLeft _ hc ih =>
    refine ⟨fun c hc' => ?_, ih.right, ih.sent⟩
    obtain hc' | rfl := mem_calls_spawn hc'
    · exact ih.left c hc'
    · exact hK.callLeft _ _ _ hc
  | callRight _ hc ih =>
    refine ⟨ih.left, fun c hc' => ?_, ih.sent⟩
    obtain hc' | rfl := mem_calls_spawn hc'
    · exact ih.right c hc'
    · exact hK.callRight _ _ _ hc
  | send h ht hr ha ih =>
    have hw := Link.Reachable.wellFormed hl hs el es hL h₀ h
    refine ⟨ih.left, ih.right, fun c hc => ?_⟩
    obtain hc | hc := List.mem_append.mp hc
    · exact ih.sent c hc
    · rw [List.mem_singleton.mp hc]
      exact hK.request _ _ _ _ (hw.left.asks ht (hL.allowLeft _ _ _ _ _ ha)) hr
  | arrive _ hc ih =>
    refine ⟨ih.left, fun c hc' => ?_, ih.sent⟩
    obtain hc' | rfl := mem_calls_spawn hc'
    · exact ih.right c hc'
    · exact ih.sent _ hc
  | actLeft h ha hp ih =>
    have hw := Link.Reachable.wellFormed hl hs el es hL h₀ h
    refine ⟨?_, fun c hc => (hK.right c).act hl (hL.left _) hw.left ha hp (ih.right c hc),
      fun c hc => (hK.right c).act hl (hL.left _) hw.left ha hp (ih.sent c hc)⟩
    rw [act_calls hp]
    exact ih.left
  | actRight h ha hp ih =>
    have hw := Link.Reachable.wellFormed hl hs el es hL h₀ h
    refine ⟨fun c hc => (hK.left c).act el (hL.right _) hw.right ha hp (ih.left c hc), ?_, ih.sent⟩
    rw [act_calls hp]
    exact ih.right

/-- What every admitted commit of either side keeps holds in every reachable
state. -/
theorem Link.Reachable.keeps (hl : D.Lawful) (hs : D.Sound) (el : E.Lawful) (es : E.Sound)
    (hL : L.Within D E) (h₀ : s₀.WellFormed D E) (hK : K.Sound D E L) (hK₀ : K.Known s₀)
    {F : World V M.Call → World U N.Call → Prop} (hF : L.Keeps D E K F)
    (hF₀ : F s₀.left.world s₀.right.world) (h : L.Reachable s₀ s) :
    F s.left.world s.right.world := by
  induction h with
  | start => exact hF₀
  | callLeft _ _ ih | callRight _ _ ih | send _ _ _ _ ih | arrive _ _ ih => exact ih
  | @actLeft s h a p ha hp ih =>
    have hw := Link.Reachable.wellFormed hl hs el es hL h₀ h
    have hknown := Link.Reachable.known hl hs el es hL h₀ hK hK₀ h
    obtain ⟨-, he⟩ := wellFormed_act hl (hL.left _) hw.left ha hp
    change F p.world s.right.world
    generalize p.world = w' at he
    cases he with
    | none => exact ih
    | drift hd => exact hF.driftLeft _ _ _ hd ih
    | commit _ ht _ _ hc hv hpass =>
      exact hF.left _ _ _ _ hw.left.inv hw.right.inv hc hv hpass
        (hknown.left _ (List.mem_map.mpr ⟨_, List.mem_of_getElem? ht, rfl⟩)) ih
  | @actRight s h a p ha hp ih =>
    have hw := Link.Reachable.wellFormed hl hs el es hL h₀ h
    have hknown := Link.Reachable.known hl hs el es hL h₀ hK hK₀ h
    obtain ⟨-, he⟩ := wellFormed_act el (hL.right _) hw.right ha hp
    change F s.left.world p.world
    generalize p.world = v' at he
    cases he with
    | none => exact ih
    | drift hd => exact hF.driftRight _ _ _ hd ih
    | commit _ ht _ hpre hc hv hpass =>
      exact hF.right _ _ _ _ hw.left.inv hw.right.inv hpre hc hv hpass
        (hknown.right _ (List.mem_map.mpr ⟨_, List.mem_of_getElem? ht, rfl⟩)) ih

end Reach

section Schedule

/-- An entry of a schedule of two services. -/
inductive Turn (M : Machine V) (N : Machine U) : Type
  | left (m : Move M)
  | right (m : Move N)
  | send (i : Nat)
  | arrive (k : Nat)

/-- What a schedule checks before it takes a turn. -/
structure Guard (M : Machine V) (N : Machine U) where
  callLeft : M.Call → World V M.Call → World U N.Call → Bool
  callRight : N.Call → World V M.Call → World U N.Call → Bool
  actLeft : Pool M → World U N.Call → Action V → Bool
  actRight : Pool N → World V M.Call → Action U → Bool

namespace Joint

variable (L : Link M N) (G : Guard M N)

/-- The request that thread `i` of the left side is about to make. -/
def requesting (s : Joint M N) (i : Nat) : Option N.Call :=
  match s.left.threads[i]? with
  | some ⟨_, some (.call (.aux a) _)⟩ => L.request a
  | _ => none

def turn (s : Joint M N) : Turn M N → Option (Joint M N)
  | .left (.call c) =>
      if G.callLeft c s.left.world s.right.world then some { s with left := s.left.spawn c }
      else none
  | .left m =>
      (s.left.move (fun p a => G.actLeft p s.right.world a) m).map (fun p => { s with left := p })
  | .right (.call c) =>
      if G.callRight c s.left.world s.right.world then some { s with right := s.right.spawn c }
      else none
  | .right m =>
      (s.right.move (fun p a => G.actRight p s.left.world a) m).map (fun p => { s with right := p })
  | .send i => (s.requesting L i).map (fun r => { s with sent := s.sent ++ [r] })
  | .arrive k => (s.sent[k]?).map (fun c => { s with right := s.right.spawn c })

def play (s : Joint M N) : List (Turn M N) → Option (Joint M N)
  | [] => some s
  | m :: ms => (s.turn L G m).bind (fun s' => play s' ms)

end Joint

/-- The guard lets pass only what the link admits. -/
structure Guard.Sound (G : Guard M N) (L : Link M N) : Prop where
  callLeft : ∀ c w v, G.callLeft c w v = true → L.callLeft c w v
  callRight : ∀ c w v, G.callRight c w v = true → L.callRight c w v
  actLeft : ∀ p v a, G.actLeft p v a = true → (L.left v).Permits p a
  actRight : ∀ p w a, G.actRight p w a = true → (L.right w).Permits p a
  send : ∀ c a w v, L.request a ≠ none → L.allowLeft c none w v (.aux a)

variable {G : Guard M N} {s₀ s s' : Joint M N}

theorem reachable_actsLeft (hG : G.Sound L) (h : L.Reachable s₀ s) {a : Action V} {p : Pool M}
    (hp : s.left.guarded (fun p a => G.actLeft p s.right.world a) a = some p) :
    L.Reachable s₀ { s with left := p } := by
  unfold Pool.guarded at hp
  split at hp
  · next ha => exact h.actLeft (hG.actLeft _ _ _ ha) hp
  · cases hp

theorem reachable_actsRight (hG : G.Sound L) (h : L.Reachable s₀ s) {a : Action U} {p : Pool N}
    (hp : s.right.guarded (fun p a => G.actRight p s.left.world a) a = some p) :
    L.Reachable s₀ { s with right := p } := by
  unfold Pool.guarded at hp
  split at hp
  · next ha => exact h.actRight (hG.actRight _ _ _ ha) hp
  · cases hp

theorem reachable_burstLeft (hG : G.Sound L) (i n : Nat) (h : L.Reachable s₀ s) :
    L.Reachable s₀ { s with
      left := s.left.burst (fun p a => G.actLeft p s.right.world a) i n } := by
  induction n generalizing s with
  | zero => exact h
  | succ n ih =>
    simp only [Pool.burst]
    split
    · exact h
    · next p hp => exact ih (reachable_actsLeft hG h hp)

theorem reachable_burstRight (hG : G.Sound L) (i n : Nat) (h : L.Reachable s₀ s) :
    L.Reachable s₀ { s with
      right := s.right.burst (fun p a => G.actRight p s.left.world a) i n } := by
  induction n generalizing s with
  | zero => exact h
  | succ n ih =>
    simp only [Pool.burst]
    split
    · exact h
    · next p hp => exact ih (reachable_actsRight hG h hp)

theorem reachable_turn (hG : G.Sound L) {m : Turn M N} (h : L.Reachable s₀ s)
    (hm : s.turn L G m = some s') : L.Reachable s₀ s' := by
  match m with
  | .left (.call c) =>
    simp only [Joint.turn, Option.ite_none_right_eq_some, Option.some.injEq] at hm
    obtain ⟨hc, rfl⟩ := hm
    exact h.callLeft (hG.callLeft _ _ _ hc)
  | .left (.step a) =>
    obtain ⟨p, hp, rfl⟩ := Option.map_eq_some_iff.mp hm
    exact reachable_actsLeft hG h hp
  | .left (.burst i n) =>
    cases hm
    exact reachable_burstLeft hG i n h
  | .right (.call c) =>
    simp only [Joint.turn, Option.ite_none_right_eq_some, Option.some.injEq] at hm
    obtain ⟨hc, rfl⟩ := hm
    exact h.callRight (hG.callRight _ _ _ hc)
  | .right (.step a) =>
    obtain ⟨p, hp, rfl⟩ := Option.map_eq_some_iff.mp hm
    exact reachable_actsRight hG h hp
  | .right (.burst i n) =>
    cases hm
    exact reachable_burstRight hG i n h
  | .send i =>
    obtain ⟨r, hr, rfl⟩ := Option.map_eq_some_iff.mp hm
    unfold Joint.requesting at hr
    split at hr
    · next ht => exact h.send ht hr (hG.send _ _ _ _ (by rw [hr]; simp))
    · cases hr
  | .arrive k =>
    obtain ⟨c, hc, rfl⟩ := Option.map_eq_some_iff.mp hm
    exact h.arrive (List.mem_of_getElem? hc)

theorem reachable_turns (hG : G.Sound L) {ms : List (Turn M N)} (h : L.Reachable s₀ s)
    (hm : s.play L G ms = some s') : L.Reachable s₀ s' := by
  induction ms generalizing s with
  | nil =>
    cases hm
    exact h
  | cons m ms ih =>
    obtain ⟨s₁, h₁, hm⟩ := Option.bind_eq_some_iff.mp hm
    exact ih (reachable_turn hG h h₁) hm

theorem exists_joint (L : Link M N) (s₀ : Joint M N) (G : Guard M N) (ms : List (Turn M N))
    (test : Joint M N → Bool) (hG : G.Sound L) (h : (s₀.play L G ms).any test = true) :
    ∃ s, L.Reachable s₀ s ∧ test s = true := by
  cases hp : s₀.play L G ms with
  | none =>
    rw [hp] at h
    cases h
  | some s =>
    rw [hp] at h
    exact ⟨s, reachable_turns hG .start hp, h⟩

end Schedule

end RailwayBooking.Concurrency
