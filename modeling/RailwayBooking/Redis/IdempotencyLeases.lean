import RailwayBooking.Concurrency.Transition
import RailwayBooking.Redis.Idempotency

namespace RailwayBooking.Redis

open Concurrency System

/-- The idempotency keys with the consumers that have reserved them: until when a
consumer's reservation lasts that it has neither released nor marked, and until when the
latest mark does. -/
structure Reservations (K : Type) where
  now : Nat
  store : Store K IdempotencyState
  reserved : Nat → K → Option Nat
  markedUntil : K → Nat

namespace Reservations

variable {K : Type} [DecidableEq K]

/-- A handler marks or releases only what it has reserved. -/
inductive Label (K : Type)
  | reserveIfNew (i : Nat) (k : K) (o : Outcome)
  | markProcessed (i : Nat) (k : K) (o : Outcome)
  | release (i : Nat) (k : K) (o : Outcome)
  | tick (d : Nat)

def setReserved (s : Reservations K) (i : Nat) (k : K) (e : Option Nat) : Reservations K :=
  { s with reserved := Function.update s.reserved i (Function.update (s.reserved i) k e) }

variable (l : Leases)

def reserve (s : Reservations K) (i : Nat) (k : K) : Outcome → Reservations K
  | .fault => s
  | .lost => { s with store := (reserveIfNew l s.store s.now k).2 }
  | .ok =>
    let r := reserveIfNew l s.store s.now k
    let s' := { s with store := r.2 }
    if r.1 then s'.setReserved i k (some (s.now + 1000 * l.processingLeaseSeconds)) else s'

def mark (s : Reservations K) (i : Nat) (k : K) (o : Outcome) : Reservations K :=
  let s' := { s with
    store := markProcessed l s.store s.now k
    markedUntil := Function.update s.markedUntil k (s.now + 1000 * l.processedTtlSeconds) }
  match o with
  | .fault => s
  | .lost => s'
  | .ok => s'.setReserved i k none

def giveUp (s : Reservations K) (i : Nat) (k : K) : Outcome → Reservations K
  | .fault => s
  | .ok | .lost => { s with store := release s.store s.now k }.setReserved i k none

def step (s : Reservations K) : Label K → Option (Reservations K)
  | .reserveIfNew i k o => if s.reserved i k = none then some (s.reserve l i k o) else none
  | .markProcessed i k o => if s.reserved i k ≠ none then some (s.mark l i k o) else none
  | .release i k o => if s.reserved i k ≠ none then some (s.giveUp i k o) else none
  | .tick d => some { s with now := s.now + d }

def init (K : Type) (now : Nat) : Reservations K := ⟨now, .empty, fun _ _ => none, fun _ => 0⟩

@[reducible] def system (K : Type) [DecidableEq K] : System := ⟨Reservations K, Label K, step l⟩

/-- The consumer has a reservation that has not expired. -/
def Live (s : Reservations K) (i : Nat) (k : K) : Prop :=
  ∃ e, s.reserved i k = some e ∧ s.now < e

/-- A key that is `PROCESSING` is released by the consumer whose reservation lives, if there
is one, and no reservation outlasts a mark. -/
def OwnLease (s : Reservations K) : Label K → Prop
  | .release i k _ => s.store.get s.now k = some .processing → s.Live i k ∨ ∀ j, ¬ s.Live j k
  | .markProcessed _ k _ => ∀ j e, s.reserved j k = some e →
      e ≤ s.now + 1000 * l.processedTtlSeconds
  | _ => True

/-- One consumer at a time has an event, what it has reserved is in Redis, and an event
that has been processed is not reserved again. -/
structure Exclusive (s : Reservations K) : Prop where
  one : ∀ i j k, s.Live i k → s.Live j k → i = j
  kept : ∀ i k, s.Live i k → s.store.get s.now k ≠ none
  processed : ∀ k, s.now < s.markedUntil k → (reserveIfNew l s.store s.now k).1 = false

structure Inv (s : Reservations K) : Prop where
  backed : ∀ i k e, s.reserved i k = some e → s.now < e → ∃ v t, s.store k = some ⟨v, t⟩ ∧ e ≤ t
  one : ∀ i j k, s.Live i k → s.Live j k → i = j
  marked : ∀ k, s.now < s.markedUntil k →
    ∃ t, s.store k = some ⟨.processed, t⟩ ∧ s.markedUntil k ≤ t

variable {l} {s s' : Reservations K}

theorem setReserved_reserved {i j : Nat} {k k' : K} {e : Option Nat} :
    (s.setReserved i k e).reserved j k' = if j = i ∧ k' = k then e else s.reserved j k' := by
  change Function.update s.reserved i _ j k' = _
  rw [Function.update_apply]
  by_cases hj : j = i
  · subst hj
    simp [Function.update_apply]
  · simp [hj]

theorem live_setReserved {i j : Nat} {k k' : K} {e : Option Nat}
    (h : (s.setReserved i k e).Live j k') : (j = i ∧ k' = k ∧ e.isSome) ∨ s.Live j k' := by
  obtain ⟨e', hres, hlt⟩ := h
  rw [setReserved_reserved] at hres
  split at hres
  · next hk => exact .inl ⟨hk.1, hk.2, by rw [hres]; rfl⟩
  · exact .inr ⟨e', hres, hlt⟩

theorem Inv.exclusive (h : Inv s) : Exclusive l s where
  one := h.one
  kept i k hlive := by
    obtain ⟨e, hres, hlt⟩ := hlive
    obtain ⟨v, t, hset, hle⟩ := h.backed i k e hres hlt
    rw [Store.get_eq_some.mpr ⟨t, hset, Nat.lt_of_lt_of_le hlt hle⟩]
    exact Option.some_ne_none v
  processed k hlt := by
    obtain ⟨t, hset, hle⟩ := h.marked k hlt
    have hget := Store.get_eq_some.mpr ⟨t, hset, Nat.lt_of_lt_of_le hlt hle⟩
    simp [reserveIfNew, Store.setNx, hget]

/-- What the repository has set or deleted: a key that was free is reserved, a key is
marked, a key that is `PROCESSING` is deleted. -/
theorem reserveIfNew_cases (l : Leases) (store : Store K IdempotencyState) (now : Nat) (k : K) :
    ((reserveIfNew l store now k).1 = true ∧ store.get now k = none ∧
      (reserveIfNew l store now k).2 =
        store.set k .processing (now + 1000 * l.processingLeaseSeconds)) ∨
    ((reserveIfNew l store now k).1 = false ∧ (reserveIfNew l store now k).2 = store) := by
  unfold reserveIfNew Store.setNx
  cases hget : store.get now k with
  | none => exact .inl ⟨rfl, rfl, rfl⟩
  | some v => exact .inr ⟨rfl, rfl⟩

theorem Inv.set_free (h : Inv s) {k : K} (hfree : s.store.get s.now k = none)
    (v : IdempotencyState) (t : Nat) : Inv { s with store := s.store.set k v t } := by
  refine ⟨fun i k' e hres hlt => ?_, h.one, fun k' hlt => ?_⟩
  · have hne : k' ≠ k := by
      rintro rfl
      exact absurd hfree (h.exclusive (l := ⟨0, 0⟩).kept i k' ⟨e, hres, hlt⟩)
    obtain ⟨v', t', hset, hle⟩ := h.backed i k' e hres hlt
    exact ⟨v', t', (Function.update_of_ne hne _ _).trans hset, hle⟩
  · obtain ⟨t', hset, hle⟩ := h.marked k' hlt
    have hne : k' ≠ k := by
      rintro rfl
      rw [Store.get_eq_some.mpr ⟨t', hset, Nat.lt_of_lt_of_le hlt hle⟩] at hfree
      cases hfree
    exact ⟨t', (Function.update_of_ne hne _ _).trans hset, hle⟩

theorem Inv.reserve (h : Inv s) {i : Nat} {k : K} (o : Outcome) : Inv (s.reserve l i k o) := by
  have hlost : Inv { s with store := (reserveIfNew l s.store s.now k).2 } := by
    obtain ⟨-, hfree, hset⟩ | ⟨-, hsame⟩ := reserveIfNew_cases l s.store s.now k
    · rw [hset]
      exact h.set_free hfree _ _
    · rw [hsame]
      exact h
  cases o with
  | fault => exact h
  | lost => exact hlost
  | ok =>
    unfold Reservations.reserve
    dsimp only
    split
    · next hr =>
      obtain ⟨-, hfree, hset⟩ | ⟨hf, -⟩ := reserveIfNew_cases l s.store s.now k
      · have hnobody : ∀ j, ¬ s.Live j k := fun j hlive =>
          absurd hfree (h.exclusive (l := l).kept j k hlive)
        rw [hset] at hlost ⊢
        refine ⟨fun j k' e hres hlt => ?_, fun j j' k' hj hj' => ?_, hlost.marked⟩
        · rw [setReserved_reserved] at hres
          split at hres
          · next hk =>
            obtain ⟨rfl, rfl⟩ := hk
            cases hres
            refine ⟨.processing, s.now + 1000 * l.processingLeaseSeconds, ?_, Nat.le_refl _⟩
            exact Function.update_self _ _ _
          · exact hlost.backed j k' e hres hlt
        · obtain ⟨rfl, rfl, -⟩ | hold := live_setReserved hj
          · obtain ⟨rfl, -⟩ | hold' := live_setReserved hj'
            · rfl
            · exact absurd hold' (hnobody j')
          · obtain ⟨-, rfl, -⟩ | hold' := live_setReserved hj'
            · exact absurd hold (hnobody j)
            · exact h.one j j' k' hold hold'
      · rw [hf] at hr
        cases hr
    · exact hlost

theorem Inv.drop (h : Inv s) (i : Nat) (k : K) {store : Store K IdempotencyState}
    (hbacked : ∀ j k' e, ¬ (j = i ∧ k' = k) → s.reserved j k' = some e → s.now < e →
      ∃ v t, store k' = some ⟨v, t⟩ ∧ e ≤ t)
    {markedUntil : K → Nat} (hmarked : ∀ k, s.now < markedUntil k →
      ∃ t, store k = some ⟨.processed, t⟩ ∧ markedUntil k ≤ t) :
    Inv ({ s with store := store, markedUntil := markedUntil }.setReserved i k none) := by
  refine ⟨fun j k' e hres hlt => ?_, fun j j' k' hj hj' => ?_, hmarked⟩
  · rw [setReserved_reserved] at hres
    split at hres
    · cases hres
    · next hne => exact hbacked j k' e hne hres hlt
  · apply h.one j j' k'
    · exact (live_setReserved hj).resolve_left fun hk => Bool.false_ne_true hk.2.2
    · exact (live_setReserved hj').resolve_left fun hk => Bool.false_ne_true hk.2.2

theorem Inv.mark (h : Inv s) {i : Nat} {k : K} {o : Outcome}
    (ha : OwnLease l s (.markProcessed i k o)) : Inv (s.mark l i k o) := by
  have hbacked : ∀ j k' e, s.reserved j k' = some e → s.now < e →
      ∃ v t, markProcessed l s.store s.now k k' = some ⟨v, t⟩ ∧ e ≤ t := by
    intro j k' e hres hlt
    by_cases hk : k' = k
    · subst hk
      exact ⟨.processed, _, Function.update_self _ _ _, ha j e hres⟩
    · rw [markProcessed, Store.set, Function.update_of_ne hk]
      exact h.backed j k' e hres hlt
  have hmarked : ∀ k', s.now < Function.update s.markedUntil k
      (s.now + 1000 * l.processedTtlSeconds) k' → ∃ t,
        markProcessed l s.store s.now k k' = some ⟨.processed, t⟩ ∧
          Function.update s.markedUntil k (s.now + 1000 * l.processedTtlSeconds) k' ≤ t := by
    intro k' hlt
    by_cases hk : k' = k
    · subst hk
      rw [markProcessed, Store.set, Function.update_self, Function.update_self]
      exact ⟨_, rfl, Nat.le_refl _⟩
    · rw [Function.update_of_ne hk] at hlt
      rw [markProcessed, Store.set, Function.update_of_ne hk, Function.update_of_ne hk]
      exact h.marked k' hlt
  cases o with
  | fault => exact h
  | lost => exact ⟨hbacked, h.one, hmarked⟩
  | ok => exact h.drop i k (fun j k' e _ => hbacked j k' e) hmarked

theorem Inv.giveUp (h : Inv s) {i : Nat} {k : K} {o : Outcome}
    (ha : OwnLease l s (.release i k o)) : Inv (s.giveUp i k o) := by
  have hrun : Inv ({ s with store := release s.store s.now k }.setReserved i k none) := by
    by_cases hprocessing : s.store.get s.now k = some .processing
    · have hdel : release s.store s.now k = s.store.del k := if_pos hprocessing
      rw [hdel]
      refine h.drop i k (fun j k' e hne hres hlt => ?_) fun k' hlt => ?_
      · have hk : k' ≠ k := by
          rintro rfl
          obtain hown | hnobody := ha hprocessing
          · exact hne ⟨h.one j i k' ⟨e, hres, hlt⟩ hown, rfl⟩
          · exact hnobody j ⟨e, hres, hlt⟩
        rw [Store.del, Function.update_of_ne hk]
        exact h.backed j k' e hres hlt
      · obtain ⟨t, hset, hle⟩ := h.marked k' hlt
        have hk : k' ≠ k := by
          rintro rfl
          rw [Store.get_eq_some.mpr ⟨t, hset, Nat.lt_of_lt_of_le hlt hle⟩] at hprocessing
          cases hprocessing
        exact ⟨t, by rw [Store.del, Function.update_of_ne hk, hset], hle⟩
    · have hsame : release s.store s.now k = s.store := if_neg hprocessing
      rw [hsame]
      exact h.drop i k (fun j k' e _ => h.backed j k' e) h.marked
  cases o with
  | fault => exact h
  | ok => exact hrun
  | lost => exact hrun

theorem Inv.step (h : Inv s) {a : Label K} (ha : OwnLease l s a) (hs : step l s a = some s') :
    Inv s' := by
  cases a with
  | reserveIfNew i k o =>
    simp only [Reservations.step] at hs
    split at hs
    · obtain rfl := Option.some.inj hs
      exact h.reserve o
    · cases hs
  | markProcessed i k o =>
    simp only [Reservations.step] at hs
    split at hs
    · obtain rfl := Option.some.inj hs
      exact h.mark ha
    · cases hs
  | release i k o =>
    simp only [Reservations.step] at hs
    split at hs
    · obtain rfl := Option.some.inj hs
      exact h.giveUp ha
    · cases hs
  | tick d =>
    obtain rfl := Option.some.inj hs
    have hlive : ∀ i k, Live { s with now := s.now + d } i k → s.Live i k := by
      rintro i k ⟨e, hres, hlt⟩
      exact ⟨e, hres, Nat.lt_of_le_of_lt (Nat.le_add_right _ d) hlt⟩
    refine ⟨fun i k e hres hlt => ?_, fun i j k hi hj => ?_, fun k hlt => ?_⟩
    · exact h.backed i k e hres (Nat.lt_of_le_of_lt (Nat.le_add_right _ d) hlt)
    · exact h.one i j k (hlive i k hi) (hlive j k hj)
    · exact h.marked k (Nat.lt_of_le_of_lt (Nat.le_add_right _ d) hlt)

theorem inv_init (K : Type) [DecidableEq K] (now : Nat) : Inv (init K now) where
  backed _ _ _ h := nomatch h
  one i j k h := by
    obtain ⟨_, h, _⟩ := h
    cases h
  marked _ h := absurd h (Nat.not_lt_zero _)

/-- Where reservations are given up while they live, or not at all, consumers of an event
exclude each other and an event that is processed stays so. -/
theorem exclusive_of_ownLease {now : Nat} (h : Run (system l K) (OwnLease l) (init K now) s) :
    Exclusive l s := by
  have hinv : Inv s := h.invariant (inv_init K now) fun _ _ _ _ hi ha hs => hi.step ha hs
  exact hinv.exclusive

theorem reserved_le {ok : Reservations K → Label K → Prop} {now : Nat}
    (h : Run (system l K) ok (init K now) s) :
    ∀ i k e, s.reserved i k = some e → e ≤ s.now + 1000 * l.processingLeaseSeconds := by
  let I (s : Reservations K) : Prop :=
    ∀ i k e, s.reserved i k = some e → e ≤ s.now + 1000 * l.processingLeaseSeconds
  refine h.invariant (I := I) (fun _ _ _ hres => (nomatch hres)) ?_
  intro s a s' _ hi _ hs
  have hset : ∀ (store : Store K IdempotencyState) (markedUntil : K → Nat) i k e,
      (e = none ∨ e = some (s.now + 1000 * l.processingLeaseSeconds)) →
        I ({ s with store := store, markedUntil := markedUntil }.setReserved i k e) := by
    intro store markedUntil i k e he j k' e' hres
    rw [setReserved_reserved] at hres
    split at hres
    · obtain rfl | rfl := he
      · cases hres
      · exact Nat.le_of_eq (Option.some.inj hres).symm
    · exact hi j k' e' hres
  cases a with
  | reserveIfNew i k o =>
    simp only [Reservations.step] at hs
    split at hs
    · obtain rfl := Option.some.inj hs
      cases o with
      | fault => exact hi
      | lost => exact hi
      | ok =>
        unfold Reservations.reserve
        dsimp only
        split
        · exact hset _ _ i k _ (.inr rfl)
        · exact hi
    · cases hs
  | markProcessed i k o =>
    simp only [Reservations.step] at hs
    split at hs
    · obtain rfl := Option.some.inj hs
      cases o with
      | fault => exact hi
      | lost => exact hi
      | ok => exact hset _ _ i k _ (.inl rfl)
    · cases hs
  | release i k o =>
    simp only [Reservations.step] at hs
    split at hs
    · obtain rfl := Option.some.inj hs
      cases o with
      | fault => exact hi
      | lost => exact hset _ s.markedUntil i k _ (.inl rfl)
      | ok => exact hset _ s.markedUntil i k _ (.inl rfl)
    · cases hs
  | tick d =>
    obtain rfl := Option.some.inj hs
    intro i k e hres
    exact Nat.le_trans (hi i k e hres) (by dsimp only; omega)

section Runs

def sampleLeases : Leases := ⟨60, 86400⟩

instance (s : Reservations Nat) (i k : Nat) : Decidable (s.Live i k) :=
  decidable_of_iff ((s.reserved i k).any (fun e => s.now < e) = true) (by
    simp [Live, Option.any_eq_true])

/-- A consumer that has lost its lease finds the event marked by the one that took over. -/
theorem exclusive_late : ∃ s, Run (system sampleLeases Nat) (OwnLease sampleLeases) (init Nat 0) s ∧
    s.now < s.markedUntil 1 ∧ Exclusive sampleLeases s := by
  obtain ⟨s, hs, ht⟩ := exists_run (T := system sampleLeases Nat) (OwnLease sampleLeases) (init Nat 0)
    (fun s a => match a with
      | .release i k _ => s.store.get s.now k != some .processing || decide (s.Live i k)
      | _ => true)
    [.reserveIfNew 0 1 .ok, .tick 61000, .reserveIfNew 1 1 .ok, .reserveIfNew 2 1 .ok,
      .markProcessed 1 1 .ok, .release 0 1 .ok]
    (fun s => decide (s.now < s.markedUntil 1))
    (fun s a hrun h => by
      cases a with
      | release i k o =>
        intro hprocessing
        dsimp only at h
        rw [hprocessing] at h
        exact .inl (by simpa using h)
      | markProcessed i k o =>
        intro j e hres
        have hle := reserved_le hrun j k e hres
        simp only [sampleLeases] at hle ⊢
        omega
      | _ => trivial)
    (by decide)
  exact ⟨s, hs, of_decide_eq_true ht, exclusive_of_ownLease hs⟩

/-- A consumer that has lost its lease releases the reservation of the one that took over. -/
theorem not_exclusive_expired : ¬ ∀ (now : Nat) (s : Reservations Nat),
    Run (system sampleLeases Nat) (fun _ _ => True) (init Nat now) s → Exclusive sampleLeases s := by
  intro hall
  obtain ⟨s, hs, ht⟩ := exists_run (T := system sampleLeases Nat) (fun _ _ => True) (init Nat 0)
    (fun _ _ => true)
    [.reserveIfNew 0 1 .ok, .tick 61000, .reserveIfNew 1 1 .ok, .release 0 1 .ok,
      .reserveIfNew 2 1 .ok]
    (fun s => decide (s.Live 1 1 ∧ s.Live 2 1)) (fun _ _ _ _ => trivial) (by decide)
  obtain ⟨h₁, h₂⟩ := of_decide_eq_true ht
  have heq := (hall 0 s hs).one 1 2 1 h₁ h₂
  contradiction

end Runs

end Reservations

end RailwayBooking.Redis
