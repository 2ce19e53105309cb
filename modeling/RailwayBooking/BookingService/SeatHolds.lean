import RailwayBooking.Concurrency.Ledger
import RailwayBooking.BookingService.SagaSound

namespace RailwayBooking.BookingService

open Concurrency

section Locks

/-- The token that has a lock. -/
def Env.lock (e : Env) (k : SeatLockKey) : Option Uuid := e.seatLocks.get e.now k

/-- No token that call `i` has drawn has a lock. -/
def Env.Unlocked (e : Env) (i : Nat) : Prop := ∀ k token, e.lock k = some token → token.source ≠ i

/-- Call `i` has no locks but those of its request. -/
def Env.Locks (e : Env) (i : Nat) (keys : List SeatLockKey) (token : Uuid) : Prop :=
  ∀ k token', e.lock k = some token' → token'.source = i → k ∈ keys ∧ token' = token

/-- What an operation does to the locks. -/
inductive LocksChange (e e' : Env) : (a : Aux) → Choice Reply → Except Err (AuxAns a) → Prop
  | other {a : Aux} {ch : Choice Reply} {r : Except Err (AuxAns a)}
      (lock : ∀ keys token ttl, a ≠ .lockSeats keys token ttl)
      (unlock : ∀ keys token, a ≠ .unlockSeats keys token) (locks : e'.lock = e.lock) :
      LocksChange e e' a ch r
  | refused {keys : List SeatLockKey} {token : Uuid} {ttl : Nat} {ch : Choice Reply}
      {r : Except Err Bool} (answer : r ≠ .ok true) (locks : e'.lock = e.lock) :
      LocksChange e e' (.lockSeats keys token ttl) ch r
  | taken {keys : List SeatLockKey} {token : Uuid} {ttl : Nat} {ch : Choice Reply}
      {r : Except Err Bool} (ttl_pos : 0 < ttl)
      (free : (Redis.seatLock e.seatLocks e.now keys token ttl).1 = true)
      (answer : ch = .lost ∨ r = .ok true)
      (locks : ∀ k, e'.lock k = if k ∈ keys then some token else e.lock k) :
      LocksChange e e' (.lockSeats keys token ttl) ch r
  | faulted {keys : List SeatLockKey} {token : Uuid} {r : Except Err Nat} (locks : e'.lock = e.lock) :
      LocksChange e e' (.unlockSeats keys token) .fault r
  | released {keys : List SeatLockKey} {token : Uuid} {ch : Choice Reply} {r : Except Err Nat}
      (locks : ∀ k, e'.lock k = if k ∈ keys ∧ e.lock k = some token then none else e.lock k) :
      LocksChange e e' (.unlockSeats keys token) ch r

variable {e e' : Env} {i : Nat} {ch : Choice Reply} {keys : List SeatLockKey} {token : Uuid}
  {ttl : Nat}

theorem lock_taken (httl : 0 < ttl)
    (h : (Redis.seatLock e.seatLocks e.now keys token ttl).1 = true) (k : SeatLockKey) :
    Env.lock { e with seatLocks := (Redis.seatLock e.seatLocks e.now keys token ttl).2 } k =
      if k ∈ keys then some token else e.lock k := by
  obtain ⟨-, hset, hothers⟩ := Redis.seatLock_taken httl h
  by_cases hk : k ∈ keys
  · rw [if_pos hk]
    have hlt : e.now < e.now + 1000 * ttl := by omega
    exact Redis.Store.get_eq_some.mpr ⟨_, hset k hk, hlt⟩
  · rw [if_neg hk]
    exact Redis.Store.get_congr (hothers k hk)

theorem lock_refused (httl : 0 < ttl)
    (h : (Redis.seatLock e.seatLocks e.now keys token ttl).1 = false) :
    Env.lock { e with seatLocks := (Redis.seatLock e.seatLocks e.now keys token ttl).2 } =
      e.lock := by
  funext k
  obtain hsame | ⟨hnone, hdel⟩ := Redis.seatLock_refused httl h k
  · exact Redis.Store.get_congr hsame
  · exact (Redis.Store.get_of_none hdel).trans hnone.symm

theorem lock_released (k : SeatLockKey) :
    Env.lock { e with seatLocks := (Redis.seatUnlock e.seatLocks e.now keys token).2 } k =
      if k ∈ keys ∧ e.lock k = some token then none else e.lock k := by
  have h : (Redis.seatUnlock e.seatLocks e.now keys token).2 k = _ := Redis.seatUnlock_apply k
  by_cases hk : k ∈ keys ∧ e.lock k = some token
  · rw [if_pos hk]
    exact Redis.Store.get_of_none (h.trans (if_pos hk))
  · rw [if_neg hk]
    exact Redis.Store.get_congr (h.trans (if_neg hk))

theorem effect_cases {α : Type} {e₁ : Env} {a : α} {r : Except Err α}
    (h : e.effect a e' ch = (r, e₁)) : (ch = .fault ∧ e₁ = e ∧ r = .error .fault) ∨
      (ch = .lost ∧ e₁ = e' ∧ r = .error .fault) ∨ (e₁ = e' ∧ r = .ok a) := by
  cases ch with
  | fault =>
    cases h
    exact .inl ⟨rfl, rfl, rfl⟩
  | lost =>
    cases h
    exact .inr (.inl ⟨rfl, rfl, rfl⟩)
  | ok =>
    cases h
    exact .inr (.inr ⟨rfl, rfl⟩)
  | reply x =>
    cases h
    exact .inr (.inr ⟨rfl, rfl⟩)

theorem ask_seatLocks {a : Aux} {r : Except Err (AuxAns a)} (h : ask e i a ch = some (r, e'))
    (hlock : ∀ keys token ttl, a ≠ .lockSeats keys token ttl)
    (hunlock : ∀ keys token, a ≠ .unlockSeats keys token) : e'.lock = e.lock := by
  unfold ask at h
  split at h <;> simp only [Option.some.injEq, Prod.mk.injEq, reduceCtorEq, Option.map_eq_some_iff,
    Option.ite_none_right_eq_some] at h
  all_goals first
    | (obtain ⟨-, rfl⟩ := h; rfl)
    | (obtain ⟨_, _, -, rfl⟩ := h; rfl)
    | exact absurd rfl (hlock _ _ _)
    | exact absurd rfl (hunlock _ _)
    | (obtain ⟨-, rfl, -⟩ | ⟨-, rfl, -⟩ | ⟨rfl, -⟩ := effect_cases h <;> rfl)

theorem locksChange_ask {a : Aux} {r : Except Err (AuxAns a)} (h : ask e i a ch = some (r, e')) :
    LocksChange e e' a ch r := by
  by_cases hlock : ∃ keys token ttl, a = .lockSeats keys token ttl
  · obtain ⟨keys, token, ttl, rfl⟩ := hlock
    cases ttl with
    | zero =>
      cases h
      exact .refused nofun rfl
    | succ n =>
      have hpos : 0 < n + 1 := Nat.succ_pos n
      cases hr : (Redis.seatLock e.seatLocks e.now keys token (n + 1)).1 with
      | true =>
        obtain ⟨-, rfl, rfl⟩ | ⟨hch, rfl, rfl⟩ | ⟨rfl, rfl⟩ := effect_cases (Option.some.inj h)
        · exact .refused nofun rfl
        · exact .taken hpos hr (.inl hch) (lock_taken hpos hr)
        · exact .taken hpos hr (.inr (congrArg _ hr)) (lock_taken hpos hr)
      | false =>
        obtain ⟨-, rfl, rfl⟩ | ⟨hch, rfl, rfl⟩ | ⟨rfl, rfl⟩ := effect_cases (Option.some.inj h)
        · exact .refused nofun rfl
        · exact .refused nofun (lock_refused hpos hr)
        · exact .refused (by rw [hr]; exact nofun) (lock_refused hpos hr)
  by_cases hunlock : ∃ keys token, a = .unlockSeats keys token
  · obtain ⟨keys, token, rfl⟩ := hunlock
    obtain ⟨rfl, rfl, -⟩ | ⟨-, rfl, -⟩ | ⟨rfl, -⟩ := effect_cases (Option.some.inj h)
    · exact .faulted rfl
    · exact .released lock_released
    · exact .released lock_released
  push Not at hlock hunlock
  exact .other hlock hunlock (ask_seatLocks h hlock hunlock)

theorem LocksChange.lock {a : Aux} {r : Except Err (AuxAns a)} (h : LocksChange e e' a ch r)
    {k : SeatLockKey} {token' : Uuid} (hk : e'.lock k = some token') : e.lock k = some token' ∨
      ∃ keys ttl, a = .lockSeats keys token' ttl ∧ k ∈ keys := by
  cases h with
  | other _ _ hsame | refused _ hsame | faulted hsame => exact .inl (hsame ▸ hk)
  | taken _ _ _ hlocks =>
    rw [hlocks] at hk
    split at hk
    · next hmem =>
      obtain rfl := Option.some.inj hk
      exact .inr ⟨_, _, rfl, hmem⟩
    · exact .inl hk
  | released hlocks =>
    rw [hlocks] at hk
    split at hk
    · cases hk
    · exact .inl hk

theorem lock_tick (d : Nat) {k : SeatLockKey}
    (h : Env.lock { e with now := e.now + d } k = some token) :
    e.lock k = some token :=
  Redis.Store.get_earlier (Nat.le_add_right _ d) h

theorem Env.Unlocked.mono (h : e.Unlocked i)
    (hlock : ∀ k token, e'.lock k = some token → e.lock k = some token ∨ token.source ≠ i) :
    e'.Unlocked i := by
  intro k token hk
  obtain hold | hnew := hlock k token hk
  · exact h k token hold
  · exact hnew

theorem Env.Locks.mono (h : e.Locks i keys token)
    (hlock : ∀ k token, e'.lock k = some token → e.lock k = some token ∨ token.source ≠ i) :
    e'.Locks i keys token := by
  intro k token' hk hs
  obtain hold | hnew := hlock k token' hk
  · exact h k token' hold hs
  · exact absurd hs hnew

end Locks

section Phases

/-- How far a call has come with its locks and its booking: it has no locks, it has those of
its request, it has written its booking in an open transaction, or the booking is there. -/
inductive Phase
  | free
  | held (keys : List SeatLockKey) (token : Uuid)
  | writing (keys : List SeatLockKey) (token : Uuid) (h : Nat)
  | booked

namespace Phase

/-- Once its transaction has ended without a booking. -/
def closed : Phase → Phase
  | .writing keys token _ => .held keys token
  | g => g

def committed : Phase → Phase
  | .writing _ _ _ => .booked
  | g => g

def written (h : Nat) : Phase → Phase
  | .held keys token => .writing keys token h
  | g => g

def after (g : Phase) : (s : Stmt bookingService) → Except Err s.Ans → Phase
  | .commit _, .ok _ => g.committed
  | .commit _, .error _ => g.closed
  | .rollback _, _ => g.closed
  | .sql (some _) (.findIdempotencyKey _), .ok (some _) => .free
  | .sql (some h) (.create _), .ok _ => g.written h
  | .aux (.lockSeats keys token _), .ok true => .held keys token
  | .aux (.unlockSeats _ _), _ => .free
  | _, _ => g

/-- A call takes locks with a token of its own and gives back those it has. It commits
nothing while it has locks, unless it has written its booking. -/
def may (i : Nat) (g : Phase) : Stmt bookingService → Prop
  | .begin _ => ∀ keys token h, g ≠ .writing keys token h
  | .commit h => g = .free ∨ ∃ keys token, g = .writing keys token h
  | .aux (.lockSeats _ token _) => g = .free ∧ token.source = i
  | .aux (.unlockSeats keys token) => g = .free ∨ g = .held keys token
  | _ => True

def can (i : Nat) : (s : Stmt bookingService) → Except Err s.Ans → Prop
  | .aux .randomUUID, .ok uuid => uuid.source = i
  | _, _ => True

/-- The ledger of call `i`. -/
def ledger (i : Nat) : Ledger bookingService Phase := ⟨may i, can i, after⟩

def Done (g : Phase) : Prop := g = .free ∨ g = .booked

def Within (keys : List SeatLockKey) (token : Uuid) (g : Phase) : Prop :=
  g = .free ∨ g = .held keys token

end Phase

section Code

open Phase

variable {i : Nat} {g : Phase} {keys : List SeatLockKey} {token : Uuid} {h : Nat}
  {userId : Id} {dto : CreateBookingDto}

theorem still_aux {a : Aux} (hmay : g.may i (.aux a)) (hafter : ∀ r, g.after (.aux a) r = g) :
    Still (ledger i) g (Code.aux (V := bookingService) a) :=
  still_issue hmay hafter

theorem still_validateBooking {scheduleId fromStationId toStationId : Id} :
    Still (ledger i) g (validateBooking scheduleId fromStationId toStationId) := by
  refine Still.bind (Still.attempt (still_aux trivial fun _ => rfl) fun _ => rfl) (fun _ => rfl) ?_
  intro status
  cases status <;> rfl

theorem still_resolveSeatInventoryIds {scheduleId : Id} {seatIds : List Id} :
    Still (ledger i) g (resolveSeatInventoryIds scheduleId seatIds) := by
  refine Still.attempt (Still.bind (still_aux trivial fun _ => rfl) (fun _ => rfl) fun seats => ?_)
    fun _ => rfl
  split
  · exact rfl
  · split <;> exact rfl

def Phase.Opened (keys : List SeatLockKey) (token : Uuid) (h : Nat) (g : Phase) : Prop :=
  g = .free ∨ g = .held keys token ∨ g = .writing keys token h

theorem Phase.Opened.closed (hg : g.Opened keys token h) : g.closed.Within keys token := by
  obtain rfl | rfl | rfl := hg
  · exact .inl rfl
  · exact .inr rfl
  · exact .inr rfl

theorem Phase.Within.opened (hg : g.Within keys token) : g.Opened keys token h :=
  hg.imp_right .inl

theorem follows_createBookingTransaction {bookingId : Uuid} {ids : List Id} {holdTtlMs : Nat}
    (hg : g.Within keys token) :
    Follows (ledger i) (fun _ => Done) (fun _ => Within keys token)
      (createBookingTransaction userId dto bookingId ids holdTtlMs) g := by
  refine follows_transaction ?_ (fun e => hg) fun h => ?_
  · rintro keys' token' h' rfl
    obtain hg | hg := hg <;> cases hg
  have herr : ∀ {g : Phase} (e : Err), g.Opened keys token h →
      (ledger i).may g (.rollback h) ∧ g.closed.Within keys token ∧
        ∀ _ : Err, g.closed.Within keys token :=
    fun _ hg => ⟨trivial, hg.closed, fun _ => hg.closed⟩
  refine follows_seq trivial (fun found _ => ?_) fun e _ => herr e hg.opened
  cases found with
  | some existing => exact ⟨.inl rfl, .inl rfl, fun _ => .inl rfl⟩
  | none =>
    refine Still.bind (still_aux trivial fun _ => rfl) (fun e => herr e hg.opened) fun pnr => ?_
    refine follows_seq trivial (fun booking _ => ?_) fun e _ => herr e hg.opened
    change Follows _ _ _ _ (g.written h)
    have hw : g.written h = .free ∨ g.written h = .writing keys token h := by
      obtain rfl | rfl := hg
      · exact .inl rfl
      · exact .inr rfl
    generalize g.written h = g at hw
    have ho : g.Opened keys token h := hw.imp_right .inr
    have hX := fun e : Err => herr e ho
    refine Still.bind (still_issue trivial fun _ => rfl) hX fun _ => ?_
    refine Still.bind (still_issue trivial fun _ => rfl) hX fun _ => ?_
    refine Still.bind (still_aux trivial fun _ => rfl) hX fun eventId => ?_
    refine Still.bind (still_issue trivial fun _ => rfl) hX fun _ => ?_
    refine Still.bind (still_issue trivial fun _ => rfl) hX fun _ => ?_
    refine Still.bind (still_issue trivial fun _ => rfl) hX fun _ => ?_
    refine Still.bind (still_issue trivial fun _ => rfl) hX fun _ => ?_
    refine Still.bind (still_aux trivial fun _ => rfl) hX fun holdEventId => ?_
    refine Still.bind (still_issue trivial fun _ => rfl) hX fun _ => ?_
    refine Still.bind (still_issue trivial fun _ => rfl) hX fun _ => ?_
    obtain rfl | rfl := hw
    · exact ⟨.inl rfl, .inl rfl, fun _ => .inl rfl⟩
    · exact ⟨.inr ⟨keys, token, rfl⟩, .inr rfl, fun _ => .inr rfl⟩

theorem follows_acquireSeatLocks {args : SeatLocksArgs} {ttl : Nat} (hs : args.lockToken.source = i) :
    Follows (ledger i) (fun acquired g => if acquired then g.Within args.keys args.lockToken
      else g = .free) (fun _ g => g = .free) (acquireSeatLocks args ttl) .free := by
  unfold acquireSeatLocks
  split
  · exact .inl rfl
  · have hlock : Follows (ledger i) (fun acquired g => if acquired then
        g.Within args.keys args.lockToken else g = .free) (fun _ g => g = .free)
        (Code.aux (V := bookingService) (.lockSeats args.keys args.lockToken ttl)) .free := by
      refine follows_issue ⟨rfl, hs⟩ (fun acquired _ => ?_) fun _ _ => rfl
      cases acquired with
      | true => exact .inr rfl
      | false => exact rfl
    exact hlock.attempt fun _ _ hg => hg

theorem follows_releaseSeatLocks {args : SeatLocksArgs} (hg : g.Within args.keys args.lockToken)
    (hne : args.seatIds ≠ []) :
    Follows (ledger i) (fun _ => Done) (fun _ => Done) (releaseSeatLocks args) g := by
  unfold releaseSeatLocks
  rw [if_neg (by simpa using hne)]
  have hunlock : Follows (ledger i) (fun _ => Done) (fun _ => Done)
      (Code.aux (V := bookingService) (.unlockSeats args.keys args.lockToken)) g :=
    follows_issue hg (fun _ _ => .inl rfl) fun _ _ => .inl rfl
  exact hunlock.attempt fun _ _ hg => hg

theorem follows_createBooking :
    Follows (ledger i) (fun _ => Done) (fun _ => Done) (createBooking userId dto) .free := by
  refine Still.bind (still_issue trivial fun _ => rfl) (fun _ => .inl rfl) fun found => ?_
  cases found with
  | some existing => exact .inl rfl
  | none =>
    refine Still.bind still_validateBooking (fun _ => .inl rfl) fun _ => ?_
    refine Still.bind still_resolveSeatInventoryIds (fun _ => .inl rfl) fun ids => ?_
    refine follows_seq trivial (fun bookingId hsource => ?_) fun _ _ => .inl rfl
    refine Still.bind (still_aux trivial fun _ => rfl) (fun _ => .inl rfl) fun holdTtlMs => ?_
    let locks : SeatLocksArgs := ⟨dto.scheduleId, dto.seatIds, bookingId, dto.legs⟩
    have hs : locks.lockToken.source = i := hsource
    refine Follows.bind ((follows_acquireSeatLocks hs).mono (fun _ _ hq => hq)
      fun _ _ hx => .inl hx) fun acquired g hg => ?_
    cases acquired with
    | false => exact .inl hg
    | true =>
      refine Follows.attempt (follows_createBookingTransaction hg) fun e g hg => ?_
      refine Follows.bind (follows_releaseSeatLocks hg ?_) fun _ _ hg => hg
      exact List.ne_nil_of_length_pos dto.seatIds_length.1

end Code

end Phases

end RailwayBooking.BookingService
