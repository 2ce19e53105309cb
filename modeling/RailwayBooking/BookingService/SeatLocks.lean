import Mathlib.Data.List.Dedup
import RailwayBooking.BookingService.Operations
import RailwayBooking.Concurrency.Transition

namespace RailwayBooking.BookingService

open Concurrency System

/-- A request without leg indices is for the whole schedule. -/
def SeatLocksArgs.legs (args : SeatLocksArgs) : List Nat := args.legIndices.getD []

def SeatLocksArgs.whole (args : SeatLocksArgs) : Bool := args.legs.isEmpty

/-- Two requests for one seat of a schedule whose legs have a part in common. -/
structure SeatLocksArgs.Overlap (a b : SeatLocksArgs) : Prop where
  schedule : a.scheduleId = b.scheduleId
  seat : ∃ seatId ∈ a.seatIds, seatId ∈ b.seatIds
  legs : a.whole = true ∨ b.whole = true ∨ ∃ leg ∈ a.legs, leg ∈ b.legs

/-- The Redis locks with what the tokens have of them: when the locks run out that a token
was granted and has not released, and the requests that were granted. -/
structure SeatLocks where
  now : Nat
  store : Redis.Store SeatLockKey Uuid
  held : Uuid → SeatLockKey → Option Nat
  granted : List SeatLocksArgs

namespace SeatLocks

def choice : Redis.Outcome → Choice Reply
  | .ok => .ok
  | .fault => .fault
  | .lost => .lost

inductive Label
  | acquireSeatLocks (args : SeatLocksArgs) (ttlSeconds : Nat) (o : Redis.Outcome)
  | renewSeatLocks (args : SeatLocksArgs) (ttlSeconds : Nat) (o : Redis.Outcome)
  | releaseSeatLocks (args : SeatLocksArgs) (o : Redis.Outcome)
  | tick (d : Nat)

/-- The token counts on the locks of a request until they expire. -/
def hold (s : SeatLocks) (args : SeatLocksArgs) (expires : Option Nat) : SeatLocks :=
  { s with
    held := Function.update s.held args.lockToken
      (fun key => if key ∈ args.keys then expires else s.held args.lockToken key) }

/-- A statement of a call with the locks: the script runs on them, unless `o` befalls it. A
call of the lock service issues nothing else. -/
def answer (now : Nat) (o : Redis.Outcome) : (x : Stmt bookingService) →
    Redis.Store SeatLockKey Uuid → Except Err x.Ans × Redis.Store SeatLockKey Uuid
  | .aux a, store =>
    match ask ⟨now, 0, 0, ⟨0, 0⟩, store, .empty, none⟩ 0 a (choice o) with
    | some (r, e) => (r, e.seatLocks)
    | none => (.error .fault, store)
  | _, store => (.error .fault, store)

/-- Run a call of the lock service. -/
def call {α : Type} (s : SeatLocks) (o : Redis.Outcome) (p : BookingCode α) :
    Except Err α × SeatLocks :=
  let r := p.eval (answer s.now o) s.store
  (r.1, { s with store := r.2 })

def acquireSeatLocks (s : SeatLocks) (args : SeatLocksArgs) (ttlSeconds : Nat)
    (o : Redis.Outcome) : SeatLocks :=
  match s.call o (BookingService.acquireSeatLocks args ttlSeconds) with
  | (.ok true, s') =>
    { s'.hold args (some (s.now + 1000 * ttlSeconds)) with granted := args :: s.granted }
  | (_, s') => s'

def renewSeatLocks (s : SeatLocks) (args : SeatLocksArgs) (ttlSeconds : Nat) :
    Redis.Outcome → SeatLocks
  | .fault => s
  | .ok | .lost =>
    if args.seatIds.length = 0 then s
    else
      let r := Redis.seatRenew s.store s.now args.keys args.lockToken ttlSeconds
      let s' := { s with store := r.2 }
      if r.1 then s'.hold args (some (s.now + 1000 * ttlSeconds)) else s'

def releaseSeatLocks (s : SeatLocks) (args : SeatLocksArgs) (o : Redis.Outcome) : SeatLocks :=
  let s' := (s.call o (BookingService.releaseSeatLocks args)).2
  if o = .fault then s' else s'.hold args none

def step (s : SeatLocks) : Label → Option SeatLocks
  | .acquireSeatLocks args ttlSeconds o => some (s.acquireSeatLocks args ttlSeconds o)
  | .renewSeatLocks args ttlSeconds o => some (s.renewSeatLocks args ttlSeconds o)
  | .releaseSeatLocks args o => some (s.releaseSeatLocks args o)
  | .tick d => some { s with now := s.now + d }

def init (now : Nat) : SeatLocks := ⟨now, .empty, fun _ _ => none, []⟩

@[reducible] def system : System := ⟨SeatLocks, Label, step⟩

/-- The token has been granted the lock, has not released it, and it has not expired. -/
def Holds (s : SeatLocks) (token : Uuid) (key : SeatLockKey) : Prop :=
  ∃ expires, s.held token key = some expires ∧ s.now < expires

/-- Every lock that was granted for the request is held. -/
def HoldsAll (s : SeatLocks) (args : SeatLocksArgs) : Prop :=
  args ∈ s.granted ∧ ∀ key ∈ args.keys, s.Holds args.lockToken key

/-- No seat of a request is locked by another token in the other scope: for legs, where
the request is for the whole schedule, or the other way round. -/
def SameScope (s : SeatLocks) : Label → Prop
  | .acquireSeatLocks args _ _ => ∀ key token, s.store.get s.now key = some token →
      token ≠ args.lockToken → key.scheduleId = args.scheduleId → key.seatId ∈ args.seatIds →
        key.leg.isNone = args.whole
  | _ => True

def Backed (s : SeatLocks) : Prop :=
  ∀ token key expires, s.held token key = some expires → s.now < expires →
    s.store key = some ⟨token, expires⟩

def Scoped (s : SeatLocks) : Prop :=
  ∀ key key' token token', s.store.get s.now key = some token →
    s.store.get s.now key' = some token' → token ≠ token' → key.scheduleId = key'.scheduleId →
      key.seatId = key'.seatId → key.leg.isNone = key'.leg.isNone

theorem mem_keys {args : SeatLocksArgs} {key : SeatLockKey} : key ∈ args.keys ↔
    key.scheduleId = args.scheduleId ∧ key.seatId ∈ args.seatIds ∧
      if args.whole then key.leg = none else ∃ leg ∈ args.legs, key.leg = some leg := by
  obtain ⟨scheduleId, seatId, leg⟩ := key
  unfold SeatLocksArgs.keys getLockKeys
  change _ ∈ (if args.whole then _ else _) ↔ _
  split
  · simp only [List.mem_map, List.mem_insertionSort, SeatLockKey.mk.injEq]
    constructor
    · rintro ⟨id, hid, rfl, rfl, rfl⟩
      exact ⟨rfl, hid, rfl⟩
    · rintro ⟨rfl, hid, rfl⟩
      exact ⟨seatId, hid, rfl, rfl, rfl⟩
  · simp only [List.mem_flatMap, List.mem_map, List.mem_insertionSort, List.mem_dedup,
      SeatLockKey.mk.injEq]
    constructor
    · rintro ⟨id, hid, l, hl, rfl, rfl, rfl⟩
      exact ⟨rfl, hid, l, hl, rfl⟩
    · rintro ⟨rfl, hid, l, hl, rfl⟩
      exact ⟨seatId, hid, l, hl, rfl, rfl, rfl⟩

theorem isNone_of_mem_keys {args : SeatLocksArgs} {key : SeatLockKey} (h : key ∈ args.keys) :
    key.leg.isNone = args.whole := by
  obtain ⟨-, -, hleg⟩ := mem_keys.mp h
  cases hw : args.whole with
  | true =>
    rw [if_pos hw] at hleg
    rw [hleg]
    rfl
  | false =>
    rw [if_neg (by simp [hw])] at hleg
    obtain ⟨leg, -, hleg⟩ := hleg
    rw [hleg]
    rfl

theorem exists_common_key {a b : SeatLocksArgs} (h : a.Overlap b) (hs : a.whole = b.whole) :
    ∃ key ∈ a.keys, key ∈ b.keys := by
  obtain ⟨hsched, ⟨seatId, ha, hb⟩, hlegs⟩ := h
  cases hw : a.whole with
  | true =>
    refine ⟨⟨a.scheduleId, seatId, none⟩, mem_keys.mpr ⟨rfl, ha, ?_⟩, mem_keys.mpr ⟨hsched, hb, ?_⟩⟩
    · rw [if_pos hw]
    · rw [if_pos (by rw [← hs, hw])]
  | false =>
    rw [← hs, hw] at hlegs
    obtain ⟨leg, hla, hlb⟩ := (hlegs.resolve_left Bool.false_ne_true).resolve_left Bool.false_ne_true
    refine ⟨⟨a.scheduleId, seatId, some leg⟩, mem_keys.mpr ⟨rfl, ha, ?_⟩,
      mem_keys.mpr ⟨hsched, hb, ?_⟩⟩
    · rw [if_neg (by simp [hw])]
      exact ⟨leg, hla, rfl⟩
    · rw [if_neg (by simp [← hs, hw])]
      exact ⟨leg, hlb, rfl⟩

section Steps

variable {s s' : SeatLocks} {args : SeatLocksArgs} {ttl : Nat}

theorem hold_held {expires : Option Nat} {token : Uuid} {key : SeatLockKey} :
    (s.hold args expires).held token key =
      if token = args.lockToken ∧ key ∈ args.keys then expires else s.held token key := by
  change Function.update s.held args.lockToken _ token key = _
  rw [Function.update_apply]
  by_cases ht : token = args.lockToken
  · simp [ht]
  · simp [ht]

/-- What a call does to the locks: they are taken, given up in a refused script, renewed
or deleted, or nothing happens. -/
inductive Change (s : SeatLocks) (args : SeatLocksArgs) : Label → SeatLocks → Prop
  | same {a : Label} (granted : List SeatLocksArgs) : Change s args a { s with granted := granted }
  | taken {ttl : Nat} {o : Redis.Outcome} (store : Redis.Store SeatLockKey Uuid)
      (free : ∀ key ∈ args.keys, s.store.get s.now key = none)
      (set : ∀ key ∈ args.keys, store key = some ⟨args.lockToken, s.now + 1000 * ttl⟩)
      (others : ∀ key, key ∉ args.keys → store key = s.store key)
      {held : Uuid → SeatLockKey → Option Nat}
      (counted : held = s.held ∨ held = (s.hold args (some (s.now + 1000 * ttl))).held)
      (granted : List SeatLocksArgs) :
      Change s args (.acquireSeatLocks args ttl o) ⟨s.now, store, held, granted⟩
  | refused {ttl : Nat} {o : Redis.Outcome} (store : Redis.Store SeatLockKey Uuid)
      (kept : ∀ key, store key = s.store key ∨ (s.store.get s.now key = none ∧ store key = none)) :
      Change s args (.acquireSeatLocks args ttl o) { s with store := store }
  | renewed {ttl : Nat} {o : Redis.Outcome} (store : Redis.Store SeatLockKey Uuid)
      (owned : ∀ key ∈ args.keys, s.store.get s.now key = some args.lockToken)
      (set : ∀ key, store key =
        if key ∈ args.keys then some ⟨args.lockToken, s.now + 1000 * ttl⟩ else s.store key) :
      Change s args (.renewSeatLocks args ttl o)
        ({ s with store := store }.hold args (some (s.now + 1000 * ttl)))
  | released {o : Redis.Outcome} (store : Redis.Store SeatLockKey Uuid)
      (set : ∀ key, store key = if key ∈ args.keys ∧ s.store.get s.now key = some args.lockToken
        then none else s.store key) :
      Change s args (.releaseSeatLocks args o) ({ s with store := store }.hold args none)

theorem call_acquireSeatLocks (hseats : args.seatIds.length ≠ 0) (httl : 0 < ttl)
    (o : Redis.Outcome) :
    let r := Redis.seatLock s.store s.now args.keys args.lockToken ttl
    s.call o (BookingService.acquireSeatLocks args ttl) = match o with
      | .ok => (.ok r.1, { s with store := r.2 })
      | .fault => (.ok false, s)
      | .lost => (.ok false, { s with store := r.2 }) := by
  obtain ⟨n, rfl⟩ := Nat.exists_eq_succ_of_ne_zero httl.ne'
  rw [BookingService.acquireSeatLocks, if_neg hseats]
  cases o <;> rfl

theorem call_acquireSeatLocks_zero (hseats : args.seatIds.length ≠ 0) (o : Redis.Outcome) :
    s.call o (BookingService.acquireSeatLocks args 0) = (.ok false, s) := by
  rw [BookingService.acquireSeatLocks, if_neg hseats]
  rfl

theorem call_releaseSeatLocks (hseats : args.seatIds.length ≠ 0) (o : Redis.Outcome) :
    (s.call o (BookingService.releaseSeatLocks args)).2 = match o with
      | .fault => s
      | .ok | .lost =>
        { s with store := (Redis.seatUnlock s.store s.now args.keys args.lockToken).2 } := by
  rw [BookingService.releaseSeatLocks, if_neg hseats]
  cases o <;> rfl

theorem keys_nil (hseats : args.seatIds.length = 0) : args.keys = [] := by
  rw [List.eq_nil_iff_forall_not_mem]
  intro key hkey
  have hseat := (mem_keys.mp hkey).2.1
  rw [List.length_eq_zero_iff.mp hseats] at hseat
  cases hseat

theorem acquireSeatLocks_change (o : Redis.Outcome) :
    Change s args (.acquireSeatLocks args ttl o) (s.acquireSeatLocks args ttl o) := by
  rw [SeatLocks.acquireSeatLocks]
  by_cases hseats : args.seatIds.length = 0
  · rw [BookingService.acquireSeatLocks, if_pos hseats]
    refine .taken s.store ?_ ?_ (fun _ _ => rfl) (.inr rfl) _
    · simp [keys_nil hseats]
    · simp [keys_nil hseats]
  obtain rfl | httl := Nat.eq_zero_or_pos ttl
  · rw [call_acquireSeatLocks_zero hseats]
    exact .same _
  rw [call_acquireSeatLocks hseats httl]
  cases o with
  | fault => exact .same _
  | lost =>
    cases hr : (Redis.seatLock s.store s.now args.keys args.lockToken ttl).1 with
    | true =>
      obtain ⟨hfree, hset, hothers⟩ := Redis.seatLock_taken httl hr
      exact .taken _ hfree hset hothers (.inl rfl) _
    | false => exact .refused _ (Redis.seatLock_refused httl hr)
  | ok =>
    dsimp only
    cases hr : (Redis.seatLock s.store s.now args.keys args.lockToken ttl).1 with
    | true =>
      obtain ⟨hfree, hset, hothers⟩ := Redis.seatLock_taken httl hr
      exact .taken _ hfree hset hothers (.inr rfl) _
    | false => exact .refused _ (Redis.seatLock_refused httl hr)

theorem renewSeatLocks_change (o : Redis.Outcome) :
    Change s args (.renewSeatLocks args ttl o) (s.renewSeatLocks args ttl o) := by
  have hrun : Change s args (.renewSeatLocks args ttl o) (s.renewSeatLocks args ttl .ok) := by
    by_cases hseats : args.seatIds.length = 0
    · rw [SeatLocks.renewSeatLocks, if_pos hseats]
      exact .same _
    · rw [SeatLocks.renewSeatLocks, if_neg hseats]
      dsimp only
      split
      · next hr =>
        obtain ⟨howned, hset⟩ := Redis.seatRenew_renewed hr
        exact .renewed _ howned hset
      · next hr =>
        rw [Redis.seatRenew_refused (by simpa using hr)]
        exact .same _
  cases o with
  | fault => exact .same _
  | ok => exact hrun
  | lost => exact hrun

theorem releaseSeatLocks_change (o : Redis.Outcome) :
    Change s args (.releaseSeatLocks args o) (s.releaseSeatLocks args o) := by
  rw [SeatLocks.releaseSeatLocks]
  by_cases hseats : args.seatIds.length = 0
  · have hcall : (s.call o (BookingService.releaseSeatLocks args)).2 = s := by
      rw [BookingService.releaseSeatLocks, if_pos hseats]
      rfl
    rw [hcall]
    cases o with
    | fault => exact .same _
    | ok | lost => exact .released s.store (by simp [keys_nil hseats])
  rw [call_releaseSeatLocks hseats]
  cases o with
  | fault => exact .same _
  | ok | lost => exact .released _ fun key => Redis.seatUnlock_apply key

theorem Backed.get (h : s.Backed) {token : Uuid} {key : SeatLockKey} {expires : Nat}
    (hheld : s.held token key = some expires) (hlt : s.now < expires) :
    s.store.get s.now key = some token :=
  Redis.Store.get_eq_some.mpr ⟨expires, h token key expires hheld hlt, hlt⟩

theorem Backed.change (h : s.Backed) {a : Label} (hc : Change s args a s') : s'.Backed := by
  cases hc with
  | same => exact h
  | taken store hfree hset hothers hcounted =>
    intro token key expires hheld hlt
    have hold : s.held token key = some expires → store key = some ⟨token, expires⟩ := by
      intro hheld
      rw [hothers]
      · exact h token key expires hheld hlt
      · intro hmem
        have hget := h.get hheld hlt
        rw [hfree key hmem] at hget
        cases hget
    obtain rfl | rfl := hcounted
    · exact hold hheld
    · rw [hold_held] at hheld
      split at hheld
      · next hmem =>
        rw [hmem.1, ← Option.some.inj hheld]
        exact hset key hmem.2
      · exact hold hheld
  | refused store hkept =>
    intro token key expires hheld hlt
    obtain hsame | ⟨hnone, -⟩ := hkept key
    · exact hsame.trans (h token key expires hheld hlt)
    · rw [h.get hheld hlt] at hnone
      cases hnone
  | renewed store howned hset =>
    intro token key expires hheld hlt
    change store key = some ⟨token, expires⟩
    rw [hold_held] at hheld
    split at hheld
    · next hmem => rw [hset, if_pos hmem.2, hmem.1, ← Option.some.inj hheld]
    · next hnot =>
      rw [hset, if_neg]
      · exact h token key expires hheld hlt
      · intro hmem
        exact hnot ⟨Option.some.inj ((h.get hheld hlt).symm.trans (howned key hmem)), hmem⟩
  | released store hset =>
    intro token key expires hheld hlt
    change store key = some ⟨token, expires⟩
    rw [hold_held] at hheld
    split at hheld
    · cases hheld
    · next hnot =>
      rw [hset, if_neg]
      · exact h token key expires hheld hlt
      · rintro ⟨hmem, howned⟩
        exact hnot ⟨Option.some.inj ((h.get hheld hlt).symm.trans howned), hmem⟩

theorem Change.get {a : Label} (hc : Change s args a s') {key : SeatLockKey} {token : Uuid}
    (hget : s'.store.get s'.now key = some token) : s.store.get s.now key = some token ∨
      (∃ ttl o, a = .acquireSeatLocks args ttl o) ∧ key ∈ args.keys ∧ token = args.lockToken := by
  obtain ⟨e, hkey, hlt⟩ := Redis.Store.get_eq_some.mp hget
  cases hc with
  | same => exact .inl hget
  | taken store _ hset hothers =>
    change store key = _ at hkey
    by_cases hmem : key ∈ args.keys
    · rw [hset key hmem] at hkey
      cases hkey
      exact .inr ⟨⟨_, _, rfl⟩, hmem, rfl⟩
    · rw [hothers key hmem] at hkey
      exact .inl (Redis.Store.get_eq_some.mpr ⟨e, hkey, hlt⟩)
  | refused store hkept =>
    change store key = _ at hkey
    obtain hsame | ⟨-, hnone⟩ := hkept key
    · rw [hsame] at hkey
      exact .inl (Redis.Store.get_eq_some.mpr ⟨e, hkey, hlt⟩)
    · rw [hnone] at hkey
      cases hkey
  | renewed store howned hset =>
    change store key = _ at hkey
    rw [hset] at hkey
    split at hkey
    · next hmem =>
      cases hkey
      exact .inl (howned key hmem)
    · exact .inl (Redis.Store.get_eq_some.mpr ⟨e, hkey, hlt⟩)
  | released store hset =>
    change store key = _ at hkey
    rw [hset] at hkey
    split at hkey
    · cases hkey
    · exact .inl (Redis.Store.get_eq_some.mpr ⟨e, hkey, hlt⟩)

theorem Scoped.change (h : s.Scoped) {a : Label} (hc : Change s args a s')
    (ha : SameScope s a) : s'.Scoped := by
  have hnew : ∀ key key' token', (∃ ttl o, a = .acquireSeatLocks args ttl o) → key ∈ args.keys →
      s.store.get s.now key' = some token' → token' ≠ args.lockToken →
        key.scheduleId = key'.scheduleId → key.seatId = key'.seatId →
          key.leg.isNone = key'.leg.isNone := by
    rintro key key' token' ⟨ttl, o, rfl⟩ hmem hget hne hsched hseat
    obtain ⟨hs, hseats, -⟩ := mem_keys.mp hmem
    rw [isNone_of_mem_keys hmem]
    rw [hseat] at hseats
    exact (ha key' token' hget hne (hsched.symm.trans hs) hseats).symm
  intro key key' token token' hk hk' hne hsched hseat
  obtain hk | ⟨hacq, hmem, rfl⟩ := hc.get hk
  · obtain hk' | ⟨hacq, hmem', rfl⟩ := hc.get hk'
    · exact h key key' token token' hk hk' hne hsched hseat
    · exact (hnew key' key token hacq hmem' hk hne hsched.symm hseat.symm).symm
  · obtain hk' | ⟨_, _, rfl⟩ := hc.get hk'
    · exact hnew key key' token' hacq hmem hk' hne.symm hsched hseat
    · exact absurd rfl hne

theorem step_cases {a : Label} (hs : s.step a = some s') :
    (∃ args, Change s args a s') ∨ ∃ d, a = .tick d ∧ s' = { s with now := s.now + d } := by
  cases a with
  | acquireSeatLocks args ttl o =>
    obtain rfl := Option.some.inj hs
    exact .inl ⟨args, acquireSeatLocks_change o⟩
  | renewSeatLocks args ttl o =>
    obtain rfl := Option.some.inj hs
    exact .inl ⟨args, renewSeatLocks_change o⟩
  | releaseSeatLocks args o =>
    obtain rfl := Option.some.inj hs
    exact .inl ⟨args, releaseSeatLocks_change o⟩
  | tick d =>
    obtain rfl := Option.some.inj hs
    exact .inr ⟨d, rfl, rfl⟩

theorem Backed.step (h : s.Backed) {a : Label} (hs : s.step a = some s') : s'.Backed := by
  obtain ⟨args, hc⟩ | ⟨d, -, rfl⟩ := step_cases hs
  · exact h.change hc
  · intro token key expires hheld hlt
    exact h token key expires hheld (Nat.lt_of_le_of_lt (Nat.le_add_right _ d) hlt)

theorem Scoped.step (h : s.Scoped) {a : Label} (ha : SameScope s a) (hs : s.step a = some s') :
    s'.Scoped := by
  obtain ⟨args, hc⟩ | ⟨d, -, rfl⟩ := step_cases hs
  · exact h.change hc ha
  · intro key key' token token' hk hk'
    exact h key key' token token' (Redis.Store.get_earlier (Nat.le_add_right _ d) hk)
      (Redis.Store.get_earlier (Nat.le_add_right _ d) hk')

theorem Backed.get_of_holds (h : s.Backed) {token : Uuid} {key : SeatLockKey}
    (hk : s.Holds token key) : s.store.get s.now key = some token := by
  obtain ⟨expires, hheld, hlt⟩ := hk
  exact h.get hheld hlt

theorem exists_seat_key (args : SeatLocksArgs) {seatId : Id} (hseat : seatId ∈ args.seatIds) :
    ∃ key ∈ args.keys, key.scheduleId = args.scheduleId ∧ key.seatId = seatId := by
  cases hw : args.whole with
  | true =>
    refine ⟨⟨args.scheduleId, seatId, none⟩, mem_keys.mpr ⟨rfl, hseat, ?_⟩, rfl, rfl⟩
    rw [if_pos hw]
  | false =>
    obtain ⟨leg, hleg⟩ := List.exists_mem_of_ne_nil args.legs (by
      rintro hnil
      simp [SeatLocksArgs.whole, hnil] at hw)
    refine ⟨⟨args.scheduleId, seatId, some leg⟩, mem_keys.mpr ⟨rfl, hseat, ?_⟩, rfl, rfl⟩
    rw [if_neg (by simp [hw])]
    exact ⟨leg, hleg, rfl⟩

end Steps

/-- Where no seat is locked in two scopes at once, tokens that hold all their locks were
not granted overlapping journeys. -/
theorem exclusive_of_sameScope {now : Nat} {s : SeatLocks} (h : Run system SameScope (init now) s)
    {a b : SeatLocksArgs} (ha : s.HoldsAll a) (hb : s.HoldsAll b)
    (hne : a.lockToken ≠ b.lockToken) : ¬ a.Overlap b := by
  have hbacked : s.Backed := h.invariant (fun _ _ _ hx => (nomatch hx)) fun _ _ _ _ hi _ hs =>
    hi.step hs
  have hscoped : s.Scoped := h.invariant (fun _ _ _ _ hx => (nomatch hx)) fun _ _ _ _ hi ha hs =>
    hi.step ha hs
  intro hover
  obtain ⟨seatId, hseata, hseatb⟩ := hover.seat
  obtain ⟨key, hkey, hsched, hseat⟩ := exists_seat_key a hseata
  obtain ⟨key', hkey', hsched', hseat'⟩ := exists_seat_key b hseatb
  have hscope : a.whole = b.whole := by
    rw [← isNone_of_mem_keys hkey, ← isNone_of_mem_keys hkey']
    apply hscoped key key' _ _ (hbacked.get_of_holds (ha.2 key hkey))
      (hbacked.get_of_holds (hb.2 key' hkey')) hne
    · rw [hsched, hsched', hover.schedule]
    · rw [hseat, hseat']
  -- the owner of a common key is both tokens
  obtain ⟨common, hka, hkb⟩ := exists_common_key hover hscope
  apply hne
  exact Option.some.inj ((hbacked.get_of_holds (ha.2 common hka)).symm.trans
    (hbacked.get_of_holds (hb.2 common hkb)))

section Uniform

/-- All requests have the same scope. -/
def Uniform (whole : Bool) (_ : SeatLocks) : Label → Prop
  | .acquireSeatLocks args _ _ => args.whole = whole
  | _ => True

theorem run_sameScope {whole : Bool} {now : Nat} {s : SeatLocks}
    (h : Run system (Uniform whole) (init now) s) : Run system SameScope (init now) s ∧
      ∀ key token, s.store.get s.now key = some token → key.leg.isNone = whole := by
  let I (s : SeatLocks) : Prop := Run system SameScope (init now) s ∧
    ∀ key token, s.store.get s.now key = some token → key.leg.isNone = whole
  refine h.invariant (I := I) ⟨.start, fun _ _ hget => (nomatch hget)⟩ ?_
  rintro s a s' - ⟨hrun, hall⟩ ha hs
  constructor
  · refine hrun.step ?_ hs
    cases a with
    | acquireSeatLocks args ttl o =>
      intro key token hget _ _ _
      rw [hall key token hget]
      exact Eq.symm ha
    | _ => trivial
  · intro key token hget
    obtain ⟨args, hc⟩ | ⟨d, -, rfl⟩ := step_cases hs
    · obtain hget | ⟨⟨ttl, o, rfl⟩, hmem, -⟩ := hc.get hget
      · exact hall key token hget
      · rw [isNone_of_mem_keys hmem]
        exact ha
    · exact hall key token (Redis.Store.get_earlier (Nat.le_add_right _ d) hget)

end Uniform

section Runs

deriving instance DecidableEq for SeatLocksArgs

instance (s : SeatLocks) (token : Uuid) (key : SeatLockKey) : Decidable (s.Holds token key) :=
  decidable_of_iff ((s.held token key).any (fun expires => s.now < expires) = true) (by
    simp [Holds, Option.any_eq_true])

instance (s : SeatLocks) (args : SeatLocksArgs) : Decidable (s.HoldsAll args) :=
  inferInstanceAs (Decidable (_ ∧ _))

def sampleArgs (token : Uuid) (legIndices : Option (List Nat)) : SeatLocksArgs :=
  ⟨1, [11], token, legIndices⟩

/-- Two bookings lock one seat for different legs, and a third is refused. -/
theorem exclusive_legs : ∃ s, Run system SameScope (init 0) s ∧
    s.HoldsAll (sampleArgs ⟨1, 0⟩ (some [1, 2])) ∧ s.HoldsAll (sampleArgs ⟨2, 0⟩ (some [3])) ∧
      s.granted.length = 2 ∧
      ¬ (sampleArgs ⟨1, 0⟩ (some [1, 2])).Overlap (sampleArgs ⟨2, 0⟩ (some [3])) := by
  obtain ⟨s, hs, ht⟩ := exists_run (T := system) (Uniform false) (init 0)
    (fun _ a => match a with
      | .acquireSeatLocks args _ _ => !args.whole
      | _ => true)
    [.acquireSeatLocks (sampleArgs ⟨1, 0⟩ (some [1, 2])) 600 .ok,
      .acquireSeatLocks (sampleArgs ⟨2, 0⟩ (some [3])) 600 .ok,
      .acquireSeatLocks (sampleArgs ⟨3, 0⟩ (some [2, 3])) 600 .ok]
    (fun s => decide (s.HoldsAll (sampleArgs ⟨1, 0⟩ (some [1, 2])) ∧
      s.HoldsAll (sampleArgs ⟨2, 0⟩ (some [3])) ∧ s.granted.length = 2))
    (fun s a _ h => by
      cases a with
      | acquireSeatLocks args ttl o =>
        change args.whole = false
        simpa using h
      | _ => trivial)
    (by decide)
  obtain ⟨ha, hb, hlen⟩ := of_decide_eq_true ht
  have hrun := (run_sameScope hs).1
  exact ⟨s, hrun, ha, hb, hlen, exclusive_of_sameScope hrun ha hb (by decide)⟩

/-- The whole schedule and one leg of it are locked by different keys. -/
theorem not_exclusive : ¬ ∀ (now : Nat) (s : SeatLocks),
    Run system (fun _ _ => True) (init now) s → ∀ a b, s.HoldsAll a → s.HoldsAll b →
      a.lockToken ≠ b.lockToken → ¬ a.Overlap b := by
  intro hall
  obtain ⟨s, hs, ht⟩ := exists_run (T := system) (fun _ _ => True) (init 0) (fun _ _ => true)
    [.acquireSeatLocks (sampleArgs ⟨1, 0⟩ none) 600 .ok,
      .acquireSeatLocks (sampleArgs ⟨2, 0⟩ (some [1])) 600 .ok]
    (fun s => decide (s.HoldsAll (sampleArgs ⟨1, 0⟩ none) ∧
      s.HoldsAll (sampleArgs ⟨2, 0⟩ (some [1]))))
    (fun _ _ _ _ => trivial) (by decide)
  obtain ⟨ha, hb⟩ := of_decide_eq_true ht
  exact hall 0 s hs _ _ ha hb (by decide)
    ⟨rfl, ⟨11, List.mem_cons_self, List.mem_cons_self⟩, .inl rfl⟩

end Runs

end SeatLocks

end RailwayBooking.BookingService
