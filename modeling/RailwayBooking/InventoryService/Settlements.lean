import RailwayBooking.Concurrency.Alone
import RailwayBooking.InventoryService.NoDoubleBooking

namespace RailwayBooking.InventoryService

open Concurrency

/-- The two ways to settle the allocations of a booking. -/
inductive Settlement
  | confirm
  | cancel
  deriving DecidableEq

namespace Settlement

def eventKey : Settlement → EventId → EventKey
  | confirm => .confirm
  | cancel => .cancel

def status : Settlement → AllocationStatus
  | confirm => .confirmed
  | cancel => .cancelled

/-- The statuses in which an allocation is settled. -/
def sources : Settlement → List AllocationStatus
  | confirm => [.held]
  | cancel => [.held, .confirmed]

def call (e : SeatLifecycleEventArgs) : Settlement → Call
  | confirm => .confirmSeats e
  | cancel => .cancelSeats e

variable (k : Settlement) (b : Uuid) (d : Db)

/-- The allocations that are settled. -/
def rows : List SeatAllocation := allocationsIn d b k.sources

end Settlement

/-- What an event that is worked on alone leaves of the tables. -/
structure Settles (k : Settlement) (e : SeatLifecycleEventArgs) (d d' : Db) : Prop where
  recorded : k.eventKey e.eventId ∈ d.idempotency → d' = d
  keys : ∀ x, x ∈ d'.idempotency ↔ x ∈ d.idempotency ∨ x = k.eventKey e.eventId
  allocations : k.eventKey e.eventId ∉ d.idempotency →
    d'.allocations = d.allocations.map (SeatAllocation.settled (k.rows e.bookingId d) k.status)

section Code

variable {i : Nat} {c : Call} {σ σ₁ : Shared inventoryService Call} {h : Nat} {t : InventoryTx}

/-- No row is locked, and the next transaction is new. -/
structure Calm (σ : Shared inventoryService Call) : Prop where
  tidy : σ.Tidy
  unlocked : ∀ k, σ.locked k = none

theorem Calm.rests (hσ : Calm σ) (h : σ.Rests σ₁) : Calm σ₁ where
  tidy := h.tidy hσ.tidy
  unlocked k := by
    rw [h.locked]
    exact hσ.unlocked k

theorem ends_sql (hσ : Calm σ) (ht : σ.Holds i t) {q : Sql} {a : Rows q} {ws : List Write}
    {ks : List Key} (hrun : run q (t.view σ.world.db) = .ok (a, ws, ks)) :
    ∃ t', Ends i c (Code.sql (V := inventoryService) (some h) q) (σ.put h t) (.ok a)
      (σ.put h t') ∧ σ.Holds i t' ∧ t'.writes = t.writes ++ ws :=
  exists_inside ht hrun fun k _ => hσ.unlocked k

def settleTransaction (site : Site) (key : EventKey) (b : Uuid) (settles : SeatAllocation → Bool)
    (update : Nat → InventoryCode Nat) (row : SeatAllocation → SeatAllocationHistory) :
    InventoryCode Unit :=
  Code.transaction (V := inventoryService) site (fun tx => do
    let processed ← existsKey (some tx) key
    if processed then pure ()
    else do
      let allocations ← findByBookingId (some tx) b
      let rows := allocations.filter settles
      if rows.length = 0 then createKey (some tx) key
      else do
        let _ ← update tx
        createHistoryMany (some tx) (rows.map row)
        createKey (some tx) key)

theorem view_history {rows : List SeatAllocation} {s : AllocationStatus}
    {history : List (List SeatAllocationHistory)}
    (hw : t.writes = setStatuses rows s ++ history.map .history) (d : Db) :
    (t.view d).idempotency = d.idempotency := by
  rw [view_eq, applyAll_idempotency, hw, List.filterMap_append, setStatuses_eventKey,
    history_eventKey, List.append_nil, List.append_nil]

variable {k : Settlement} {e : SeatLifecycleEventArgs}

theorem ends_settleTransaction (site : Site) (settles : SeatAllocation → Bool)
    (update : Nat → InventoryCode Nat) (row : SeatAllocation → SeatAllocationHistory) (hσ : Calm σ)
    (hnew : k.eventKey e.eventId ∉ σ.world.db.idempotency)
    (hsettles : ∀ a, settles a = k.sources.contains a.status)
    (hupdate : ∀ {σ : Shared inventoryService Call} {t : InventoryTx} (h : Nat), Calm σ →
      σ.Holds i t → t.writes = [] → ∃ n t', Ends i c (update h) (σ.put h t) (.ok n) (σ.put h t') ∧
        σ.Holds i t' ∧ t'.writes = setStatuses (k.rows e.bookingId σ.world.db) k.status) :
    ∃ σ', Ends i c (settleTransaction site (k.eventKey e.eventId) e.bookingId settles update row) σ
      (.ok ()) σ' ∧ σ.Rests σ' ∧ Settles k e σ.world.db σ'.world.db := by
  let σ₁ := σ.moveTo σ.world (σ.next + 1)
  have hr : σ.Rests σ₁ := Shared.rests_moveTo _ (Nat.le_succ _)
  have hσ₁ : Calm σ₁ := hσ.rests hr
  have hnew₁ : k.eventKey e.eventId ∉ σ₁.world.db.idempotency := hnew
  -- whatever the transaction has written before it records the key
  have hend : ∀ t rows history, σ₁.Holds i t → rows = k.rows e.bookingId σ.world.db →
      t.writes = setStatuses rows k.status ++ List.map .history history → ∃ t',
        Ends i c (createKey (some σ.next) (k.eventKey e.eventId)) (σ₁.put σ.next t) (.ok ())
          (σ₁.put σ.next t') ∧ σ₁.Holds i t' ∧
        Settles k e σ.world.db (t'.view σ.world.db) := by
    intro t rows history ht hrows hw
    have hkey : run (.createKey (k.eventKey e.eventId)) (t.view σ₁.world.db) =
        .ok ((), [.idempotency (k.eventKey e.eventId)], []) := by
      rw [run, view_history hw, if_neg]
      simpa using hnew₁
    obtain ⟨t', he, ht', hw'⟩ := ends_sql (c := c) (h := σ.next) hσ₁ ht hkey
    rw [hw] at hw'
    obtain ⟨has, hkeys, -⟩ := view_settled hw' σ.world.db
    refine ⟨t', he, ht', fun hk => absurd hk hnew, fun x => ?_, fun _ => ?_⟩
    · rw [hkeys, List.mem_append, List.mem_singleton]
    · rw [has, hrows]
  have hbody : ∃ t, Ends i c (do
      let processed ← existsKey (some σ.next) (k.eventKey e.eventId)
      if processed then pure ()
      else do
        let allocations ← findByBookingId (some σ.next) e.bookingId
        let rows := allocations.filter settles
        if rows.length = 0 then createKey (some σ.next) (k.eventKey e.eventId)
        else do
          let _ ← update σ.next
          createHistoryMany (some σ.next) (rows.map row)
          createKey (some σ.next) (k.eventKey e.eventId))
      (σ₁.put σ.next (Tx.start i site)) (.ok ()) (σ₁.put σ.next t) ∧ σ₁.Holds i t ∧
        Settles k e σ.world.db (t.view σ.world.db) := by
    have hexists : run (.existsKey (k.eventKey e.eventId))
        ((Tx.start (V := inventoryService) i site).view σ₁.world.db) = .ok (false, [], []) := by
      have hfalse : σ₁.world.db.idempotency.contains (k.eventKey e.eventId) = false := by
        simpa using hnew₁
      rw [view_nothing rfl, run, hfalse]
    obtain ⟨t₁, he₁, ht₁, hw₁⟩ := ends_sql (c := c) (h := σ.next) hσ₁
      (Shared.holds_start i site) hexists
    have hw₁ : t₁.writes = [] := hw₁
    have hfind : run (.findByBookingId e.bookingId) (t₁.view σ₁.world.db) =
        .ok (σ.world.db.allocations.filter (fun a => a.bookingId = e.bookingId), [], []) := by
      rw [view_nothing hw₁]
      rfl
    obtain ⟨t₂, he₂, ht₂, hw₂⟩ := ends_sql (c := c) (h := σ.next) hσ₁ ht₁ hfind
    have hw₂ : t₂.writes = [] := by rw [hw₂, hw₁, List.append_nil]
    have hrows : (σ.world.db.allocations.filter (fun a => a.bookingId = e.bookingId)).filter
        settles = k.rows e.bookingId σ.world.db := by
      rw [Settlement.rows, allocationsIn, List.filter_filter]
      apply List.filter_congr
      intro a _
      rw [hsettles, Bool.and_comm]
    by_cases hnone : (k.rows e.bookingId σ.world.db).length = 0
    · obtain ⟨t₃, he₃, ht₃, hs⟩ := hend t₂ [] [] ht₂ (List.length_eq_zero_iff.mp hnone).symm
        (by rw [hw₂]; rfl)
      refine ⟨t₃, he₁.bind (he₂.bind ?_), ht₃, hs⟩
      rw [hrows, if_pos hnone]
      exact he₃
    · obtain ⟨n, t₃, he₃, ht₃, hw₃⟩ := hupdate σ.next hσ₁ ht₂ hw₂
      obtain ⟨t₄, he₄, ht₄, hw₄⟩ := ends_sql (c := c) (h := σ.next) hσ₁ ht₃
        (q := .createHistoryMany ((k.rows e.bookingId σ.world.db).map row)) rfl
      obtain ⟨t₅, he₅, ht₅, hs⟩ := hend t₄ _ [(k.rows e.bookingId σ.world.db).map row] ht₄ rfl
        (by rw [hw₄, hw₃]; rfl)
      refine ⟨t₅, he₁.bind (he₂.bind ?_), ht₅, hs⟩
      rw [hrows, if_neg hnone]
      exact he₃.bind (he₄.bind he₅)
  obtain ⟨t, hb, ht, hs⟩ := hbody
  exact ⟨_, ends_transaction hσ.tidy hr ht hb, ⟨hr.txs, hr.locked, hr.next⟩, hs⟩

theorem ends_unlessRecorded {work : InventoryCode Unit}
    (hwork : k.eventKey e.eventId ∉ σ.world.db.idempotency → ∃ σ', Ends i c work σ (.ok ()) σ' ∧
      σ.Rests σ' ∧ Settles k e σ.world.db σ'.world.db) :
    ∃ σ', Ends i c (do
        let processed ← existsKey none (k.eventKey e.eventId)
        if processed then pure () else work) σ (.ok ()) σ' ∧
      σ.Rests σ' ∧ Settles k e σ.world.db σ'.world.db := by
  have hread : Ends i c (existsKey none (k.eventKey e.eventId)) σ
      (.ok (σ.world.db.idempotency.contains (k.eventKey e.eventId))) σ := ends_read rfl
  by_cases hk : k.eventKey e.eventId ∈ σ.world.db.idempotency
  · refine ⟨σ, hread.bind ?_, .refl σ, fun _ => rfl, fun x => ?_, fun hnew => absurd hk hnew⟩
    · rw [List.contains_iff_mem.mpr hk]
      exact ends_ret ()
    · exact ⟨.inl, fun hx => hx.elim id fun hx => hx ▸ hk⟩
  · obtain ⟨σ', he, hr, hs⟩ := hwork hk
    refine ⟨σ', hread.bind ?_, hr, hs⟩
    rw [show σ.world.db.idempotency.contains (k.eventKey e.eventId) = false by simpa using hk]
    exact he

theorem ends_confirmSeats (hσ : Calm σ) : ∃ σ', Ends i c (confirmSeats e) σ (.ok ()) σ' ∧
    σ.Rests σ' ∧ Settles .confirm e σ.world.db σ'.world.db := by
  refine ends_unlessRecorded (k := .confirm) fun hnew => ?_
  refine ends_settleTransaction (k := .confirm) .confirm (fun a => a.status = .held)
    (fun tx => updateManyStatusByBooking (some tx) e.bookingId .confirmed)
    (historyRow .confirmed "Booking payment confirmed") hσ hnew
    (fun a => ?_) fun {σ t} h hσ ht hw => ?_
  · simp [Settlement.sources]
  · obtain ⟨t', he, ht', hw'⟩ := ends_sql (c := c) (h := h) hσ ht
      (q := .updateManyStatusByBooking e.bookingId .confirmed) rfl
    refine ⟨_, t', he, ht', ?_⟩
    rw [hw', hw, view_nothing hw]
    rfl

theorem ends_cancelSeats (hσ : Calm σ) : ∃ σ', Ends i c (cancelSeats e) σ (.ok ()) σ' ∧
    σ.Rests σ' ∧ Settles .cancel e σ.world.db σ'.world.db := by
  refine ends_unlessRecorded (k := .cancel) fun hnew => ?_
  refine ends_settleTransaction (k := .cancel) .cancel (fun a => a.status.active)
    (fun tx => updateManyStatusByBookingAndStatuses (some tx) e.bookingId .cancelled
      [.held, .confirmed])
    (historyRow .cancelled "Booking cancelled / payment failed") hσ hnew
    (fun a => ?_) fun {σ t} h hσ ht hw => ?_
  · cases a.status <;> rfl
  · obtain ⟨t', he, ht', hw'⟩ := ends_sql (c := c) (h := h) hσ ht
      (q := .updateManyStatusByBookingAndStatuses e.bookingId .cancelled [.held, .confirmed]) rfl
    refine ⟨_, t', he, ht', ?_⟩
    rw [hw', hw, view_nothing hw]
    rfl

theorem serve_settlement {p : Pool machine} (hp : Calm p.shared) (k : Settlement)
    (e : SeatLifecycleEventArgs) : ∃ σ', p.serve (k.call e) = some (.ok .done, σ') ∧ Calm σ' ∧
      Settles k e p.world.db σ'.world.db := by
  cases k with
  | confirm =>
    obtain ⟨σ', he, hr, hs⟩ := ends_confirmSeats (i := p.threads.length) (c := .confirmSeats e)
      (e := e) hp
    exact ⟨σ', he.bind (ends_ret _), hp.rests hr, hs⟩
  | cancel =>
    obtain ⟨σ', he, hr, hs⟩ := ends_cancelSeats (i := p.threads.length) (c := .cancelSeats e)
      (e := e) hp
    exact ⟨σ', he.bind (ends_ret _), hp.rests hr, hs⟩

end Code

section Sequences

variable {b : Uuid} {d d' : Db}

/-- A settlement of booking `b` for an event. -/
abbrev Step := Settlement × EventId

/-- The step is not recorded yet. -/
def Fresh (d : Db) (x : Step) : Prop := x.1.eventKey x.2 ∉ d.idempotency

instance : DecidablePred (Fresh d) := fun _ => inferInstanceAs (Decidable (¬ _))

def finalStatus (d : Db) (xs : List Step) : AllocationStatus :=
  if ∃ x ∈ xs, x.1 = .cancel ∧ Fresh d x then .cancelled
  else if ∃ x ∈ xs, x.1 = .confirm ∧ Fresh d x then .confirmed
  else .held

/-- The allocations of the booking that were held have the status `s`, and those of other
bookings are as they were. -/
def Settled (b : Uuid) (d : Db) (s : AllocationStatus) (d' : Db) : Prop :=
  ∃ f : SeatAllocation → SeatAllocation, d'.allocations = d.allocations.map f ∧
    ∀ a ∈ d.allocations, (a.bookingId = b → a.status = .held → f a = { a with status := s }) ∧
      (a.bookingId ≠ b → f a = a)

section Rows

variable {k : Settlement} {a : SeatAllocation}

theorem mem_rows : a ∈ k.rows b d ↔
    a ∈ d.allocations ∧ a.bookingId = b ∧ a.status ∈ k.sources := by
  simp [Settlement.rows, allocationsIn]

theorem settled_other (hb : a.bookingId ≠ b) (s : AllocationStatus) :
    a.settled (k.rows b d) s = a := by
  apply if_neg
  intro hid
  obtain ⟨r, hr, hid⟩ := List.mem_map.mp hid
  exact hb ((congrArg AllocationId.bookingId hid).symm.trans (mem_rows.mp hr).2.1)

theorem settled_source (h : a ∈ k.rows b d) (s : AllocationStatus) :
    a.settled (k.rows b d) s = { a with status := s } :=
  if_pos (List.mem_map_of_mem h)

theorem status_settled (ha : a ∈ d.allocations) (hb : a.bookingId = b) :
    (a.settled (k.rows b d) k.status).status ∉ k.sources := by
  rw [SeatAllocation.settled_status]
  split
  · cases k <;> simp [Settlement.status, Settlement.sources]
  · next hid =>
    intro hs
    exact hid (List.mem_map_of_mem (mem_rows.mpr ⟨ha, hb, hs⟩))

end Rows

theorem eventKey_inj {x y : Step} (h : x.1.eventKey x.2 = y.1.eventKey y.2) : x = y := by
  obtain ⟨k, id⟩ := x
  obtain ⟨k', id'⟩ := y
  cases k <;> cases k' <;> cases h <;> rfl

def advance (s : AllocationStatus) : Settlement → AllocationStatus
  | .cancel => .cancelled
  | .confirm => if s = .held then .confirmed else s

theorem exists_append {P : Step → Prop} {xs : List Step} {x : Step} :
    (∃ y ∈ xs ++ [x], P y) ↔ (∃ y ∈ xs, P y) ∨ P x := by
  simp [or_and_right, exists_or]

theorem finalStatus_append (d : Db) (xs : List Step) (x : Step) : finalStatus d (xs ++ [x]) =
    if Fresh d x then advance (finalStatus d xs) x.1 else finalStatus d xs := by
  obtain ⟨k, id⟩ := x
  simp only [finalStatus, exists_append]
  by_cases hf : Fresh d (k, id)
  · by_cases hc : ∃ x ∈ xs, x.1 = .cancel ∧ Fresh d x
    · cases k <;> simp [advance, hf, hc]
    · by_cases hc' : ∃ x ∈ xs, x.1 = .confirm ∧ Fresh d x
      · cases k <;> simp [advance, hf, hc, hc']
      · cases k <;> simp [advance, hf, hc, hc']
  · simp only [hf, and_false, or_false, if_false]

theorem finalStatus_repeated {xs : List Step} {x : Step} (hx : x ∈ xs) :
    finalStatus d (xs ++ [x]) = finalStatus d xs := by
  have hmem : ∀ P : Step → Prop, ((∃ y ∈ xs, P y) ∨ P x) = ∃ y ∈ xs, P y := by
    intro P
    exact propext ⟨fun h => h.elim id fun hP => ⟨x, hx, hP⟩, .inl⟩
  simp only [finalStatus, exists_append, hmem]

/-- The tables after the steps `xs`. -/
structure Progress (b : Uuid) (d : Db) (xs : List Step) (d' : Db) : Prop where
  keys : ∀ k, k ∈ d'.idempotency ↔ k ∈ d.idempotency ∨ ∃ x ∈ xs, k = x.1.eventKey x.2
  settled : Settled b d (finalStatus d xs) d'
  unheld : finalStatus d xs ≠ .held → ∀ a ∈ d'.allocations, a.bookingId = b → a.status ≠ .held
  inactive : finalStatus d xs = .cancelled → ∀ a ∈ d'.allocations, a.bookingId = b →
    a.status ≠ .confirmed

theorem progress_nil : Progress b d [] d where
  keys k := by simp
  settled := by
    refine ⟨id, (List.map_id _).symm, fun a _ => ⟨fun _ hs => ?_, fun _ => rfl⟩⟩
    obtain ⟨_, _, _, _, _, _, _, s, _, _⟩ := a
    cases hs
    rfl
  unheld h := absurd rfl h
  inactive h := by cases h

section Advance

variable {xs : List Step} {k : Settlement} (h : Progress b d xs d')

include h

theorem Progress.rows_eq_nil (hs : finalStatus d xs ∉ k.sources) : k.rows b d' = [] := by
  apply List.eq_nil_iff_forall_not_mem.mpr
  intro a hrow
  obtain ⟨ha, hb, hstatus⟩ := mem_rows.mp hrow
  cases k with
  | confirm =>
    have hne : finalStatus d xs ≠ .held := fun he => hs (he ▸ List.mem_singleton_self _)
    exact h.unheld hne a ha hb (List.mem_singleton.mp hstatus)
  | cancel =>
    have hfinal : finalStatus d xs = .cancelled := by
      unfold finalStatus at hs ⊢
      split at hs
      · exact if_pos ‹_›
      · split at hs <;> exact absurd (by simp [Settlement.sources]) hs
    obtain hx | hx := List.mem_cons.mp hstatus
    · exact h.unheld (by rw [hfinal]; intro hx; cases hx) a ha hb hx
    · exact h.inactive hfinal a ha hb (List.mem_singleton.mp hx)

theorem Progress.moved {a : SeatAllocation} (hb : a.bookingId = b)
    (hm : { a with status := finalStatus d xs } ∈ d'.allocations) :
    SeatAllocation.settled (k.rows b d') k.status { a with status := finalStatus d xs } =
      { a with status := advance (finalStatus d xs) k } := by
  by_cases hs : finalStatus d xs ∈ k.sources
  · rw [settled_source (mem_rows.mpr ⟨hm, hb, hs⟩)]
    cases k with
    | cancel => rfl
    | confirm =>
      rw [advance, if_pos (List.mem_singleton.mp hs)]
      rfl
  · rw [h.rows_eq_nil hs]
    have hadv : advance (finalStatus d xs) k = finalStatus d xs := by
      cases k with
      | confirm =>
        refine if_neg fun he => hs ?_
        rw [he]
        exact List.mem_singleton_self _
      | cancel =>
        unfold finalStatus at hs ⊢
        split at hs
        · rw [if_pos ‹_›]
          rfl
        · split at hs <;> exact absurd (by simp [Settlement.sources]) hs
    rw [hadv]
    rfl

theorem Progress.step {id : EventId} {d'' : Db} (hs : Settles k ⟨id, b⟩ d' d'') :
    Progress b d (xs ++ [(k, id)]) d'' := by
  have hkeys : ∀ x, x ∈ d''.idempotency ↔
      x ∈ d.idempotency ∨ ∃ y ∈ xs ++ [(k, id)], x = y.1.eventKey y.2 := by
    intro x
    rw [hs.keys, h.keys, exists_append, or_assoc]
  by_cases hrec : k.eventKey id ∈ d'.idempotency
  · have hsame : finalStatus d (xs ++ [(k, id)]) = finalStatus d xs := by
      obtain hold | ⟨y, hy, he⟩ := (h.keys _).mp hrec
      · rw [finalStatus_append, if_neg (fun hf => hf hold)]
      · exact finalStatus_repeated (eventKey_inj (x := (k, id)) he ▸ hy)
    obtain rfl := hs.recorded hrec
    exact ⟨hkeys, hsame ▸ h.settled, hsame ▸ h.unheld, hsame ▸ h.inactive⟩
  · have hfresh : Fresh d (k, id) := fun hold => hrec ((h.keys _).mpr (.inl hold))
    have hnext : finalStatus d (xs ++ [(k, id)]) = advance (finalStatus d xs) k := by
      rw [finalStatus_append, if_pos hfresh]
    have has := hs.allocations hrec
    have hrows : ∀ a ∈ d''.allocations, a.bookingId = b → a.status ∉ k.sources := by
      intro a ha hb
      rw [has] at ha
      obtain ⟨a', ha', rfl⟩ := List.mem_map.mp ha
      exact status_settled ha' ((a'.settled_bookingId _ _).symm.trans hb)
    refine ⟨hkeys, ?_, ?_, ?_⟩
    · obtain ⟨f, hf, hmoved⟩ := h.settled
      refine ⟨fun a => (f a).settled (k.rows b d') k.status, ?_, fun a ha => ⟨fun hb hheld => ?_,
        fun hb => ?_⟩⟩
      · rw [has, hf, List.map_map]
        rfl
      · have hfa := (hmoved a ha).1 hb hheld
        have hm : f a ∈ d'.allocations := hf ▸ List.mem_map_of_mem ha
        rw [hnext]
        dsimp only
        rw [hfa] at hm ⊢
        exact h.moved hb hm
      · dsimp only
        rw [(hmoved a ha).2 hb]
        exact settled_other hb _
    · intro _ a ha hb hheld
      apply hrows a ha hb
      cases k <;> simp [Settlement.sources, hheld]
    · intro hfinal a ha hb hconf
      cases k with
      | cancel => exact hrows a ha hb (by simp [Settlement.sources, hconf])
      | confirm =>
        -- the booking was cancelled before, so the confirmation finds nothing
        have hbefore : finalStatus d xs = .cancelled := by
          rw [hnext, advance] at hfinal
          split at hfinal
          · cases hfinal
          · exact hfinal
        have hnil := h.rows_eq_nil (k := .confirm) (by rw [hbefore]; simp [Settlement.sources])
        rw [has, hnil] at ha
        obtain ⟨a', ha', rfl⟩ := List.mem_map.mp ha
        exact h.inactive hbefore a' ha' hb hconf

end Advance

/-- The calls of the steps for booking `b`. -/
def calls (b : Uuid) (xs : List Step) : List Call := xs.map (fun x => x.1.call ⟨x.2, b⟩)

theorem serveAll_progress {p : Pool machine} (hp : Calm p.shared) {xs ys : List Step}
    (h : Progress b d xs p.world.db) : ∃ p', p.serveAll (calls b ys) = some p' ∧
      Progress b d (xs ++ ys) p'.world.db := by
  induction ys generalizing xs p with
  | nil =>
    rw [List.append_nil]
    exact ⟨p, rfl, h⟩
  | cons y ys ih =>
    obtain ⟨σ', hserve, hσ', hs⟩ := serve_settlement hp y.1 ⟨y.2, b⟩
    obtain ⟨p', hp', hprog⟩ := ih (p := p.served (y.1.call ⟨y.2, b⟩) (.ok .done, σ')) hσ' (h.step hs)
    refine ⟨p', ?_, ?_⟩
    · rw [calls, List.map_cons, Pool.serveAll, hserve]
      exact hp'
    · rwa [List.append_assoc, List.singleton_append] at hprog

theorem calm_init (d : Db) (e : Env) : Calm (Pool.init (M := machine) d e).shared where
  tidy := ⟨fun _ _ ht => (by cases ht), fun _ _ hk => (by cases hk)⟩
  unlocked _ := rfl

/-- Confirmations and cancellations of one booking, whatever their order and however often each
is repeated, leave its held allocations in a status that only the set of new events
determines, and the allocations of the other bookings as they were. -/
theorem settled_of_steps (d : Db) (e : Env) (b : Uuid) (xs : List Step) :
    ∃ p, (Pool.init (M := machine) d e).serveAll (calls b xs) = some p ∧
      Settled b d (finalStatus d xs) p.world.db := by
  obtain ⟨p, hp, h⟩ := serveAll_progress (calm_init d e) (progress_nil (b := b))
  exact ⟨p, hp, h.settled⟩

/-- A cancellation that came before the hold is recorded. When its event is delivered again
the seats stay held. -/
theorem not_settled_of_cancel : ¬ ∀ (p p' : Pool machine) (b : Uuid) (xs : List Step),
    Reachable (Scope.calls fun _ => True) (start sampleProjection 0) p →
      (∃ a ∈ p.world.db.allocations, a.bookingId = b ∧ a.status = .held) →
      (∃ x ∈ xs, x.1 = .cancel) → p.serveAll (calls b xs) = some p' →
      Settled b p.world.db .cancelled p'.world.db := by
  intro hall
  have hrun : ((start sampleProjection 0).serveAll
      (calls ⟨8, 0⟩ [(.cancel, .random ⟨4, 0⟩)] ++ [.holdSeats (sampleHold ⟨8, 0⟩ 1 3)])).any
      (fun p => (p.serveAll (calls ⟨8, 0⟩ [(.cancel, .random ⟨4, 0⟩)])).any (fun p' =>
        decide (p.world.db.allocations.map (fun a => (a.bookingId, a.status)) =
            [(⟨8, 0⟩, .held)] ∧
          p'.world.db.allocations.map SeatAllocation.status = [.held]))) = true := by
    decide +kernel
  obtain ⟨p, hp, hrun⟩ := (Option.any_eq_true _ _).mp hrun
  obtain ⟨p', hp', hrun⟩ := (Option.any_eq_true _ _).mp hrun
  obtain ⟨hheld, hheld'⟩ := of_decide_eq_true hrun
  obtain ⟨a, has, ha⟩ := List.map_eq_singleton_iff.mp hheld
  obtain ⟨hb, hs⟩ := Prod.mk.inj ha
  have hmem : a ∈ p.world.db.allocations := has ▸ List.mem_singleton_self a
  obtain ⟨f, hf, hmoved⟩ := hall p p' ⟨8, 0⟩ [(.cancel, .random ⟨4, 0⟩)]
    (reachable_serveAll .start (fun _ _ => trivial) hp) ⟨a, hmem, hb, hs⟩
    ⟨_, List.mem_singleton_self _, rfl⟩ hp'
  rw [hf, has, List.map_singleton, List.map_singleton, (hmoved a hmem).1 hb hs] at hheld'
  cases hheld'

end Sequences

end RailwayBooking.InventoryService
