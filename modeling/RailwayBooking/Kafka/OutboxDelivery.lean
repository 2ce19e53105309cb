import RailwayBooking.Kafka.OutboxMachine

namespace RailwayBooking.Kafka

open Concurrency OutboxPublisherWorker PostgresOutboxRepository

/-- What every row of the outbox satisfies, given the ids the broker has accepted. -/
structure OutboxRow.Healthy (sent : List Uuid) (r : OutboxRow) : Prop where
  published : r.status = .published → r.id ∈ sent
  retries : r.retryCount ≤ maxRetryCount
  failed : r.status = .failed → r.nextRetryAt.isSome = true ∧ r.retryCount < maxRetryCount
  dead : r.status = .dead ↔ r.retryCount = maxRetryCount

def recoveryDelay : Nat := 960000

structure OutboxRow.Timely (now : Nat) (r : OutboxRow) : Prop where
  updated : r.updatedAt ≤ now
  retry : ∀ t, r.status = .failed → r.nextRetryAt = some t → t ≤ now + recoveryDelay

namespace OutboxRow

theorem backoff_le (n : Nat) : backoff n ≤ recoveryDelay := by
  simp only [backoff, backoffDelayMs, recoveryDelay, List.getD_eq_getElem?_getD]
  match n with
  | 0 | 1 | 2 | 3 | 4 => simp
  | n + 5 => simp

theorem Healthy.mono {sent sent' : List Uuid} {r : OutboxRow} (h : r.Healthy sent)
    (hs : ∀ id ∈ sent, id ∈ sent') : r.Healthy sent' :=
  ⟨fun hp => hs _ (h.published hp), h.retries, h.failed, h.dead⟩

theorem Timely.later {now now' : Nat} {r : OutboxRow} (h : r.Timely now) (hn : now ≤ now') :
    r.Timely now' :=
  ⟨h.updated.trans hn, fun t hf ht => (h.retry t hf ht).trans (Nat.add_le_add_right hn _)⟩

theorem Healthy.open {sent : List Uuid} {r : OutboxRow} (h : r.Healthy sent)
    (hd : r.status ≠ .dead) : r.retryCount < maxRetryCount := by
  have hne : r.retryCount ≠ maxRetryCount := fun he => hd (h.dead.mpr he)
  have := h.retries
  omega

theorem Healthy.reopened {sent : List Uuid} {r : OutboxRow} (h : r.Healthy sent)
    (hd : r.status ≠ .dead) {s : OutboxStatus} (hs : s = .pending ∨ s = .processing)
    (now : Nat) (next : Option Nat) :
    ({ r with status := s, nextRetryAt := next, updatedAt := now } : OutboxRow).Healthy sent := by
  have hr := h.open hd
  obtain rfl | rfl := hs
  · exact ⟨nofun, h.retries, nofun, ⟨nofun, fun he => absurd he (Nat.ne_of_lt hr)⟩⟩
  · exact ⟨nofun, h.retries, nofun, ⟨nofun, fun he => absurd he (Nat.ne_of_lt hr)⟩⟩

end OutboxRow

namespace Outbox

/-- Rows are known by their ids, every row is healthy, and a worker marks only
what the broker has accepted. -/
structure Inv (s : Outbox) : Prop where
  ids : (s.rows.map OutboxRow.id).Nodup
  healthy : ∀ r ∈ s.rows, r.Healthy s.acceptedIds
  timely : ∀ r ∈ s.rows, r.Timely s.now
  marking : ∀ i e rest, s.polls i = .marking e rest → e.id ∈ s.acceptedIds

section Rows

variable {s : Outbox}

theorem Inv.rows (h : Inv s) {rows : List OutboxRow}
    (ho : rows.map OutboxRow.origin = s.rows.map OutboxRow.origin)
    (hr : ∀ r ∈ rows, r.Healthy s.acceptedIds ∧ r.Timely s.now) :
    Inv { s with rows := rows } where
  ids := by
    have hi := h.ids
    rw [map_id_origin] at hi ⊢
    rw [ho]
    exact hi
  healthy r hm := (hr r hm).1
  timely r hm := (hr r hm).2
  marking := h.marking

theorem Inv.both (h : Inv s) : ∀ r ∈ s.rows, r.Healthy s.acceptedIds ∧ r.Timely s.now :=
  fun r hr => ⟨h.healthy r hr, h.timely r hr⟩

theorem Inv.setPoll (h : Inv s) (i : Nat) {p : Poll}
    (hp : ∀ e rest, p = .marking e rest → e.id ∈ s.acceptedIds) : Inv (s.setPoll i p) where
  ids := h.ids
  healthy := h.healthy
  timely := h.timely
  marking j e rest hj := by
    rw [setPoll_polls] at hj
    split at hj
    · exact hp e rest hj
    · exact h.marking j e rest hj

theorem publishing_ne_marking (events : List OutboxEvent) (e : OutboxEvent)
    (rest : List OutboxEvent) : Poll.publishing events ≠ .marking e rest := by
  cases events <;> exact nofun

theorem Inv.claimPendingEvents (h : Inv s) (limit : Nat) (skipped : List Uuid)
    (claimant : Uuid → Option Nat) :
    Inv { s with
      rows := claimPendingEvents s.now limit skipped s.rows
      claimant := claimant } := by
  have hi := h.rows (claimPendingEvents_origin s.now s.rows limit skipped) (fun r' hr' => ?_)
  · exact ⟨hi.ids, hi.healthy, hi.timely, hi.marking⟩
  · obtain ⟨r, hr, ⟨hc, rfl⟩ | ⟨_, rfl⟩⟩ := mem_updateMany.mp hr'
    · have hp := claimed_pending h.ids hr (List.contains_iff_mem.mp hc)
      refine ⟨?_, ⟨le_rfl, nofun⟩⟩
      exact (h.healthy r hr).reopened (by rw [hp]; exact nofun) (.inr rfl) s.now r.nextRetryAt
    · exact h.both r' hr

theorem Inv.markPublished (h : Inv s) {id : Uuid} (hid : id ∈ s.acceptedIds) :
    Inv { s with rows := markPublished s.now id s.rows } := by
  refine h.rows (markPublished_origin s.now s.rows id) (fun r' hr' => ?_)
  obtain ⟨r, hr, ⟨hc, rfl⟩ | ⟨_, rfl⟩⟩ := mem_updateMany.mp hr'
  · simp only [Bool.and_eq_true, beq_iff_eq] at hc
    have hopen := (h.healthy r hr).open (by rw [hc.2]; exact nofun)
    exact ⟨⟨fun _ => hc.1 ▸ hid, (h.healthy r hr).retries, nofun,
      nofun, fun he => absurd he (Nat.ne_of_lt hopen)⟩, ⟨le_rfl, nofun⟩⟩
  · exact h.both r' hr

theorem Inv.markFailed (h : Inv s) (id : Uuid) (error : String) (currentRetryCount : Nat) :
    Inv { s with rows := markFailed s.now id error currentRetryCount s.rows } := by
  refine h.rows (markFailed_origin s.now s.rows id error currentRetryCount) ?_
  simp only [PostgresOutboxRepository.markFailed]
  split
  · intro r' hr'
    obtain ⟨r, hr, ⟨hc, rfl⟩ | ⟨_, rfl⟩⟩ := mem_updateMany.mp hr'
    · simp only [isCurrent, Bool.and_eq_true, beq_iff_eq] at hc
      have hopen := (h.healthy r hr).open (by rw [hc.1.2]; rintro ⟨⟩)
      have hlast : currentRetryCount + 1 = maxRetryCount := by omega
      exact ⟨⟨by rintro ⟨⟩, hlast.le, by rintro ⟨⟩, fun _ => hlast, fun _ => rfl⟩,
        ⟨le_rfl, by rintro t ⟨⟩⟩⟩
    · exact h.both r' hr
  · intro r' hr'
    obtain ⟨r, hr, ⟨hc, rfl⟩ | ⟨_, rfl⟩⟩ := mem_updateMany.mp hr'
    · have hlt : currentRetryCount + 1 < maxRetryCount := by omega
      refine ⟨⟨by rintro ⟨⟩, hlt.le, fun _ => ⟨rfl, hlt⟩, by rintro ⟨⟩, fun he => ?_⟩,
        ⟨le_rfl, fun t _ ht => ?_⟩⟩
      · exact absurd he (Nat.ne_of_lt hlt)
      · cases ht
        exact Nat.add_le_add_left (OutboxRow.backoff_le _) _
    · exact h.both r' hr

theorem Inv.requeueFailedEvents (h : Inv s) :
    Inv { s with rows := requeueFailedEvents s.now s.rows } := by
  refine h.rows (requeueFailedEvents_origin s.now s.rows) (fun r' hr' => ?_)
  obtain ⟨r, hr, ⟨hc, rfl⟩ | ⟨_, rfl⟩⟩ := mem_updateMany.mp hr'
  · simp only [isDue, Bool.and_eq_true, beq_iff_eq] at hc
    exact ⟨(h.healthy r hr).reopened (by rw [hc.1.1]; exact nofun) (.inl rfl) s.now none,
      ⟨le_rfl, nofun⟩⟩
  · exact h.both r' hr

theorem Inv.resetStuckProcessingEvents (h : Inv s) :
    Inv { s with rows := resetStuckProcessingEvents s.now s.rows } := by
  refine h.rows (resetStuckProcessingEvents_origin s.now s.rows) (fun r' hr' => ?_)
  obtain ⟨r, hr, ⟨hc, rfl⟩ | ⟨_, rfl⟩⟩ := mem_updateMany.mp hr'
  · simp only [isStuck, Bool.and_eq_true, beq_iff_eq] at hc
    exact ⟨(h.healthy r hr).reopened (by rw [hc.1]; exact nofun) (.inl rfl) s.now r.nextRetryAt,
      ⟨le_rfl, nofun⟩⟩
  · exact h.both r' hr

theorem Inv.insert (h : Inv s) {id : Uuid} (hid : id ∉ s.rows.map OutboxRow.id) (createdAt : Nat)
    (data : CreateOutboxEventData) :
    Inv { s with rows := s.rows ++ [OutboxRow.create id createdAt s.now data] } where
  ids := by
    rw [List.map_append, List.nodup_append]
    refine ⟨h.ids, List.nodup_singleton _, ?_⟩
    intro x hx y hy hxy
    have hy : y = id := List.mem_singleton.mp hy
    exact hid (hy ▸ hxy ▸ hx)
  healthy r hr := by
    obtain hr | hr := List.mem_append.mp hr
    · exact h.healthy r hr
    · obtain rfl := List.mem_singleton.mp hr
      exact ⟨nofun, Nat.zero_le _, nofun, nofun, nofun⟩
  timely r hr := by
    obtain hr | hr := List.mem_append.mp hr
    · exact h.timely r hr
    · obtain rfl := List.mem_singleton.mp hr
      exact ⟨le_rfl, nofun⟩
  marking := h.marking

theorem Inv.send (h : Inv s) (id : Uuid) (message : KafkaMessage) :
    Inv { s with accepted := s.accepted ++ [⟨id, message⟩] } := by
  have hsub : ∀ x ∈ s.acceptedIds,
      x ∈ ({ s with accepted := s.accepted ++ [⟨id, message⟩] } : Outbox).acceptedIds := by
    intro x hx
    rw [acceptedIds, List.map_append]
    exact List.mem_append_left _ hx
  exact ⟨h.ids, fun r hr => (h.healthy r hr).mono hsub, h.timely,
    fun i e rest hp => hsub _ (h.marking i e rest hp)⟩

theorem acceptedIds_send (id : Uuid) (message : KafkaMessage) :
    ({ s with accepted := s.accepted ++ [⟨id, message⟩] } : Outbox).acceptedIds =
      s.acceptedIds ++ [id] := by
  simp [acceptedIds]

end Rows

theorem inv_performs {s s' : Outbox} {i : Nat} {skipped : List Uuid} {o : Outcome} (h : Inv s)
    (hp : Performs s i skipped o s') : Inv s' := by
  cases hp with
  | claimed _ _ next =>
    apply (h.claimPendingEvents _ _ _).setPoll
    obtain rfl | rfl := next <;> exact nofun
  | refused _ => exact h.setPoll i nofun
  | connected _ next =>
    apply h.setPoll
    obtain rfl | rfl := next
    · exact nofun
    · exact fun e rest he => absurd he (publishing_ne_marking _ _ _)
  | sent _ _ next =>
    apply (h.send _ _).setPoll
    obtain rfl | ⟨error, rfl⟩ := next
    · intro e' rest' he
      cases he
      rw [acceptedIds_send]
      exact List.mem_append_right _ List.mem_cons_self
    · exact nofun
  | unsent _ => exact h.setPoll i nofun
  | marked point _ next =>
    apply (h.markPublished (h.marking i _ _ point)).setPoll
    obtain rfl | ⟨error, rfl⟩ := next
    · exact fun e rest he => absurd he (publishing_ne_marking _ _ _)
    · exact nofun
  | unmarked _ => exact h.setPoll i nofun
  | failed _ _ =>
    exact (h.markFailed _ _ _).setPoll i
      (fun e rest he => absurd he (publishing_ne_marking _ _ _))
  | unfailed _ =>
    exact h.setPoll i (fun e rest he => absurd he (publishing_ne_marking _ _ _))

theorem inv_step {s s' : Outbox} {a : Label} (h : Inv s) (hs : s.step a = some s') : Inv s' := by
  cases a with
  | insert id createdAt data =>
    simp only [step] at hs
    split at hs
    · next hc =>
      cases hs
      exact h.insert hc.2 createdAt data
    · cases hs
  | poll i =>
    simp only [step] at hs
    split at hs
    · cases hs
      exact h.setPoll i (by rintro e rest ⟨⟩)
    · cases hs
  | run i skipped o => exact inv_performs h (performs hs)
  | requeueFailedEvents =>
    cases hs
    exact h.requeueFailedEvents
  | resetStuckProcessingEvents =>
    cases hs
    exact h.resetStuckProcessingEvents
  | crash i =>
    cases hs
    exact h.setPoll i (by rintro e rest ⟨⟩)
  | tick d =>
    cases hs
    exact ⟨h.ids, h.healthy, fun r hr => (h.timely r hr).later (Nat.le_add_right _ _), h.marking⟩

theorem inv_init (now : Nat) : Inv (init now) where
  ids := List.nodup_nil
  healthy _ hr := absurd hr List.not_mem_nil
  timely _ hr := absurd hr List.not_mem_nil
  marking _ _ _ h := by cases h

theorem inv_run {ok : Outbox → Label → Prop} {now : Nat} {s : Outbox}
    (h : System.Run system ok (init now) s) : Inv s :=
  System.Run.invariant (I := Inv) (inv_init now) (fun _ _ _ _ hi _ hs => inv_step hi hs) h

/-- `n` claims one after another: the events they return and the rows they leave. -/
def claims (now limit : Nat) : Nat → List OutboxRow → List OutboxEvent × List OutboxRow
  | 0, rows => ([], rows)
  | n + 1, rows =>
    let (events, rows') := claims now limit n (claimPendingEvents now limit [] rows)
    (claimed limit [] rows ++ events, rows')

section Claims

variable {now limit : Nat} {rows : List OutboxRow}

theorem nodup_claimPendingEvents (h : (rows.map OutboxRow.id).Nodup) (skipped : List Uuid) :
    ((claimPendingEvents now limit skipped rows).map OutboxRow.id).Nodup := by
  rw [map_id_origin] at h ⊢
  rw [claimPendingEvents_origin]
  exact h

theorem claims_keep (h : (rows.map OutboxRow.id).Nodup) {r : OutboxRow} (hr : r ∈ rows)
    (hp : r.status ≠ .pending) (n : Nat) : r ∈ (claims now limit n rows).2 := by
  induction n generalizing rows with
  | zero => exact hr
  | succ n ih =>
    apply ih (nodup_claimPendingEvents h [])
    apply mem_updateMany_of_not hr
    rw [← Bool.not_eq_true, List.contains_iff_mem]
    exact fun hc => hp (claimed_pending h hr hc)

theorem claims_take (h : (rows.map OutboxRow.id).Nodup) {r : OutboxRow} (hr : r ∈ rows)
    (hc : r.id ∈ (claimed limit [] rows).map OutboxEvent.id) (n : Nat) :
    ∃ r' ∈ (claims now limit (n + 1) rows).2, r'.id = r.id ∧ r'.status = .processing := by
  have hr' : { r with status := .processing, updatedAt := now } ∈
      claimPendingEvents now limit [] rows :=
    mem_updateMany_of_sel hr (List.contains_iff_mem.mpr hc)
  exact ⟨_, claims_keep (nodup_claimPendingEvents h []) hr' nofun n, rfl, rfl⟩

theorem length_selectPending {r : OutboxRow} (hr : r ∈ rows) (hp : isPending r = true)
    (hc : r.id ∉ (claimed limit [] rows).map OutboxEvent.id) :
    (selectPending limit [] rows).length = limit := by
  rw [id_mem_claimed] at hc
  apply List.length_take_of_le
  apply Nat.le_of_not_lt
  intro hlt
  apply hc
  rw [selectPending, List.take_of_length_le hlt.le]
  apply List.mem_map_of_mem
  rw [List.mem_insertionSort, List.mem_filter]
  exact ⟨hr, by simp [hp]⟩

theorem countP_claimPendingEvents (h : (rows.map OutboxRow.id).Nodup) :
    (claimPendingEvents now limit [] rows).countP isPending +
      (selectPending limit [] rows).length ≤ rows.countP isPending := by
  let taken : OutboxRow → Bool :=
    fun r => ((claimed limit [] rows).map OutboxEvent.id).contains r.id
  have hrest : (claimPendingEvents now limit [] rows).countP isPending =
      rows.countP (fun r => isPending r && !taken r) := by
    rw [claimPendingEvents, updateMany, List.countP_map]
    apply List.countP_congr
    intro r _
    simp only [Function.comp_apply]
    split
    · next hc =>
      have ht : taken r = true := hc
      simp [ht, isPending]
    · next hc =>
      have ht : taken r = false := Bool.eq_false_iff.mpr hc
      simp [ht]
  have htaken : (selectPending limit [] rows).length ≤
      rows.countP (fun r => isPending r && taken r) := by
    rw [List.countP_eq_length_filter]
    apply List.Subperm.length_le
    apply List.subperm_of_subset (nodup_selectPending h).of_map
    intro r hr
    have hm := mem_selectPending hr
    rw [List.mem_filter, Bool.and_eq_true]
    exact ⟨hm.1, by simp [isPending, hm.2],
      List.contains_iff_mem.mpr (id_mem_claimed.mpr (List.mem_map_of_mem hr))⟩
  have hsplit : rows.countP isPending = rows.countP (fun r => isPending r && taken r) +
      rows.countP (fun r => isPending r && !taken r) := by
    have := List.countP_eq_countP_filter_add rows isPending taken
    simpa [List.countP_filter, Bool.and_comm] using this
  omega

theorem claims_pending (h : (rows.map OutboxRow.id).Nodup) {r : OutboxRow} (hr : r ∈ rows)
    (hp : isPending r = true) {n : Nat} (hn : rows.countP isPending ≤ n * limit) :
    (∃ e ∈ (claims now limit n rows).1, e.id = r.id) ∧
      ∃ r' ∈ (claims now limit n rows).2, r'.id = r.id ∧ r'.status = .processing := by
  induction n generalizing rows with
  | zero =>
    have hpos : 0 < rows.countP isPending := List.countP_pos_iff.mpr ⟨r, hr, hp⟩
    omega
  | succ n ih =>
    by_cases hc : r.id ∈ (claimed limit [] rows).map OutboxEvent.id
    · obtain ⟨e, he, hid⟩ := List.mem_map.mp hc
      exact ⟨⟨e, List.mem_append_left _ he, hid⟩, claims_take h hr hc n⟩
    · have hstay : r ∈ claimPendingEvents now limit [] rows := by
        apply mem_updateMany_of_not hr
        rw [← Bool.not_eq_true, List.contains_iff_mem]
        exact hc
      have hcount : (claimPendingEvents now limit [] rows).countP isPending +
          (selectPending limit [] rows).length ≤ rows.countP isPending :=
        countP_claimPendingEvents h
      rw [length_selectPending hr hp hc] at hcount
      have hn' : (claimPendingEvents now limit [] rows).countP isPending ≤ n * limit := by
        rw [Nat.succ_mul] at hn
        omega
      obtain ⟨⟨e, he, hid⟩, hfinal⟩ := ih (nodup_claimPendingEvents h []) hstay hn'
      exact ⟨⟨e, List.mem_append_right _ he, hid⟩, hfinal⟩

end Claims

/-- The rows after the two sweeps at time `now`. -/
def swept (now : Nat) (rows : List OutboxRow) : List OutboxRow :=
  resetStuckProcessingEvents now (requeueFailedEvents now rows)

theorem swept_pending {s : Outbox} (h : Inv s) {r : OutboxRow} (hr : r ∈ s.rows)
    (hpub : r.status ≠ .published) (hdead : r.status ≠ .dead) {d : Nat} (hd : recoveryDelay ≤ d) :
    ∃ r' ∈ swept (s.now + d) s.rows, r'.id = r.id ∧ isPending r' = true := by
  cases hst : r.status with
  | pending =>
    refine ⟨r, ?_, rfl, by simp [isPending, hst]⟩
    exact mem_updateMany_of_not (mem_updateMany_of_not hr (by simp [isDue, hst]))
      (by simp [isStuck, hst])
  | processing =>
    have hold : r.updatedAt + stuckThresholdMinutes * 60 * 1000 < s.now + d := by
      have := (h.timely r hr).updated
      simp only [recoveryDelay] at hd
      simp only [stuckThresholdMinutes]
      omega
    refine ⟨_, mem_updateMany_of_sel (mem_updateMany_of_not hr (by simp [isDue, hst])) ?_, rfl, rfl⟩
    simp [isStuck, hst, hold]
  | failed =>
    obtain ⟨hnext, hlt⟩ := (h.healthy r hr).failed hst
    obtain ⟨t, ht⟩ := Option.isSome_iff_exists.mp hnext
    have hdue : t ≤ s.now + d := by
      have := (h.timely r hr).retry t hst ht
      omega
    refine ⟨_, mem_updateMany_of_not (mem_updateMany_of_sel hr ?_) ?_, rfl, rfl⟩
    · simp [isDue, hst, ht, hdue, hlt]
    · simp [isStuck]
  | published => exact absurd hst hpub
  | dead => exact absurd hst hdead

theorem nodup_swept {now : Nat} {rows : List OutboxRow} (h : (rows.map OutboxRow.id).Nodup) :
    ((swept now rows).map OutboxRow.id).Nodup := by
  rw [map_id_origin] at h ⊢
  rw [swept, resetStuckProcessingEvents_origin, requeueFailedEvents_origin]
  exact h

/-- A row that is neither published nor dead is claimed again after the longest
wait and the sweeps, by the first claim if its limit covers the pending rows and
otherwise by one of as many claims as cover them. -/
def Recovers (s : Outbox) : Prop :=
  ∀ r ∈ s.rows, r.status ≠ .published → r.status ≠ .dead → ∀ d, recoveryDelay ≤ d →
    ∀ limit n, (swept (s.now + d) s.rows).countP isPending ≤ n * limit →
      (∃ e ∈ (claims (s.now + d) limit n (swept (s.now + d) s.rows)).1, e.id = r.id) ∧
        ∃ r' ∈ (claims (s.now + d) limit n (swept (s.now + d) s.rows)).2,
          r'.id = r.id ∧ r'.status = .processing

theorem Inv.recovers {s : Outbox} (h : Inv s) : Recovers s := by
  intro r hr hpub hdead d hd limit n hn
  obtain ⟨r', hr', hid, hp⟩ := swept_pending h hr hpub hdead hd
  rw [← hid]
  exact claims_pending (nodup_swept h.ids) hr' hp hn

/-- No event is lost, in any run of any number of workers. -/
theorem no_event_lost (now : Nat) {s : Outbox}
    (h : System.Run system (fun _ _ => True) (init now) s) :
    (∀ r ∈ s.rows, r.Healthy s.acceptedIds) ∧ Recovers s :=
  ⟨(inv_run h).healthy, (inv_run h).recovers⟩

def sampleData : CreateOutboxEventData where
  aggregateType := "Booking"
  aggregateId := "booking-1"
  eventType := "booking.status-changed.v1"
  topic := "booking.status-changed"
  payload := ⟨some (.string "event-1"), "\x7b\x7d"⟩
  headers := []

/-- The send is accepted, its acknowledgement is lost, and the row waits for its
retry. -/
theorem no_event_lost_retried : ∃ s, System.Run system (fun _ _ => True) (init 0) s ∧
    (s.rows.map OutboxRow.status = [.failed] ∧ s.acceptedIds = [⟨0, 0⟩]) ∧
    (∀ r ∈ s.rows, r.Healthy s.acceptedIds) ∧ Recovers s := by
  obtain ⟨s, h, ht⟩ := System.exists_run (T := system) (fun _ _ => True) (init 0)
    (fun _ _ => true)
    [.insert ⟨0, 0⟩ 0 sampleData, .poll 0, .run 0 [] .ok, .run 0 [] .ok,
      .run 0 [] (.lost "timeout"), .run 0 [] .ok]
    (fun s => s.rows.map OutboxRow.status = [.failed] ∧ s.acceptedIds = [⟨0, 0⟩])
    (fun _ _ _ _ => trivial) (by decide)
  exact ⟨s, h, of_decide_eq_true ht, no_event_lost 0 h⟩

end Outbox

end RailwayBooking.Kafka
