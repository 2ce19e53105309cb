import RailwayBooking.Kafka.OutboxDelivery

namespace RailwayBooking.Kafka

open Concurrency OutboxPublisherWorker PostgresOutboxRepository

namespace OutboxPublisherWorker

end OutboxPublisherWorker

namespace Outbox

/-- Another worker has claimed the row since worker `i` did. -/
def Late (s : Outbox) (i : Nat) (e : OutboxEvent) : Prop := s.claimant e.id ≠ some i

/-- No event that the broker has accepted is given up. -/
def NoneGivenUp (s : Outbox) : Prop :=
  ∀ r ∈ s.rows, r.status = .dead → r.id ∉ s.acceptedIds

/-- What the next operation of worker `i` has to find if it takes effect: a late
record finds no row that it matches, a late send no row that has been given up,
and the last failure of a row comes before any accepted send. -/
structure Guarded (s : Outbox) (i : Nat) : Prop where
  marking : ∀ e rest, s.polls i = .marking e rest → s.Late i e →
    ∀ r ∈ s.rows, r.id = e.id → r.status ≠ .processing
  failing : ∀ e error rest, s.polls i = .failing e error rest → s.Late i e →
    ∀ r ∈ s.rows, isCurrent e.id e.retryCount r = false
  sending : ∀ e rest, s.polls i = .sending e rest → s.Late i e →
    ∀ r ∈ s.rows, r.id = e.id → r.status ≠ .dead
  last : ∀ e error rest, s.polls i = .failing e error rest → maxRetryCount ≤ e.retryCount + 1 →
    ∀ r ∈ s.rows, isCurrent e.id e.retryCount r = true → e.id ∉ s.acceptedIds

def Alive (rows : List OutboxRow) (id : Uuid) : Prop :=
  ∃ r ∈ rows, r.id = id ∧ r.status ≠ .dead

/-- What the latest claimant of a row has in hand is alive. -/
structure Custody (s : Outbox) : Prop where
  alive : ∀ i, ∀ e ∈ (s.polls i).batch, s.claimant e.id = some i → Alive s.rows e.id
  distinct : ∀ i, ((s.polls i).batch.map OutboxEvent.id).Nodup
  kept : NoneGivenUp s

section Alive

variable {now : Nat} {sel : OutboxRow → Bool} {data : OutboxRow → OutboxRow}
  {rows : List OutboxRow} {id : Uuid}

theorem Alive.updateMany (h : Alive rows id)
    (hd : ∀ r, sel r = true → r.id = id → (data r).id = id ∧ (data r).status ≠ .dead) :
    Alive (updateMany now sel data rows) id := by
  obtain ⟨r, hr, hid, hst⟩ := h
  cases hs : sel r with
  | false => exact ⟨r, mem_updateMany_of_not hr hs, hid, hst⟩
  | true =>
    obtain ⟨hid', hst'⟩ := hd r hs hid
    exact ⟨_, mem_updateMany_of_sel hr hs, hid', hst'⟩

end Alive

section UpdateMany

variable {now : Nat} {sel : OutboxRow → Bool} {data : OutboxRow → OutboxRow}
  {rows : List OutboxRow}

end UpdateMany

theorem isCurrent_iff {id : Uuid} {n : Nat} {r : OutboxRow} :
    isCurrent id n r = true ↔ (r.id = id ∧ r.status = .processing) ∧ r.retryCount = n := by
  simp [isCurrent]

section Marks

variable {now : Nat} {id : Uuid} {rows : List OutboxRow}

end Marks

section Step

variable {s s' : Outbox} {i : Nat} {skipped : List Uuid} {o : Outcome}

end Step

section Custody

variable {s : Outbox}

theorem Custody.setPoll (h : Custody s) {i : Nat} {p : Poll}
    (hp : p.batch.Sublist (s.polls i).batch) : Custody (s.setPoll i p) where
  alive j e he hc := by
    rw [setPoll_polls] at he
    split at he
    · next hj => exact h.alive i e (hp.subset he) (hj ▸ hc)
    · exact h.alive j e he hc
  distinct j := by
    rw [setPoll_polls]
    split
    · exact (h.distinct i).sublist (hp.map _)
    · exact h.distinct j
  kept := h.kept

/-- A change of the rows that keeps alive what the latest claimants have in hand
and gives up no accepted event. -/
theorem Custody.rows (h : Custody s) {now : Nat} {sel : OutboxRow → Bool}
    {data : OutboxRow → OutboxRow}
    (halive : ∀ i, ∀ e ∈ (s.polls i).batch, s.claimant e.id = some i →
      Alive (updateMany now sel data s.rows) e.id)
    (hdead : ∀ r ∈ s.rows, sel r = true → (data r).status = .dead → (data r).id ∉ s.acceptedIds) :
    Custody { s with rows := updateMany now sel data s.rows } where
  alive := halive
  distinct := h.distinct
  kept r' hr' hd := by
    obtain ⟨r, hr, ⟨hs, rfl⟩ | ⟨_, rfl⟩⟩ := mem_updateMany.mp hr'
    · exact hdead r hr hs hd
    · exact h.kept r' hr hd

theorem Custody.revived (h : Custody s) {now : Nat} {sel : OutboxRow → Bool}
    {data : OutboxRow → OutboxRow} (hid : ∀ r, (data r).id = r.id)
    (hst : ∀ r, (data r).status ≠ .dead) :
    Custody { s with rows := updateMany now sel data s.rows } :=
  h.rows (fun i e he hc => (h.alive i e he hc).updateMany
    (fun r _ hr => ⟨(hid r).trans hr, hst r⟩)) (fun r _ _ hd => absurd hd (hst r))

theorem Custody.claimPendingEvents (h : Custody s) (hn : (s.rows.map OutboxRow.id).Nodup)
    {i : Nat} {skipped : List Uuid} {p : Poll}
    (hp : p = .idle ∨ p = .connecting (claimed batchSize skipped s.rows)) :
    Custody ((s.effect i skipped (.claimPendingEvents batchSize)).setPoll i p) := by
  have hbatch : p.batch.Sublist (claimed batchSize skipped s.rows) := by
    obtain rfl | rfl := hp
    · exact List.nil_sublist _
    · exact List.Sublist.refl _
  have hrows : Custody { s with
      rows := PostgresOutboxRepository.claimPendingEvents s.now batchSize skipped s.rows } :=
    h.revived (fun _ => rfl) (fun _ => nofun)
  constructor
  · intro j e he hc
    rw [setPoll_polls, effect_polls] at he
    simp only [setPoll_claimant, effect] at hc
    split at he
    · obtain ⟨r, hr, _, rfl⟩ := mem_claimed (hbatch.subset he)
      exact ⟨_, mem_updateMany_of_sel hr
        (List.contains_iff_mem.mpr (List.mem_map_of_mem (hbatch.subset he))), rfl, nofun⟩
    · next hj =>
      -- the row is not among those that worker `i` has just claimed
      split at hc
      · exact absurd (Option.some.inj hc).symm hj
      · exact hrows.alive j e he hc
  · intro j
    rw [setPoll_polls, effect_polls]
    split
    · exact (nodup_claimed hn).sublist (hbatch.map _)
    · exact h.distinct j
  · exact hrows.kept

theorem Custody.markPublished (h : Custody s) (id : Uuid) :
    Custody { s with rows := markPublished s.now id s.rows } :=
  h.revived (fun _ => rfl) (fun _ => nofun)

theorem Custody.markFailed (h : Custody s) {id : Uuid} (error : String) {currentRetryCount : Nat}
    (hfree : ∀ i, ∀ e ∈ (s.polls i).batch, s.claimant e.id = some i → e.id ≠ id)
    (hlast : maxRetryCount ≤ currentRetryCount + 1 →
      ∀ r ∈ s.rows, isCurrent id currentRetryCount r = true → id ∉ s.acceptedIds) :
    Custody { s with rows := markFailed s.now id error currentRetryCount s.rows } := by
  have hid : ∀ {r}, isCurrent id currentRetryCount r = true → r.id = id :=
    fun hc => (isCurrent_iff.mp hc).1.1
  have halive : ∀ data : OutboxRow → OutboxRow, ∀ i, ∀ e ∈ (s.polls i).batch,
      s.claimant e.id = some i →
      Alive (updateMany s.now (isCurrent id currentRetryCount) data s.rows) e.id :=
    fun data i e he hcl => (h.alive i e he hcl).updateMany
      (fun r hc hr => absurd (hr ▸ hid hc) (hfree i e he hcl))
  simp only [PostgresOutboxRepository.markFailed]
  split
  · next hge =>
    apply h.rows (halive _)
    intro r hr hc _ hm
    exact hlast hge r hr hc (hid hc ▸ hm)
  · exact h.revived (fun _ => rfl) (by rintro r ⟨⟩)

theorem Custody.requeueFailedEvents (h : Custody s) :
    Custody { s with rows := requeueFailedEvents s.now s.rows } :=
  h.revived (fun _ => rfl) (fun _ => nofun)

theorem Custody.resetStuckProcessingEvents (h : Custody s) :
    Custody { s with rows := resetStuckProcessingEvents s.now s.rows } :=
  h.revived (fun _ => rfl) (fun _ => nofun)

theorem Custody.send (h : Custody s) {id : Uuid}
    (hid : ∀ r ∈ s.rows, r.id = id → r.status ≠ .dead) (message : KafkaMessage) :
    Custody { s with accepted := s.accepted ++ [⟨id, message⟩] } where
  alive := h.alive
  distinct := h.distinct
  kept r hr hd := by
    rw [acceptedIds_send]
    intro hm
    obtain hm | hm := List.mem_append.mp hm
    · exact h.kept r hr hd hm
    · exact hid r hr (List.mem_singleton.mp hm) hd

theorem Custody.insert (h : Custody s) (id : Uuid) (createdAt : Nat)
    (data : CreateOutboxEventData) :
    Custody { s with rows := s.rows ++ [OutboxRow.create id createdAt s.now data] } where
  alive i e he hc := by
    obtain ⟨r, hr, hx⟩ := h.alive i e he hc
    exact ⟨r, List.mem_append_left _ hr, hx⟩
  distinct := h.distinct
  kept r hr hd := by
    obtain hr | hr := List.mem_append.mp hr
    · exact h.kept r hr hd
    · obtain rfl := List.mem_singleton.mp hr
      cases hd

end Custody

end Outbox

end RailwayBooking.Kafka
