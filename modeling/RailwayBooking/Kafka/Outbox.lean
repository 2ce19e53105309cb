import Mathlib.Data.List.Nodup
import Mathlib.Data.List.Sort
import RailwayBooking.Contracts

namespace RailwayBooking.Kafka

inductive OutboxStatus
  | pending
  | processing
  | published
  | failed
  | dead
  deriving DecidableEq, Repr

/-- What `addEventIdHeader` looks at in `payload.eventId`. -/
inductive PayloadEventId
  | string (s : String)
  | number (n : Int)
  | other
  deriving DecidableEq, Repr

structure Payload where
  eventId : Option PayloadEventId
  text : String
  deriving DecidableEq, Repr

/-- A row of `outbox_events`. Times are in milliseconds. -/
structure OutboxRow where
  id : Uuid
  aggregateType : String
  aggregateId : String
  eventType : String
  topic : String
  payload : Payload
  headers : List (String × String)
  status : OutboxStatus
  retryCount : Nat
  nextRetryAt : Option Nat
  errorMessage : Option String
  createdAt : Nat
  updatedAt : Nat
  processedAt : Option Nat
  deriving DecidableEq, Repr

/-- What a claim reads of a row. -/
structure OutboxEvent where
  id : Uuid
  topic : String
  aggregateId : String
  payload : Payload
  headers : List (String × String)
  retryCount : Nat
  deriving DecidableEq, Repr

structure CreateOutboxEventData where
  aggregateType : String
  aggregateId : String
  eventType : String
  topic : String
  payload : Payload
  headers : List (String × String)
  deriving DecidableEq, Repr

def eventTypeHeader : String := "x-event-type"

def eventIdHeader : String := "x-event-id"

def maxRetryCount : Nat := 5

def stuckThresholdMinutes : Nat := 5

def backoffDelayMs : List Nat := [60000, 120000, 240000, 480000, 960000]

/-- `BACKOFF_DELAY_MS[currentRetryCount] ?? BACKOFF_DELAY_MS.at(-1)`. -/
def backoff (currentRetryCount : Nat) : Nat := backoffDelayMs.getD currentRetryCount 960000

/-- `headers[key] = value`. -/
def setHeader (headers : List (String × String)) (key value : String) : List (String × String) :=
  if headers.any (fun x => x.1 == key) then
    headers.map (fun x => if x.1 == key then (key, value) else x)
  else headers ++ [(key, value)]

namespace OutboxRow

def event (r : OutboxRow) : OutboxEvent :=
  ⟨r.id, r.topic, r.aggregateId, r.payload, r.headers, r.retryCount⟩

/-- `outboxEvent.create`: the defaults of the schema. -/
def create (id : Uuid) (createdAt now : Nat) (data : CreateOutboxEventData) : OutboxRow where
  id := id
  aggregateType := data.aggregateType
  aggregateId := data.aggregateId
  eventType := data.eventType
  topic := data.topic
  payload := data.payload
  headers :=
    data.headers.foldl (fun hs x => setHeader hs x.1 x.2) [(eventTypeHeader, data.eventType)]
  status := .pending
  retryCount := 0
  nextRetryAt := none
  errorMessage := none
  createdAt := createdAt
  updatedAt := now
  processedAt := none

end OutboxRow

namespace PostgresOutboxRepository

/-- `updateMany`, which stamps the rows it changes. -/
def updateMany (now : Nat) (sel : OutboxRow → Bool) (data : OutboxRow → OutboxRow)
    (rows : List OutboxRow) : List OutboxRow :=
  rows.map (fun r => if sel r then { data r with updatedAt := now } else r)

def isPending (r : OutboxRow) : Bool := r.status == .pending

/-- The oldest pending rows. `FOR UPDATE SKIP LOCKED` leaves out the rows that
other transactions hold. Rows created at one time keep the order of the table. -/
def selectPending (limit : Nat) (skipped : List Uuid) (rows : List OutboxRow) : List OutboxRow :=
  ((rows.filter (fun r => isPending r && !skipped.contains r.id)).insertionSort
    (fun r r' => r.createdAt ≤ r'.createdAt)).take limit

def claimed (limit : Nat) (skipped : List Uuid) (rows : List OutboxRow) : List OutboxEvent :=
  (selectPending limit skipped rows).map OutboxRow.event

def claimPendingEvents (now limit : Nat) (skipped : List Uuid) (rows : List OutboxRow) :
    List OutboxRow :=
  updateMany now (fun r => ((claimed limit skipped rows).map OutboxEvent.id).contains r.id)
    (fun r => { r with status := .processing }) rows

def markPublished (now : Nat) (id : Uuid) (rows : List OutboxRow) : List OutboxRow :=
  updateMany now (fun r => r.id == id && r.status == .processing)
    (fun r => { r with status := .published, processedAt := some now }) rows

/-- The rows that `markFailed` matches. -/
def isCurrent (id : Uuid) (currentRetryCount : Nat) (r : OutboxRow) : Bool :=
  r.id == id && r.status == .processing && r.retryCount == currentRetryCount

def markFailed (now : Nat) (id : Uuid) (error : String) (currentRetryCount : Nat)
    (rows : List OutboxRow) : List OutboxRow :=
  let newRetryCount := currentRetryCount + 1
  if newRetryCount ≥ maxRetryCount then
    updateMany now (isCurrent id currentRetryCount)
      (fun r => { r with
        status := .dead
        errorMessage := some error
        retryCount := newRetryCount
        processedAt := some now }) rows
  else
    let nextRetryAt := now + backoff currentRetryCount
    updateMany now (isCurrent id currentRetryCount)
      (fun r => { r with
        status := .failed
        errorMessage := some error
        retryCount := newRetryCount
        nextRetryAt := some nextRetryAt }) rows

/-- `becameDead` of the answer to `markFailed`. -/
def becameDead (id : Uuid) (currentRetryCount : Nat) (rows : List OutboxRow) : Bool :=
  currentRetryCount + 1 ≥ maxRetryCount && rows.any (isCurrent id currentRetryCount)

/-- `nextRetryAt <= now` is false of a row without a retry time. -/
def isDue (now : Nat) (r : OutboxRow) : Bool :=
  r.status == .failed && r.nextRetryAt.any (· ≤ now) && r.retryCount < maxRetryCount

def requeueFailedEvents (now : Nat) (rows : List OutboxRow) : List OutboxRow :=
  updateMany now (isDue now) (fun r => { r with status := .pending, nextRetryAt := none }) rows

/-- `updatedAt < now - 5 min`. -/
def isStuck (now : Nat) (r : OutboxRow) : Bool :=
  r.status == .processing && r.updatedAt + stuckThresholdMinutes * 60 * 1000 < now

def resetStuckProcessingEvents (now : Nat) (rows : List OutboxRow) : List OutboxRow :=
  updateMany now (isStuck now) (fun r => { r with status := .pending }) rows

section UpdateMany

variable {now : Nat} {sel : OutboxRow → Bool} {data : OutboxRow → OutboxRow}
  {rows : List OutboxRow}

theorem mem_updateMany {r' : OutboxRow} : r' ∈ updateMany now sel data rows ↔
    ∃ r ∈ rows, (sel r = true ∧ r' = { data r with updatedAt := now }) ∨
      (sel r = false ∧ r' = r) := by
  simp only [updateMany, List.mem_map]
  apply exists_congr
  intro r
  apply and_congr_right
  intro _
  cases sel r <;> simp [eq_comm]

theorem mem_updateMany_of_not {r : OutboxRow} (hr : r ∈ rows) (hs : sel r = false) :
    r ∈ updateMany now sel data rows :=
  mem_updateMany.mpr ⟨r, hr, .inr ⟨hs, rfl⟩⟩

theorem mem_updateMany_of_sel {r : OutboxRow} (hr : r ∈ rows) (hs : sel r = true) :
    { data r with updatedAt := now } ∈ updateMany now sel data rows :=
  mem_updateMany.mpr ⟨r, hr, .inl ⟨hs, rfl⟩⟩

theorem map_updateMany {α : Type} (f : OutboxRow → α)
    (hf : ∀ r, f { data r with updatedAt := now } = f r) :
    (updateMany now sel data rows).map f = rows.map f := by
  simp only [updateMany, List.map_map]
  apply List.map_congr_left
  intro r _
  simp only [Function.comp_apply]
  split
  · exact hf r
  · rfl

end UpdateMany

end PostgresOutboxRepository

/-- What no operation of the repository changes in a row. -/
structure OutboxRow.Origin where
  id : Uuid
  aggregateType : String
  aggregateId : String
  topic : String
  createdAt : Nat
  deriving DecidableEq, Repr

def OutboxRow.origin (r : OutboxRow) : OutboxRow.Origin :=
  ⟨r.id, r.aggregateType, r.aggregateId, r.topic, r.createdAt⟩

namespace PostgresOutboxRepository

variable (now : Nat) (rows : List OutboxRow)

theorem claimPendingEvents_origin (limit : Nat) (skipped : List Uuid) :
    (claimPendingEvents now limit skipped rows).map OutboxRow.origin = rows.map OutboxRow.origin :=
  map_updateMany _ (fun _ => rfl)

theorem markPublished_origin (id : Uuid) :
    (markPublished now id rows).map OutboxRow.origin = rows.map OutboxRow.origin :=
  map_updateMany _ (fun _ => rfl)

theorem markFailed_origin (id : Uuid) (error : String) (currentRetryCount : Nat) :
    (markFailed now id error currentRetryCount rows).map OutboxRow.origin =
      rows.map OutboxRow.origin := by
  simp only [markFailed]
  split
  · exact map_updateMany _ (fun _ => rfl)
  · exact map_updateMany _ (fun _ => rfl)

theorem requeueFailedEvents_origin :
    (requeueFailedEvents now rows).map OutboxRow.origin = rows.map OutboxRow.origin :=
  map_updateMany _ (fun _ => rfl)

theorem resetStuckProcessingEvents_origin :
    (resetStuckProcessingEvents now rows).map OutboxRow.origin = rows.map OutboxRow.origin :=
  map_updateMany _ (fun _ => rfl)

theorem map_id_origin : rows.map OutboxRow.id = (rows.map OutboxRow.origin).map (·.id) := by
  simp [OutboxRow.origin]

section Claim

variable {rows} {limit : Nat} {skipped : List Uuid}

theorem mem_selectPending {r : OutboxRow} (h : r ∈ selectPending limit skipped rows) :
    r ∈ rows ∧ r.status = .pending := by
  have hm := List.mem_of_mem_take h
  rw [List.mem_insertionSort, List.mem_filter] at hm
  simp only [isPending, Bool.and_eq_true, beq_iff_eq] at hm
  exact ⟨hm.1, hm.2.1⟩

theorem mem_claimed {e : OutboxEvent} (h : e ∈ claimed limit skipped rows) :
    ∃ r ∈ rows, r.status = .pending ∧ e = r.event := by
  obtain ⟨r, hr, rfl⟩ := List.mem_map.mp h
  exact ⟨r, (mem_selectPending hr).1, (mem_selectPending hr).2, rfl⟩

theorem id_mem_claimed {r : OutboxRow} :
    r.id ∈ (claimed limit skipped rows).map OutboxEvent.id ↔
      r.id ∈ (selectPending limit skipped rows).map OutboxRow.id := by
  simp [claimed, OutboxRow.event]

theorem eq_of_id (h : (rows.map OutboxRow.id).Nodup) {r r' : OutboxRow} (hr : r ∈ rows)
    (hr' : r' ∈ rows) (he : r.id = r'.id) : r = r' :=
  List.inj_on_of_nodup_map h hr hr' he

theorem claimed_pending (h : (rows.map OutboxRow.id).Nodup) {r : OutboxRow} (hr : r ∈ rows)
    (hc : r.id ∈ (claimed limit skipped rows).map OutboxEvent.id) : r.status = .pending := by
  obtain ⟨e, he, hid⟩ := List.mem_map.mp hc
  obtain ⟨r', hr', hp, rfl⟩ := mem_claimed he
  rw [eq_of_id h hr hr' hid.symm]
  exact hp

theorem sorted_selectPending :
    (selectPending limit skipped rows).Pairwise (fun r r' => r.createdAt ≤ r'.createdAt) := by
  apply List.Pairwise.sublist (List.take_sublist _ _)
  have : Std.Total (fun r r' : OutboxRow => r.createdAt ≤ r'.createdAt) := ⟨fun _ _ => Nat.le_total _ _⟩
  have : IsTrans OutboxRow (fun r r' => r.createdAt ≤ r'.createdAt) := ⟨fun _ _ _ => Nat.le_trans⟩
  exact List.pairwise_insertionSort _ _

theorem nodup_selectPending (h : (rows.map OutboxRow.id).Nodup) :
    ((selectPending limit skipped rows).map OutboxRow.id).Nodup := by
  apply List.Nodup.sublist ((List.take_sublist _ _).map _)
  rw [((List.perm_insertionSort _ _).map OutboxRow.id).nodup_iff]
  exact h.sublist (List.filter_sublist.map _)

theorem nodup_claimed (h : (rows.map OutboxRow.id).Nodup) :
    ((claimed limit skipped rows).map OutboxEvent.id).Nodup := by
  rw [claimed, List.map_map]
  exact nodup_selectPending h

end Claim

end PostgresOutboxRepository

end RailwayBooking.Kafka
