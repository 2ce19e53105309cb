import Mathlib.Data.List.Perm.Basic
import RailwayBooking.InventoryService.SeatMap

namespace RailwayBooking.InventoryService

section StatusMap

variable {rows rows' : List ActiveAllocation} {id : Id} {status : AllocationStatus}

theorem allocationStatusMap_eq (rows : List ActiveAllocation) (id : Id) :
    allocationStatusMap rows id =
      (rows.filter (fun a => a.seatInventoryId = id)).getLast?.map ActiveAllocation.status := by
  induction rows using List.reverseRecOn with
  | nil => rfl
  | append_singleton rows a ih =>
    unfold allocationStatusMap at *
    rw [List.foldl_concat, Function.update_apply, List.filter_append, ih]
    by_cases h : a.seatInventoryId = id
    · simp [h]
    · have h' : id ≠ a.seatInventoryId := fun he => h he.symm
      simp [h, h']

theorem mem_of_allocationStatusMap (h : allocationStatusMap rows id = some status) :
    ⟨id, status⟩ ∈ rows := by
  rw [allocationStatusMap_eq, Option.map_eq_some_iff] at h
  obtain ⟨a, ha, rfl⟩ := h
  obtain ⟨ha, hid⟩ := List.mem_filter.mp (List.mem_of_getLast? ha)
  rw [← of_decide_eq_true hid]
  exact ha

theorem allocationStatusMap_eq_none :
    allocationStatusMap rows id = none ↔ ∀ a ∈ rows, a.seatInventoryId ≠ id := by
  rw [allocationStatusMap_eq, Option.map_eq_none_iff, List.getLast?_eq_none_iff,
    List.filter_eq_nil_iff]
  simp

theorem allocationStatusMap_concat (rows : List ActiveAllocation) (a : ActiveAllocation) :
    allocationStatusMap (rows ++ [a]) a.seatInventoryId = some a.status := by
  unfold allocationStatusMap
  rw [List.foldl_concat, Function.update_self]

theorem exists_perm_concat {a : ActiveAllocation} (h : a ∈ rows) :
    ∃ rows', rows'.Perm rows ∧ allocationStatusMap rows' a.seatInventoryId = some a.status := by
  refine ⟨rows.erase a ++ [a], ?_, allocationStatusMap_concat _ a⟩
  calc (rows.erase a ++ [a]).Perm (a :: rows.erase a) := List.perm_append_singleton _ _
    _ |>.Perm rows := (List.perm_cons_erase h).symm

end StatusMap

section Coaches

variable (statusMap : Id → Option AllocationStatus) (segmentDistance : Nat) (seats : List SeatRow)

def coachOf (coachId : Id) : Option CoachMapItem :=
  (seats.find? (fun s => s.coachId = coachId)).map (fun first =>
    { coachId := coachId
      coachNumber := first.coachNumber
      coachType := "SL"
      totalSeats := (seats.filter (fun s => s.coachId = coachId)).length
      seats := (seats.filter (fun s => s.coachId = coachId)).map
        (seatItem statusMap segmentDistance) })

theorem coachOf_concat_other {seat : SeatRow} {coachId : Id} (h : coachId ≠ seat.coachId) :
    coachOf statusMap segmentDistance (seats ++ [seat]) coachId =
      coachOf statusMap segmentDistance seats coachId := by
  have h' : ¬ seat.coachId = coachId := fun he => h he.symm
  simp [coachOf, List.find?_append, List.filter_append, h']

theorem coachesById_eq :
    (buildCoachesMap statusMap segmentDistance seats).coachesById =
      coachOf statusMap segmentDistance seats := by
  induction seats using List.reverseRecOn with
  | nil => rfl
  | append_singleton seats seat ih =>
    unfold buildCoachesMap at *
    rw [List.foldl_concat]
    funext coachId
    cases hfirst : seats.find? (fun s => s.coachId = seat.coachId) with
    | none =>
      have hnone : coachOf statusMap segmentDistance seats seat.coachId = none := by
        rw [coachOf, hfirst, Option.map_none]
      have hempty : seats.filter (fun s => s.coachId = seat.coachId) = [] :=
        List.filter_eq_nil_iff.mpr (List.find?_eq_none.mp hfirst)
      simp only [addSeat, ih, hnone]
      by_cases h : coachId = seat.coachId
      · subst h
        simp [coachOf, List.find?_append, List.filter_append, hfirst, hempty, CoachMapItem.push]
      · rw [Function.update_of_ne h, coachOf_concat_other _ _ _ h]
    | some first =>
      simp only [addSeat, ih, coachOf, hfirst, Option.map_some]
      by_cases h : coachId = seat.coachId
      · subst h
        simp [List.find?_append, List.filter_append, hfirst, CoachMapItem.push]
      · rw [Function.update_of_ne h]
        exact (coachOf_concat_other _ _ _ h).symm

theorem mem_coachOrder {coachId : Id} :
    coachId ∈ (buildCoachesMap statusMap segmentDistance seats).coachOrder ↔
      ∃ seat ∈ seats, seat.coachId = coachId := by
  induction seats using List.reverseRecOn with
  | nil => simp [buildCoachesMap]
  | append_singleton seats seat ih =>
    have hby := coachesById_eq statusMap segmentDistance seats
    unfold buildCoachesMap at *
    rw [List.foldl_concat]
    cases hfirst : seats.find? (fun s => s.coachId = seat.coachId) with
    | none =>
      have hnone : coachOf statusMap segmentDistance seats seat.coachId = none := by
        rw [coachOf, hfirst, Option.map_none]
      simp only [addSeat, hby, hnone, List.mem_append, ih, List.mem_singleton]
      constructor
      · rintro (⟨s, hs, he⟩ | rfl)
        · exact ⟨s, .inl hs, he⟩
        · exact ⟨seat, .inr rfl, rfl⟩
      · rintro ⟨s, hs | rfl, he⟩
        · exact .inl ⟨s, hs, he⟩
        · exact .inr he.symm
    | some first =>
      have hmem := List.mem_of_find?_eq_some hfirst
      have hcoach : first.coachId = seat.coachId := by simpa using List.find?_some hfirst
      simp only [addSeat, hby, coachOf, hfirst, Option.map_some, ih, List.mem_append,
        List.mem_singleton]
      constructor
      · rintro ⟨s, hs, he⟩
        exact ⟨s, .inl hs, he⟩
      · rintro ⟨s, hs | rfl, he⟩
        · exact ⟨s, hs, he⟩
        · exact ⟨first, hmem, hcoach.trans he⟩

theorem mem_coaches {coach : CoachMapItem} :
    coach ∈ (buildCoachesMap statusMap segmentDistance seats).coaches ↔
      coachOf statusMap segmentDistance seats coach.coachId = some coach := by
  rw [CoachesMap.coaches, List.mem_filterMap, coachesById_eq]
  constructor
  · rintro ⟨coachId, -, h⟩
    obtain ⟨first, -, hc⟩ := Option.map_eq_some_iff.mp h
    rw [← hc]
    rwa [← hc] at h
  · intro h
    obtain ⟨first, hfirst, -⟩ := Option.map_eq_some_iff.mp h
    refine ⟨coach.coachId, ?_, h⟩
    apply (mem_coachOrder _ _ _).mpr
    exact ⟨first, List.mem_of_find?_eq_some hfirst, by simpa using List.find?_some hfirst⟩

end Coaches

section Shown

/-- The map shows the seat with this status. -/
def Shows (coaches : List CoachMapItem) (seat : SeatRow) (status : SeatMapStatus) : Prop :=
  ∃ coach ∈ coaches, ∃ item ∈ coach.seats, item.seatId = seat.seatId ∧ item.status = status

variable {statusMap : Id → Option AllocationStatus} {segmentDistance : Nat} {seats : List SeatRow}
  {seat : SeatRow} {status : SeatMapStatus}

theorem shows_iff (hkey : (seats.map (fun s => s.seatId)).Nodup) (hseat : seat ∈ seats) :
    Shows (buildCoachesMap statusMap segmentDistance seats).coaches seat status ↔
      statusStr (statusMap seat.id) = status := by
  constructor
  · rintro ⟨coach, hcoach, item, hitem, hid, rfl⟩
    obtain ⟨first, -, hc⟩ := Option.map_eq_some_iff.mp ((mem_coaches _ _ _).mp hcoach)
    rw [← hc] at hitem
    obtain ⟨seat', hseat', rfl⟩ := List.mem_map.mp hitem
    have hsame : seat' = seat :=
      List.inj_on_of_nodup_map hkey (List.mem_of_mem_filter hseat') hseat hid
    rw [hsame]
    rfl
  · rintro rfl
    cases hcoach : coachOf statusMap segmentDistance seats seat.coachId with
    | none =>
      rw [coachOf, Option.map_eq_none_iff, List.find?_eq_none] at hcoach
      exact absurd (decide_eq_true rfl) (hcoach seat hseat)
    | some coach =>
      obtain ⟨first, -, hc⟩ := Option.map_eq_some_iff.mp hcoach
      refine ⟨coach, (mem_coaches _ _ _).mpr ?_, seatItem statusMap segmentDistance seat, ?_, rfl,
        rfl⟩
      · rw [← hc]
        rwa [← hc] at hcoach
      · rw [← hc]
        exact List.mem_map_of_mem (List.mem_filter.mpr ⟨hseat, decide_eq_true rfl⟩)

theorem buildCoachesMap_congr {statusMap' : Id → Option AllocationStatus}
    (h : ∀ s ∈ seats, statusMap s.id = statusMap' s.id) :
    buildCoachesMap statusMap segmentDistance seats =
      buildCoachesMap statusMap' segmentDistance seats := by
  unfold buildCoachesMap
  apply List.foldl_ext
  intro m s hs
  have hitem : seatItem statusMap segmentDistance s = seatItem statusMap' segmentDistance s := by
    unfold seatItem
    rw [h s hs]
  unfold addSeat
  rw [hitem]

end Shown

section RowOrder

variable {seats : List SeatRow} {rows rows' : List ActiveAllocation} {segmentDistance : Nat}

/-- The seat map is the same for every order of the rows, and each seat has the
status that its rows call for. -/
structure StatusByRows (seats : List SeatRow) (rows : List ActiveAllocation)
    (segmentDistance : Nat) : Prop where
  order : ∀ rows', rows'.Perm rows →
    seatMap seats rows' segmentDistance = seatMap seats rows segmentDistance
  booked : ∀ seat ∈ seats, Shows (seatMap seats rows segmentDistance) seat .booked ↔
    ⟨seat.id, .confirmed⟩ ∈ rows
  held : ∀ seat ∈ seats, Shows (seatMap seats rows segmentDistance) seat .held ↔
    ⟨seat.id, .confirmed⟩ ∉ rows ∧ ⟨seat.id, .held⟩ ∈ rows
  available : ∀ seat ∈ seats, Shows (seatMap seats rows segmentDistance) seat .available ↔
    ⟨seat.id, .confirmed⟩ ∉ rows ∧ ⟨seat.id, .held⟩ ∉ rows

/-- The rows of a seat agree on its status. -/
def Uniform (rows : List ActiveAllocation) (id : Id) : Prop :=
  ¬ (⟨id, .confirmed⟩ ∈ rows ∧ ⟨id, .held⟩ ∈ rows)

theorem allocationStatusMap_uniform {id : Id} (hrows : ∀ a ∈ rows, a.status.active = true)
    (h : Uniform rows id) : allocationStatusMap rows id =
      if ⟨id, .confirmed⟩ ∈ rows then some .confirmed
      else if ⟨id, .held⟩ ∈ rows then some .held else none := by
  cases hstatus : allocationStatusMap rows id with
  | none =>
    have hno := allocationStatusMap_eq_none.mp hstatus
    rw [if_neg (fun hm => hno _ hm rfl), if_neg (fun hm => hno _ hm rfl)]
  | some status =>
    have hmem := mem_of_allocationStatusMap hstatus
    have hactive := hrows _ hmem
    cases status with
    | held => rw [if_neg (fun hm => h ⟨hm, hmem⟩), if_pos hmem]
    | confirmed => rw [if_pos hmem]
    | cancelled | expired => cases hactive

theorem uniform_perm {id : Id} (hp : rows'.Perm rows) (h : Uniform rows id) : Uniform rows' id :=
  fun hx => h ⟨hp.mem_iff.mp hx.1, hp.mem_iff.mp hx.2⟩

theorem seatMap_perm (hrows : ∀ a ∈ rows, a.status.active = true)
    (h : ∀ seat ∈ seats, Uniform rows seat.id) (hp : rows'.Perm rows) :
    seatMap seats rows' segmentDistance = seatMap seats rows segmentDistance := by
  unfold seatMap
  congr 1
  apply buildCoachesMap_congr
  intro s hs
  have hrows' : ∀ a ∈ rows', a.status.active = true := fun a ha => hrows a (hp.mem_iff.mp ha)
  rw [allocationStatusMap_uniform hrows (h s hs),
    allocationStatusMap_uniform hrows' (uniform_perm hp (h s hs))]
  simp only [hp.mem_iff]

/-- The seat map does not depend on the order of the rows, and shows each seat as its
rows call for, exactly where no listed seat has a confirmed row and a held one. -/
theorem statusByRows_iff (hkey : (seats.map (fun s => s.seatId)).Nodup)
    (hrows : ∀ a ∈ rows, a.status.active = true) :
    StatusByRows seats rows segmentDistance ↔ ∀ seat ∈ seats, Uniform rows seat.id := by
  constructor
  · rintro h seat hseat ⟨hconfirmed, hheld⟩
    obtain ⟨rows', hp, hstatus⟩ := exists_perm_concat hheld
    have hshows : Shows (seatMap seats rows' segmentDistance) seat .held := by
      apply (shows_iff hkey hseat).mpr
      rw [hstatus]
      rfl
    rw [h.order rows' hp] at hshows
    exact ((h.held seat hseat).mp hshows).1 hconfirmed
  · intro h
    have hstatus : ∀ seat ∈ seats, ∀ status,
        Shows (seatMap seats rows segmentDistance) seat status ↔
          statusStr (if ⟨seat.id, .confirmed⟩ ∈ rows then some .confirmed
            else if ⟨seat.id, .held⟩ ∈ rows then some .held else none) = status := by
      intro seat hseat status
      rw [← allocationStatusMap_uniform hrows (h seat hseat)]
      exact shows_iff hkey hseat
    refine ⟨fun rows' hp => seatMap_perm hrows h hp, fun seat hseat => ?_, fun seat hseat => ?_,
      fun seat hseat => ?_⟩
    all_goals
      rw [hstatus seat hseat]
      split_ifs <;> simp_all [statusStr]

def sampleSeatRow : SeatRow where
  id := 20
  scheduleId := 1
  seatId := 200
  coachNumber := "C1"
  seatNumber := 1
  seatType := "LOWER"
  pricePerKm := 5000
  coachId := 30

/-- One held row of the seat. -/
theorem statusByRows_single :
    (∀ seat ∈ [sampleSeatRow], Uniform [⟨20, .held⟩] seat.id) ∧
      StatusByRows [sampleSeatRow] [⟨20, .held⟩] 100 := by
  have huniform : ∀ seat ∈ [sampleSeatRow], Uniform [⟨20, .held⟩] seat.id := by
    unfold Uniform
    decide
  exact ⟨huniform, (statusByRows_iff (by decide) (by decide)).mpr huniform⟩

/-- A seat that is booked on one leg and held on another: the later row wins. -/
theorem not_statusByRows : ¬ ∀ (seats : List SeatRow) (rows : List ActiveAllocation)
    (segmentDistance : Nat), (seats.map (fun s => s.seatId)).Nodup →
      (∀ a ∈ rows, a.status.active = true) → StatusByRows seats rows segmentDistance := by
  intro hall
  have h := hall [sampleSeatRow] [⟨20, .confirmed⟩, ⟨20, .held⟩] 100 (by decide) (by decide)
  have horder := h.order [⟨20, .held⟩, ⟨20, .confirmed⟩] (List.Perm.swap _ _ _)
  revert horder
  decide +kernel

end RowOrder

section Agreement

variable {toUpperCase : String → String} {d : ReadDb} {now : Nat} {scheduleId : Id}
  {fromStationId toStationId : String} {schedule : ScheduleRow} {segment : SeatMapSegment}
  {seat : SeatRow}

def Blocks (scheduleId : Id) (segment : SeatMapSegment) (seat : SeatRow) (a : SeatAllocation) :
    Prop :=
  a.scheduleId = scheduleId ∧ a.seatInventoryId = seat.id ∧
    a.overlaps segment.fromSequence segment.toSequence = true ∧ a.status.active = true

/-- What keeps the seat from being held, and something does, are only holds that have
expired. -/
def OnlyLapsed (d : ReadDb) (now : Nat) (scheduleId : Id) (segment : SeatMapSegment)
    (seat : SeatRow) : Prop :=
  (∃ a ∈ d.allocations, Blocks scheduleId segment seat a) ∧
    ∀ a ∈ d.allocations, Blocks scheduleId segment seat a →
      a.status = .held ∧ a.holdExpiresAt ≤ now

theorem conflict_iff :
    hasOverlappingAllocation d.toDb scheduleId [seat.id] segment.fromSequence segment.toSequence =
      true ↔ ∃ a ∈ d.allocations, Blocks scheduleId segment seat a := by
  simp [hasOverlappingAllocation, ReadDb.toDb, Blocks, and_assoc]

theorem seatId_nodup (d : ReadDb) (scheduleId : Id) :
    ((getByScheduleOrdered d scheduleId).map (fun s => s.seatId)).Nodup := by
  unfold getByScheduleOrdered
  rw [((List.perm_insertionSort _ _).map _).nodup_iff]
  apply List.Nodup.map_on
  · intro s hs s' hs' hid
    obtain ⟨hs, hsched⟩ := List.mem_filter.mp hs
    obtain ⟨hs', hsched'⟩ := List.mem_filter.mp hs'
    apply List.inj_on_of_nodup_map d.seat_key hs hs'
    simp_all
  · exact d.seat_id.of_map.filter _

theorem getSeatMapData_ok (hschedule : d.schedules scheduleId = some schedule)
    (hactive : schedule.status = .active)
    (hsegment : resolveSeatMapSegmentStops toUpperCase d scheduleId fromStationId toStationId =
      some segment) :
    getSeatMapData toUpperCase d now scheduleId fromStationId toStationId =
      (.ok, seatMap (getByScheduleOrdered d scheduleId)
        (findActiveAllocationsBySegment d now scheduleId segment.fromSequence segment.toSequence)
        segment.segmentDistance) := by
  simp only [getSeatMapData, hschedule, hactive, hsegment, ne_eq, not_true, if_false]

theorem mem_findActive {id : Id} {status : AllocationStatus} :
    ⟨id, status⟩ ∈ findActiveAllocationsBySegment d now scheduleId segment.fromSequence
      segment.toSequence ↔ ∃ a ∈ d.allocations, a.scheduleId = scheduleId ∧
        a.seatInventoryId = id ∧ a.status = status ∧
        a.overlaps segment.fromSequence segment.toSequence = true ∧ a.activeAt now = true := by
  simp only [findActiveAllocationsBySegment, List.mem_map, List.mem_filter, Bool.and_eq_true,
    decide_eq_true_eq, ActiveAllocation.mk.injEq]
  constructor
  · rintro ⟨a, ⟨ha, ⟨hs, hactive⟩, ho⟩, hid, hst⟩
    exact ⟨a, ha, hs, hid, hst, ho, hactive⟩
  · rintro ⟨a, ha, hs, hid, hst, ho, hactive⟩
    exact ⟨a, ⟨ha, ⟨hs, hactive⟩, ho⟩, hid, hst⟩

theorem active_of_activeAt {a : SeatAllocation} (h : a.activeAt now = true) :
    a.status.active = true := by
  unfold SeatAllocation.activeAt at h
  cases hs : a.status <;> simp_all [AllocationStatus.active]

theorem shows_available_iff (hschedule : d.schedules scheduleId = some schedule)
    (hactive : schedule.status = .active)
    (hsegment : resolveSeatMapSegmentStops toUpperCase d scheduleId fromStationId toStationId =
      some segment) (hseat : seat ∈ d.seats) (hsched : seat.scheduleId = scheduleId) :
    Shows (getSeatMapData toUpperCase d now scheduleId fromStationId toStationId).2 seat
      .available ↔
      ∀ a ∈ d.allocations, Blocks scheduleId segment seat a → a.activeAt now = false := by
  have hmem : seat ∈ getByScheduleOrdered d scheduleId := by
    rw [getByScheduleOrdered, List.mem_insertionSort, List.mem_filter]
    exact ⟨hseat, decide_eq_true hsched⟩
  rw [getSeatMapData_ok hschedule hactive hsegment]
  refine (shows_iff (seatId_nodup d scheduleId) hmem).trans ?_
  cases hstatus : allocationStatusMap (findActiveAllocationsBySegment d now scheduleId
      segment.fromSequence segment.toSequence) seat.id with
  | none =>
    refine iff_of_true rfl fun a ha hblocks => ?_
    rw [← Bool.not_eq_true]
    intro hat
    refine allocationStatusMap_eq_none.mp hstatus ⟨a.seatInventoryId, a.status⟩ ?_ hblocks.2.1
    exact mem_findActive.mpr ⟨a, ha, hblocks.1, rfl, rfl, hblocks.2.2.1, hat⟩
  | some status =>
    obtain ⟨a, ha, hs, hid, hst, ho, hat⟩ :=
      mem_findActive.mp (mem_of_allocationStatusMap hstatus)
    have hactive := active_of_activeAt hat
    refine iff_of_false (fun hshown => ?_) (fun hall => ?_)
    · rw [hst] at hactive
      cases status <;> simp_all [statusStr, AllocationStatus.active]
    · have hno := hall a ha ⟨hs, hid, ho, hactive⟩
      rw [hat] at hno
      cases hno

/-- The seat map and the check of a hold agree on a seat, except where expired holds
are all that keeps it from being held. -/
theorem available_agrees_iff (hschedule : d.schedules scheduleId = some schedule)
    (hactive : schedule.status = .active)
    (hsegment : resolveSeatMapSegmentStops toUpperCase d scheduleId fromStationId toStationId =
      some segment) (hseat : seat ∈ d.seats) (hsched : seat.scheduleId = scheduleId) :
    (Shows (getSeatMapData toUpperCase d now scheduleId fromStationId toStationId).2 seat
      .available ↔
      hasOverlappingAllocation d.toDb scheduleId [seat.id] segment.fromSequence
        segment.toSequence = false) ↔ ¬ OnlyLapsed d now scheduleId segment seat := by
  rw [shows_available_iff hschedule hactive hsegment hseat hsched, ← Bool.not_eq_true,
    conflict_iff]
  have hlapsed : ∀ a : SeatAllocation, Blocks scheduleId segment seat a →
      (a.activeAt now = false ↔ a.status = .held ∧ a.holdExpiresAt ≤ now) := by
    rintro a ⟨-, -, -, hstatus⟩
    unfold SeatAllocation.activeAt
    cases hs : a.status <;> simp_all [AllocationStatus.active]
  constructor
  · rintro h ⟨hblocked, hall⟩
    exact h.mp (fun a ha hb => (hlapsed a hb).mpr (hall a ha hb)) hblocked
  · intro h
    constructor
    · exact fun hall hblocked => h ⟨hblocked, fun a ha hb => (hlapsed a hb).mp (hall a ha hb)⟩
    · exact fun hfree a ha hb => absurd ⟨a, ha, hb⟩ hfree

def sampleReadDb : ReadDb where
  schedules scheduleId := if scheduleId = 1 then some ⟨.active, 1000⟩ else none
  stops := [⟨⟨1, 2, 1, 0⟩, "NDLS"⟩, ⟨⟨1, 3, 2, 100⟩, "BPL"⟩]
  seats := [sampleSeatRow]
  allocations := [⟨1, 20, ⟨4, 0⟩, 2, 3, 1, 2, .held, 50, 5000⟩]
  stop_station := by decide
  stop_sequence := by decide
  seat_id := by decide
  seat_key := by decide

/-- At instant 10 the hold has not expired. -/
theorem available_agrees_held :
    ¬ OnlyLapsed sampleReadDb 10 1 ⟨1, 2, 100⟩ sampleSeatRow ∧
      (Shows (getSeatMapData id sampleReadDb 10 1 "2" "3").2 sampleSeatRow .available ↔
        hasOverlappingAllocation sampleReadDb.toDb 1 [20] 1 2 = false) := by
  have hlapsed : ¬ OnlyLapsed sampleReadDb 10 1 ⟨1, 2, 100⟩ sampleSeatRow := by
    rintro ⟨-, hall⟩
    have h := hall _ List.mem_cons_self ⟨rfl, rfl, rfl, rfl⟩
    exact absurd h.2 (by decide)
  have hsegment : resolveSeatMapSegmentStops id sampleReadDb 1 "2" "3" = some ⟨1, 2, 100⟩ := by
    decide
  have hschedule : sampleReadDb.schedules 1 = some ⟨.active, 1000⟩ := rfl
  exact ⟨hlapsed, (available_agrees_iff hschedule rfl hsegment List.mem_cons_self rfl).mpr hlapsed⟩

/-- At instant 60 the hold has expired, but nothing has released the seat. -/
theorem not_available_agrees : ¬ ∀ (toUpperCase : String → String) (d : ReadDb) (now : Nat)
    (scheduleId : Id) (fromStationId toStationId : String) (schedule : ScheduleRow)
    (segment : SeatMapSegment) (seat : SeatRow), d.schedules scheduleId = some schedule →
      schedule.status = .active →
      resolveSeatMapSegmentStops toUpperCase d scheduleId fromStationId toStationId =
        some segment → seat ∈ d.seats → seat.scheduleId = scheduleId →
      (Shows (getSeatMapData toUpperCase d now scheduleId fromStationId toStationId).2 seat
        .available ↔ hasOverlappingAllocation d.toDb scheduleId [seat.id] segment.fromSequence
          segment.toSequence = false) := by
  intro hall
  have h := hall id sampleReadDb 60 1 "2" "3" ⟨.active, 1000⟩ ⟨1, 2, 100⟩ sampleSeatRow rfl rfl
    (by decide) List.mem_cons_self rfl
  have hshown : Shows (getSeatMapData id sampleReadDb 60 1 "2" "3").2 sampleSeatRow .available := by
    unfold Shows
    decide
  exact absurd (h.mp hshown) (by decide)

end Agreement

end RailwayBooking.InventoryService
