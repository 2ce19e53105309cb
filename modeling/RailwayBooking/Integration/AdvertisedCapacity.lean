import Mathlib.Algebra.Order.BigOperators.Group.List
import RailwayBooking.CoachService.SeatLayouts
import RailwayBooking.Integration.ServedJourneys

namespace RailwayBooking.Integration

open Concurrency AdminService

def loadedCoach (d : CoachService.Db) (coach : CoachService.Coach) : Coach where
  id := coach.id
  trainId := coach.trainId
  coachNumber := coach.coachNumber
  coachType := coach.coachType.name
  totalSeats := coach.totalSeats
  isActive := coach.isActive
  seats := (d.seatsOf coach.id).map (fun seat => ⟨seat.id, seat.seatNumber, seat.seatType.name⟩)

def loadedCoaches (d : CoachService.Db) (trainId : Id) : List Coach :=
  (d.coaches.map (loadedCoach d)).filter (fun x => x.trainId = trainId && x.isActive)

/-- On tables with these coaches, `toCreatedEvent` builds the event from what is loaded for a
schedule. -/
def BuiltFrom (d : CoachService.Db) (e : ScheduleCreatedEvent) : Prop :=
  ∃ (a : Db) (eventId : Id) (s : ScheduleSnapshot) (route : Route × List StopWithStation),
    a.coaches = d.coaches.map (loadedCoach d) ∧
      run (.loadTrain s.schedule.trainId) a =
        .ok (some (s.train, s.coaches, s.operatingDays), [], []) ∧
      s.route = some route ∧ parseCreated eventId s route = some e

/-- What search-service shows of the seats. -/
def advertised (createdAt : Nat) (e : ScheduleCreatedEvent) : SearchService.AvailableSeats :=
  (SearchService.toDocument (searchMessage createdAt e)).capacity

def advertisedOf (createdAt : Nat) (e : ScheduleCreatedEvent) (coachType : String) : Nat :=
  ((advertised createdAt e).byCoachType.lookup coachType).getD 0

/-- A delivery of the event has created the rows. -/
def Creates (p : Pool ScheduleService.machine) (e : ScheduleCreatedEvent)
    (rows : List InventoryService.SeatInventory) : Prop :=
  ∃ t, (.scheduleCreated (.event (createdMessage e)), t) ∈ p.world.log ∧ .seats rows ∈ t.writes

/-- The rows in coaches of the type. -/
def rowsOf (e : ScheduleCreatedEvent) (coachType : String)
    (rows : List InventoryService.SeatInventory) : List InventoryService.SeatInventory :=
  rows.filter (fun row => e.coaches.any (fun coach =>
    coach.coachType = coachType && coach.coachNumber = row.coachNumber))

section Sums

theorem sum_eq_iff {α : Type} {as : List α} {f g : α → Nat} (h : ∀ a ∈ as, f a ≤ g a) :
    (as.map g).sum = (as.map f).sum ↔ ∀ a ∈ as, f a = g a := by
  constructor
  · intro heq a ha
    by_contra hne
    have hlt := List.sum_lt_sum f g h ⟨a, ha, Nat.lt_of_le_of_ne (h a ha) hne⟩
    exact Nat.ne_of_lt hlt heq.symm
  · intro hall
    rw [List.map_congr_left hall]

end Sums

section Capacity

open SearchService

theorem lookup_addSeats (coachType type : String) (seats : Nat) (acc : List (String × Nat)) :
    ((addSeats type seats acc).lookup coachType).getD 0 =
      (acc.lookup coachType).getD 0 + if type = coachType then seats else 0 := by
  have hhead : ∀ (other : String) (n : Nat) (rest : List (String × Nat)),
      (((other, n) :: rest).lookup coachType).getD 0 =
        if other = coachType then n else (rest.lookup coachType).getD 0 := by
    intro other n rest
    rw [List.lookup_cons]
    by_cases h : other = coachType
    · simp [h]
    · have hbeq : (coachType == other) = false := beq_eq_false_iff_ne.mpr (Ne.symm h)
      simp [h, hbeq]
  induction acc with
  | nil =>
    rw [addSeats, hhead]
    exact (Nat.zero_add _).symm
  | cons x acc ih =>
    obtain ⟨other, n⟩ := x
    rw [addSeats, hhead]
    split
    · next hother =>
      rw [hhead, hother]
      split
      · rfl
      · rfl
    · next hother =>
      rw [hhead, ih]
      split
      · next htype =>
        rw [if_neg fun heq => hother (htype.trans heq.symm)]
        rfl
      · rfl

theorem lookup_foldl_addSeats (coachType : String) (coaches : List CoachDocument)
    (acc : List (String × Nat)) :
    ((coaches.foldl (fun acc coach => addSeats coach.coachType coach.totalSeats acc) acc).lookup
      coachType).getD 0 = (acc.lookup coachType).getD 0 + (coaches.map (fun coach =>
        if coach.coachType = coachType then coach.totalSeats else 0)).sum := by
  induction coaches generalizing acc with
  | nil => rfl
  | cons coach coaches ih =>
    rw [List.foldl_cons, ih, lookup_addSeats, List.map_cons, List.sum_cons, Nat.add_assoc]

variable (createdAt : Nat) (e : AdminService.ScheduleCreatedEvent)

theorem advertised_total :
    (advertised createdAt e).total = (e.coaches.map AdminService.EventCoach.totalSeats).sum := by
  simp [advertised, toDocument, computeCapacity, searchMessage, Function.comp_def, coachDocument]

theorem advertisedOf_eq (coachType : String) : advertisedOf createdAt e coachType =
    (e.coaches.map (fun coach =>
      if coach.coachType = coachType then coach.totalSeats else 0)).sum := by
  rw [advertisedOf, advertised, toDocument, computeCapacity, lookup_foldl_addSeats]
  simp [searchMessage, Function.comp_def, coachDocument]

end Capacity

section Rows

variable {p : Pool ScheduleService.machine} {e : ScheduleCreatedEvent}
  {rows : List InventoryService.SeatInventory} {now : Nat}

theorem Creates.coachNumbers (hcreates : Creates p e rows)
    (h : Reachable (ScheduleService.deliveries fun _ => True) (ScheduleService.start now) p) :
    rows.map InventoryService.SeatInventory.coachNumber =
      e.coaches.flatMap (fun coach => List.replicate coach.seats.length coach.coachNumber) := by
  obtain ⟨t, hlog, hmem⟩ := hcreates
  obtain ⟨m, ids, hcall, hlength, rfl⟩ := (ScheduleService.laid_of_deliveries h).2 _ hlog rows hmem
  cases hcall
  rw [ScheduleService.seatInventoriesData, ← List.map_uncurry_zip_eq_zipWith, List.map_map]
  change (ids.zip _).map ((fun x : ScheduleService.Coach × ScheduleService.CoachSeat =>
    x.1.coachNumber) ∘ Prod.snd) = _
  rw [← List.map_map, List.map_snd_zip (Nat.le_of_eq hlength.symm)]
  simp [ScheduleService.coachSeats, createdMessage, List.map_flatMap, List.flatMap_map,
    Function.comp_def]

theorem Creates.length (hcreates : Creates p e rows)
    (h : Reachable (ScheduleService.deliveries fun _ => True) (ScheduleService.start now) p) :
    rows.length = (e.coaches.map (fun coach => coach.seats.length)).sum := by
  have hlength := congrArg List.length (hcreates.coachNumbers h)
  rw [List.length_map, List.length_flatMap] at hlength
  simpa using hlength

theorem Creates.length_rowsOf (hcreates : Creates p e rows)
    (h : Reachable (ScheduleService.deliveries fun _ => True) (ScheduleService.start now) p)
    (hnodup : (e.coaches.map EventCoach.coachNumber).Nodup) (coachType : String) :
    (rowsOf e coachType rows).length = (e.coaches.map (fun coach =>
      if coach.coachType = coachType then coach.seats.length else 0)).sum := by
  let ofType : String → Bool := fun number =>
    e.coaches.any (fun coach => coach.coachType = coachType && coach.coachNumber = number)
  have hown : ∀ coach ∈ e.coaches,
      ofType coach.coachNumber = decide (coach.coachType = coachType) := by
    intro coach hcoach
    rw [Bool.eq_iff_iff, List.any_eq_true, decide_eq_true_eq]
    constructor
    · rintro ⟨other, hother, htest⟩
      rw [Bool.and_eq_true, decide_eq_true_eq, decide_eq_true_eq] at htest
      rw [← List.inj_on_of_nodup_map hnodup hother hcoach htest.2]
      exact htest.1
    · intro htype
      exact ⟨coach, hcoach, by simp [htype]⟩
  have hcount : (rowsOf e coachType rows).length =
      (rows.map InventoryService.SeatInventory.coachNumber).countP ofType := by
    rw [rowsOf, ← List.countP_eq_length_filter, List.countP_map]
    rfl
  rw [hcount, hcreates.coachNumbers h, List.countP_flatMap]
  congr 1
  apply List.map_congr_left
  intro coach hcoach
  rw [Function.comp_apply, List.countP_replicate, hown coach hcoach]
  simp

end Rows

section Coaches

variable {d : CoachService.Db} {e : ScheduleCreatedEvent}

theorem BuiltFrom.coaches (he : BuiltFrom d e) :
    ∃ trainId, e.coaches = (loadedCoaches d trainId).map eventCoach := by
  obtain ⟨a, eventId, s, route, hcoaches, hload, -, hparse⟩ := he
  refine ⟨s.schedule.trainId, ?_⟩
  have hloaded : s.coaches = loadedCoaches d s.schedule.trainId := by
    obtain ⟨train, -, heq⟩ :=
      Option.map_eq_some_iff.mp (congrArg Prod.fst (Except.ok.inj hload))
    obtain ⟨-, hsame⟩ := Prod.mk.inj heq
    rw [← (Prod.mk.inj hsame).1, loadedCoaches, ← hcoaches]
  simp only [parseCreated, Option.bind_eq_bind, Option.bind_eq_some_iff] at hparse
  obtain ⟨category, -, status, -, hparse⟩ := hparse
  split at hparse
  · cases hparse
    rw [hloaded]
  · cases hparse

theorem BuiltFrom.length_seats (he : BuiltFrom d e) (hk : d.Keys) (hc : d.Consistent) :
    ∀ coach ∈ e.coaches, 0 < coach.totalSeats ∧
      (coach.seats = [] ∨ coach.seats.length = coach.totalSeats) := by
  intro coach hcoach
  obtain ⟨trainId, hcoaches⟩ := he.coaches
  rw [hcoaches] at hcoach
  obtain ⟨loaded, hloaded, rfl⟩ := List.mem_map.mp hcoach
  obtain ⟨row, hrow, rfl⟩ := List.mem_map.mp (List.mem_filter.mp hloaded).1
  refine ⟨hk.positive row hrow, ?_⟩
  obtain hbare | hlaid := hc row hrow
  · left
    simp [eventCoach, loadedCoach, hbare]
  · right
    simpa [eventCoach, loadedCoach] using hlaid.length

theorem BuiltFrom.nodup_coachNumbers (he : BuiltFrom d e) (hk : d.Keys) :
    (e.coaches.map EventCoach.coachNumber).Nodup := by
  obtain ⟨trainId, hcoaches⟩ := he.coaches
  rw [hcoaches, List.map_map]
  change ((loadedCoaches d trainId).map Coach.coachNumber).Nodup
  have hpairs : ((loadedCoaches d trainId).map (fun x => (x.trainId, x.coachNumber))).Nodup := by
    refine List.Nodup.sublist (List.filter_sublist.map _) ?_
    rw [List.map_map]
    exact hk.numbers
  refine List.Nodup.of_map (fun number => (trainId, number)) ?_
  rw [List.map_map]
  convert hpairs using 1
  apply List.map_congr_left
  intro x hx
  have htrain := (List.mem_filter.mp hx).2
  simp at htrain
  simp [htrain.1]

end Coaches

/-- Where every commit of admin-service is guarded, search shows as many seats as inventory
makes rows exactly where all coaches of the event have their seats, for each type and
altogether. -/
theorem advertised_iff_generated {d : CoachService.Db} {a : Pool CoachService.machine}
    (hk : d.Keys) (hnone : d.seats = [])
    (ha : Reachable CoachService.guardedRuns (CoachService.start d) a)
    {e : ScheduleCreatedEvent} (he : BuiltFrom a.world.db e) {now : Nat}
    {p : Pool ScheduleService.machine}
    (hp : Reachable (ScheduleService.deliveries fun _ => True) (ScheduleService.start now) p)
    {rows : List InventoryService.SeatInventory} (hrows : Creates p e rows) (createdAt : Nat) :
    ((advertised createdAt e).total = rows.length ↔ ∀ coach ∈ e.coaches, coach.seats ≠ []) ∧
      ∀ coachType, advertisedOf createdAt e coachType = (rowsOf e coachType rows).length ↔
        ∀ coach ∈ e.coaches, coach.coachType = coachType → coach.seats ≠ [] := by
  obtain ⟨hkeys, hconsistent⟩ := CoachService.inv_of_guardedRuns hk hnone ha
  have hlength := he.length_seats hkeys hconsistent
  have hle : ∀ coach ∈ e.coaches, coach.seats.length ≤ coach.totalSeats := by
    intro coach hcoach
    obtain ⟨-, hbare | hfull⟩ := hlength coach hcoach
    · simp [hbare]
    · exact Nat.le_of_eq hfull
  have hfull : ∀ coach ∈ e.coaches,
      (coach.seats.length = coach.totalSeats ↔ coach.seats ≠ []) := by
    intro coach hcoach
    obtain ⟨hpos, hbare | hfull⟩ := hlength coach hcoach
    · simp [hbare, Nat.ne_of_lt hpos]
    · refine ⟨fun _ hbare => ?_, fun _ => hfull⟩
      rw [hbare] at hfull
      exact Nat.ne_of_lt hpos hfull
  refine ⟨?_, fun coachType => ?_⟩
  · rw [advertised_total, hrows.length hp, sum_eq_iff hle]
    exact forall₂_congr hfull
  · rw [advertisedOf_eq, hrows.length_rowsOf hp (he.nodup_coachNumbers hkeys), sum_eq_iff]
    · refine forall₂_congr fun coach hcoach => ?_
      by_cases htype : coach.coachType = coachType
      · simpa [htype] using hfull coach hcoach
      · simp [htype]
    · intro coach hcoach
      split
      · exact hle coach hcoach
      · exact Nat.le_refl 0

section Runs

def halfSeated : CoachService.Db :=
  { CoachService.sampleTables with
    seats := CoachService.seatsToCreate ⟨1, 1, "H1", .ac1a, 18, true⟩ 1
      (CoachService.drawIds 0 0 18) }

def sampleAdvertised : ScheduleCreatedEvent :=
  { sampleCreated with coaches := (loadedCoaches halfSeated 1).map eventCoach }

theorem builtFrom_halfSeated {d : CoachService.Db} (hcoaches : d.coaches = halfSeated.coaches)
    (hseats : d.seats = halfSeated.seats) : BuiltFrom d sampleAdvertised := by
  have hcoach : loadedCoach d = loadedCoach halfSeated := by
    funext coach
    rw [loadedCoach, CoachService.Db.seatsOf, hseats]
    rfl
  let a : Db := { AdminService.sampleTables with
    coaches := halfSeated.coaches.map (loadedCoach halfSeated) }
  let route : Route × List StopWithStation :=
    (⟨1, 1, true⟩, a.routeStations.map (fun stop => (stop, a.station stop.stationId)))
  let s : ScheduleSnapshot := ⟨⟨0, 1, 10 * millisecondsPerDay, .active, 1⟩,
    ⟨1, "12301", "Rajdhani Express", .rajdhani, true⟩, some route, loadedCoaches halfSeated 1,
    [0, 1]⟩
  refine ⟨a, 1, s, route, ?_, rfl, rfl, by decide +kernel⟩
  rw [hcoaches, hcoach]

theorem exists_halfSeated : ∃ a,
    Reachable CoachService.guardedRuns (CoachService.start CoachService.sampleTables) a ∧
      BuiltFrom a.world.db sampleAdvertised := by
  obtain ⟨a, ha, ht⟩ := exists_reachable CoachService.guardedRuns
    (CoachService.start CoachService.sampleTables)
    (guardsCommits fun c t w => decide (CoachService.Guarded c t w))
    (inTurn 20 [.bulkCreateSeats 1])
    (fun a => decide (a.world.db.coaches = halfSeated.coaches ∧
      a.world.db.seats = halfSeated.seats))
    (permits_guardsCommits fun c t w s h h' t' hs ht => of_decide_eq_true (h h' t' hs ht))
    (fun _ _ _ _ _ => trivial) (by decide +kernel)
  obtain ⟨hcoaches, hseats⟩ := of_decide_eq_true ht
  exact ⟨a, ha, builtFrom_halfSeated hcoaches hseats⟩

def seatRows : ScheduleService.Write → Option (List InventoryService.SeatInventory)
  | .seats rows => some rows
  | _ => none

def createdRows (e : ScheduleCreatedEvent) :
    ScheduleService.Call × Tx ScheduleService.scheduleService →
      Option (List InventoryService.SeatInventory)
  | (.scheduleCreated (.event m), t) =>
    if m = createdMessage e then t.writes.findSome? seatRows else none
  | _ => none

theorem creates_of_findSome {p : Pool ScheduleService.machine} {e : ScheduleCreatedEvent}
    {rows : List InventoryService.SeatInventory}
    (h : p.world.log.findSome? (createdRows e) = some rows) : Creates p e rows := by
  obtain ⟨x, hlog, hrows⟩ := List.exists_of_findSome?_eq_some h
  unfold createdRows at hrows
  split at hrows
  · split at hrows
    · next hm =>
      obtain ⟨y, hy, hseats⟩ := List.exists_of_findSome?_eq_some hrows
      cases y with
      | seats rows' =>
        cases hseats
        exact ⟨_, hm ▸ hlog, hy⟩
      | _ => cases hseats
    · cases hrows
  · cases hrows

theorem exists_created : ∃ p rows,
    Reachable (ScheduleService.deliveries fun _ => True) (ScheduleService.start 0) p ∧
      Creates p sampleAdvertised rows ∧ rows.length = 18 := by
  obtain ⟨p, hp, ht⟩ := exists_reachable (ScheduleService.deliveries fun _ => True)
    (ScheduleService.start 0) (fun _ _ => true)
    (inTurn 20 [.scheduleCreated (.event (createdMessage sampleAdvertised))])
    (fun p => (p.world.log.findSome? (createdRows sampleAdvertised)).any
      (fun rows : List InventoryService.SeatInventory => decide (rows.length = 18)))
    (fun p a _ => permits_calls p a)
    (fun m hm c hc _ => by
      rw [List.mem_singleton.mp (started_inTurn hm hc)]
      exact ⟨trivial, rfl⟩)
    (by decide +kernel)
  cases hfind : p.world.log.findSome? (createdRows sampleAdvertised) with
  | none =>
    rw [hfind] at ht
    cases ht
  | some rows =>
    rw [hfind] at ht
    exact ⟨p, rows, hp, creates_of_findSome hfind, of_decide_eq_true ht⟩

/-- Where the second coach has no seats, search shows those that it could have. -/
theorem advertised_halfSeated : ∃ a p rows,
    Reachable CoachService.guardedRuns (CoachService.start CoachService.sampleTables) a ∧
      BuiltFrom a.world.db sampleAdvertised ∧
      Reachable (ScheduleService.deliveries fun _ => True) (ScheduleService.start 0) p ∧
      Creates p sampleAdvertised rows ∧
      advertisedOf 0 sampleAdvertised "AC_1A" = (rowsOf sampleAdvertised "AC_1A" rows).length ∧
      (advertised 0 sampleAdvertised).total ≠ rows.length := by
  obtain ⟨a, ha, he⟩ := exists_halfSeated
  obtain ⟨p, rows, hp, hrows, -⟩ := exists_created
  obtain ⟨htotal, htypes⟩ := advertised_iff_generated CoachService.sampleTables_keys rfl ha he hp
    hrows 0
  refine ⟨a, p, rows, ha, he, hp, hrows, (htypes "AC_1A").mpr (by decide), fun heq => ?_⟩
  exact absurd (htotal.mp heq) (by decide)

theorem not_advertised : ¬ ∀ (d : CoachService.Db) (a : Pool CoachService.machine)
    (e : ScheduleCreatedEvent) (now : Nat) (p : Pool ScheduleService.machine)
    (rows : List InventoryService.SeatInventory) (createdAt : Nat), d.Keys → d.seats = [] →
      Reachable (Scope.calls fun _ => True) (CoachService.start d) a → BuiltFrom a.world.db e →
        Reachable (ScheduleService.deliveries fun _ => True) (ScheduleService.start now) p →
          Creates p e rows → (advertised createdAt e).total = rows.length ∧
            ∀ coachType, advertisedOf createdAt e coachType = (rowsOf e coachType rows).length := by
  intro hall
  obtain ⟨a, ha, he⟩ := exists_halfSeated
  obtain ⟨p, rows, hp, hrows, hlength⟩ := exists_created
  have hcalls : Reachable (Scope.calls fun _ => True) (CoachService.start CoachService.sampleTables)
      a := ha.mono (fun _ _ _ => trivial) fun p a _ => permits_calls p a
  have htotal := (hall _ a _ 0 p rows 0 CoachService.sampleTables_keys rfl hcalls he hp hrows).1
  rw [hlength] at htotal
  exact absurd htotal (by decide)

end Runs

end RailwayBooking.Integration
