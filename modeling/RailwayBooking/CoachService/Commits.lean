import RailwayBooking.CoachService.Operations

namespace RailwayBooking.CoachService

open Concurrency

abbrev CoachTx := Tx coachService

abbrev CoachWorld := World coachService Call

def applyAll (d : Db) (ws : List Write) : Db := ws.foldl (fun d x => x.apply d) d

theorem view_eq (t : CoachTx) (d : Db) : t.view d = applyAll d t.writes := rfl

theorem applyAll_cons (d : Db) (x : Write) (ws : List Write) :
    applyAll d (x :: ws) = applyAll (x.apply d) ws := rfl

theorem view_nil {t : CoachTx} (h : t.writes = []) (d : Db) : t.view d = d := by
  rw [view_eq, h]
  rfl

section Layouts

/-- One seat for each number up to the count of the coach, of the type of its number. -/
structure LaidOut (coach : Coach) (seats : List Seat) : Prop where
  numbers : (seats.map Seat.seatNumber).Perm (List.range' 1 coach.totalSeats)
  types : ∀ s ∈ seats, s.seatType = determineSeatType s.seatNumber coach.coachType

instance (coach : Coach) (seats : List Seat) : Decidable (LaidOut coach seats) :=
  decidable_of_iff ((seats.map Seat.seatNumber).Perm (List.range' 1 coach.totalSeats) ∧
    ∀ s ∈ seats, s.seatType = determineSeatType s.seatNumber coach.coachType)
    ⟨fun h => ⟨h.1, h.2⟩, fun h => ⟨h.1, h.2⟩⟩

/-- Each coach has no seats, or those of its layout. -/
def Db.Consistent (d : Db) : Prop :=
  ∀ coach ∈ d.coaches, d.seatsOf coach.id = [] ∨ LaidOut coach (d.seatsOf coach.id)

instance (d : Db) : Decidable d.Consistent :=
  inferInstanceAs (Decidable (∀ coach ∈ d.coaches, _))

structure SameLayout (coach coach' : Coach) : Prop where
  totalSeats : coach.totalSeats = coach'.totalSeats
  types : ∀ n ∈ List.range' 1 coach.totalSeats,
    determineSeatType n coach.coachType = determineSeatType n coach'.coachType

instance (coach coach' : Coach) : Decidable (SameLayout coach coach') :=
  decidable_of_iff (coach.totalSeats = coach'.totalSeats ∧
    ∀ n ∈ List.range' 1 coach.totalSeats,
      determineSeatType n coach.coachType = determineSeatType n coach'.coachType)
    ⟨fun h => ⟨h.1, h.2⟩, fun h => ⟨h.1, h.2⟩⟩

variable {coach coach' : Coach} {seats : List Seat}

theorem LaidOut.same (h : LaidOut coach seats) (hs : SameLayout coach coach') :
    LaidOut coach' seats where
  numbers := hs.totalSeats ▸ h.numbers
  types s hmem := by
    rw [h.types s hmem]
    exact hs.types _ (h.numbers.subset (List.mem_map_of_mem hmem))

theorem LaidOut.length (h : LaidOut coach seats) : seats.length = coach.totalSeats := by
  have hlen := h.numbers.length_eq
  rwa [List.length_map, List.length_range'] at hlen

theorem LaidOut.sameLayout (h : LaidOut coach seats) (h' : LaidOut coach' seats) :
    SameLayout coach coach' where
  totalSeats := h.length.symm.trans h'.length
  types n hn := by
    obtain ⟨s, hs, rfl⟩ := List.mem_map.mp (h.numbers.symm.subset hn)
    rw [← h.types s hs, ← h'.types s hs]

theorem LaidOut.exists_one (h : LaidOut coach seats) (hpos : 0 < coach.totalSeats) :
    ∃ s ∈ seats, s.seatNumber = 1 := by
  have hone : 1 ∈ List.range' 1 coach.totalSeats := by
    rw [List.mem_range'_1]
    omega
  exact List.mem_map.mp (h.numbers.symm.subset hone)

theorem laidOut_seatsToCreate {coachId : Id} {ids : List Id} (h : ids.length = coach.totalSeats) :
    LaidOut coach (seatsToCreate coach coachId ids) where
  numbers := by
    rw [seatsToCreate, List.map_map]
    change ((ids.zip _).map Prod.snd).Perm _
    rw [List.map_snd_zip]
    rw [List.length_range', h]
  types s hs := by
    obtain ⟨x, _, rfl⟩ := List.mem_map.mp hs
    rfl

theorem coachId_of_mem_seatsToCreate {coachId : Id} {ids : List Id} {s : Seat}
    (hs : s ∈ seatsToCreate coach coachId ids) : s.coachId = coachId := by
  obtain ⟨x, _, rfl⟩ := List.mem_map.mp hs
  rfl

end Layouts

section Rows

/-- The row of a coach. -/
def rowOf (d : Db) (k : Id) : Option Coach := d.coaches.find? (fun c => c.id = k)

variable {d : Db} {k : Id} {coach : Coach}

theorem rowOf_id (h : rowOf d k = some coach) : coach.id = k := by
  simpa using List.find?_some h

theorem rowOf_mem (h : rowOf d k = some coach) : coach ∈ d.coaches := List.mem_of_find?_eq_some h

theorem rowOf_eq_none : rowOf d k = none ↔ ∀ c ∈ d.coaches, c.id ≠ k := by
  simp [rowOf, List.find?_eq_none]

theorem mem_seatsOf {s : Seat} : s ∈ d.seatsOf k ↔ s ∈ d.seats ∧ s.coachId = k := by
  simp [Db.seatsOf]

/-- The row after an update of row `j`. -/
def CoachUpdate.setAt (data : CoachUpdate) (j : Id) (c : Coach) : Coach :=
  if c.id = j then data.set c else c

@[simp] theorem CoachUpdate.set_id (data : CoachUpdate) (c : Coach) : (data.set c).id = c.id := rfl

@[simp] theorem CoachUpdate.set_trainId (data : CoachUpdate) (c : Coach) :
    (data.set c).trainId = c.trainId := rfl

@[simp] theorem CoachUpdate.setAt_id (data : CoachUpdate) (j : Id) (c : Coach) :
    (data.setAt j c).id = c.id := by
  unfold CoachUpdate.setAt
  split <;> rfl

@[simp] theorem CoachUpdate.setAt_trainId (data : CoachUpdate) (j : Id) (c : Coach) :
    (data.setAt j c).trainId = c.trainId := by
  unfold CoachUpdate.setAt
  split <;> rfl

theorem numberTaken_eq_false {row : Coach} : numberTaken d row = false ↔
    ∀ c ∈ d.coaches, c.id ≠ row.id → c.trainId = row.trainId → c.coachNumber ≠ row.coachNumber := by
  simp [numberTaken]

end Rows

/-- What the constraints of the tables keep up. -/
structure Db.Keys (d : Db) : Prop where
  ids : (d.coaches.map Coach.id).Nodup
  numbers : (d.coaches.map (fun c => (c.trainId, c.coachNumber))).Nodup
  rooted : ∀ s ∈ d.seats, rowOf d s.coachId ≠ none
  positive : ∀ c ∈ d.coaches, 0 < c.totalSeats

def Call.sets : Call → Option (Id × CoachUpdate)
  | .updateCoach coachId dto => some (coachId, dto.updatedData)
  | .deleteCoach coachId => some (coachId, ⟨none, none, none, some false⟩)
  | _ => none

/-- The rows of a coach that a statement has read. -/
def read (coachId : Id) : (Σ q, Rows q) → Option Coach
  | ⟨.getCoachById id, row⟩ => if id = coachId then row else none
  | _ => none

/-- The transactions that the calls commit. -/
inductive Commit (c : Call) (t : CoachTx) (w : CoachWorld) : Prop
  | added (trainId : Id) (dto : CreateCoachRequest) (row : Coach) (event : OutboxEvent)
      (call : c = .addCoach trainId dto) (new : rowOf w.db row.id = none)
      (free : numberTaken w.db row = false) (positive : 0 < row.totalSeats)
      (writes : t.writes = [.coach row, .outbox event])
  | updated (data : CoachUpdate) (row : Coach) (call : c.sets = some (row.id, data))
      (found : rowOf w.db row.id = some row) (free : numberTaken w.db (data.set row) = false)
      (positive : 0 < (data.set row).totalSeats) (writes : t.writes = [.updated row data])
  | generated (coachId : Id) (coach : Coach) (ids : List Id) (event : OutboxEvent)
      (call : c = .bulkCreateSeats coachId) (seen : t.stmts.filterMap (read coachId) = [coach])
      (stands : rowOf w.db coachId ≠ none) (bare : w.db.seatsOf coachId = [])
      (count : ids.length = coach.totalSeats) (positive : 0 < coach.totalSeats)
      (writes : t.writes = [.seats (seatsToCreate coach coachId ids), .outbox event])
  | reset (coachId : Id) (rows : List Seat) (call : c = .resetSeats coachId)
      (all : rows = [] ∨ w.db.seatsOf coachId = rows) (writes : t.writes = [.deletedSeats rows])
  | kept (coachId : Id) (call : c = .resetSeats coachId) (writes : t.writes = [])

/-- Where the transaction commits, what it has checked is still so: a coach whose layout it
changes has no seats, and a coach for which it has put seats the layout of the row that it
has read. -/
def Guarded (c : Call) (t : CoachTx) (w : CoachWorld) : Prop :=
  match c with
  | .updateCoach coachId dto => w.db.seatsOf coachId = [] ∨
      ∀ coach ∈ w.db.coaches, coach.id = coachId → SameLayout coach (dto.updatedData.set coach)
  | .bulkCreateSeats coachId => ∀ seen ∈ t.stmts.filterMap (read coachId),
      ∀ coach ∈ w.db.coaches, coach.id = coachId → SameLayout seen coach
  | _ => True

instance (c : Call) (t : CoachTx) (w : CoachWorld) : Decidable (Guarded c t w) :=
  match c with
  | .updateCoach _ _ => inferInstanceAs (Decidable (_ ∨ ∀ coach ∈ w.db.coaches, _))
  | .bulkCreateSeats coachId =>
      inferInstanceAs (Decidable (∀ seen ∈ t.stmts.filterMap (read coachId), _))
  | .addCoach _ _ | .deleteCoach _ | .resetSeats _ => inferInstanceAs (Decidable True)

end RailwayBooking.CoachService
