import RailwayBooking.BookingService.Tables

namespace RailwayBooking.BookingService

open Concurrency

def OutboxEvent.eventId : OutboxEvent → EventId
  | .bookingStatusChanged e => e.eventId
  | .holdSeatsRequested e => e.eventId

/-- `uuid` was drawn by call `i` after all its ids that stand in the outbox. -/
structure Drawn (uuid : Uuid) (i : Nat) (w : BookingWorld) : Prop where
  source : uuid.source = i
  drawn : uuid.serial < w.env.fresh
  unused : ∀ ev ∈ w.db.outbox, ∀ u, ev.eventId = .random u → u.source = i → u.serial < uuid.serial

def Call.pays : Call → Option Uuid
  | .confirmPayment b _ => some b
  | .paymentSuccess (.event e) => some e.bookingId
  | _ => none

/-- The transitions that a call may perform. -/
inductive Performs : Call → TransitionArgs → Prop
  | markSeatsHeld (b : Uuid) (l : Nat) : Performs (.markSeatsHeld b l) (markSeatsHeldArgs b l)
  | markPaymentPending (b : Uuid) (p : PaymentOrderId) :
      Performs (.markPaymentPending b p) (markPaymentPendingArgs b p)
  | markConfirming (b : Uuid) : Performs (.markConfirming b) (markConfirmingArgs b)
  | markConfirmed (b : Uuid) : Performs (.markConfirmed b) (markConfirmedArgs b)
  | markFailed (b : Uuid) (r : String) : Performs (.markFailed b r) (markFailedArgs b r)
  | markExpired (b : Uuid) : Performs (.markExpired b) (markExpiredArgs b)
  | cancelling (b : Uuid) (u : Id) : Performs (.cancelBooking b u) (markCancellingArgs b)
  | cancelled (b : Uuid) (u : Id) : Performs (.cancelBooking b u) (markCancelledArgs b)
  | ordered (b : Uuid) (u : Id) (o : Uuid) :
      Performs (.createPaymentOrder b u) (markPaymentPendingArgs b (.issued o))
  | autoAdvance (e : SeatsHeld) :
      Performs (.seatsHeld (.event e)) (markPaymentPendingArgs e.bookingId (.auto e.bookingId))
  | payHeld {c : Call} {b : Uuid} (uuid : Uuid) (h : c.pays = some b) :
      Performs c (markPaymentPendingArgs b (.pay uuid))
  | payConfirming {c : Call} {b : Uuid} (h : c.pays = some b) : Performs c (markConfirmingArgs b)
  | payConfirmed {c : Call} {b : Uuid} (h : c.pays = some b) : Performs c (markConfirmedArgs b)

namespace TransitionArgs

variable (args : TransitionArgs)

/-- The row after the optional column updates. -/
def updated (row : Booking) : Booking := args.updates.elim row (fun u => u.apply row)

/-- The row after the status change as well. -/
def moved (row : Booking) : Booking :=
  { args.updated row with status := args.target, version := row.version + 1 }

def updateWrites (row : Booking) : List Write :=
  args.updates.elim [] (fun u => [.booking (u.apply row)])

end TransitionArgs

/-- Call `i` has moved booking `b` to `status` in a transaction of its own. -/
def Moved (i : Nat) (b : Uuid) (status : BookingStatus) (w : BookingWorld) : Prop :=
  ∃ c t v row, (c, t) ∈ w.log ∧ t.owner = i ∧ t.site = .transition ∧
    t.Answered (.updateStatus b status v) true ∧ .booking row ∈ t.writes ∧ row.id = b ∧
    row.status = status

/-- Steps of the saga log that a call writes outside any transaction. -/
inductive Records (i : Nat) (w : BookingWorld) :
    Call → Uuid → SagaStep → SagaStatus → Prop
  | payment {b : Uuid} {u : Id} (s : SagaStatus) (h : s = .failed ∨ s = .completed) :
      Records i w (.createPaymentOrder b u) b .createPayment s
  | confirmed {c : Call} {b : Uuid} (h : c.pays = some b) (moved : Moved i b .confirmed w) :
      Records i w c b .confirmSeats .completed

/-- The row of a new booking with the rest of what `createBooking` inserts. -/
structure Insertion where
  userId : Id
  dto : CreateBookingDto
  bookingId : Uuid
  pnr : Nat
  seatInventoryIds : List Id
  holdTtlMs : Nat
  eventId : Uuid
  holdEventId : Uuid

namespace Insertion

variable (x : Insertion)

def row : Booking := newBooking x.userId x.dto x.bookingId x.pnr

def response : CreateBookingResponse := ⟨x.bookingId, x.pnr, .pending⟩

def changed : BookingStatusChanged := statusChanged x.eventId x.row none

def request : HoldSeatsRequested :=
  holdSeatsPayload x.dto x.holdEventId x.row x.seatInventoryIds x.holdTtlMs

def writes : List Write :=
  [.booking x.row, .seats (newSeats x.dto x.bookingId), .passengers (newPassengers x.dto x.bookingId),
    .outbox (.bookingStatusChanged x.changed), .saga x.bookingId .holdSeats ⟨.pending, none⟩,
    .saga x.bookingId .createPayment ⟨.pending, none⟩,
    .saga x.bookingId .confirmSeats ⟨.pending, none⟩, .outbox (.holdSeatsRequested x.request),
    .idempotencyKey ⟨x.dto.idempotencyKey, x.bookingId, x.response⟩]

/-- The seats were resolved by inventory-service, whose answers are fixed when
the environment has a catalog. -/
def Resolved (w : BookingWorld) : Prop :=
  ∀ f ∈ w.env.catalog, (f x.dto.scheduleId x.dto.seatIds).length = x.dto.seatIds.length ∧
    seatInventoryIdsOf (f x.dto.scheduleId x.dto.seatIds) x.dto.seatIds = some x.seatInventoryIds

end Insertion

/-- The columns that `handleSeatsHeld` sets on the booking. -/
def heldUpdate (e : SeatsHeld) : BookingUpdate :=
  { BookingUpdate.nothing with
    totalPrice := some (totalPrice e), lockExpiresAt := some e.holdExpiresAt }

def failureUpdate (e : SeatsHoldFailed) : BookingUpdate :=
  { BookingUpdate.nothing with failureReason := some e.message }

/-- The transactions that booking-service commits, one constructor for each way
through each transaction of the source, and in each the committed state that it
meets. -/
inductive Commit : Call → BookingTx → BookingWorld → Prop
  | replayed {userId : Id} {dto : CreateBookingDto} {t : BookingTx} {w : BookingWorld}
      (site : t.site = .createBooking) (writes : t.writes = []) :
      Commit (.createBooking userId dto) t w
  | created {t : BookingTx} {w : BookingWorld} (x : Insertion) (site : t.site = .createBooking)
      (writes : t.writes = x.writes) (owner : x.bookingId.source = t.owner)
      (new : w.db.bookings x.bookingId = none) (pnr : w.db.pnrs x.pnr = none)
      (key : w.db.idempotencyKeys x.dto.idempotencyKey = none)
      (eventId : Drawn x.eventId t.owner w) (holdEventId : Drawn x.holdEventId t.owner w)
      (order : x.eventId.serial < x.holdEventId.serial) (resolved : x.Resolved w) :
      Commit (.createBooking x.userId x.dto) t w
  | transition {c : Call} {t : BookingTx} {w : BookingWorld} {args : TransitionArgs}
      {read row : Booking} {eventId : Uuid} (performs : Performs c args)
      (site : t.site = .transition)
      (permits : args.permits read.status = true)
      (answered : t.Answered (.findById args.bookingId) (some read))
      (won : t.Answered (.updateStatus args.bookingId args.target (read.version + 1)) true)
      (unbeaten : ∀ b s v, ¬ t.Answered (.updateStatus b s v) false)
      (current : w.db.bookings args.bookingId = some row) (version : row.version = read.version)
      (status : row.status = read.status)
      (writes : t.writes = args.updateWrites row ++ [.booking (args.moved row),
        .outbox (.bookingStatusChanged (statusChanged eventId (args.moved row)
          (some row.status)))])
      (drawn : Drawn eventId t.owner w) : Commit c t w
  | recorded {c : Call} {t : BookingTx} {w : BookingWorld} {b : Uuid} {step : SagaStep}
      {status : SagaStatus} {error : Option String} (site : t.site = .auto)
      (records : Records t.owner w c b step status)
      (writes : t.writes = [.saga b step ⟨status, error⟩]) : Commit c t w
  | heldSkipped {e : SeatsHeld} {t : BookingTx} {w : BookingWorld} (site : t.site = .seatsHeld)
      (writes : t.writes = []) : Commit (.seatsHeld (.event e)) t w
  | held {e : SeatsHeld} {t : BookingTx} {w : BookingWorld} {read row : Booking}
      (site : t.site = .seatsHeld) (pending : read.status = .pending)
      (answered : t.Answered (.findById e.bookingId) (some read))
      (won : t.Answered (.updateStatus e.bookingId .seatsHeld (read.version + 1)) true)
      (current : w.db.bookings e.bookingId = some row) (version : row.version = read.version)
      (status : row.status = read.status)
      (writes : t.writes = (passengersData e).map (.enrich e.bookingId) ++
        [.booking { row with status := .seatsHeld, version := row.version + 1 },
          .booking ((heldUpdate e).apply
            { row with status := .seatsHeld, version := row.version + 1 }),
          .saga e.bookingId .holdSeats ⟨.completed, none⟩])
      (price : totalPrice e < decimalLimit) : Commit (.seatsHeld (.event e)) t w
  | holdFailedSkipped {e : SeatsHoldFailed} {t : BookingTx} {w : BookingWorld}
      (site : t.site = .seatsHoldFailed) (writes : t.writes = []) :
      Commit (.seatsHoldFailed (.event e)) t w
  | holdFailed {e : SeatsHoldFailed} {t : BookingTx} {w : BookingWorld} {read row : Booking}
      (site : t.site = .seatsHoldFailed) (pending : read.status = .pending)
      (answered : t.Answered (.findById e.bookingId) (some read))
      (won : t.Answered (.updateStatus e.bookingId .failed (read.version + 1)) true)
      (current : w.db.bookings e.bookingId = some row) (version : row.version = read.version)
      (status : row.status = read.status)
      (writes : t.writes =
        [.booking { row with status := .failed, version := row.version + 1 },
          .booking ((failureUpdate e).apply
            { row with status := .failed, version := row.version + 1 }),
          .saga e.bookingId .holdSeats ⟨.failed, some e.reason.name⟩]) :
      Commit (.seatsHoldFailed (.event e)) t w
  | holdFailedBeaten {e : SeatsHoldFailed} {t : BookingTx} {w : BookingWorld}
      {read row : Booking} (site : t.site = .seatsHoldFailed) (pending : read.status = .pending)
      (answered : t.Answered (.findById e.bookingId) (some read))
      (lost : t.Answered (.updateStatus e.bookingId .failed (read.version + 1)) false)
      (current : w.db.bookings e.bookingId = some row) (version : read.version < row.version)
      (writes : t.writes = [.booking ((failureUpdate e).apply row),
        .saga e.bookingId .holdSeats ⟨.failed, some e.reason.name⟩]) :
      Commit (.seatsHoldFailed (.event e)) t w
  | holdExpiredSkipped {e : SeatHoldExpired} {t : BookingTx} {w : BookingWorld}
      (site : t.site = .seatHoldExpired) (writes : t.writes = []) :
      Commit (.seatHoldExpired (.event e)) t w
  | holdExpired {e : SeatHoldExpired} {t : BookingTx} {w : BookingWorld} {read row : Booking}
      (site : t.site = .seatHoldExpired)
      (held : read.status = .seatsHeld ∨ read.status = .pending)
      (answered : t.Answered (.findById e.bookingId) (some read))
      (won : t.Answered (.updateStatus e.bookingId .expired (read.version + 1)) true)
      (current : w.db.bookings e.bookingId = some row) (version : row.version = read.version)
      (status : row.status = read.status)
      (writes : t.writes =
        [.booking { row with status := .expired, version := row.version + 1 },
          .saga e.bookingId .holdSeats ⟨.compensated, some "Hold duration expired"⟩]) :
      Commit (.seatHoldExpired (.event e)) t w
  | holdExpiredBeaten {e : SeatHoldExpired} {t : BookingTx} {w : BookingWorld}
      {read row : Booking} (site : t.site = .seatHoldExpired)
      (held : read.status = .seatsHeld ∨ read.status = .pending)
      (answered : t.Answered (.findById e.bookingId) (some read))
      (lost : t.Answered (.updateStatus e.bookingId .expired (read.version + 1)) false)
      (current : w.db.bookings e.bookingId = some row) (version : read.version < row.version)
      (writes : t.writes =
        [.saga e.bookingId .holdSeats ⟨.compensated, some "Hold duration expired"⟩]) :
      Commit (.seatHoldExpired (.event e)) t w
  | paymentMissing {e : PaymentSuccess} {t : BookingTx} {w : BookingWorld}
      (site : t.site = .paymentSuccess) (missing : t.Answered (.findById e.bookingId) none)
      (writes : t.writes = []) : Commit (.paymentSuccess (.event e)) t w
  | paymentSkipped {e : PaymentSuccess} {t : BookingTx} {w : BookingWorld} {read : Booking}
      (site : t.site = .paymentSuccess)
      (answered : t.Answered (.findById e.bookingId) (some read))
      (unpayable : payable read.status = false) (writes : t.writes = []) :
      Commit (.paymentSuccess (.event e)) t w
  | paid {e : PaymentSuccess} {t : BookingTx} {w : BookingWorld} (site : t.site = .paymentSuccess)
      (moved : Moved t.owner e.bookingId .confirmed w)
      (writes : t.writes = [.saga e.bookingId .createPayment ⟨.completed, none⟩,
        .saga e.bookingId .confirmSeats ⟨.completed, none⟩]) :
      Commit (.paymentSuccess (.event e)) t w

end RailwayBooking.BookingService
