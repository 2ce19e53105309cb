import RailwayBooking.BookingService.Footprint
import RailwayBooking.BookingService.Idempotency

namespace RailwayBooking.BookingService

open Concurrency

section Owners

def Call.request : Call → Option (Id × CreateBookingDto)
  | .createBooking userId dto => some (userId, dto)
  | _ => none

/-- No idempotency key is used by two users. -/
def KeysApart (p : Pool machine) : Prop :=
  ∀ x ∈ p.threads, ∀ y ∈ p.threads, ∀ r ∈ x.call.request, ∀ r' ∈ y.call.request,
    r.2.idempotencyKey = r'.2.idempotencyKey → r.1 = r'.1

instance (p : Pool machine) : Decidable (KeysApart p) :=
  inferInstanceAs (Decidable (∀ x ∈ p.threads, ∀ y ∈ p.threads, ∀ r ∈ x.call.request,
    ∀ r' ∈ y.call.request, r.2.idempotencyKey = r'.2.idempotencyKey → r.1 = r'.1))

/-- A call returns a booking of the user who has made it. -/
def OwnBookings (p : Pool machine) : Prop :=
  ∀ x ∈ p.threads, ∀ userId dto a, x.call = .createBooking userId dto → x.returned = some a →
    ∃ r row, a = .booking r ∧ p.world.db.bookings r.id = some row ∧ row.userId = userId

variable {s : Settings} {p : Pool machine}

theorem ownBookings_reachable (h : Reachable creations s.pool p) (hkeys : KeysApart p) :
    OwnBookings p := by
  intro x hx userId dto a hcall ha
  have hkeyed := keyed_reachable h
  have hkey : x.call.keyed dto.idempotencyKey := by
    rw [hcall]
    rfl
  obtain ⟨r, rfl, stored, hstored, rfl⟩ := returned_recorded h hx hkey ha
  obtain ⟨hid, hbooked, c, hc, hkey'⟩ := hkeyed.stored _ _ hstored
  obtain ⟨row, hrow⟩ := Option.ne_none_iff_exists'.mp hbooked
  obtain ⟨dto', hauthor⟩ := hkeyed.authored _ _ hrow
  obtain rfl : c = .createBooking row.userId dto' := Option.some.inj (hc.symm.trans hauthor)
  refine ⟨_, row, rfl, by rw [hid]; exact hrow, ?_⟩
  obtain ⟨y, hy, hcall'⟩ := List.mem_map.mp (List.mem_of_getElem? hauthor)
  refine hkeys y hy x hx (row.userId, dto') ?_ (userId, dto) ?_ hkey'
  · rw [hcall']
    rfl
  · rw [hcall]
    rfl

end Owners

section Sequences

/-- The two requests are for a seat of one schedule. -/
def Arrival.Meets (a b : Arrival) : Prop :=
  a.dto.scheduleId = b.dto.scheduleId ∧ ∃ seatId ∈ a.dto.seatIds, seatId ∈ b.dto.seatIds

instance (a b : Arrival) : Decidable (a.Meets b) :=
  inferInstanceAs (Decidable (a.dto.scheduleId = b.dto.scheduleId ∧ ∃ seatId ∈ a.dto.seatIds, _))

/-- They are for a seat of one schedule, or have one idempotency key. -/
def Arrival.Shares (a b : Arrival) : Prop :=
  a.Meets b ∨ a.dto.idempotencyKey = b.dto.idempotencyKey

instance (a b : Arrival) : Decidable (a.Shares b) :=
  inferInstanceAs (Decidable (a.Meets b ∨ _))

/-- Every request draws ids and a PNR of its own. -/
structure Fresh (as : List Arrival) : Prop where
  labels : (as.map Arrival.label).Nodup
  pnrs : (as.map Arrival.pnr).Nodup

variable {as : List Arrival} {keep : Arrival → Bool} {w w' : BookingWorld}
  {os : List (Arrival × Except Err CreateBookingResponse)}

/-- The resources of the requests that remain. -/
def kept (as : List Arrival) (keep : Arrival → Bool) (x : Resource) : Prop :=
  ∃ a ∈ as, keep a = true ∧ a.Uses x

theorem not_kept (hfresh : Fresh as)
    (hapart : ∀ a ∈ as, keep a = true → ∀ b ∈ as, keep b = false → ¬ a.Shares b) {b : Arrival}
    (hb : b ∈ as) (hleft : keep b = false) (x : Resource) (hx : b.Uses x) : ¬ kept as keep x := by
  rintro ⟨a, ha, hkeep, hax⟩
  have hne : a ≠ b := by
    rintro rfl
    cases hkeep.symm.trans hleft
  have hshares := hapart a ha hkeep b hb hleft
  cases x with
  | seat scheduleId seatId =>
    exact hshares (.inl ⟨hax.1.symm.trans hx.1, seatId, hax.2, hx.2⟩)
  | key k => exact hshares (.inr (hax.symm.trans hx))
  | bookings source => exact hne (List.inj_on_of_nodup_map hfresh.labels ha hb (hax.symm.trans hx))
  | pnr pnr => exact hne (List.inj_on_of_nodup_map hfresh.pnrs ha hb (hax.symm.trans hx))

theorem serveAll_kept (hfresh : Fresh as)
    (hapart : ∀ a ∈ as, keep a = true → ∀ b ∈ as, keep b = false → ¬ a.Shares b)
    (h : serveAll Arrival.serve as w = some (os, w')) : ∃ w'',
      serveAll Arrival.serve (as.filter keep) w = some (os.filter (fun x => keep x.1), w'') := by
  have hrefl : Alike (kept as keep) w w := .refl w
  obtain ⟨w'', hserve, -⟩ := serveAll_filter Arrival.serve (R := Alike (kept as keep))
    (fun a ha hkeep s t o s' hst ho => a.serve_alike (fun x hx => ⟨a, ha, hkeep, hx⟩) hst ho)
    (fun b hb hleft s t o s' hst ho =>
      (b.serve_hidden (not_kept hfresh hapart hb hleft) ho).symm.trans hst) hrefl h
  exact ⟨w'', hserve⟩

end Sequences

section Samples

def seatsRequest (key : Id) (seatIds : List Id) (hlength : 1 ≤ seatIds.length ∧ seatIds.length ≤ 6)
    (hnodup : seatIds.Nodup) : CreateBookingDto :=
  { sampleRequest with
    idempotencyKey := key
    seatIds := seatIds
    passengers := seatIds.map (fun _ => ⟨"Asha", 30, .female, none⟩)
    seatIds_length := hlength
    seatIds_nodup := hnodup
    passengers_length := List.length_map _ }

def sampleScript (pnr : Nat) : Script bookingService where
  answer _ s :=
    match s with
    | .aux .generatePnr => .reply (.pnr pnr)
    | _ => .ok
  wait _ := 1

def sampleArrival (label : Nat) (userId : Id) (dto : CreateBookingDto) : Arrival :=
  ⟨label, 0, label, 0, userId, dto, sampleScript label, fun _ => rfl⟩

/-- User 6 takes seat 22. -/
def first : Arrival := sampleArrival 0 6 (seatsRequest 1 [22] (by decide) (by decide))

def second : Arrival := sampleArrival 1 7 (seatsRequest 2 [21, 22] (by decide) (by decide))

def again : Arrival := sampleArrival 1 6 (seatsRequest 1 [21] (by decide) (by decide))

/-- User 5 asks for seat 21. -/
def last : Arrival := sampleArrival 2 5 (seatsRequest 3 [21] (by decide) (by decide))

def sampleWorld : BookingWorld := sampleSettings.pool.world

/-- User 5 asks once more with the key of `last`. -/
def repeated : Arrival := sampleArrival 3 5 (seatsRequest 3 [21] (by decide) (by decide))

/-- Where no key is used by two users, a call returns a booking of its own user; and requests
that are served one after another return the same without those that share neither a seat nor
a key with the ones that remain. -/
theorem private_apart :
    (∀ (s : Settings) (p : Pool machine), Reachable creations s.pool p → KeysApart p →
      OwnBookings p) ∧
    ∀ (w w' : BookingWorld) (as : List Arrival) (keep : Arrival → Bool)
      (os : List (Arrival × Except Err CreateBookingResponse)), Fresh as →
      (∀ a ∈ as, keep a = true → ∀ b ∈ as, keep b = false → ¬ a.Shares b) →
      serveAll Arrival.serve as w = some (os, w') → ∃ w'',
        serveAll Arrival.serve (as.filter keep) w = some (os.filter (fun x => keep x.1), w'') :=
  ⟨fun _ _ h hkeys => ownBookings_reachable h hkeys,
    fun _ _ _ _ _ hfresh hapart h => serveAll_kept hfresh hapart h⟩

theorem private_served : (∃ p, Reachable creations sampleSettings.pool p ∧
      (p.threads.map Thread.returned).map Option.isSome = [true, true] ∧ OwnBookings p) ∧
    ∃ os w' w'', serveAll Arrival.serve [last, first, repeated] sampleWorld = some (os, w') ∧
      os.map (fun x => x.2.isOk) = [true, true, true] ∧
      serveAll Arrival.serve [last, repeated] sampleWorld =
        some (os.filter (fun x => decide (x.1.userId = 5)), w'') := by
  constructor
  · obtain ⟨p, hp, ht⟩ := exists_reachable creations sampleSettings.pool (fun _ _ => true)
      [.call (.createBooking 5 sampleRequest), .burst 0 9, .call (.createBooking 6 first.dto),
        .burst 1 40, .burst 0 40]
      (fun p => decide ((p.threads.map Thread.returned).map Option.isSome = [true, true] ∧
        KeysApart p))
      (fun p a _ => permits_calls p a) (by simp [Move.started, creations, Call.Creates])
      (by decide +kernel)
    obtain ⟨hreturned, hkeys⟩ := of_decide_eq_true ht
    exact ⟨p, hp, hreturned, private_apart.1 sampleSettings p hp hkeys⟩
  · have hserved : (serveAll Arrival.serve [last, first, repeated] sampleWorld).map
        (fun x => x.1.map (fun y => y.2.isOk)) = some [true, true, true] := by decide +kernel
    obtain ⟨⟨os, w'⟩, hserve, hos⟩ := Option.map_eq_some_iff.mp hserved
    obtain ⟨w'', hkept⟩ := private_apart.2 sampleWorld w' [last, first, repeated]
      (fun a => decide (a.userId = 5)) os ⟨by decide, by decide⟩ (by decide) hserve
    exact ⟨os, w', w'', hserve, hos, hkept⟩

/-- What the user is answered in the one sequence, the user is answered in the other. -/
def Unchanged (user : Id) (as bs : List Arrival) (w : BookingWorld) : Prop :=
  ∀ os w', serveAll Arrival.serve as w = some (os, w') → ∃ os' w'',
    serveAll Arrival.serve bs w = some (os', w'') ∧
      os'.filter (fun x => x.1.userId = user) = os.filter (fun x => x.1.userId = user)

/-- Which requests of the user are granted. -/
def granted (user : Id) (x : List (Arrival × Except Err CreateBookingResponse) × BookingWorld) :
    List Bool :=
  (x.1.filter (fun y => y.1.userId = user)).map (fun y => y.2.isOk)

theorem Unchanged.granted {user : Id} {as bs : List Arrival} {w : BookingWorld} {r : List Bool}
    (h : Unchanged user as bs w)
    (has : (serveAll Arrival.serve as w).map (granted user) = some r) :
    (serveAll Arrival.serve bs w).map (granted user) = some r := by
  obtain ⟨⟨os, w'⟩, hserve, hr⟩ := Option.map_eq_some_iff.mp has
  obtain ⟨os', w'', hserve', heq⟩ := h os w' hserve
  rw [hserve', Option.map_some, ← hr]
  exact congrArg some (congrArg (List.map _) heq)

theorem Call.of_request {c : Call} {userId : Id} (h : c.request.map Prod.fst = some userId) :
    ∃ dto, c = .createBooking userId dto := by
  cases c with
  | createBooking userId' dto =>
    cases h
    exact ⟨dto, rfl⟩
  | _ => cases h

def revealed (p : Pool machine) : Bool :=
  (p.threads[1]?).any (fun x : Thread machine => decide (x.call.request.map Prod.fst = some 6 ∧
    x.returned = some (Out.booking ⟨⟨0, 0⟩, 1, .pending⟩) ∧
      (p.world.db.bookings ⟨0, 0⟩).map Booking.userId = some 5))

/-- A key that two users use shows the one the booking of the other. A request that is left
out changes what a user is answered through a third request, for a seat of its own or with
its key. -/
theorem not_private :
    (¬ ∀ (s : Settings) (p : Pool machine), Reachable creations s.pool p → OwnBookings p) ∧
    (¬ ∀ (w : BookingWorld) (as : List Arrival) (user : Id) (keep : Arrival → Bool), Fresh as →
      (as.map (fun a => a.dto.idempotencyKey)).Nodup →
      (∀ b ∈ as, keep b = false → b.userId ≠ user ∧ ∀ a ∈ as, a.userId = user → ¬ a.Meets b) →
      Unchanged user as (as.filter keep) w) ∧
    ¬ ∀ (w : BookingWorld) (as : List Arrival) (user : Id) (keep : Arrival → Bool), Fresh as →
      (∀ b ∈ as, keep b = false → b.userId ≠ user ∧ ∀ a ∈ as, keep a = true → ¬ a.Meets b) →
      Unchanged user as (as.filter keep) w := by
  refine ⟨fun hall => ?_, fun hall => ?_, fun hall => ?_⟩
  · obtain ⟨p, hp, ht⟩ := exists_reachable creations sampleSettings.pool (fun _ _ => true)
      [.call (.createBooking 5 sampleRequest), .burst 0 40,
        .call (.createBooking 6 sampleRequest), .burst 1 40] revealed
      (fun p a _ => permits_calls p a) (by simp [Move.started, creations, Call.Creates])
      (by decide +kernel)
    obtain ⟨x, hx, ht⟩ := Option.any_eq_true _ _ |>.mp ht
    obtain ⟨huser, hreturned, howner⟩ := of_decide_eq_true ht
    obtain ⟨dto, hcall⟩ := Call.of_request huser
    obtain ⟨r, row, hr, hrow, hown⟩ :=
      hall sampleSettings p hp x (List.mem_of_getElem? hx) 6 dto _ hcall hreturned
    obtain rfl := Out.booking.inj hr
    rw [hrow, Option.map_some, hown] at howner
    cases howner
  · have h := hall sampleWorld [first, second, last] 5 (fun a => a.userId ≠ 6)
      ⟨by decide, by decide⟩ (by decide) (by decide)
    have hgranted := h.granted (r := [true]) (by decide +kernel)
    revert hgranted
    decide +kernel
  · have h := hall sampleWorld [first, again, last] 5 (fun a => a.label ≠ 0)
      ⟨by decide, by decide⟩ (by decide)
    have hgranted := h.granted (r := [true]) (by decide +kernel)
    revert hgranted
    decide +kernel

end Samples

end RailwayBooking.BookingService
