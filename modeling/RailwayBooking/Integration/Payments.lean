import RailwayBooking.Concurrency.Joint
import RailwayBooking.BookingService.StatusEvents
import RailwayBooking.PaymentService.Exclusion

namespace RailwayBooking.Integration

open Concurrency

/-- booking-service with payment-service, before either has done anything. -/
def payments (s : BookingService.Settings) (s' : PaymentService.Settings) :
    Joint BookingService.machine PaymentService.machine :=
  ⟨s.pool, s'.pool, []⟩

section Runs

variable {s : BookingService.Settings} {s' : PaymentService.Settings}
  {L : Link BookingService.machine PaymentService.machine} {strict : BookingService.SagaKey → Prop}
  {j : Joint BookingService.machine PaymentService.machine}

theorem wellFormed_payments (s : BookingService.Settings) (s' : PaymentService.Settings) :
    (payments s s').WellFormed (BookingService.discipline strict) PaymentService.discipline :=
  .start (wellFormed_init (BookingService.inv_start s)) (PaymentService.wellFormed_pool s')

theorem payments_wellFormed
    (hL : L.Within (BookingService.discipline strict) PaymentService.discipline)
    (h : L.Reachable (payments s s') j) : WellFormed (BookingService.discipline strict) j.left :=
  (h.wellFormed BookingService.lawful BookingService.sound PaymentService.lawful
    PaymentService.sound hL (wellFormed_payments s s')).left

theorem payments_keeps {K : Knowledge BookingService.machine PaymentService.machine}
    {F : BookingService.BookingWorld → PaymentService.PaymentWorld → Prop}
    (hL : L.Within (BookingService.discipline strict) PaymentService.discipline)
    (hK : K.Sound (BookingService.discipline strict) PaymentService.discipline L)
    (hF : L.Keeps (BookingService.discipline strict) PaymentService.discipline K F)
    (h₀ : F s.pool.world s'.pool.world) (h : L.Reachable (payments s s') j) :
    F j.left.world j.right.world :=
  h.keeps BookingService.lawful BookingService.sound PaymentService.lawful PaymentService.sound hL
    (wellFormed_payments s s') hK (K.known_start rfl rfl) hF h₀

end Runs

end RailwayBooking.Integration
