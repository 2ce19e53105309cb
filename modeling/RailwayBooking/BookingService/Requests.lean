import RailwayBooking.BookingService.StatusEvents

namespace RailwayBooking.BookingService

open Concurrency

variable {strict : SagaKey → Prop} {c : Call} {t : BookingTx} {w : BookingWorld} {b : Uuid}

theorem lasting_outbox (ev : OutboxEvent) :
    Lasting (discipline strict) (fun w => ev ∈ w.db.outbox) where
  commit w c t _ _ _ _ h := by
    rw [commit_outbox]
    exact List.mem_append_left _ h
  drift _ _ _ h := h

theorem Insertion.events (x : Insertion) : x.writes.filterMap Write.event? =
    [.bookingStatusChanged x.changed, .holdSeatsRequested x.request] := rfl

theorem Commit.events_nodup (h : Commit c t w) :
    ((t.writes.filterMap Write.event?).map OutboxEvent.eventId).Nodup := by
  cases h with
  | replayed _ hw | heldSkipped _ hw | holdFailedSkipped _ hw | holdExpiredSkipped _ hw
  | paymentMissing _ _ hw | paymentSkipped _ _ _ hw | recorded _ _ hw
  | holdExpiredBeaten _ _ _ _ _ _ hw | paid _ _ hw | holdFailed _ _ _ _ _ _ _ hw
  | holdFailedBeaten _ _ _ _ _ _ hw | holdExpired _ _ _ _ _ _ _ hw =>
    rw [hw]
    exact List.nodup_nil
  | held _ _ _ _ _ _ _ hw _ =>
    rw [hw, List.filterMap_append, enrich_event]
    exact List.nodup_nil
  | created x _ hw _ _ _ _ _ _ horder _ =>
    have hne : x.eventId ≠ x.holdEventId := by
      intro he
      rw [he] at horder
      exact lt_irrefl _ horder
    rw [hw, x.events]
    change [EventId.random x.eventId, EventId.random x.holdEventId].Nodup
    simpa using hne
  | @transition _ _ _ args read row eventId _ _ _ _ _ _ _ _ _ hw _ =>
    have hu : (args.updateWrites row).filterMap Write.event? = [] := by
      unfold TransitionArgs.updateWrites
      cases args.updates <;> rfl
    rw [hw, List.filterMap_append, hu]
    exact List.nodup_singleton _

theorem eventIds_commit (hc : Commit c t w) (h : (w.db.outbox.map OutboxEvent.eventId).Nodup) :
    ((w.commit c t).db.outbox.map OutboxEvent.eventId).Nodup := by
  rw [commit_outbox, List.map_append, List.nodup_append]
  refine ⟨h, hc.events_nodup, fun x hx y hy he => ?_⟩
  obtain ⟨ev, hev, rfl⟩ := List.mem_map.mp hx
  obtain ⟨ev', hev', rfl⟩ := List.mem_map.mp hy
  obtain ⟨u, hu, hd⟩ := hc.events ev' hev'
  exact absurd (hd.unused ev hev u (he.trans hu) hd.source) (lt_irrefl _)

theorem Commit.event_new (hc : Commit c t w) {ev ev' : OutboxEvent}
    (hev : ev ∈ t.writes.filterMap Write.event?) (hev' : ev' ∈ w.db.outbox) :
    ev'.eventId ≠ ev.eventId := by
  obtain ⟨u, hu, hd⟩ := hc.events ev hev
  exact fun he => absurd (hd.unused ev' hev' u (he.trans hu) hd.source) (lt_irrefl _)

end RailwayBooking.BookingService
