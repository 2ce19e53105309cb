import RailwayBooking.Concurrency.Schedule
import RailwayBooking.SearchService.ScheduleProjection

namespace RailwayBooking.SearchService

open Concurrency ScheduleService

namespace ScheduleEvent

def eventId : ScheduleEvent → Id
  | .created event => event.eventId
  | .statusChanged event => event.eventId

def scheduleId : ScheduleEvent → Id
  | .created event => event.scheduleId
  | .statusChanged event => event.scheduleId

def version : ScheduleEvent → Nat
  | .created event => event.version
  | .statusChanged event => event.version

def status : ScheduleEvent → ScheduleStatus
  | .created event => event.status
  | .statusChanged event => event.status

/-- The update that a delivery of the event makes. -/
inductive Updates : ScheduleEvent → (Option TrainScheduleDocument → Update TrainScheduleDocument) →
    Prop
  | created (event : ScheduleCreatedEvent) : Updates (.created event) (upsertScript (toDocument event))
  | statusChanged (event : ScheduleStatusChangedEvent) (now : Nat) :
      Updates (.statusChanged event) (updateStatusScript event.status event.version now)

end ScheduleEvent

/-- The creation of a schedule and its changes of status. -/
structure ScheduleHistory where
  created : ScheduleCreatedEvent
  changes : List ScheduleStatusChangedEvent
  schedule : ∀ e ∈ changes, e.scheduleId = created.scheduleId
  ids : (created.eventId :: changes.map ScheduleStatusChangedEvent.eventId).Nodup

namespace ScheduleHistory

variable (H : ScheduleHistory)

def events : List ScheduleEvent := .created H.created :: H.changes.map .statusChanged

/-- A delivery is one of the schedule's events, or an event of another schedule. -/
def Delivers (c : ScheduleEvent) : Prop := c.scheduleId = H.created.scheduleId → c ∈ H.events

def documentAt (e : ScheduleEvent) (updatedAt : Nat) : TrainScheduleDocument :=
  { toDocument H.created with status := e.status, version := e.version, updatedAt := updatedAt }

/-- The update of the event has been executed on a document, or has made it. -/
def Applied (e : ScheduleEvent) (env : Env TrainScheduleDocument) : Prop :=
  ⟨e.eventId, e.scheduleId, true⟩ ∈ env.answered

/-- The document is that of the creation, with the status and version of the event with
the highest version. -/
def Converged (env : Env TrainScheduleDocument) : Prop :=
  ∃ e ∈ H.events, (∀ e' ∈ H.events, e'.version ≤ e.version) ∧
    ∃ updatedAt, env.index H.created.scheduleId = some (H.documentAt e updatedAt)

/-- The document has the shape of the history, and the version of no applied event is
above its own. -/
structure Inv (env : Env TrainScheduleDocument) : Prop where
  shaped : ∀ d, env.index H.created.scheduleId = some d →
    ∃ e ∈ H.events, ∃ updatedAt, d = H.documentAt e updatedAt
  reached : ∀ e ∈ H.events, Applied e env →
    ∃ d, env.index H.created.scheduleId = some d ∧ e.version ≤ d.version

variable {H}

theorem scheduleId_of_mem {e : ScheduleEvent} (h : e ∈ H.events) :
    e.scheduleId = H.created.scheduleId := by
  obtain rfl | h := List.mem_cons.mp h
  · rfl
  · obtain ⟨e, he, rfl⟩ := List.mem_map.mp h
    exact H.schedule e he

theorem eq_of_eventId {e e' : ScheduleEvent} (h : e ∈ H.events) (h' : e' ∈ H.events)
    (hid : e.eventId = e'.eventId) : e = e' := by
  refine List.inj_on_of_nodup_map ?_ h h' hid
  have hmap : H.events.map ScheduleEvent.eventId =
      H.created.eventId :: H.changes.map ScheduleStatusChangedEvent.eventId := by
    rw [events, List.map_cons, List.map_map]
    rfl
  rw [hmap]
  exact H.ids

/-- What the update of an event makes of the document: it has the event's version then, or
had a higher one. -/
theorem updates_cases {e : ScheduleEvent} (he : e ∈ H.events)
    {script : Option TrainScheduleDocument → Update TrainScheduleDocument} (hs : e.Updates script)
    {old : Option TrainScheduleDocument}
    (hold : ∀ d, old = some d → ∃ e ∈ H.events, ∃ updatedAt, d = H.documentAt e updatedAt) :
    (∃ updatedAt, script old = .put (H.documentAt e updatedAt) ∧
        ∀ d, old = some d → d.version ≤ e.version) ∨
      (script old = .noop ∧ ∃ d, old = some d ∧ e.version ≤ d.version) ∨
      (script old = .notFound ∧ old = none) := by
  cases hs with
  | created event =>
    have hevent : event = H.created := by
      obtain heq | hmem := List.mem_cons.mp he
      · exact ScheduleEvent.created.inj heq
      · obtain ⟨_, _, hx⟩ := List.mem_map.mp hmem
        cases hx
    subst hevent
    cases old with
    | none => exact .inl ⟨_, rfl, fun _ h => (nomatch h)⟩
    | some source =>
      by_cases hle : source.version ≤ (toDocument H.created).version
      · refine .inl ⟨(toDocument H.created).updatedAt, if_pos hle, fun d hd => ?_⟩
        cases hd
        exact hle
      · exact .inr (.inl ⟨if_neg hle, source, rfl, Nat.le_of_not_le hle⟩)
  | statusChanged event now =>
    cases old with
    | none => exact .inr (.inr ⟨rfl, rfl⟩)
    | some source =>
      by_cases hlt : source.version < event.version
      · obtain ⟨e', -, updatedAt, hd⟩ := hold source rfl
        refine .inl ⟨now, ?_, fun d hd => ?_⟩
        · rw [updateStatusScript, if_pos hlt, hd]
          rfl
        · cases hd
          exact Nat.le_of_lt hlt
      · exact .inr (.inl ⟨if_neg hlt, source, rfl, Nat.le_of_not_lt hlt⟩)

theorem Inv.other {env : Env TrainScheduleDocument} (h : H.Inv env) {eventId id : Id}
    (hid : id ≠ H.created.scheduleId) (u : Update TrainScheduleDocument) :
    H.Inv (env.updated eventId id u).2 := by
  have hindex : (env.updated eventId id u).2.index H.created.scheduleId =
      env.index H.created.scheduleId := by
    cases u with
    | put doc => exact Function.update_of_ne hid.symm _ _
    | noop | notFound => rfl
  have happlied : ∀ e ∈ H.events, Applied e (env.updated eventId id u).2 → Applied e env := by
    intro e he ha
    have hne : ∀ found, Request.mk e.eventId e.scheduleId true ≠ ⟨eventId, id, found⟩ := by
      intro found heq
      exact hid ((Request.mk.inj heq).2.1.symm.trans (scheduleId_of_mem he))
    cases u with
    | put doc | noop | notFound => exact (List.mem_cons.mp ha).resolve_left (hne _)
  refine ⟨fun d hd => h.shaped d (hindex ▸ hd), fun e he ha => ?_⟩
  rw [hindex]
  exact h.reached e he (happlied e he ha)

theorem Inv.update {env : Env TrainScheduleDocument} (h : H.Inv env) {e : ScheduleEvent}
    (he : e ∈ H.events) {script : Option TrainScheduleDocument → Update TrainScheduleDocument}
    (hs : e.Updates script) :
    H.Inv (env.updated e.eventId e.scheduleId (script (env.index e.scheduleId))).2 := by
  have hnew : ∀ e' ∈ H.events, ∀ found, Request.mk e'.eventId e'.scheduleId true =
      ⟨e.eventId, e.scheduleId, found⟩ → e' = e := fun e' he' found heq =>
    eq_of_eventId he' he (Request.mk.inj heq).1
  rw [scheduleId_of_mem he] at hnew ⊢
  obtain ⟨updatedAt, hput, hle⟩ | ⟨hnoop, d, hold, hle⟩ | ⟨hnone, hold⟩ :=
    updates_cases he hs h.shaped
  · rw [hput]
    have hindex : (env.updated e.eventId H.created.scheduleId
        (.put (H.documentAt e updatedAt))).2.index H.created.scheduleId =
          some (H.documentAt e updatedAt) := Function.update_self _ _ _
    refine ⟨fun d hd => ?_, fun e' he' ha => ⟨_, hindex, ?_⟩⟩
    · rw [hindex] at hd
      exact ⟨e, he, updatedAt, (Option.some.inj hd).symm⟩
    · obtain heq | ha := List.mem_cons.mp ha
      · exact Nat.le_of_eq (congrArg _ (hnew e' he' _ heq))
      · obtain ⟨d, hd, hlow⟩ := h.reached e' he' ha
        exact hlow.trans (hle d hd)
  · rw [hnoop]
    refine ⟨h.shaped, fun e' he' ha => ?_⟩
    obtain heq | ha := List.mem_cons.mp ha
    · rw [hnew e' he' _ heq]
      exact ⟨d, hold, hle⟩
    · exact h.reached e' he' ha
  · rw [hnone]
    refine ⟨h.shaped, fun e' he' ha => ?_⟩
    obtain heq | ha := List.mem_cons.mp ha
    · cases (Request.mk.inj heq).2.2
    · exact h.reached e' he' ha

end ScheduleHistory

theorem issues_scheduleBody (c : ScheduleEvent) :
    Issues (V := projection TrainScheduleDocument) (Asks c.eventId c.scheduleId c.Updates)
      (scheduleBody c) := by
  cases c with
  | created event =>
    apply issues_dispatch
    exact (issues_aux (.update (.created event))).bind fun _ => trivial
  | statusChanged event =>
    apply issues_dispatch
    refine Issues.bind ?_ fun result => ?_
    · refine (issues_aux .now).bind fun now => ?_
      refine (issues_aux (.update (.statusChanged event now))).bind fun result => ?_
      cases result with
      | _ => trivial
    · cases result with
      | _ => trivial

namespace ScheduleHistory

variable {H : ScheduleHistory} {leases : Redis.Leases} {now : Nat} {p : Pool scheduleProjection}

theorem inv_reachable
    (h : Reachable (Scope.calls H.Delivers) (start scheduleProjection leases now) p) :
    H.Inv p.world.env := by
  refine h.env_invariant (P := fun (c : ScheduleEvent) a => H.Delivers c ∧
    Asks c.eventId c.scheduleId c.Updates a) ?_ ?_ ?_ rfl ?_
  · intro c w hc
    exact (issues_scheduleBody c).mono fun a ha => ⟨hc, ha⟩
  · rintro w i c a ch r e hi ⟨hc, ha⟩ - hans
    obtain ⟨hindex, hlog⟩ | ⟨eventId, id, script, rfl, rfl⟩ := ask_cases (i := i) hans
    · exact ⟨by rw [hindex]; exact hi.shaped, by unfold Applied; rw [hindex, hlog]; exact hi.reached⟩
    · cases ha with
      | update hs =>
        by_cases hid : c.scheduleId = H.created.scheduleId
        · exact hi.update (hc hid) hs
        · exact hi.other hid _
  · exact fun d e hi => ⟨hi.shaped, hi.reached⟩
  · exact ⟨fun d hd => (nomatch hd), fun e _ ha => absurd ha List.not_mem_nil⟩

/-- In whatever order the events of a schedule are delivered, once each has been applied
the document is that of the creation with the highest version's status. -/
theorem converged_of_applied
    (h : Reachable (Scope.calls H.Delivers) (start scheduleProjection leases now) p)
    (hall : ∀ e ∈ H.events, Applied e p.world.env) : H.Converged p.world.env := by
  have hinv := inv_reachable h
  obtain ⟨d, hd, -⟩ := hinv.reached _ List.mem_cons_self (hall _ List.mem_cons_self)
  obtain ⟨e, he, updatedAt, rfl⟩ := hinv.shaped d hd
  refine ⟨e, he, fun e' he' => ?_, updatedAt, hd⟩
  obtain ⟨d', hd', hle⟩ := hinv.reached e' he' (hall e' he')
  rw [hd] at hd'
  cases hd'
  exact hle

section Runs

def sampleCreated : ScheduleCreatedEvent where
  eventId := 100
  scheduleId := 1
  trainId := 2
  trainNumber := "12301"
  trainName := "Rajdhani Express"
  routeId := 3
  trainCategory := .rajdhani
  departureDate := 0
  status := .active
  version := 1
  operatingDays := [4]
  stops := [⟨8, "CNB", "Kanpur", 2, some 300, none, 440⟩, ⟨7, "NDLS", "New Delhi", 1, none, some 0, 0⟩]
  coaches := [⟨5, "A1", "AC_2A", 48⟩]
  createdAt := 0

def sampleHistory : ScheduleHistory where
  created := sampleCreated
  changes := [⟨101, 1, .cancelled, 2⟩, ⟨102, 1, .active, 3⟩]
  schedule := by decide
  ids := by decide

instance (e : ScheduleEvent) (env : Env TrainScheduleDocument) : Decidable (Applied e env) :=
  inferInstanceAs (Decidable (_ ∈ _))

/-- The changes arrive first and are deferred, and the second is applied before the
first. -/
theorem converged_deferred : ∃ p,
    Reachable (Scope.calls sampleHistory.Delivers) (start scheduleProjection ⟨60, 86400⟩ 0) p ∧
      (∀ e ∈ sampleHistory.events, Applied e p.world.env) ∧
      sampleHistory.Converged p.world.env := by
  obtain ⟨p, hp, ht⟩ := exists_reachable (M := scheduleProjection)
    (Scope.calls sampleHistory.Delivers) (start scheduleProjection ⟨60, 86400⟩ 0) (fun _ _ => true)
    [.call (.statusChanged ⟨101, 1, .cancelled, 2⟩), .burst 0 9,
      .call (.created sampleCreated), .burst 1 9,
      .call (.statusChanged ⟨102, 1, .active, 3⟩), .burst 2 9,
      .call (.statusChanged ⟨101, 1, .cancelled, 2⟩), .burst 3 9]
    (fun p => decide (∀ e ∈ sampleHistory.events, Applied e p.world.env))
    (fun p a _ => permits_calls p a)
    (by simp [Delivers, Move.started, events, sampleHistory]) (by decide)
  have hall := of_decide_eq_true ht
  exact ⟨p, hp, hall, converged_of_applied hp hall⟩

end Runs

end ScheduleHistory

end RailwayBooking.SearchService
