import Mathlib.Data.List.Induction
import Mathlib.Data.List.Nodup
import Mathlib.Data.List.Perm.Subperm
import RailwayBooking.Concurrency.Schedule
import RailwayBooking.SearchService.StationProjection

namespace RailwayBooking.SearchService

open Concurrency

/-- What happened to a station, from its creation on. -/
structure StationHistory where
  stationId : Id
  events : List StationEvent
  station : ∀ e ∈ events, e.stationId = stationId
  created : ∃ event, events.head? = some (.created event)
  ids : (events.map StationEvent.eventId).Nodup

namespace StationHistory

variable (toLowerCase : String → String) (H : StationHistory)

/-- A delivery is one of the station's events, or an event of another station. -/
def Delivers (c : StationEvent) : Prop := c.stationId = H.stationId → c ∈ H.events

/-- The update of the event has been executed, on a document or on none. -/
def Handled (e : StationEvent) (env : Env StationDocument) : Prop :=
  ∃ r ∈ env.answered, r.eventId = e.eventId ∧ r.id = e.stationId

def Before (e e' : StationEvent) : Prop := [e, e'].Sublist H.events

/-- Each topic delivers its events for the first time in their order. -/
def InTopicOrder (calls : List StationEvent) : Prop :=
  ∀ e e', H.Before e e' → e.topic = e'.topic → ∀ i : Nat, calls[i]? = some e' →
    ∃ j < i, calls[j]? = some e

/-- The runs in which no event is written to the index after a later one. -/
def ordered : Scope (stationProjection toLowerCase) where
  start c _ := H.Delivers c
  allow c _ w s := ∀ eventId id script, s = .aux (.update eventId id script) →
    ∀ e', H.Before c e' → ¬ Handled e' w.env

/-- The document carries the data of the latest creation or update, and is active when
the last event does not deactivate the station. -/
structure Converged (env : Env StationDocument) : Prop where
  data : ∃ d pre e r post, env.index H.stationId = some d ∧ H.events = pre ++ e :: post ∧
    StationEvent.upsert? e = some r ∧ (∀ e' ∈ post, StationEvent.upsert? e' = none) ∧
    { d with isActive := r.isActive } = Station.toDocument toLowerCase r
  active : ∃ d e, env.index H.stationId = some d ∧ H.events.getLast? = some e ∧
    d.isActive = !e.deactivates

section Documents

variable {toLowerCase}

/-- The document after the events of a list, each written once. -/
def written (toLowerCase : String → String) (ws : List StationEvent) : Option StationDocument :=
  ws.foldl (fun d e => (e.script toLowerCase d).after d) none

theorem written_concat (ws : List StationEvent) (e : StationEvent) :
    written toLowerCase (ws ++ [e]) =
      (e.script toLowerCase (written toLowerCase ws)).after (written toLowerCase ws) :=
  List.foldl_concat _ _ _ _

theorem after_idem (e : StationEvent) (d : Option StationDocument) :
    (e.script toLowerCase ((e.script toLowerCase d).after d)).after
      ((e.script toLowerCase d).after d) = (e.script toLowerCase d).after d := by
  cases e with
  | created event => rfl
  | updated event => rfl
  | deactivated event => cases d <;> rfl

/-- The latest data of a list of events, with the activity that its last event leaves. -/
structure Latest (toLowerCase : String → String) (ws : List StationEvent) (d : StationDocument) :
    Prop where
  data : ∃ pre e r post, ws = pre ++ e :: post ∧ StationEvent.upsert? e = some r ∧
    (∀ e' ∈ post, StationEvent.upsert? e' = none) ∧
    { d with isActive := r.isActive } = Station.toDocument toLowerCase r
  active : ∃ e, ws.getLast? = some e ∧ d.isActive = !e.deactivates

theorem latest_upsert (ws : List StationEvent) {e : StationEvent} {r : StationUpsertEvent}
    (hr : e.upsert? = some r) : ∃ d, written toLowerCase (ws ++ [e]) = some d ∧
      Latest toLowerCase (ws ++ [e]) d := by
  have hscript : ∀ old, e.script toLowerCase old = .put (Station.toDocument toLowerCase r) := by
    intro old
    cases e with
    | created event | updated event =>
      cases hr
      rfl
    | deactivated event => cases hr
  refine ⟨Station.toDocument toLowerCase r, by rw [written_concat, hscript]; rfl, ?_, ?_⟩
  · exact ⟨ws, e, r, [], rfl, hr, fun _ h => absurd h List.not_mem_nil, rfl⟩
  · refine ⟨e, List.getLast?_concat, ?_⟩
    rw [StationEvent.deactivates, hr, Option.any_some, Bool.not_not]
    rfl

theorem latest_deactivated {ws : List StationEvent} {d : StationDocument}
    (hd : written toLowerCase ws = some d) (h : Latest toLowerCase ws d)
    (event : StationDeactivatedEvent) :
    ∃ d, written toLowerCase (ws ++ [.deactivated event]) = some d ∧
      Latest toLowerCase (ws ++ [.deactivated event]) d := by
  refine ⟨{ d with isActive := false }, by rw [written_concat, hd]; rfl, ?_, ?_⟩
  · obtain ⟨pre, e, r, post, rfl, hr, hpost, hdoc⟩ := h.data
    refine ⟨pre, e, r, post ++ [.deactivated event], by simp, hr, fun e' he' => ?_, hdoc⟩
    obtain he' | he' := List.mem_append.mp he'
    · exact hpost e' he'
    · rw [List.mem_singleton.mp he']
      rfl
  · exact ⟨.deactivated event, List.getLast?_concat, rfl⟩

theorem exists_latest {ws : List StationEvent} {event : StationUpsertEvent}
    (h : ws.head? = some (.created event)) :
    ∃ d, written toLowerCase ws = some d ∧ Latest toLowerCase ws d := by
  induction ws using List.reverseRecOn with
  | nil => cases h
  | append_singleton ws e ih =>
    cases hr : e.upsert? with
    | some r => exact latest_upsert ws hr
    | none =>
      cases e with
      | created event | updated event => cases hr
      | deactivated event' =>
        cases ws with
        | nil => cases h
        | cons x ws =>
          obtain ⟨d, hd, hlatest⟩ := ih h
          exact latest_deactivated hd hlatest event'

end Documents

section Order

variable {H}

theorem nodup_events : H.events.Nodup := H.ids.of_map

theorem eq_of_eventId {e e' : StationEvent} (h : e ∈ H.events) (h' : e' ∈ H.events)
    (hid : e.eventId = e'.eventId) : e = e' :=
  List.inj_on_of_nodup_map H.ids h h' hid

/-- An event after which nothing has been written is the last of what has been written,
or comes after it. -/
theorem extends_or_last {ws : List StationEvent} (hws : ws.Sublist H.events) {e : StationEvent}
    (he : e ∈ H.events) (hlast : ∀ e' ∈ ws, ¬ H.Before e e') :
    (∃ pre, ws = pre ++ [e]) ∨ (ws ++ [e]).Sublist H.events := by
  by_cases hmem : e ∈ ws
  · obtain ⟨pre, post, rfl⟩ := List.append_of_mem hmem
    cases post with
    | nil => exact .inl ⟨pre, rfl⟩
    | cons e' post =>
      refine absurd ?_ (hlast e' (by simp))
      have hpair : [e, e'].Sublist (pre ++ e :: e' :: post) := by
        apply List.sublist_append_of_sublist_right
        simp
      exact hpair.trans hws
  · obtain ⟨pre, post, hsplit⟩ := List.append_of_mem he
    rw [hsplit] at hws
    obtain ⟨l₁, l₂, rfl, h₁, h₂⟩ := List.sublist_append_iff.mp hws
    have hnil : l₂ = [] := by
      apply List.eq_nil_iff_forall_not_mem.mpr
      intro e' he'
      obtain rfl | hpost := List.mem_cons.mp (h₂.subset he')
      · exact hmem (List.mem_append_right _ he')
      · apply hlast e' (List.mem_append_right _ he')
        rw [Before, hsplit]
        apply List.sublist_append_of_sublist_right
        exact (List.singleton_sublist.mpr hpost).cons_cons e
    rw [hnil, List.append_nil, hsplit]
    exact .inr (h₁.append (List.singleton_sublist.mpr List.mem_cons_self))

end Order

section Runs

variable {toLowerCase H} {env : Env StationDocument} {leases : Redis.Leases} {now : Nat}

/-- What has been written of a history is a part of it in its order. -/
inductive Inv (toLowerCase : String → String) (H : StationHistory) (env : Env StationDocument) :
    Prop
  | written (ws : List StationEvent) (part : ws.Sublist H.events)
      (handled : ∀ e ∈ H.events, Handled e env ↔ e ∈ ws)
      (index : env.index H.stationId = StationHistory.written toLowerCase ws)

theorem Inv.other (h : Inv toLowerCase H env) {eventId id : Id} (hid : id ≠ H.stationId)
    (u : Update StationDocument) : Inv toLowerCase H (env.updated eventId id u).2 := by
  obtain ⟨ws, hpart, hhandled, hindex⟩ := h
  refine .written ws hpart (fun e he => ?_) ?_
  · obtain ⟨found, hlog⟩ := updated_answered env eventId id u
    rw [← hhandled e he, Handled, Handled, hlog]
    have hne : id ≠ e.stationId := fun heq => hid (heq.trans (H.station e he))
    simp [hne]
  · rw [updated_index, Function.update_of_ne hid.symm]
    exact hindex

theorem Inv.update (h : Inv toLowerCase H env) {e : StationEvent} (he : e ∈ H.events)
    (hlater : ∀ e', H.Before e e' → ¬ Handled e' env) :
    Inv toLowerCase H (env.updated e.eventId e.stationId
      (e.script toLowerCase (env.index e.stationId))).2 := by
  obtain ⟨ws, hpart, hhandled, hindex⟩ := h
  have hlog : ∀ e' ∈ H.events, Handled e' (env.updated e.eventId e.stationId
      (e.script toLowerCase (env.index e.stationId))).2 ↔ e' = e ∨ Handled e' env := by
    intro e' he'
    obtain ⟨found, hlog⟩ := updated_answered env e.eventId e.stationId
      (e.script toLowerCase (env.index e.stationId))
    rw [Handled, Handled, hlog]
    constructor
    · rintro ⟨r, hmem, hid⟩
      obtain rfl | hmem := List.mem_cons.mp hmem
      · exact .inl (eq_of_eventId he' he hid.1.symm)
      · exact .inr ⟨r, hmem, hid⟩
    · rintro (rfl | ⟨r, hmem, hid⟩)
      · exact ⟨_, List.mem_cons_self, rfl, rfl⟩
      · exact ⟨r, List.mem_cons_of_mem _ hmem, hid⟩
  have hstation := H.station e he
  have hlast : ∀ e' ∈ ws, ¬ H.Before e e' := fun e' he' hbefore =>
    hlater e' hbefore ((hhandled e' (hpart.subset he')).mpr he')
  obtain ⟨pre, rfl⟩ | hext := extends_or_last hpart he hlast
  · refine .written (pre ++ [e]) hpart (fun e' he' => ?_) ?_
    · rw [hlog e' he', hhandled e' he']
      constructor
      · rintro (rfl | hmem)
        · exact List.mem_append_right _ (List.mem_singleton_self _)
        · exact hmem
      · exact .inr
    · rw [updated_index, hstation, Function.update_self, hindex, written_concat]
      exact after_idem e _
  · refine .written (ws ++ [e]) hext (fun e' he' => ?_) ?_
    · rw [hlog e' he', hhandled e' he', List.mem_append, List.mem_singleton, or_comm]
    · rw [updated_index, hstation, Function.update_self, hindex, written_concat]

theorem inv_reachable {p : Pool (stationProjection toLowerCase)}
    (h : Reachable (H.ordered toLowerCase) (start _ leases now) p) :
    Inv toLowerCase H p.world.env := by
  refine h.env_invariant (P := fun (c : StationEvent) a => H.Delivers c ∧
    Asks c.eventId c.stationId (· = c.script toLowerCase) a) ?_ ?_ ?_ rfl ?_
  · intro c w hc
    exact (issues_stationBody toLowerCase c).mono fun a ha => ⟨hc, ha⟩
  · rintro w i c a ch r e hi ⟨hc, ha⟩ hallow hans
    obtain ⟨hindex, hlog⟩ | ⟨eventId, id, script, rfl, rfl⟩ := ask_cases (i := i) hans
    · obtain ⟨ws, hpart, hhandled, hdoc⟩ := hi
      refine .written ws hpart (fun e' he' => ?_) (by rw [hindex]; exact hdoc)
      rw [← hhandled e' he', Handled, Handled, hlog]
    · cases ha with
      | update hs =>
        subst hs
        by_cases hid : c.stationId = H.stationId
        · exact hi.update (hc hid) (hallow _ _ _ rfl)
        · exact hi.other hid _
  · rintro d e ⟨ws, hpart, hhandled, hdoc⟩
    exact .written ws hpart hhandled hdoc
  · refine .written [] (List.nil_sublist _) (fun e _ => ?_) rfl
    constructor
    · rintro ⟨_, hmem, -⟩
      exact absurd hmem List.not_mem_nil
    · intro hmem
      exact absurd hmem List.not_mem_nil

/-- Where no event is written after a later one, once all events of a station have been
handled its document is that of the latest data and activity. -/
theorem converged_of_ordered {p : Pool (stationProjection toLowerCase)}
    (h : Reachable (H.ordered toLowerCase) (start _ leases now) p)
    (hall : ∀ e ∈ H.events, Handled e p.world.env) : H.Converged toLowerCase p.world.env := by
  obtain ⟨ws, hpart, hhandled, hindex⟩ := inv_reachable h
  have hsame : ws = H.events := by
    apply hpart.eq_of_length_le
    have hsub : H.events ⊆ ws := fun e he => (hhandled e he).mp (hall e he)
    exact (List.subperm_of_subset nodup_events hsub).length_le
  obtain ⟨event, hcreated⟩ := H.created
  obtain ⟨d, hd, ⟨pre, e, r, post, hdata⟩, e', hactive⟩ :=
    (exists_latest hcreated : ∃ d, written toLowerCase H.events = some d ∧ _)
  rw [hsame, hd] at hindex
  exact ⟨⟨d, pre, e, r, post, hindex, hdata⟩, d, e', hindex, hactive⟩

end Runs

section Samples

instance (e : StationEvent) (env : Env StationDocument) : Decidable (Handled e env) :=
  inferInstanceAs (Decidable (∃ r ∈ env.answered, _))

instance (e e' : StationEvent) : Decidable (H.Before e e') :=
  inferInstanceAs (Decidable (List.Sublist _ _))

def sampleCreated : StationEvent := .created ⟨100, 7, "NDLS", "New Delhi", "NR", some "Delhi", true⟩

def sampleDeactivated : StationEvent := .deactivated ⟨101, 7, "NDLS"⟩

def sampleHistory : StationHistory where
  stationId := 7
  events := [sampleCreated, sampleDeactivated]
  station := by decide
  created := ⟨_, rfl⟩
  ids := by decide

def inOrder (H : StationHistory) (p : Pool (stationProjection id)) :
    Action (projection StationDocument) → Bool
  | .run i _ => p.threads[i]?.all (fun x => H.events.all (fun e' =>
      !(decide (H.Before x.call e') && decide (Handled e' p.world.env))))
  | _ => true

theorem permits_inOrder (H : StationHistory) (p : Pool (stationProjection id))
    (a : Action (projection StationDocument)) (h : H.inOrder p a = true) :
    (H.ordered id).Permits p a := by
  cases a with
  | run i ch =>
    rintro c s k hth _ _ _ rfl e' hbefore hhandled
    simp only [inOrder, hth, Option.all_some, List.all_eq_true] at h
    have hmem : e' ∈ H.events := hbefore.subset (by simp)
    have hno := h e' hmem
    simp [hbefore, hhandled] at hno
  | crash i => trivial
  | tick d => trivial

/-- The creation is handled, then the deactivation twice. -/
theorem converged_in_order : ∃ p,
    Reachable (sampleHistory.ordered id) (start _ ⟨60, 86400⟩ 0) p ∧
      (∀ e ∈ sampleHistory.events, Handled e p.world.env) ∧
      sampleHistory.Converged id p.world.env := by
  obtain ⟨p, hp, ht⟩ := exists_reachable (M := stationProjection id)
    (sampleHistory.ordered id) (start _ ⟨60, 86400⟩ 0) sampleHistory.inOrder
    [.call sampleCreated, .burst 0 9, .call sampleDeactivated, .burst 1 9,
      .call sampleDeactivated, .burst 2 9]
    (fun p => decide (∀ e ∈ sampleHistory.events, Handled e p.world.env))
    sampleHistory.permits_inOrder
    (by simp [ordered, Delivers, Move.started, sampleHistory]) (by decide)
  have hall := of_decide_eq_true ht
  exact ⟨p, hp, hall, converged_of_ordered hp hall⟩

/-- The deactivation arrives first, finds no document, and is lost. -/
theorem not_converged : ¬ ∀ (toLowerCase : String → String) (H : StationHistory)
    (leases : Redis.Leases) (now : Nat) (p : Pool (stationProjection toLowerCase)),
    Reachable (Scope.calls H.Delivers) (start _ leases now) p →
      H.InTopicOrder (p.threads.map Thread.call) →
        (∀ e ∈ H.events, Handled e p.world.env) → H.Converged toLowerCase p.world.env := by
  intro hall
  obtain ⟨p, hp, ht⟩ := exists_reachable (M := stationProjection id)
    (Scope.calls sampleHistory.Delivers) (start _ ⟨60, 86400⟩ 0) (fun _ _ => true)
    [.call sampleDeactivated, .burst 0 9, .call sampleCreated, .burst 1 9]
    (fun p => decide ((∀ e ∈ sampleHistory.events, Handled e p.world.env) ∧
      (p.world.env.index 7).any StationDocument.isActive = true)) (fun p a _ => permits_calls p a)
    (by simp [Delivers, Move.started, sampleHistory]) (by decide)
  obtain ⟨hhandled, hactive⟩ := of_decide_eq_true ht
  have horder : sampleHistory.InTopicOrder (p.threads.map Thread.call) := by
    intro e e' hbefore htopic
    have heq : [e, e'] = [sampleCreated, sampleDeactivated] := hbefore.eq_of_length rfl
    cases heq
    cases htopic
  obtain ⟨d, e, hd, he, hd'⟩ := (hall id sampleHistory _ _ p hp horder hhandled).active
  change p.world.env.index 7 = some d at hd
  rw [hd, Option.any_some, hd'] at hactive
  cases he
  cases hactive

end Samples

end StationHistory

end RailwayBooking.SearchService
