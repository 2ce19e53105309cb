import RailwayBooking.Concurrency.Schedule
import RailwayBooking.ScheduleService.Sound

namespace RailwayBooking.ScheduleService

open Concurrency InventoryService

/-- What has been announced of a schedule: its creation, and later changes of its
status. -/
structure Announcements where
  created : ScheduleCreated
  changes : List ScheduleStatusChanged
  schedule : ∀ e ∈ changes, e.scheduleId = created.scheduleId
  later : ∀ e ∈ changes, created.version ≤ e.version

namespace Announcements

variable (H : Announcements)

def id : Id := H.created.scheduleId

/-- The rows that the announcements stand for. -/
def rows : List ScheduleInventory :=
  ⟨foldStatus H.created.status, H.created.version⟩ ::
    H.changes.map (fun e => ⟨foldStatus e.status, e.version⟩)

/-- A delivery about the schedule is of one of its announcements. -/
def Delivers : Call → Prop
  | .inventory _ => False
  | .scheduleCreated m => ∀ e, m = .event e → e.scheduleId = H.id → e = H.created
  | .scheduleStatusChanged m => ∀ e, m = .event e → e.scheduleId = H.id → e ∈ H.changes

/-- The version that a delivery about the schedule brings. -/
def brings : Call → Option Nat
  | .scheduleCreated (.event e) => if e.scheduleId = H.id then some e.version else none
  | .scheduleStatusChanged (.event e) => if e.scheduleId = H.id then some e.version else none
  | _ => none

def Met (c : Call) (w : ScheduleWorld) (s : Stmt scheduleService) : Prop :=
  ∀ h e, c = .scheduleStatusChanged (.event e) → s = .sql (some h) (.findByScheduleId H.id) →
    rowOf w.db H.id ≠ none

def Advances (row row' : Option ScheduleInventory) : Prop :=
  row' = row ∨ ∃ r ∈ H.rows, row' = some r ∧ ∀ r₀, row = some r₀ → r₀.version ≤ r.version

/-- The row has reached a version. -/
def Reached (version : Nat) (w : ScheduleWorld) : Prop :=
  ∃ row, rowOf w.db H.id = some row ∧ version ≤ row.version

def discipline : Discipline machine where
  pre c _ := H.Delivers c
  inv w := ∀ row, rowOf w.db H.id = some row → row ∈ H.rows
  allow c _ w s := H.Met c w s
  commits _ t w := H.Advances (rowOf w.db H.id) (rowOf (t.view w.db) H.id)
  asks _ _ _ := True
  drift _ _ := True
  raises e := statusChangedConsumer.isNonRetryable e = false
  post c _ w := ∀ version, H.brings c = some version → H.Reached version w

variable {H} {i : Nat} {c : Call} {h : Nat} {t : ScheduleTx} {ts : Stack scheduleService}
  {w : ScheduleWorld} {ks : List Key}

section Lawful

theorem version_le {row : ScheduleInventory} (h : row ∈ H.rows) :
    H.created.version ≤ row.version := by
  obtain rfl | h := List.mem_cons.mp h
  · exact Nat.le_refl _
  · obtain ⟨e, he, rfl⟩ := List.mem_map.mp h
    exact H.later e he

theorem lasting_reached (version : Nat) : Lasting H.discipline (H.Reached version) where
  commit w c t _ _ hc _ h := by
    obtain ⟨row, hrow, hle⟩ := h
    change ∃ row, rowOf (t.view w.db) H.id = some row ∧ _
    obtain hsame | ⟨r, _, hr, hup⟩ := hc
    · exact ⟨row, hsame.trans hrow, hle⟩
    · exact ⟨r, hr, hle.trans (hup row hrow)⟩
  drift _ _ _ h := h

theorem lasting_inv : Lasting H.discipline H.discipline.inv where
  commit w c t hi _ hc _ _ := by
    intro row hrow
    change rowOf (t.view w.db) H.id = some row at hrow
    obtain hsame | ⟨r, hmem, hr, _⟩ := hc
    · exact hi row (hsame.symm.trans hrow)
    · rw [hr] at hrow
      cases hrow
      exact hmem
  drift _ _ _ h := h

theorem retryable_run (q : Sql) (d : Db) (x : Err) (h : run q d = .error x) :
    statusChangedConsumer.isNonRetryable x = false := by
  cases q with
  | inventory q =>
    change (InventoryService.run q d.tables).map _ = _ at h
    cases hrun : InventoryService.run q d.tables with
    | ok r =>
      rw [hrun] at h
      cases h
    | error e =>
      rw [hrun] at h
      cases h
      cases q with
      | createMany data =>
        simp only [InventoryService.run] at hrun
        split at hrun
        · cases hrun
          rfl
        split at hrun
        · cases hrun
          rfl
        · cases hrun
      | createKey =>
        simp only [InventoryService.run] at hrun
        split at hrun
        · cases hrun
          rfl
        · cases hrun
      | _ => cases hrun
  | create | updateStatus | createStops | createSeats =>
    simp only [run] at h
    split at h
    · cases h
      decide
    split at h
    · cases h
      try rfl
    · cases h
  | deleteByScheduleId =>
    simp only [run] at h
    split at h
    · cases h
    · cases h
      decide
  | findByScheduleId | insertOutbox => cases h

theorem lawful : H.discipline.Lawful where
  ask _ _ _ _ _ _ _ _ _ := trivial
  tick _ _ := trivial
  fault := rfl
  run := retryable_run
  answer e i a ch x e' h := by
    cases a with
    | inventory a =>
      obtain ⟨⟨r, e₁⟩, hask, heq⟩ := Option.map_eq_some_iff.mp h
      cases heq
      cases a with
      | now =>
        cases hask
      | _ =>
        cases ch with
        | reply r => exact r.elim
        | _ =>
          cases hask
          try rfl
    | uuids => cases h
  inv := lasting_inv
  pre _ := lasting_const _
  post c a := by
    refine ⟨fun w c' t hi hp hc hv h version hb => ?_, fun w e hd h version hb => ?_⟩
    · exact (lasting_reached version).commit w c' t hi hp hc hv (h version hb)
    · exact (lasting_reached version).drift w e hd (h version hb)

theorem stable_own {k : Id} {P : Option ScheduleInventory → Prop} (hks : .schedule k ∈ ks) :
    Stable H.discipline i ks (fun w => k = H.id → P (rowOf w.db H.id)) where
  commit w c t hi hp hc hv ho hd h hk :=
    (stable_row P (hk ▸ hks)).commit w c t hi hp hc hv ho hd (h hk)
  drift _ _ _ h := h

end Lawful

section Transactions

variable {parsed : ScheduleCreated} {changed : ScheduleStatusChanged} {k : Id}

theorem lasting_leaves (k : Id) (version : Nat) :
    Lasting H.discipline (fun w => k = H.id → H.Reached version w) where
  commit w c t hi hp hc hv h hk := (lasting_reached version).commit w c t hi hp hc hv (h hk)
  drift _ _ _ h := h

theorem idles (k : Id) (version : Nat) :
    Idles H.discipline c (fun w => k = H.id → H.Reached version w) where
  lawful := lawful
  asks _ _ := trivial
  lasting := lasting_leaves k version
  idle t w _ h hw := by
    have hsame : t.view w.db = w.db := by
      rw [view_eq, hw]
      rfl
    refine ⟨.inl (by rw [hsame]), fun hk => ?_⟩
    change ∃ row, rowOf (t.view w.db) H.id = some row ∧ version ≤ row.version
    rw [hsame]
    exact h hk

theorem projects (hdel : parsed.scheduleId = H.id → parsed = H.created) :
    Projects H.discipline i c parsed
      (fun _ w => parsed.scheduleId = H.id → rowOf w.db H.id = none)
      (fun _ _ w => parsed.scheduleId = H.id → rowOf w.db H.id = none)
      (fun w => parsed.scheduleId = H.id → H.Reached parsed.version w) where
  toIdles := idles _ _
  argument := rfl
  known _ _ hk := stable_own (P := fun row => row = none) hk
  seated _ _ _ hk := stable_own (P := fun row => row = none) hk
  current _ row _ hrow hle hk := ⟨row, hk ▸ hrow, hle⟩
  absent _ _ hnone hk := hk ▸ hnone
  older w row hi hrow hlt _ _ _ _ _ hk := by
    have hle := version_le (hi row (hk ▸ hrow))
    rw [← hdel hk] at hle
    omega
  drawn _ _ _ h _ := h
  commits deleted ids eventId count _ t w _ _ hnone _ _ hwrites _ := by
    have hview : t.view w.db = applyAll w.db (Projection.writes ⟨parsed, deleted, ids, eventId,
      count⟩) := by rw [view_eq, hwrites]
    by_cases hk : parsed.scheduleId = H.id
    · have hrow : rowOf (t.view w.db) H.id =
          some ⟨foldStatus parsed.status, parsed.version⟩ := by
        rw [hview, ← hk]
        exact Projection.rowOf_writes
      refine ⟨.inr ⟨_, ?_, hrow, fun r₀ hr₀ => ?_⟩, fun _ => ⟨_, hrow, Nat.le_refl _⟩⟩
      · rw [hdel hk]
        exact List.mem_cons_self
      · rw [hnone hk] at hr₀
        cases hr₀
    · refine ⟨.inl ?_, fun hk' => absurd hk' hk⟩
      rw [hview]
      exact Projection.rowOf_writes_other (Ne.symm hk)

theorem changes_own (hc : c = .scheduleStatusChanged (.event changed))
    (hk : changed.scheduleId = H.id) (hdel : changed ∈ H.changes) :
    Changes H.discipline i c changed (H.Reached 0)
      (fun w => ∀ row, rowOf w.db H.id = some row → row.version ≤ changed.version)
      (fun w => changed.scheduleId = H.id → H.Reached changed.version w) where
  toIdles := idles _ _
  missing h _ _ _ hmet hnone := absurd (hk ▸ hnone) (hmet h changed hc (by rw [hk]))
  found _ row _ hrow := ⟨row, hk ▸ hrow, Nat.zero_le _⟩
  persists := lasting_reached 0
  current _ _ hreached hall _ := by
    obtain ⟨row, hrow, -⟩ := hreached
    exact ⟨row, hrow, hall row (hk ▸ hrow)⟩
  lower _ row _ _ hrow hlt row' hrow' := by
    rw [hk, hrow'] at hrow
    cases hrow
    exact Nat.le_of_lt hlt
  known _ hks :=
    stable_row (fun r => ∀ row, r = some row → row.version ≤ changed.version) (hk ▸ hks)
  commits _ _ t w _ _ hlow _ hwrites := by
    have hrow : rowOf (t.view w.db) H.id = some ⟨foldStatus changed.status, changed.version⟩ := by
      rw [view_eq, hwrites, ← hk]
      exact rowOf_put (by simp [Write.keys])
    exact ⟨.inr ⟨_, List.mem_cons_of_mem _ (List.mem_map_of_mem hdel), hrow, hlow⟩,
      fun _ => ⟨_, hrow, Nat.le_refl _⟩⟩

theorem changes_other (hk : changed.scheduleId ≠ H.id) :
    Changes (H.discipline.raising fun _ => True) i c changed (fun _ => True) (fun _ => True)
      (fun _ => True) where
  lawful := lawful.raising fun _ _ => trivial
  asks _ _ := trivial
  lasting := lasting_true
  idle t w _ _ hw := by
    refine ⟨.inl ?_, trivial⟩
    rw [view_eq, hw]
    rfl
  missing _ _ _ _ _ _ := trivial
  found _ _ _ _ := trivial
  persists := lasting_true
  current _ _ _ _ := trivial
  lower _ _ _ _ _ _ := trivial
  known _ _ := stable_true
  commits _ _ t w _ _ _ _ hwrites := by
    refine ⟨.inl ?_, trivial⟩
    rw [view_eq, hwrites]
    exact rowOf_other (by simp [Write.keys, Ne.symm hk])

theorem ok_processOther (hk : changed.scheduleId ≠ H.id) :
    Ok H.discipline i c (fun _ ts' _ => ts' = ts) (fun _ ts' _ => ts' = ts)
      (processStatusChanged changed) ts w :=
  ok_raising.mp (Ok.mono (fun _ _ _ hq => hq.1) (fun _ _ _ hx => hx.2)
    (ok_processStatusChanged (changes_other hk)))

end Transactions

section Calls

theorem createdSound : Kafka.ConsumerSound H.discipline createdConsumer where
  raises e h := (Bool.or_eq_false_iff.mp (h : statusChangedConsumer.isNonRetryable e = false)).1
  heartbeat _ _ _ _ _ hF hw := Ok.aux_any lawful hF hw fun _ _ => trivial
  sendToDlq _ _ _ _ _ hF hw := Ok.aux_any lawful hF hw fun _ _ => trivial

theorem statusChangedSound : Kafka.ConsumerSound H.discipline statusChangedConsumer where
  raises _ h := h
  heartbeat _ _ _ _ _ hF hw := Ok.aux_any lawful hF hw fun _ _ => trivial
  sendToDlq _ _ _ _ _ hF hw := Ok.aux_any lawful hF hw fun _ _ => trivial

theorem ok_finish {F : ScheduleWorld → Prop} {p : ScheduleCode Unit}
    {X : Err → Stack scheduleService → ScheduleWorld → Prop}
    (h : Ok H.discipline i c (fun _ ts' w => ts' = [] ∧ F w) X p [] w)
    (hF : ∀ w, F w → H.discipline.post c .done w) :
    Ok H.discipline i c (fun a _ w => H.discipline.post c a w) (fun _ _ _ => True) (finish p) [] w := by
  refine Ok.bind ?_ (Ok.mono (fun _ _ _ hq => hq) (fun _ _ _ _ => trivial) h)
  rintro _ ts' w' ⟨-, hw⟩
  exact hF w' hw

theorem ok_unannounced {p : ScheduleCode Unit}
    {X : Err → Stack scheduleService → ScheduleWorld → Prop} (hb : H.brings c = none)
    (h : Ok H.discipline i c (fun _ ts' _ => ts' = []) X p [] w) :
    Ok H.discipline i c (fun a _ w => H.discipline.post c a w) (fun _ _ _ => True) (finish p) [] w := by
  refine ok_finish (F := fun _ => True) (Ok.mono (fun _ _ _ hq => ⟨hq, trivial⟩)
    (fun _ _ _ hx => hx) h) fun w _ version hv => ?_
  rw [hb] at hv
  cases hv

theorem sound : H.discipline.Sound := by
  intro i c w _ hp
  cases c with
  | inventory => exact hp.elim
  | scheduleCreated m =>
    by_cases hm : ∀ e, m ≠ .event e
    · refine ok_unannounced ?_ (Kafka.ok_undelivered createdSound hm)
      cases m with
      | event e => exact absurd rfl (hm e)
      | tombstone | malformed => rfl
    · push Not at hm
      obtain ⟨e, rfl⟩ := hm
      refine ok_finish (F := fun w => e.scheduleId = H.id → H.Reached e.version w)
        (Kafka.ok_delivered createdSound (lasting_leaves _ _)
          (ok_processCreated (projects (hp e rfl))))
        fun w hw version hv => ?_
      by_cases hk : e.scheduleId = H.id
      · rw [brings, if_pos hk] at hv
        cases hv
        exact hw hk
      · rw [brings, if_neg hk] at hv
        cases hv
  | scheduleStatusChanged m =>
    by_cases hm : ∀ e, m ≠ .event e
    · refine ok_unannounced ?_ (Kafka.ok_undelivered statusChangedSound hm)
      cases m with
      | event e => exact absurd rfl (hm e)
      | tombstone | malformed => rfl
    · push Not at hm
      obtain ⟨e, rfl⟩ := hm
      by_cases hk : e.scheduleId = H.id
      · refine ok_finish (F := fun w => e.scheduleId = H.id → H.Reached e.version w)
          (Kafka.ok_delivered statusChangedSound (lasting_leaves _ _)
            (ok_processStatusChanged (changes_own rfl hk (hp e rfl hk)))) fun w hw version hv => ?_
        rw [brings, if_pos hk] at hv
        cases hv
        exact hw hk
      · refine ok_unannounced (if_neg hk) (Kafka.ok_routed (fun w => ?_) (fun w => ?_) ?_)
        · exact Ok.mono (fun _ _ _ hq => hq.1) (fun _ _ _ hx => hx.2)
            (statusChangedSound.heartbeat _ _ _ w _ lasting_true trivial)
        · exact Ok.mono (fun _ _ _ hq => hq.1) (fun _ _ _ hx => hx.2)
            (statusChangedSound.sendToDlq _ _ _ w _ lasting_true trivial)
        · rintro _ ⟨⟩
          exact ok_processOther hk

end Calls

/-- The runs in which no change of the schedule's status is handled before it has a row. -/
def metRuns (H : Announcements) : Scope machine where
  start c _ := H.Delivers c
  allow c _ w s := H.Met c w s

theorem metRuns_within : H.metRuns.Within H.discipline where
  start _ _ h := h
  allow _ _ _ _ h := h

def deliveries (H : Announcements) : List Call :=
  .scheduleCreated (.event H.created) :: H.changes.map (fun e => .scheduleStatusChanged (.event e))

theorem brings_of_mem {row : ScheduleInventory} (h : row ∈ H.rows) :
    ∃ c ∈ H.deliveries, H.brings c = some row.version := by
  obtain rfl | h := List.mem_cons.mp h
  · exact ⟨_, List.mem_cons_self, if_pos rfl⟩
  · obtain ⟨e, he, rfl⟩ := List.mem_map.mp h
    exact ⟨_, List.mem_cons_of_mem _ (List.mem_map_of_mem he), if_pos (H.schedule e he)⟩

/-- Once every announcement has been handled, in whatever order, the row is that of one
with the highest version. -/
theorem latest_of_handled {now : Nat} {p : Pool machine} (h : Reachable H.metRuns (start now) p)
    (hall : ∀ c ∈ H.deliveries, p.Handled c) :
    ∃ row ∈ H.rows, rowOf p.world.db H.id = some row ∧ ∀ r ∈ H.rows, r.version ≤ row.version := by
  have hinv : H.discipline.inv (start now).world := by
    intro row hrow
    cases hrow
  have hwf := Reachable.wellFormed lawful sound metRuns_within (wellFormed_init hinv) h
  have hreached : ∀ r ∈ H.rows, H.Reached r.version p.world := by
    intro r hr
    obtain ⟨c, hc, hb⟩ := brings_of_mem hr
    obtain ⟨a, ha⟩ := hwf.handled (hall c hc)
    exact ha _ hb
  obtain ⟨row, hrow, -⟩ := hreached _ List.mem_cons_self
  refine ⟨row, hwf.inv row hrow, hrow, fun r hr => ?_⟩
  obtain ⟨row', hrow', hle⟩ := hreached r hr
  rw [hrow] at hrow'
  cases hrow'
  exact hle

end Announcements

end RailwayBooking.ScheduleService
