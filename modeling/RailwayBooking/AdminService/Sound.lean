import RailwayBooking.AdminService.Facts

namespace RailwayBooking.AdminService

open Concurrency

variable {i : Nat} {c : Call} {h : Nat} {t : AdminTx} {ts : Stack adminService} {w : AdminWorld}
  {α β : Type} {F : AdminWorld → Prop}

abbrev OkIn (i : Nat) (c : Call) {α : Type} (Q : α → Stack adminService → AdminWorld → Prop)
    (h : Nat) (ts : Stack adminService) (p : AdminCode α) (t : AdminTx) (w : AdminWorld) : Prop :=
  Ok discipline i c Q (Inside discipline h ts) p ((h, t) :: ts) w

abbrev OkOut (i : Nat) (c : Call) {α : Type} (Q : α → Stack adminService → AdminWorld → Prop)
    (ts : Stack adminService) (p : AdminCode α) (w : AdminWorld) : Prop :=
  Ok discipline i c Q (Outside discipline ts) p ts w

abbrev Returns {α : Type} (ts : Stack adminService) (_ : α) (ts' : Stack adminService)
    (_ : AdminWorld) : Prop := ts' = ts

section Reads

/-- The transaction has only read since. -/
structure Reads (t t' : AdminTx) : Prop where
  site : t'.site = t.site
  writes : t'.writes = t.writes
  locks : t'.locks = t.locks
  answered : ∀ q a, t.Answered q a → t'.Answered q a

theorem Reads.refl (t : AdminTx) : Reads t t := ⟨rfl, rfl, rfl, fun _ _ h => h⟩

theorem Reads.trans {t₁ t₂ t₃ : AdminTx} (h : Reads t₁ t₂) (h' : Reads t₂ t₃) : Reads t₁ t₃ :=
  ⟨h'.site.trans h.site, h'.writes.trans h.writes, h'.locks.trans h.locks,
    fun q a ha => h'.answered q a (h.answered q a ha)⟩

/-- The code only reads, and leaves `P`; `F` goes on holding. -/
def Quiet {α : Type} (h : Nat) (ts : Stack adminService) (t : AdminTx) (F : AdminWorld → Prop)
    (P : α → AdminTx → Prop) (a : α) (ts' : Stack adminService) (w : AdminWorld) : Prop :=
  F w ∧ ∃ t', ts' = (h, t') :: ts ∧ Reads t t' ∧ P a t'

def Sql.reads : Sql → Bool
  | .createSchedule _ | .updateSchedule _ _ | .deleteOperatingDays _ | .createOperatingDays _ _
  | .updateRoute _ _ | .addRouteStation _ | .deleteRouteStation _ | .insertOutbox _ => false
  | _ => true

theorem run_reads {q : Sql} {d : Db} {a : Rows q} {ws : List Write} {ks : List Key}
    (hq : q.reads = true) (hr : run q d = .ok (a, ws, ks)) : ws = [] ∧ ks = [] := by
  cases q with
  | createSchedule | updateSchedule | deleteOperatingDays | createOperatingDays | updateRoute
  | addRouteStation | deleteRouteStation | insertOutbox => cases hq
  | _ =>
    cases hr
    exact ⟨rfl, rfl⟩

theorem ok_raise {Q : α → Stack adminService → AdminWorld → Prop} (e : Err) :
    OkIn i c Q h ts (raise e) t w :=
  ⟨trivial, t, rfl⟩

variable (hs : Stable discipline i (t.locks ++ ts.locks) F) (hF : F w)

include hs hF

theorem ok_find {q : Sql} (hq : q.reads = true) :
    OkIn i c (Quiet h ts t F fun a t' => t'.Answered q a ∧ ∃ d, F d ∧
      ∃ ws ks, run q (t.view d.db) = .ok (a, ws, ks)) h ts (sql h q) t w := by
  refine Ok.sql lawful F hs hF fun w' _ _ hf _ a ws ks hr => ?_
  obtain ⟨rfl, rfl⟩ := run_reads hq hr
  refine ⟨hf, _, rfl, ⟨rfl, List.append_nil _, List.append_nil _, fun _ _ h => h.record _ _ _ _⟩,
    t.answered_record q a _ _, w', hf, _, _, hr⟩

theorem ok_aux (a : Aux) : OkIn i c (Quiet h ts t F fun _ _ => True) h ts
    (Code.aux (V := adminService) a) t w := by
  refine Ok.aux F hs hF (fun _ _ => trivial) fun w' _ _ hf _ ch r e he =>
    ⟨fun x _ => ⟨hs.drift w' e (lawful.ask w' i c a ch r e trivial he) hf, t, rfl, .refl t, trivial⟩,
      fun x _ => ⟨trivial, t, rfl⟩⟩

theorem ok_date : OkIn i c (fun date => Quiet h ts t (fun w => F w ∧ date ≤ w.env.now)
    (fun _ _ => True) date) h ts now t w := by
  refine Ok.aux F hs hF (fun _ _ => trivial) fun w' _ _ hf _ ch r e he => ?_
  cases he
  refine ⟨fun x hx => ?_, fun x hx => (nomatch hx)⟩
  cases hx
  exact ⟨⟨hs.drift w' _ (Nat.le_refl _) hf, Nat.le_refl _⟩, t, rfl, .refl t, trivial⟩

def FoundRoute (key : RouteWhere) (includeInactive : Bool)
    (a : Option (Route × List StopWithStation)) (t : AdminTx) : Prop :=
  ∀ route routeStation, a = some (route, routeStation) →
    t.Answered (.findRoute key includeInactive) (some route) ∧
      t.Answered (.findRouteStations route.id) routeStation

theorem ok_getRoute (key : RouteWhere) (includeInactive : Bool) :
    OkIn i c (Quiet h ts t F (FoundRoute key includeInactive)) h ts
      (sql h (.findRoute key includeInactive) >>= withStops h) t w := by
  refine Ok.bind ?_ (ok_find hs hF rfl)
  rintro route _ w₁ ⟨hf₁, t₁, rfl, hr₁, hroute, -⟩
  cases route with
  | none => exact ⟨hf₁, t₁, rfl, hr₁, fun _ _ h => (nomatch h)⟩
  | some route =>
    refine Ok.bind ?_ (ok_find (by rw [hr₁.locks]; exact hs) hf₁ rfl)
    rintro routeStation _ w₂ ⟨hf₂, t₂, rfl, hr₂, hstops, -⟩
    refine ⟨hf₂, t₂, rfl, hr₁.trans hr₂, ?_⟩
    rintro _ _ ⟨⟩
    exact ⟨hr₂.answered _ _ hroute, hstops⟩

theorem ok_getById (id : Id) :
    OkIn i c (Quiet h ts t F fun a _ => ∀ snapshot : ScheduleSnapshot, a = some snapshot →
      ∃ d, F d ∧ rowOf (t.view d.db) id = some snapshot.schedule) h ts (getById h id) t w := by
  refine Ok.bind ?_ (ok_find hs hF rfl)
  rintro schedule _ w₁ ⟨hf₁, t₁, rfl, hr₁, -, d, hd, ws, ks, hrun⟩
  cases schedule with
  | none => exact ⟨hf₁, t₁, rfl, hr₁, fun _ h => (nomatch h)⟩
  | some schedule =>
    have hs₁ : Stable discipline i (t₁.locks ++ ts.locks) F := by
      rw [hr₁.locks]
      exact hs
    refine Ok.bind ?_ (ok_find hs₁ hf₁ rfl)
    rintro loaded _ w₂ ⟨hf₂, t₂, rfl, hr₂, -⟩
    have hs₂ : Stable discipline i (t₂.locks ++ ts.locks) F := by
      rw [hr₂.locks]
      exact hs₁
    match loaded with
    | none => exact ⟨hf₂, t₂, rfl, hr₁.trans hr₂, fun _ h => (nomatch h)⟩
    | some (train, coaches, operatingDays) =>
      refine Ok.bind ?_ (ok_getRoute hs₂ hf₂ _ _)
      rintro route _ w₃ ⟨hf₃, t₃, rfl, hr₃, -⟩
      refine ⟨hf₃, t₃, rfl, (hr₁.trans hr₂).trans hr₃, ?_⟩
      rintro _ ⟨⟩
      exact ⟨d, hd, congrArg Prod.fst (Except.ok.inj hrun)⟩

theorem ok_toCreatedEvent (s : ScheduleSnapshot) :
    OkIn i c (Quiet h ts t F fun e _ => e.scheduleId = s.schedule.id ∧
      e.version = s.schedule.version ∧ s.schedule.status.contract = some e.status) h ts
      (toCreatedEvent s) t w := by
  unfold toCreatedEvent
  split
  · exact ok_raise _
  · next route _ =>
    refine Ok.bind ?_ (ok_aux hs hF _)
    rintro eventId _ w₁ ⟨hf₁, t₁, rfl, hr₁, -⟩
    cases he : parseCreated eventId s route with
    | none => exact ok_raise _
    | some e =>
      refine ⟨hf₁, t₁, rfl, hr₁, ?_⟩
      simp only [parseCreated, Option.bind_eq_bind, Option.bind_eq_some_iff] at he
      obtain ⟨category, -, status, hstatus, he⟩ := he
      split at he
      · cases he
        exact ⟨rfl, rfl, hstatus⟩
      · cases he

theorem ok_toStatusChangedEvent (s : ScheduleSnapshot) :
    OkIn i c (Quiet h ts t F fun e _ => e.scheduleId = s.schedule.id ∧
      e.version = s.schedule.version ∧ s.schedule.status.contract = some e.status) h ts
      (toStatusChangedEvent s) t w := by
  unfold toStatusChangedEvent
  split
  · exact ok_raise _
  · next route _ =>
    refine Ok.bind ?_ (ok_aux hs hF _)
    rintro eventId _ w₁ ⟨hf₁, t₁, rfl, hr₁, -⟩
    cases he : parseStatusChanged eventId s.schedule route.1 with
    | none => exact ok_raise _
    | some e =>
      refine ⟨hf₁, t₁, rfl, hr₁, ?_⟩
      obtain ⟨status, hstatus, rfl⟩ := Option.map_eq_some_iff.mp he
      exact ⟨rfl, rfl, hstatus⟩

end Reads

section Writes

theorem ok_write {q : Sql} {Q : Rows q → Stack adminService → AdminWorld → Prop}
    (hs : Stable discipline i (t.locks ++ ts.locks) F) (hF : F w)
    (hq : ∀ w' a ws ks, F w' → run q (t.view w'.db) = .ok (a, ws, ks) →
      Q a ((h, t.record q a ws ks) :: ts) w') :
    OkIn i c Q h ts (sql h q) t w :=
  Ok.sql lawful F hs hF fun w' _ _ hf _ a ws ks hr => hq w' a ws ks hf hr

theorem commits_intro {a : α} (hs : Stable discipline i (t.locks ++ ts.locks) F) (hF : F w)
    (hsite : t.site ≠ .auto) (hc : ∀ w', F w' → Commit c t w') :
    Commits discipline i c h ts (Returns ts) a ((h, t) :: ts) w :=
  ⟨t, rfl, F, hs, hF, fun w' _ _ hf _ => ⟨⟨hsite, hc w' hf⟩, rfl⟩⟩

theorem ok_announce {event : OutboxEvent} {a : α}
    (hs : Stable discipline i (t.locks ++ ts.locks) F) (hF : F w) (hsite : t.site ≠ .auto)
    (hc : ∀ w' t', F w' → t'.writes = t.writes ++ [.outbox event] →
      (∀ q a, t.Answered q a → t'.Answered q a) → Commit c t' w') :
    OkIn i c (Commits discipline i c h ts (Returns ts)) h ts
      (sql h (.insertOutbox event) >>= fun _ => pure a) t w := by
  refine Ok.seq (ok_write hs hF fun w₁ _ ws ks hf₁ hr => ?_)
  cases hr
  exact commits_intro (hs.record _ _ _ _) hf₁ hsite fun w' hf =>
    hc w' _ hf rfl fun _ _ ha => ha.record _ _ _ _

end Writes

section Schedules

theorem ok_createSchedule (dto : CreateScheduleRequest) :
    OkOut i (.createSchedule dto) (Returns ts) ts (createSchedule dto) w := by
  refine Ok.transaction_any lawful fun h w₁ _ _ => ?_
  refine Ok.bind ?_ (ok_find stable_true trivial rfl)
  rintro found _ w₂ ⟨-, t₂, rfl, hr₂, hfound, -⟩
  match found with
  | none => exact ok_raise _
  | some (train, operatingDays) =>
    dsimp only
    split
    · exact ok_raise _
    split
    · exact ok_raise _
    next hoperates =>
    refine Ok.bind ?_ (ok_getRoute stable_true trivial _ _)
    rintro route _ w₃ ⟨-, t₃, rfl, hr₃, hroute⟩
    match route with
    | none => exact ok_raise _
    | some (route, routeStation) =>
      dsimp only
      split
      · exact ok_raise _
      next hlong =>
      refine Ok.bind ?_ (ok_find stable_true trivial rfl)
      rintro existing _ w₄ ⟨-, t₄, rfl, hr₄, -⟩
      split
      · exact ok_raise _
      refine Ok.bind ?_ (ok_aux stable_true trivial _)
      rintro id _ w₅ ⟨-, t₅, rfl, hr₅, -⟩
      have hr := ((hr₂.trans hr₃).trans hr₄).trans hr₅
      obtain ⟨hroute, hstops⟩ := hroute route routeStation rfl
      replace hfound := hr₅.answered _ _ (hr₄.answered _ _ (hr₃.answered _ _ hfound))
      replace hroute := hr₅.answered _ _ (hr₄.answered _ _ hroute)
      replace hstops := hr₅.answered _ _ (hr₄.answered _ _ hstops)
      refine Ok.seq (ok_write stable_true trivial fun w₆ _ ws ks _ hrun => ?_)
      simp only [run] at hrun
      split at hrun
      · cases hrun
      next hnew =>
      cases hrun
      rw [view_nil hr.writes] at hnew
      have hrow : rowOf w₆.db id = none := by
        rw [rowOf_eq_none]
        intro s hs heq
        apply hnew
        rw [List.any_eq_true]
        exact ⟨s, hs, by simp [heq]⟩
      generalize ht₆ : t₅.record _ _ _ _ = t₆
      have hwrites₆ : t₆.writes =
          [.schedule ⟨id, dto.trainId, startOfDay dto.departureDate, .active, 1⟩] := by
        rw [← ht₆, Tx.record_writes, hr.writes]
        rfl
      have hlock : Key.schedule id ∈ t₆.locks := by
        rw [← ht₆, Tx.record_locks]
        simp [Tx.rowKeys, Write.keys]
      have hstable : ∀ t' : AdminTx, t'.locks = t₆.locks →
          Stable discipline i (t'.locks ++ ts.locks) (fun w => rowOf w.db id = none) := fun t' hl =>
        stable_rowOf id none (List.mem_append_left _ (hl ▸ hlock))
      refine Ok.bind ?_ (ok_getById (hstable t₆ rfl) hrow id)
      rintro details _ w₇ ⟨hrow₇, t₇, rfl, hr₇, hdetails⟩
      cases details with
      | none => exact ok_raise _
      | some snapshot =>
        obtain ⟨d, hd, hsnapshot⟩ := hdetails snapshot rfl
        have hsame : snapshot.schedule =
            ⟨id, dto.trainId, startOfDay dto.departureDate, .active, 1⟩ := by
          rw [view_eq, hwrites₆, applyAll_cons, applyAll, List.foldl_nil, rowOf_schedule, hd,
            Option.none_or] at hsnapshot
          simpa [rowOf] using hsnapshot.symm
        refine Ok.bind ?_ (ok_toCreatedEvent (hstable t₇ hr₇.locks) hrow₇ snapshot)
        rintro payload _ w₈ ⟨hrow₈, t₈, rfl, hr₈, hpayload⟩
        have hr' := hr₇.trans hr₈
        have hkeep : ∀ q a, t₅.Answered q a → t₈.Answered q a := fun q a ha =>
          hr'.answered q a (ht₆ ▸ ha.record _ _ _ _)
        refine ok_announce (hstable t₈ hr'.locks) hrow₈ ?_ fun w' t' hf hw ha => ?_
        · rw [hr'.site, ← ht₆]
          change t₅.site ≠ _
          rw [hr.site]
          intro hx
          cases hx
        · refine .created ⟨id, dto.trainId, startOfDay dto.departureDate, .active, 1⟩ payload train
            operatingDays route routeStation (ha _ _ (hkeep _ _ hfound)) ?_
            (ha _ _ (hkeep _ _ hroute)) (ha _ _ (hkeep _ _ hstops)) (Nat.le_of_not_lt hlong) rfl
            hf ?_ ?_
          · simpa using hoperates
          · rw [hsame] at hpayload
            exact ⟨hpayload.1, hpayload.2.1, (Option.some.inj hpayload.2.2).symm⟩
          · rw [hw, hr'.writes, hwrites₆]
            rfl

theorem ok_updateScheduleStatus (id : Id) (status : ScheduleStatus) :
    OkOut i (.updateScheduleStatus id status) (Returns ts) ts (updateScheduleStatus id status) w := by
  refine Ok.transaction_any lawful fun h w₁ _ _ => ?_
  refine Ok.bind ?_ (ok_getById stable_true trivial id)
  rintro found _ w₂ ⟨-, t₂, rfl, hr₂, -⟩
  match found with
  | none => exact ok_raise _
  | some snapshot =>
    dsimp only
    split
    · refine commits_intro stable_true trivial ?_ fun _ _ => .unchanged hr₂.writes
      rw [hr₂.site]
      intro hx
      cases hx
    refine Ok.seq (ok_write stable_true trivial fun w₃ _ ws ks _ hrun => ?_)
    rw [view_nil hr₂.writes] at hrun
    simp only [run] at hrun
    split at hrun
    · cases hrun
    next schedule hrow =>
    split at hrun
    · cases hrun
    cases hrun
    replace hrow : rowOf w₃.db id = some schedule := hrow
    generalize ht₃ : t₂.record _ _ _ _ = t₃
    have hwrites₃ : t₃.writes = [.updatedStatus id status (schedule.version + 1)] := by
      rw [← ht₃, Tx.record_writes, hr₂.writes]
      rfl
    have hlock : Key.schedule id ∈ t₃.locks := by
      rw [← ht₃, Tx.record_locks]
      simp [Tx.rowKeys, Write.keys]
    have hstable : ∀ t' : AdminTx, t'.locks = t₃.locks → Stable discipline i (t'.locks ++ ts.locks)
        (fun w => rowOf w.db id = some schedule) := fun t' hl =>
      stable_rowOf id _ (List.mem_append_left _ (hl ▸ hlock))
    refine Ok.bind ?_ (ok_getById (hstable t₃ rfl) hrow id)
    rintro details _ w₄ ⟨hrow₄, t₄, rfl, hr₄, hdetails⟩
    cases details with
    | none => exact ok_raise _
    | some snapshot' =>
      obtain ⟨d, hd, hsnapshot⟩ := hdetails snapshot' rfl
      rw [view_eq, hwrites₃, applyAll_cons, applyAll, List.foldl_nil, rowOf_updated, hd] at hsnapshot
      have hsame := Option.some.inj hsnapshot
      rw [Schedule.updated, if_pos (rowOf_id hrow)] at hsame
      refine Ok.bind ?_ (ok_toStatusChangedEvent (hstable t₄ hr₄.locks) hrow₄ snapshot')
      rintro payload _ w₅ ⟨hrow₅, t₅, rfl, hr₅, hpayload⟩
      have hr' := hr₄.trans hr₅
      refine ok_announce (hstable t₅ hr'.locks) hrow₅ ?_ fun w' t' hf hw ha => ?_
      · rw [hr'.site, ← ht₃]
        change t₂.site ≠ _
        rw [hr₂.site]
        intro hx
        cases hx
      · refine .statusChanged schedule payload hf ?_ ?_
        · rw [← hsame] at hpayload
          have hid : payload.scheduleId = schedule.id := hpayload.1
          exact ⟨hid.trans (rowOf_id hrow), hpayload.2⟩
        · rw [hw, hr'.writes, hwrites₃]
          rfl

end Schedules

section Trains

def DaysUnreferenced (trainId : Id) (currentDays newDays : List Nat) (t : AdminTx)
    (w : AdminWorld) : Prop :=
  (∀ day ∈ currentDays, day ∈ newDays) ∨ ∃ date dates,
    t.Answered (.futureActiveSchedules trainId date) dates ∧ date ≤ w.env.now ∧
      ∀ x ∈ dates, getUTCDay x ∈ currentDays → getUTCDay x ∈ newDays

theorem DaysUnreferenced.mono {trainId : Id} {currentDays newDays : List Nat} {t' : AdminTx}
    (h : DaysUnreferenced trainId currentDays newDays t w)
    (ha : ∀ q a, t.Answered q a → t'.Answered q a) :
    DaysUnreferenced trainId currentDays newDays t' w :=
  h.imp_right fun ⟨date, dates, hx, hd⟩ => ⟨date, dates, ha _ _ hx, hd⟩

theorem lasting_daysUnreferenced (trainId : Id) (currentDays newDays : List Nat) (t : AdminTx) :
    Lasting discipline (DaysUnreferenced trainId currentDays newDays t) where
  commit _ _ _ _ _ _ _ h := h
  drift _ _ hd h := h.imp_right fun ⟨date, dates, hx, hdate, hall⟩ =>
    ⟨date, dates, hx, hdate.trans hd, hall⟩

theorem ok_ensureDaysUnreferenced (trainId : Id) (currentDays newDays : List Nat) :
    OkIn i c (fun _ ts' w => ∃ t', ts' = (h, t') :: ts ∧ Reads t t' ∧
        DaysUnreferenced trainId currentDays newDays t' w) h ts
      (ensureDaysUnreferenced h trainId (currentDays.filter (fun day => !newDays.contains day)))
      t w := by
  have hmem : ∀ day, day ∈ currentDays.filter (fun day => !newDays.contains day) ↔
      day ∈ currentDays ∧ day ∉ newDays := by
    intro day
    simp [List.mem_filter]
  generalize currentDays.filter _ = removedDays at hmem
  unfold ensureDaysUnreferenced
  split
  · refine Ok.bind ?_ (ok_date stable_true trivial)
    rintro date _ w₁ ⟨⟨-, hdate⟩, t₁, rfl, hr₁, -⟩
    refine Ok.bind ?_ (ok_find ((lasting_now date).stable _ i _) hdate rfl)
    rintro dates _ w₂ ⟨hdate₂, t₂, rfl, hr₂, hdates, -⟩
    split
    · exact ok_raise _
    next hnone =>
    refine ⟨t₂, rfl, hr₁.trans hr₂, .inr ⟨date, dates, hdates, hdate₂, fun x hx hcurrent => ?_⟩⟩
    by_contra hnew
    apply hnone
    rw [List.any_eq_true]
    exact ⟨x, hx, List.contains_iff_mem.mpr ((hmem _).mpr ⟨hcurrent, hnew⟩)⟩
  · next hempty =>
    refine ⟨t, rfl, .refl t, .inl fun day hday => ?_⟩
    by_contra hnew
    exact hempty (List.length_pos_of_mem ((hmem day).mpr ⟨hday, hnew⟩))

theorem ok_updateTrainOperatingDays (trainId : Id) (newDays : List Nat) :
    OkOut i (.updateTrainOperatingDays trainId newDays) (Returns ts) ts
      (updateTrainOperatingDays trainId newDays) w := by
  refine Ok.transaction_any lawful fun h w₁ _ _ => ?_
  refine Ok.bind ?_ (ok_find stable_true trivial rfl)
  rintro found _ w₂ ⟨-, t₂, rfl, hr₂, hfound, -⟩
  match found with
  | none => exact ok_raise _
  | some (train, currentDays) =>
    refine Ok.bind ?_ (ok_ensureDaysUnreferenced trainId currentDays newDays)
    rintro _ _ w₃ ⟨t₃, rfl, hr₃, hunref⟩
    have hl := fun t' => lasting_daysUnreferenced trainId currentDays newDays t'
    have hr := hr₂.trans hr₃
    refine Ok.seq (Ok.seq (ok_write ((hl t₃).stable _ i _) hunref fun w₄ _ ws ks hunref₄ hrun => ?_))
    cases hrun
    refine ok_write ((hl t₃).stable _ i _) hunref₄ fun w₅ _ ws ks hunref₅ hrun => ?_
    simp only [run] at hrun
    split at hrun
    · cases hrun
    cases hrun
    refine commits_intro ((hl t₃).stable _ i _) hunref₅ ?_ fun w' hf => ?_
    · change t₃.site ≠ _
      rw [hr.site]
      intro hx
      cases hx
    · refine .operatingDays train currentDays ((t₃.view w₄.db).daysOf trainId) ?_ ?_ ?_
      · exact ((hr₃.answered _ _ hfound).record _ _ _ _).record _ _ _ _
      · exact hf.mono fun _ _ ha => (ha.record _ _ _ _).record _ _ _ _
      · rw [Tx.record_writes, Tx.record_writes, hr.writes]
        rfl

end Trains

section Routes

theorem Unreferenced.mono {routeId : Id} {t' : AdminTx} (h : Unreferenced routeId t w)
    (ha : ∀ q a, t.Answered q a → t'.Answered q a) : Unreferenced routeId t' w := by
  obtain ⟨route, date, hroute, hcount, hdate⟩ := h.seen
  exact ⟨route, date, ha _ _ hroute, ha _ _ hcount, hdate⟩

theorem lasting_unreferenced (routeId : Id) (t : AdminTx) :
    Lasting discipline (Unreferenced routeId t) where
  commit _ _ _ _ _ _ _ h := ⟨h.seen⟩
  drift _ _ hd h := by
    obtain ⟨route, date, hroute, hcount, hdate⟩ := h.seen
    exact ⟨route, date, hroute, hcount, hdate.trans hd⟩

theorem ok_ensureRouteCanBeDeleted (routeId : Id) :
    OkIn i c (fun _ ts' w => ∃ t', ts' = (h, t') :: ts ∧ Reads t t' ∧ Unreferenced routeId t' w)
      h ts (ensureRouteCanBeDeleted h routeId) t w := by
  refine Ok.bind ?_ (ok_getRoute stable_true trivial _ _)
  rintro route _ w₁ ⟨-, t₁, rfl, hr₁, hroute⟩
  match route with
  | none => exact ok_raise _
  | some (route, routeStation) =>
    refine Ok.bind ?_ (ok_date stable_true trivial)
    rintro date _ w₂ ⟨⟨-, hdate⟩, t₂, rfl, hr₂, -⟩
    refine Ok.bind ?_ (ok_find ((lasting_now date).stable _ i _) hdate rfl)
    rintro count _ w₃ ⟨hdate₃, t₃, rfl, hr₃, hcount, -⟩
    split
    · exact ok_raise _
    next hzero =>
    obtain rfl : count = (0 : Nat) := Nat.eq_zero_of_not_pos hzero
    refine ⟨t₃, rfl, (hr₁.trans hr₂).trans hr₃, route, date, ?_, hcount, hdate₃⟩
    exact hr₃.answered _ _ (hr₂.answered _ _ (hroute route routeStation rfl).1)

theorem ok_setRoute {routeId : Id} {isActive : Bool} (event : Id → Route → OutboxEvent)
    (hF : F w) (hl : Lasting discipline F) (hwrites : t.writes = []) (hsite : t.site ≠ .auto)
    (hc : ∀ w' t' e, F w' → e.ofRoute = true → t'.writes = [.route routeId isActive, .outbox e] →
      (∀ q a, t.Answered q a → t'.Answered q a) → Commit c t' w')
    (hevent : ∀ eventId route, (event eventId route).ofRoute = true) :
    OkIn i c (Commits discipline i c h ts (Returns ts)) h ts (do
      let updatedRoute ← sql h (.updateRoute routeId isActive)
      let eventId ← randomUUID
      sql h (.insertOutbox (event eventId updatedRoute))
      return updatedRoute) t w := by
  refine Ok.seq (ok_write (hl.stable _ i _) hF fun w₁ route ws ks hf₁ hrun => ?_)
  simp only [run] at hrun
  split at hrun
  · cases hrun
  cases hrun
  generalize ht₁ : t.record _ _ _ _ = t₁
  have hwrites₁ : t₁.writes = [.route routeId isActive] := by
    rw [← ht₁, Tx.record_writes, hwrites]
    rfl
  have hkeep : ∀ q a, t.Answered q a → t₁.Answered q a := by
    intro q a ha
    rw [← ht₁]
    exact ha.record _ _ _ _
  refine Ok.bind ?_ (ok_aux (hl.stable _ i _) hf₁ _)
  rintro eventId _ w₂ ⟨hf₂, t₂, rfl, hr₂, -⟩
  refine ok_announce (hl.stable _ i _) hf₂ ?_ fun w' t' hf hw ha => ?_
  · rw [hr₂.site, ← ht₁]
    exact hsite
  · rw [hr₂.writes, hwrites₁] at hw
    exact hc w' t' _ hf (hevent _ _) hw
      fun q a hq => ha q a (hr₂.answered q a (hkeep q a hq))

theorem ok_deleteRoute (routeId : Id) :
    OkOut i (.deleteRoute routeId) (Returns ts) ts (deleteRoute routeId) w := by
  refine Ok.transaction_any lawful fun h w₁ _ _ => ?_
  refine Ok.bind ?_ (ok_getRoute stable_true trivial _ _)
  rintro route _ w₂ ⟨-, t₂, rfl, hr₂, -⟩
  match route with
  | none => exact ok_raise _
  | some _ =>
    refine Ok.bind ?_ (ok_ensureRouteCanBeDeleted routeId)
    rintro _ _ w₃ ⟨t₃, rfl, hr₃, hunref⟩
    have hr := hr₂.trans hr₃
    refine ok_setRoute (fun eventId route => .routeDeleted eventId route.id route.trainId)
      hunref (lasting_unreferenced routeId t₃) hr.writes ?_ (fun w' t' e hf he hw ha => ?_)
      fun _ _ => rfl
    · rw [hr.site]
      intro hx
      cases hx
    · exact .routeDeleted e he (hf.mono ha) hw

theorem ok_updateRouteStatus (routeId : Id) (isActive : Bool) :
    OkOut i (.updateRouteStatus routeId isActive) (Returns ts) ts
      (updateRouteStatus routeId isActive) w := by
  refine Ok.transaction_any lawful fun h w₁ _ _ => ?_
  refine Ok.bind ?_ (ok_getRoute stable_true trivial _ _)
  rintro route _ w₂ ⟨-, t₂, rfl, hr₂, -⟩
  match route with
  | none => exact ok_raise _
  | some _ =>
    have hguard : OkIn i (.updateRouteStatus routeId isActive) (fun _ ts' w => ∃ t',
        ts' = (h, t') :: ts ∧ Reads t₂ t' ∧ (isActive = false → Unreferenced routeId t' w)) h ts
        (if isActive = false then ensureRouteCanBeDeleted h routeId else pure ()) t₂ w₂ := by
      split
      · refine Ok.mono ?_ (fun _ _ _ hx => hx) (ok_ensureRouteCanBeDeleted routeId)
        rintro _ _ w₃ ⟨t₃, rfl, hr₃, hunref⟩
        exact ⟨t₃, rfl, hr₃, fun _ => hunref⟩
      · next hactive => exact ⟨t₂, rfl, .refl t₂, fun hx => absurd hx hactive⟩
    refine Ok.bind ?_ hguard
    rintro _ _ w₃ ⟨t₃, rfl, hr₃, hunref⟩
    have hr := hr₂.trans hr₃
    have hl : Lasting discipline (fun w => isActive = false → Unreferenced routeId t₃ w) :=
      ⟨fun w c t hi hp hc hv hf ha => (lasting_unreferenced routeId t₃).commit w c t hi hp hc hv
        (hf ha), fun w e hd hf ha => (lasting_unreferenced routeId t₃).drift w e hd (hf ha)⟩
    refine ok_setRoute (fun eventId route => .routeUpdated eventId route)
      hunref hl hr.writes ?_ (fun w' t' e hf he hw ha => ?_) fun _ _ => rfl
    · rw [hr.site]
      intro hx
      cases hx
    · exact .routeStatus e he (fun hx => (hf hx).mono ha) hw

theorem ok_addStationToRoute (routeId : Id) (dto : AddStationToRouteRequest) :
    OkOut i (.addStationToRoute routeId dto) (Returns ts) ts (addStationToRoute routeId dto) w := by
  refine Ok.transaction_any lawful fun h w₁ _ _ => ?_
  refine Ok.bind ?_ (ok_getRoute stable_true trivial _ _)
  rintro route _ w₂ ⟨-, t₂, rfl, hr₂, -⟩
  match route with
  | none => exact ok_raise _
  | some (route, routeStation) =>
    refine Ok.bind ?_ (ok_find stable_true trivial rfl)
    rintro station _ w₃ ⟨-, t₃, rfl, hr₃, -⟩
    split
    · exact ok_raise _
    refine Ok.bind ?_ (ok_find stable_true trivial rfl)
    rintro duplicateStation _ w₄ ⟨-, t₄, rfl, hr₄, -⟩
    split
    · exact ok_raise _
    refine Ok.bind ?_ (ok_find stable_true trivial rfl)
    rintro duplicateStop _ w₅ ⟨-, t₅, rfl, hr₅, -⟩
    split
    · exact ok_raise _
    refine Ok.bind ?_ (ok_aux stable_true trivial _)
    rintro id _ w₆ ⟨-, t₆, rfl, hr₆, -⟩
    have hr := (((hr₂.trans hr₃).trans hr₄).trans hr₅).trans hr₆
    generalize hrow : RouteStation.mk id routeId dto.stationId dto.stopNumber dto.arrivalMinutes
      dto.departureMinutes dto.distanceFromStart dto.platformNumber = row
    refine Ok.seq (ok_write stable_true trivial fun w₇ stop ws ks _ hrun => ?_)
    rw [view_nil hr.writes] at hrun
    simp only [run] at hrun
    split at hrun
    · cases hrun
    split at hrun
    · cases hrun
    split at hrun
    · cases hrun
    next hfree =>
    cases hrun
    have hnew : stopRow w₇.db row.id = none := by
      rw [stopRow_eq_none]
      intro s hs heq
      apply hfree
      rw [stopTaken, List.any_eq_true]
      exact ⟨s, hs, by simp [heq]⟩
    generalize ht₇ : t₆.record _ _ _ _ = t₇
    have hwrites₇ : t₇.writes = [.stop row] := by
      rw [← ht₇, Tx.record_writes, hr.writes]
      rfl
    have hlock : Key.stop row.id ∈ t₇.locks := by
      rw [← ht₇, Tx.record_locks]
      simp [Tx.rowKeys, Write.keys, Write.stopKeys]
    have hstable : ∀ t' : AdminTx, t'.locks = t₇.locks →
        Stable discipline i (t'.locks ++ ts.locks) (fun w => stopRow w.db row.id = none) :=
      fun t' hl => stable_stopRow row.id none (List.mem_append_left _ (hl ▸ hlock))
    refine Ok.bind ?_ (ok_aux (hstable t₇ rfl) hnew _)
    rintro eventId _ w₈ ⟨hnew₈, t₈, rfl, hr₈, -⟩
    refine ok_announce (hstable t₈ hr₈.locks) hnew₈ ?_ fun w' t' hf hw _ => ?_
    · rw [hr₈.site, ← ht₇]
      change t₆.site ≠ _
      rw [hr.site]
      intro hx
      cases hx
    · rw [hr₈.writes, hwrites₇] at hw
      exact .stationAdded row _ rfl hf hw

theorem ok_removeRouteStation (routeStationId : Id) :
    OkOut i (.removeRouteStation routeStationId) (Returns ts) ts
      (removeRouteStation routeStationId) w := by
  refine Ok.transaction_any lawful fun h w₁ _ _ => ?_
  refine Ok.bind ?_ (ok_find stable_true trivial rfl)
  rintro stop _ w₂ ⟨-, t₂, rfl, hr₂, hstop, -⟩
  match stop with
  | none => exact ok_raise _
  | some (stop, station) =>
    refine Ok.bind ?_ (ok_getRoute stable_true trivial _ _)
    rintro route _ w₃ ⟨-, t₃, rfl, hr₃, hroute⟩
    match route with
    | none => exact ok_raise _
    | some (route, routeStation) =>
      dsimp only
      split
      · exact ok_raise _
      next hlong =>
      obtain ⟨hroute, hstops⟩ := hroute route routeStation rfl
      have hr := hr₂.trans hr₃
      refine Ok.seq (ok_write stable_true trivial fun w₄ _ ws ks _ hrun => ?_)
      rw [view_nil hr.writes] at hrun
      simp only [run] at hrun
      split at hrun
      · cases hrun
      next row hrow =>
      cases hrun
      replace hrow : stopRow w₄.db routeStationId = some row := hrow
      generalize ht₄ : t₃.record _ _ _ _ = t₄
      have hwrites₄ : t₄.writes = [.deletedStop row] := by
        rw [← ht₄, Tx.record_writes, hr.writes]
        rfl
      have hkeep : ∀ q a, t₃.Answered q a → t₄.Answered q a := by
        intro q a ha
        rw [← ht₄]
        exact ha.record _ _ _ _
      refine Ok.bind ?_ (ok_aux stable_true trivial _)
      rintro eventId _ w₅ ⟨-, t₅, rfl, hr₅, -⟩
      have hread := fun q a ha => hr₅.answered q a (hkeep q a ha)
      refine ok_announce stable_true trivial ?_ fun w' t' _ hw ha => ?_
      · rw [hr₅.site, ← ht₄]
        change t₃.site ≠ _
        rw [hr.site]
        intro hx
        cases hx
      · rw [hr₅.writes, hwrites₄] at hw
        exact .stationRemoved (stop, station) route routeStation row _ rfl
          (ha _ _ (hread _ _ (hr₃.answered _ _ hstop))) (ha _ _ (hread _ _ hroute))
          (ha _ _ (hread _ _ hstops)) (Nat.lt_of_not_le hlong) (stopRow_id hrow) hw

end Routes

/-- Each request keeps the discipline, whatever the others do. -/
theorem sound : discipline.Sound := by
  intro i c w _ _
  have hpost : ∀ o w, discipline.post c o w := fun _ _ => trivial
  cases c with
  | createSchedule dto => exact Ok.passed hpost (ok_createSchedule dto) fun _ => ⟨_, rfl⟩
  | updateScheduleStatus id status =>
    exact Ok.passed hpost (ok_updateScheduleStatus id status) fun _ => ⟨_, rfl⟩
  | updateTrainOperatingDays trainId newDays =>
    exact Ok.passed hpost (ok_updateTrainOperatingDays trainId newDays) fun _ => ⟨_, rfl⟩
  | updateRouteStatus routeId isActive =>
    exact Ok.passed hpost (ok_updateRouteStatus routeId isActive) fun _ => ⟨_, rfl⟩
  | deleteRoute routeId => exact Ok.passed hpost (ok_deleteRoute routeId) fun _ => ⟨_, rfl⟩
  | addStationToRoute routeId dto =>
    exact Ok.passed hpost (ok_addStationToRoute routeId dto) fun _ => ⟨_, rfl⟩
  | removeRouteStation routeStationId =>
    exact Ok.passed hpost (ok_removeRouteStation routeStationId) fun _ => ⟨_, rfl⟩

end RailwayBooking.AdminService
