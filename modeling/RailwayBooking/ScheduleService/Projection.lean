import RailwayBooking.ScheduleService.Facts

namespace RailwayBooking.ScheduleService

open Concurrency InventoryService

/-- The row of a schedule. -/
def rowOf (d : Db) (k : Id) : Option ScheduleInventory :=
  (d.tables.schedules k).map (fun status => ⟨status, d.versions k⟩)

section Rows

variable {d : Db} {k : Id}

theorem rowOf_isSome : (rowOf d k).isSome = (d.tables.schedules k).isSome :=
  Option.isSome_map

theorem apply_schedules (x : InventoryService.Write) (d : InventoryService.Db) :
    (x.apply d).schedules = d.schedules := by
  cases x <;> rfl

theorem rowOf_other {ws : List Write} (h : ∀ x ∈ ws, Key.schedule k ∉ x.keys) :
    rowOf (applyAll d ws) k = rowOf d k := by
  induction ws generalizing d with
  | nil => rfl
  | cons x ws ih =>
    rw [applyAll_cons, ih (fun y hy => h y (List.mem_cons_of_mem _ hy))]
    have hx := h x List.mem_cons_self
    cases x with
    | inventory y =>
      change ((y.apply d.tables).schedules k).map _ = _
      rw [apply_schedules]
      rfl
    | schedule j row =>
      have hne : k ≠ j := fun he => hx (by simp [Write.keys, he])
      change ((Function.update d.tables.schedules j _) k).map
        (fun status => ScheduleInventory.mk status (Function.update d.versions j _ k)) = _
      rw [Function.update_of_ne hne, Function.update_of_ne hne]
      rfl
    | deleted j ids =>
      have hne : k ≠ j := fun he => hx (by simp [Write.keys, he])
      change ((Function.update d.tables.schedules j none) k).map _ = _
      rw [Function.update_of_ne hne]
      rfl
    | stops | seats | outbox => rfl

theorem rowOf_put {ws : List Write} {row : ScheduleInventory}
    (h : ∀ x ∈ ws, Key.schedule k ∉ x.keys) :
    rowOf (applyAll d (.schedule k row :: ws)) k = some row := by
  rw [applyAll_cons, rowOf_other h]
  change ((Function.update d.tables.schedules k _) k).map
    (fun status => ScheduleInventory.mk status (Function.update d.versions k _ k)) = _
  rw [Function.update_self, Function.update_self]
  rfl

theorem stable_row {D : Discipline machine} {i : Nat} {ks : List Key}
    (P : Option ScheduleInventory → Prop) (hk : .schedule k ∈ ks) :
    Stable D i ks (fun w => P (rowOf w.db k)) where
  commit w c t _ _ _ hv _ hd h := by
    change P (rowOf (t.view w.db) k)
    rw [view_eq, rowOf_other (hv.untouched hd hk)]
    exact h
  drift _ _ _ h := h

end Rows

/-- A transaction of `processCreated`: the row that it deletes if it finds one, and those that
it puts. -/
structure Projection where
  created : ScheduleCreated
  deleted : Option (List Id)
  ids : List Id
  eventId : Id
  count : ids.length = (coachSeats created).length

namespace Projection

variable (x : Projection)

def writes : List Write :=
  (x.deleted.map (Write.deleted x.created.scheduleId)).toList ++
    [.schedule x.created.scheduleId ⟨foldStatus x.created.status, x.created.version⟩,
      .stops (routeStopsData x.created), .seats (seatInventoriesData x.created x.ids),
      .outbox (.projected x.eventId x.created.scheduleId x.created.version)]

variable {x} {d : Db} {k : Id}

theorem rowOf_writes : rowOf (applyAll d x.writes) x.created.scheduleId =
    some ⟨foldStatus x.created.status, x.created.version⟩ := by
  rw [writes, applyAll, List.foldl_append]
  apply rowOf_put
  simp [Write.keys]

theorem rowOf_writes_other (hk : k ≠ x.created.scheduleId) :
    rowOf (applyAll d x.writes) k = rowOf d k := by
  apply rowOf_other
  intro y hy hkey
  obtain hy | hy := List.mem_append.mp hy
  · obtain ⟨ids, _, rfl⟩ := Option.map_eq_some_iff.mp (Option.mem_toList.mp hy)
    exact hk (Key.schedule.inj (by simpa [Write.keys] using hkey))
  · simp only [List.mem_cons, List.not_mem_nil, or_false] at hy
    obtain rfl | rfl | rfl | rfl := hy <;> simp [Write.keys, hk] at hkey

end Projection

/-- Where nothing is written a transaction may commit, and `R` stays. -/
structure Idles (D : Discipline machine) (c : Call) (R : ScheduleWorld → Prop) : Prop where
  lawful : D.Lawful
  asks : ∀ n w, D.asks c (.uuids n) w
  lasting : Lasting D R
  idle : ∀ t w, D.inv w → R w → t.writes = [] → D.commits c t w ∧ R (w.commit c t)

variable {D : Discipline machine} {i : Nat} {c : Call} {h : Nat} {t : ScheduleTx}
  {ts : Stack scheduleService} {w : ScheduleWorld} {R : ScheduleWorld → Prop}

section Statements

variable {F : ScheduleWorld → Prop}

theorem ok_statement (hl : D.Lawful) {q : Sql}
    {Q : Rows q → Stack scheduleService → ScheduleWorld → Prop}
    (hs : Stable D i (t.locks ++ ts.locks) F) (hF : F w)
    (hq : ∀ w' a ws ks, D.inv w' → F w' → D.allow c (some t) w' (.sql (some h) q) →
      run q (t.view w'.db) = .ok (a, ws, ks) → Q a ((h, t.record q a ws ks) :: ts) w') :
    Ok D i c Q (Inside D h ts) (Code.sql (V := scheduleService) (some h) q) ((h, t) :: ts) w :=
  Ok.sql hl F hs hF fun w' hi _ hf ha a ws ks hr => hq w' a ws ks hi hf ha hr

theorem ok_uuids (h : Idles D c R) (ts : Stack scheduleService) {n : Nat}
    {G : List Id → ScheduleWorld → Prop} {X : Err → Stack scheduleService → ScheduleWorld → Prop}
    (hs : Stable D i ts.locks F) (hF : F w)
    (hdraw : ∀ w, D.inv w → F w → D.drift w { w.env with drawn := w.env.drawn + n } →
      G (drawIds i w.env.drawn n) (w.setEnv { w.env with drawn := w.env.drawn + n })) :
    Ok D i c (fun ids ts' w => ids.length = n ∧ ts' = ts ∧ G ids w) X (uuids n) ts w := by
  refine Ok.aux F hs hF (fun w _ => h.asks n w) fun w' hi _ hf _ ch r e he => ?_
  have hdrift := h.lawful.ask w' i c (.uuids n) ch r e (h.asks n w') he
  cases he
  refine ⟨fun ids hids => ?_, fun _ hx => by cases hx⟩
  cases hids
  exact ⟨by simp [drawIds], rfl, hdraw w' hi hf hdrift⟩

theorem commits_idle (h : Idles D c R) {k : Nat} (hR : R w) (hwrites : t.writes = []) :
    Commits D i c k ts (fun _ ts' w => ts' = ts ∧ R w) () ((k, t) :: ts) w :=
  ⟨t, rfl, R, h.lasting.stable D i _, hR, fun w' hi _ hr _ =>
    ⟨(h.idle t w' hi hr hwrites).1, rfl, (h.idle t w' hi hr hwrites).2⟩⟩

end Statements

section Created

variable {parsed : ScheduleCreated} {F : Option (List Id) → ScheduleWorld → Prop}
  {G : Option (List Id) → List Id → ScheduleWorld → Prop} {deleted : Option (List Id)}

/-- What is known of the schedule of an event while it is projected: `F` once its row is put, and
thereby locked, and `G` once the ids of the seats are drawn. -/
structure Projects (D : Discipline machine) (i : Nat) (c : Call) (parsed : ScheduleCreated)
    (F : Option (List Id) → ScheduleWorld → Prop)
    (G : Option (List Id) → List Id → ScheduleWorld → Prop) (R : ScheduleWorld → Prop) : Prop
    extends Idles D c R where
  argument : D.raises (.error "Argument seatType is missing.")
  known : ∀ deleted ks, .schedule parsed.scheduleId ∈ ks → Stable D i ks (F deleted)
  seated : ∀ deleted ids ks, .schedule parsed.scheduleId ∈ ks → Stable D i ks (G deleted ids)
  current : ∀ w row, D.inv w → rowOf w.db parsed.scheduleId = some row →
    parsed.version ≤ row.version → R w
  absent : ∀ w, D.inv w → rowOf w.db parsed.scheduleId = none → F none w
  older : ∀ w row, D.inv w → rowOf w.db parsed.scheduleId = some row →
    row.version < parsed.version → ∀ h t w', D.inv w' →
      D.allow c (some t) w' (.sql (some h) (.deleteByScheduleId parsed.scheduleId)) →
      F (some ((w'.db.tables.seats.filter (fun s => s.scheduleId = parsed.scheduleId)).map
        SeatInventory.id)) w'
  drawn : ∀ deleted w, D.inv w → F deleted w →
    D.drift w { w.env with drawn := w.env.drawn + (coachSeats parsed).length } →
      G deleted (drawIds i w.env.drawn (coachSeats parsed).length)
        (w.setEnv { w.env with drawn := w.env.drawn + (coachSeats parsed).length })
  commits : ∀ deleted ids eventId count h t w, D.inv w → D.pre c w → G deleted ids w →
    D.allow c (some t) w (.commit h) → t.owner = i →
      t.writes = Projection.writes ⟨parsed, deleted, ids, eventId, count⟩ →
        ((seatInventoriesData parsed ids).map seatKey).Nodup →
          D.commits c t w ∧ R (w.commit c t)

theorem ok_create (h : Projects D i c parsed F G R) {k : Nat}
    (hdel : t.writes = (deleted.map (Write.deleted parsed.scheduleId)).toList)
    (hF : deleted ≠ none → .schedule parsed.scheduleId ∈ t.locks ∧ F deleted w) :
    Ok D i c (fun _ ts' w => ∃ t', ts' = (k, t') :: ts ∧ t'.owner = t.owner ∧
        t'.writes = t.writes ++
          [.schedule parsed.scheduleId ⟨foldStatus parsed.status, parsed.version⟩] ∧
        .schedule parsed.scheduleId ∈ t'.locks ∧ F deleted w) (Inside D k ts)
      (create (some k) parsed.scheduleId ⟨foldStatus parsed.status, parsed.version⟩)
      ((k, t) :: ts) w := by
  have hs : Stable D i (t.locks ++ ts.locks) (fun w => deleted ≠ none → F deleted w) := by
    constructor
    · intro w c t hi hp hc hv ho hd hf hne
      have hknown := h.known deleted _ (List.mem_append_left ts.locks (hF hne).1)
      exact hknown.commit w c t hi hp hc hv ho hd (hf hne)
    · intro w e hd hf hne
      exact (h.known deleted _ (List.mem_append_left ts.locks (hF hne).1)).drift w e hd (hf hne)
  refine ok_statement h.lawful hs (fun hne => (hF hne).2) fun w₁ _ ws ks hi hF₁ _ hr => ?_
  simp only [run] at hr
  split at hr
  · cases hr
  split at hr
  · cases hr
  next hnone =>
  cases hr
  refine ⟨_, rfl, rfl, by rw [Tx.record_writes], by simp [Tx.rowKeys, Write.keys], ?_⟩
  cases deleted with
  | some ids => exact hF₁ (Option.some_ne_none _)
  | none =>
    refine h.absent w₁ hi ?_
    rw [view_eq, hdel] at hnone
    simpa [applyAll, ← rowOf_isSome] using hnone

theorem ok_createSeatInventories (h : Projects D i c parsed F G R) {k : Nat}
    (hlock : .schedule parsed.scheduleId ∈ t.locks) (hF : F deleted w) :
    Ok D i c (fun _ ts' w => ∃ t' ids, ts' = (k, t') :: ts ∧ t'.owner = t.owner ∧
        ids.length = (coachSeats parsed).length ∧
        t'.writes = t.writes ++ [.seats (seatInventoriesData parsed ids)] ∧
        .schedule parsed.scheduleId ∈ t'.locks ∧
        ((seatInventoriesData parsed ids).map seatKey).Nodup ∧ G deleted ids w) (Inside D k ts)
      (createSeatInventories k parsed) ((k, t) :: ts) w := by
  unfold createSeatInventories
  split
  · exact ⟨h.argument, t, rfl⟩
  have hdrawn := ok_uuids h.toIdles ((k, t) :: ts) (X := Inside D k ts)
    (h.known deleted _ (List.mem_append_left _ hlock)) hF (h.drawn deleted)
  refine Ok.bind ?_ hdrawn
  rintro ids _ w₁ ⟨hcount, rfl, hG⟩
  refine ok_statement h.lawful (h.seated deleted ids _ (List.mem_append_left _ hlock)) hG
    fun w₂ _ ws ks _ hG₂ _ hr => ?_
  simp only [run] at hr
  split at hr
  · cases hr
  split at hr
  · cases hr
  next hkeys =>
  cases hr
  rw [not_not, List.map_append, List.nodup_append'] at hkeys
  exact ⟨_, ids, rfl, rfl, hcount, rfl, List.mem_append_left _ hlock, hkeys.2.1, hG₂⟩

theorem ok_createProjection (h : Projects D i c parsed F G R) (deleted : Option (List Id))
    {k : Nat} (howner : t.owner = i)
    (hdel : t.writes = (deleted.map (Write.deleted parsed.scheduleId)).toList)
    (hF : deleted ≠ none → .schedule parsed.scheduleId ∈ t.locks ∧ F deleted w) :
    Ok D i c (Commits D i c k ts (fun _ ts' w => ts' = ts ∧ R w)) (Inside D k ts)
      (createProjection k parsed) ((k, t) :: ts) w := by
  refine Ok.bind ?_ (ok_create h hdel hF)
  rintro _ _ w₁ ⟨t₁, rfl, howner₁, hwrites₁, hlock₁, hF₁⟩
  refine Ok.seq (ok_statement h.lawful (h.known deleted _ (List.mem_append_left _ hlock₁)) hF₁
    fun w₂ _ ws ks _ hF₂ _ hr => ?_)
  simp only [run] at hr
  split at hr
  · cases hr
  split at hr
  · cases hr
  cases hr
  refine Ok.bind ?_ (ok_createSeatInventories h (List.mem_append_left _ hlock₁) hF₂)
  rintro _ _ w₃ ⟨t₃, ids, rfl, howner₃, hcount, hwrites₃, hlock₃, hkeys, hG₃⟩
  have hs := fun ks hk => h.seated deleted ids ks hk
  refine Ok.bind ?_ (ok_uuids h.toIdles ((k, t₃) :: ts) (X := Inside D k ts)
    (G := fun _ => G deleted ids) (hs _ (List.mem_append_left _ hlock₃)) hG₃ fun w _ hG hdrift =>
      (hs _ hlock₃).drift w _ hdrift hG)
  rintro eventIds _ w₄ ⟨-, rfl, hG₄⟩
  refine ok_statement h.lawful (hs _ (List.mem_append_left _ hlock₃)) hG₄
    fun w₅ _ ws ks _ hG₅ _ hr => ?_
  cases hr
  refine ⟨_, rfl, _, hs _ (List.mem_append_left _ (List.mem_append_left _ hlock₃)), hG₅,
    fun w₆ hi hp hG₆ ha => ?_⟩
  obtain ⟨hc, hR⟩ := h.commits deleted ids (eventIds.headD 0) hcount _ _ w₆ hi hp hG₆ ha
    (howner₃.trans (howner₁.trans howner))
    (by simp [hwrites₃, hwrites₁, hdel, Projection.writes]) hkeys
  exact ⟨hc, rfl, hR⟩

theorem ok_processCreated (h : Projects D i c parsed F G R) :
    Ok D i c (fun _ ts' w => ts' = ts ∧ R w) (Outside D ts) (processCreated parsed) ts w := by
  refine Ok.transaction_any h.lawful fun k w _ _ => ?_
  refine Ok.seq (ok_statement h.lawful stable_true trivial fun w₁ row ws ks hi _ _ hr => ?_)
  simp only [run, Except.ok.injEq, Prod.mk.injEq] at hr
  obtain ⟨hfound, rfl, rfl⟩ := hr
  replace hfound : rowOf w₁.db parsed.scheduleId = row := hfound
  cases row with
  | none =>
    exact ok_createProjection h none rfl (by simp [Tx.start]) fun hne => absurd rfl hne
  | some row =>
    dsimp only
    split
    · next hle => exact commits_idle h.toIdles (h.current w₁ row hi hfound hle) (by simp [Tx.start])
    · next hlt =>
      refine Ok.seq (ok_statement h.lawful stable_true trivial fun w₂ _ ws ks hi₂ _ ha hr => ?_)
      simp only [run] at hr
      split at hr
      · cases hr
        refine ok_createProjection h (some _) rfl rfl fun _ => ⟨?_, ?_⟩
        · simp [Tx.rowKeys, Write.keys]
        · exact h.older w₁ row hi hfound (Nat.lt_of_not_le hlt) _ _ w₂ hi₂ ha
      · cases hr

end Created

section StatusChanged

variable {changed : ScheduleStatusChanged} {E F : ScheduleWorld → Prop}

/-- What is known of the schedule of an event while its status is set: `E` once its row is found,
and `F` once the update has found a lower version, and locked it. -/
structure Changes (D : Discipline machine) (i : Nat) (c : Call) (changed : ScheduleStatusChanged)
    (E F R : ScheduleWorld → Prop) : Prop extends Idles D c R where
  missing : ∀ h t w, D.inv w →
    D.allow c (some t) w (.sql (some h) (.findByScheduleId changed.scheduleId)) →
      rowOf w.db changed.scheduleId = none → D.raises scheduleInventoryNotFound
  found : ∀ w row, D.inv w → rowOf w.db changed.scheduleId = some row → E w
  persists : Lasting D E
  current : ∀ w, D.inv w → E w →
    (∀ row, rowOf w.db changed.scheduleId = some row → changed.version ≤ row.version) → R w
  lower : ∀ w row, D.inv w → E w → rowOf w.db changed.scheduleId = some row →
    row.version < changed.version → F w
  known : ∀ ks, .schedule changed.scheduleId ∈ ks → Stable D i ks F
  commits : ∀ eventId h t w, D.inv w → D.pre c w → F w → D.allow c (some t) w (.commit h) →
    t.writes = [.schedule changed.scheduleId ⟨foldStatus changed.status, changed.version⟩,
      .outbox (.statusChanged eventId changed.scheduleId (foldStatus changed.status)
        changed.version)] → D.commits c t w ∧ R (w.commit c t)

theorem ok_processStatusChanged (h : Changes D i c changed E F R) :
    Ok D i c (fun _ ts' w => ts' = ts ∧ R w) (Outside D ts) (processStatusChanged changed) ts w := by
  refine Ok.transaction_any h.lawful fun k w _ _ => ?_
  refine Ok.seq (ok_statement h.lawful stable_true trivial fun w₁ row ws ks hi _ ha hr => ?_)
  simp only [run, Except.ok.injEq, Prod.mk.injEq] at hr
  obtain ⟨hfound, rfl, rfl⟩ := hr
  replace hfound : rowOf w₁.db changed.scheduleId = row := hfound
  cases row with
  | none => exact ⟨h.missing _ _ w₁ hi ha hfound, _, rfl⟩
  | some row =>
    rw [if_neg (by simp)]
    refine Ok.seq (ok_statement h.lawful (h.persists.stable D i _) (h.found w₁ row hi hfound)
      fun w₂ updated ws ks hi₂ hE _ hr => ?_)
    simp only [run] at hr
    split at hr
    · cases hr
    split at hr
    · next hlow =>
      cases hr
      rw [if_neg (by simp)]
      -- the update has compared the versions under the lock of the row
      obtain ⟨hstands, hlt⟩ := Bool.and_eq_true_iff.mp hlow
      obtain ⟨status, hstatus⟩ := Option.isSome_iff_exists.mp hstands
      have hrow : rowOf w₂.db changed.scheduleId =
          some ⟨status, w₂.db.versions changed.scheduleId⟩ := by
        rw [rowOf]
        exact congrArg (Option.map _) hstatus
      have hF := h.lower w₂ _ hi₂ hE hrow (of_decide_eq_true hlt)
      generalize ht₂ : Tx.record _ _ _ _ _ = t₂
      have hwrites₂ : t₂.writes =
          [.schedule changed.scheduleId ⟨foldStatus changed.status, changed.version⟩] := by
        rw [← ht₂]
        simp [Tx.start]
      have hlock₂ : Key.schedule changed.scheduleId ∈ t₂.locks := by
        rw [← ht₂]
        simp [Tx.rowKeys, Write.keys]
      have hs := fun ks hk => h.known ks hk
      refine Ok.bind ?_ (ok_uuids h.toIdles ((k, t₂) :: ts) (X := Inside D k ts) (G := fun _ => F)
        (hs _ (List.mem_append_left _ hlock₂)) hF fun w _ hF hdrift =>
          (hs _ hlock₂).drift w _ hdrift hF)
      rintro eventIds _ w₃ ⟨-, rfl, hF₃⟩
      refine ok_statement h.lawful (hs _ (List.mem_append_left _ hlock₂)) hF₃
        fun w₄ _ ws ks _ hF₄ _ hr => ?_
      cases hr
      refine ⟨_, rfl, F, hs _ (List.mem_append_left _ (List.mem_append_left _ hlock₂)), hF₄,
        fun w₅ hi₅ hp hF₅ ha => ?_⟩
      obtain ⟨hc, hR⟩ := h.commits (eventIds.headD 0) _ _ w₅ hi₅ hp hF₅ ha (by simp [hwrites₂])
      exact ⟨hc, rfl, hR⟩
    · next hhigh =>
      cases hr
      refine commits_idle h.toIdles (h.current w₂ hi₂ hE fun row hrow => ?_) (by simp [Tx.start])
      obtain ⟨status, hstatus, rfl⟩ := Option.map_eq_some_iff.mp hrow
      change ¬ ((w₂.db.tables.schedules changed.scheduleId).isSome &&
        decide (w₂.db.versions changed.scheduleId < changed.version)) = true at hhigh
      rw [hstatus] at hhigh
      simpa using hhigh

end StatusChanged

end RailwayBooking.ScheduleService
