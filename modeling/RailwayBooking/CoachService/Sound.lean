import RailwayBooking.CoachService.Facts

namespace RailwayBooking.CoachService

open Concurrency

variable {i : Nat} {c : Call} {h : Nat} {t : CoachTx} {ts : Stack coachService} {w : CoachWorld}
  {α : Type} {F : CoachWorld → Prop}

abbrev OkIn (i : Nat) (c : Call) {α : Type} (Q : α → Stack coachService → CoachWorld → Prop)
    (h : Nat) (ts : Stack coachService) (p : CoachCode α) (t : CoachTx) (w : CoachWorld) : Prop :=
  Ok discipline i c Q (Inside discipline h ts) p ((h, t) :: ts) w

abbrev OkOut (i : Nat) (c : Call) {α : Type} (Q : α → Stack coachService → CoachWorld → Prop)
    (ts : Stack coachService) (p : CoachCode α) (w : CoachWorld) : Prop :=
  Ok discipline i c Q (Outside discipline ts) p ts w

abbrev Returns {α : Type} (ts : Stack coachService) (_ : α) (ts' : Stack coachService)
    (_ : CoachWorld) : Prop := ts' = ts

abbrev OnlyReads {α : Type} (h : Nat) (ts : Stack coachService) (t : CoachTx) (_ : α)
    (ts' : Stack coachService) (w : CoachWorld) : Prop :=
  Reading (M := machine) h ts t (fun _ _ => True) ts' w

section Statements

def Sql.reads : Sql → Bool
  | .getTrainById _ | .getCoachById _ | .getCoachByNumber _ _ | .countSeatsByCoachId _ => true
  | _ => false

theorem run_reads {q : Sql} {d : Db} {a : Rows q} {ws : List Write} {ks : List Key}
    (hq : q.reads = true) (hr : run q d = .ok (a, ws, ks)) : ws = [] ∧ ks = [] := by
  cases q with
  | getTrainById | getCoachById | getCoachByNumber | countSeatsByCoachId =>
    cases hr
    exact ⟨rfl, rfl⟩
  | createCoach | updateCoach | bulkCreate | deleteSeatsByCoachId | insertOutbox => cases hq

theorem ok_raise {Q : α → Stack coachService → CoachWorld → Prop} (e : Err) :
    OkIn i c Q h ts (raise e) t w :=
  ⟨trivial, t, rfl⟩

theorem ok_find {q : Sql} (hq : q.reads = true) (hl : Lasting discipline F) (hF : F w) :
    OkIn i c (fun a => Reading h ts t fun t' w => discipline.inv w ∧ F w ∧ t'.Answered q a ∧
      ∃ ws ks, run q (t.view w.db) = .ok (a, ws, ks)) h ts (sql h q) t w :=
  Ok.find lawful (fun _ _ _ _ => run_reads hq) (hl.stable _ i _) hF

theorem ok_statement {q : Sql} {Q : Rows q → Stack coachService → CoachWorld → Prop}
    (hs : Stable discipline i (t.locks ++ ts.locks) F) (hF : F w)
    (hq : ∀ w' a ws ks, discipline.inv w' → F w' → run q (t.view w'.db) = .ok (a, ws, ks) →
      Q a ((h, t.record q a ws ks) :: ts) w') :
    OkIn i c Q h ts (sql h q) t w :=
  Ok.sql lawful F hs hF fun w' hi _ hf _ a ws ks hr => hq w' a ws ks hi hf hr

theorem ok_uuids {count : Nat} (hs : Stable discipline i (t.locks ++ ts.locks) F) (hF : F w) :
    OkIn i c (fun ids ts' w => ids.length = count ∧ ts' = (h, t) :: ts ∧ F w) h ts (uuids count) t
      w := by
  refine Ok.aux F hs hF (fun _ _ => trivial) fun w' _ _ hf _ ch r e he => ?_
  cases he
  refine ⟨fun ids hids => ?_, fun _ hx => by cases hx⟩
  cases hids
  exact ⟨by simp [drawIds], rfl, hs.drift w' _ trivial hf⟩

theorem ok_randomUUID (hs : Stable discipline i (t.locks ++ ts.locks) F) (hF : F w) :
    OkIn i c (fun _ ts' w => ts' = (h, t) :: ts ∧ F w) h ts randomUUID t w := by
  refine Ok.bind ?_ (ok_uuids hs hF)
  rintro ids _ w' ⟨-, rfl, hf⟩
  exact ⟨rfl, hf⟩

theorem commits_intro {a : α} (hs : Stable discipline i (t.locks ++ ts.locks) F) (hF : F w)
    (hc : ∀ w', F w' → Commit c t w') :
    Commits discipline i c h ts (Returns ts) a ((h, t) :: ts) w :=
  ⟨t, rfl, F, hs, hF, fun w' _ _ hf ha => ⟨⟨hc w' hf, ha h t rfl rfl⟩, rfl⟩⟩

theorem ok_announce {event : OutboxEvent} {a : α}
    (hs : Stable discipline i (t.locks ++ ts.locks) F) (hF : F w)
    (hc : ∀ w', F w' → Commit c (t.record (.insertOutbox event) () [.outbox event] []) w') :
    OkIn i c (Commits discipline i c h ts (Returns ts)) h ts
      (sql h (.insertOutbox event) >>= fun _ => pure a) t w := by
  refine Ok.seq (ok_statement hs hF fun w₁ _ ws ks _ hf₁ hr => ?_)
  cases hr
  exact commits_intro (hs.record _ _ _ _) hf₁ hc

theorem ok_coachExists {Q : α → Stack coachService → CoachWorld → Prop} {ts' : Stack coachService}
    (e : Err) (h : ts' = ts) :
    Ok discipline i c Q (Outside discipline ts) (coachExists e) ts' w := by
  cases e with
  | uniqueViolation => exact ⟨trivial, h⟩
  | _ => exact ⟨trivial, h⟩

end Statements

section Coaches

theorem ok_ensureUniqueCoachNumber (trainId : Id) (coachNumber : String) :
    OkIn i c (OnlyReads h ts t) h ts
      (ensureUniqueCoachNumber h trainId coachNumber) t w := by
  refine Ok.bind ?_ (ok_find rfl lasting_true trivial)
  rintro existing _ w₁ ⟨t₁, rfl, hr₁, -⟩
  split
  · exact ok_raise _
  · exact ⟨t₁, rfl, hr₁, trivial⟩

theorem ok_coachCreatedEvent {coach : Coach}
    (hs : Stable discipline i (t.locks ++ ts.locks) F) (hF : F w) :
    OkIn i c (fun _ ts' w => ts' = (h, t) :: ts ∧ F w) h ts (coachCreatedEvent coach) t w := by
  refine Ok.bind ?_ (ok_randomUUID hs hF)
  rintro eventId _ w₁ ⟨rfl, hf₁⟩
  split
  · exact ok_raise _
  · exact ⟨rfl, hf₁⟩

theorem ok_addCoach (trainId : Id) (dto : CreateCoachRequest) :
    OkOut i (.addCoach trainId dto) (Returns ts) ts (addCoach trainId dto) w := by
  refine Ok.attempt (X := Outside discipline ts) ?_ fun e _ _ hx => ok_coachExists e hx.2
  refine Ok.transaction_any lawful fun h w₁ _ _ => ?_
  refine Ok.bind ?_ (ok_find rfl lasting_true trivial)
  rintro train _ w₂ ⟨t₂, rfl, hr₂, -⟩
  split
  · exact ok_raise _
  refine Ok.bind ?_ (ok_ensureUniqueCoachNumber trainId dto.coachNumber)
  rintro _ _ w₃ ⟨t₃, rfl, hr₃, -⟩
  refine Ok.bind ?_ (ok_randomUUID stable_true trivial)
  rintro id _ w₄ ⟨rfl, -⟩
  generalize hrow : Coach.mk id trainId dto.coachNumber dto.coachType dto.totalSeats true = row
  refine Ok.seq (ok_statement stable_true trivial fun w₅ coach ws ks _ _ hrun => ?_)
  rw [view_nil (hr₃.writes.trans hr₂.writes)] at hrun
  simp only [run] at hrun
  split at hrun
  · cases hrun
  split at hrun
  · cases hrun
  next hpos =>
  split at hrun
  · cases hrun
  next hfree =>
  cases hrun
  obtain ⟨hnew, hfree⟩ : rowOf w₅.db row.id = none ∧ numberTaken w₅.db row = false := by
    simpa [rowOf_eq_none] using hfree
  generalize ht₅ : t₃.record _ _ _ _ = t₅
  have hwrites₅ : t₅.writes = [.coach row] := by
    rw [← ht₅, Tx.record_writes, hr₃.writes, hr₂.writes]
    rfl
  have hlocks : ∀ k ∈ (Write.coach row).keys, k ∈ t₅.locks := by
    intro k hk
    rw [← ht₅, Tx.record_locks]
    exact List.mem_append_right _ (by simpa [Tx.rowKeys] using hk)
  have hs : Stable discipline i (t₅.locks ++ ts.locks)
      (fun w => rowOf w.db row.id = none ∧ numberTaken w.db row = false) :=
    (stable_rowOf row.id none
      (List.mem_append_left _ (hlocks _ List.mem_cons_self))).and discipline
      (stable_number row (List.mem_append_left _
        (hlocks _ (List.mem_cons_of_mem _ List.mem_cons_self))))
  refine Ok.bind ?_ (ok_coachCreatedEvent hs ⟨hnew, hfree⟩)
  rintro payload _ w₆ ⟨rfl, hf₆⟩
  refine ok_announce hs hf₆ fun w' hf => ?_
  refine .added trainId dto row payload rfl hf.1 hf.2 (Nat.pos_of_ne_zero hpos) ?_
  rw [Tx.record_writes, hwrites₅]
  rfl

theorem ok_ensureLayoutChangeable (coachId : Id) (coach : Coach) (dto : UpdateCoachRequest) :
    OkIn i c (OnlyReads h ts t) h ts
      (ensureLayoutChangeable h coachId coach dto) t w := by
  unfold ensureLayoutChangeable
  split
  · refine Ok.bind ?_ (ok_find rfl lasting_true trivial)
    rintro seatCount _ w₁ ⟨t₁, rfl, hr₁, -⟩
    dsimp only
    split
    · exact ok_raise _
    split
    · exact ok_raise _
    · exact ⟨t₁, rfl, hr₁, trivial⟩
  · exact ⟨t, rfl, .refl t, trivial⟩

theorem ok_ensureNumberChangeable (coach : Coach) (coachNumber : Option String) :
    OkIn i c (OnlyReads h ts t) h ts
      (ensureNumberChangeable h coach coachNumber) t w := by
  unfold ensureNumberChangeable
  split
  · exact ⟨t, rfl, .refl t, trivial⟩
  · split
    · exact ok_ensureUniqueCoachNumber _ _
    · exact ⟨t, rfl, .refl t, trivial⟩

theorem ok_set {coachId : Id} {data : CoachUpdate} (hc : c.sets = some (coachId, data))
    (hwrites : t.writes = []) :
    OkIn i c (Commits discipline i c h ts (Returns ts)) h ts (sql h (.updateCoach coachId data)) t
      w := by
  refine ok_statement stable_true trivial fun w₁ coach ws ks _ _ hrun => ?_
  rw [view_nil hwrites] at hrun
  simp only [run] at hrun
  split at hrun
  · cases hrun
  next row hrow =>
  obtain rfl := rowOf_id hrow
  split at hrun
  · cases hrun
  split at hrun
  · cases hrun
  next hpos =>
  split at hrun
  · cases hrun
  next hfree =>
  cases hrun
  have hlocks : ∀ k ∈ (Write.updated row data).keys,
      k ∈ (t.record (.updateCoach row.id data) (data.set row) [.updated row data] []).locks := by
    intro k hk
    rw [Tx.record_locks]
    exact List.mem_append_right _ (by simpa [Tx.rowKeys] using hk)
  refine commits_intro (F := fun w => rowOf w.db row.id = some row ∧
    numberTaken w.db (data.set row) = false) ?_ ⟨hrow, Bool.eq_false_iff.mpr hfree⟩ fun w' hf => ?_
  · refine (stable_rowOf row.id (some row) ?_).and discipline (stable_number (data.set row) ?_)
    · exact List.mem_append_left _ (hlocks _ List.mem_cons_self)
    · exact List.mem_append_left _ (hlocks _ (by simp [Write.keys]))
  · refine .updated data row hc hf.1 hf.2 (Nat.pos_of_ne_zero hpos) ?_
    rw [Tx.record_writes, hwrites, List.nil_append]

theorem ok_updateCoach (coachId : Id) (dto : UpdateCoachRequest) :
    OkOut i (.updateCoach coachId dto) (Returns ts) ts (updateCoach coachId dto) w := by
  refine Ok.attempt (X := Outside discipline ts) ?_ fun e _ _ hx => ok_coachExists e hx.2
  refine Ok.transaction_any lawful fun h w₁ _ _ => ?_
  refine Ok.bind ?_ (ok_find rfl lasting_true trivial)
  rintro coach _ w₂ ⟨t₂, rfl, hr₂, -⟩
  cases coach with
  | none => exact ok_raise _
  | some coach =>
    refine Ok.bind ?_ (ok_ensureLayoutChangeable coachId coach dto)
    rintro _ _ w₃ ⟨t₃, rfl, hr₃, -⟩
    refine Ok.bind ?_ (ok_ensureNumberChangeable coach dto.coachNumber)
    rintro _ _ w₄ ⟨t₄, rfl, hr₄, -⟩
    exact ok_set rfl ((hr₂.trans hr₃).trans hr₄).writes

theorem ok_deleteCoach (coachId : Id) :
    OkOut i (.deleteCoach coachId) (Returns ts) ts (deleteCoach coachId) w := by
  refine Ok.transaction_any lawful fun h w₁ _ _ => ?_
  refine Ok.bind ?_ (ok_find rfl lasting_true trivial)
  rintro coach _ w₂ ⟨t₂, rfl, hr₂, -⟩
  cases coach with
  | none => exact ok_raise _
  | some coach =>
    refine Ok.bind ?_ (ok_find rfl lasting_true trivial)
    rintro seatCount _ w₃ ⟨t₃, rfl, hr₃, -⟩
    split
    · exact ok_raise _
    · exact ok_set rfl (hr₂.trans hr₃).writes

end Coaches

section Seats

theorem ok_seatTemplateCreatedEvent {coach : Coach}
    (hs : Stable discipline i (t.locks ++ ts.locks) F) (hF : F w) :
    OkIn i c (fun _ ts' w => ts' = (h, t) :: ts ∧ F w) h ts (seatTemplateCreatedEvent coach) t
      w := by
  refine Ok.bind ?_ (ok_randomUUID hs hF)
  rintro eventId _ w₁ ⟨rfl, hf₁⟩
  split
  · exact ok_raise _
  · exact ⟨rfl, hf₁⟩

theorem bare_of_nodup {d : Db} {coachId : Id} {rows : List Seat} (hk : d.Keys)
    (hc : d.Consistent) (hnodup : ((d.seats ++ rows).map Write.seatKey).Nodup)
    (hone : Key.seat coachId 1 ∈ rows.map Write.seatKey) : d.seatsOf coachId = [] := by
  by_contra hne
  obtain ⟨s, hs, hnumber⟩ := exists_one hk hc hne
  obtain ⟨hmem, hid⟩ := mem_seatsOf.mp hs
  rw [List.map_append, List.nodup_append'] at hnodup
  refine hnodup.2.2 ?_ hone
  rw [← hid, ← hnumber]
  exact List.mem_map_of_mem hmem

theorem ok_bulkCreateSeats (coachId : Id) :
    OkOut i (.bulkCreateSeats coachId) (Returns ts) ts (bulkCreateSeats coachId) w := by
  refine Ok.transaction_any lawful fun h w₁ _ _ => ?_
  refine Ok.seq (ok_statement stable_true trivial fun w₂ coach ws ks hi₂ _ hrun => ?_)
  rw [view_nil rfl] at hrun
  cases coach with
  | none => exact ok_raise _
  | some coach =>
    obtain ⟨rfl, rfl⟩ := run_reads rfl hrun
    have hfind := congrArg Prod.fst (Except.ok.inj hrun)
    have hmem : coach ∈ w₂.db.coaches := List.mem_of_find?_eq_some hfind
    have hpos := hi₂.1.positive coach hmem
    have hstands₂ : rowOf w₂.db coachId ≠ none := by
      have htest := List.find?_some hfind
      rw [Bool.and_eq_true, decide_eq_true_eq] at htest
      exact fun hnone => rowOf_eq_none.mp hnone coach hmem htest.1
    have hl := fun ks => (lasting_stands coachId).stable discipline i ks
    refine Ok.seq (ok_statement (hl _) hstands₂ fun w₃ count ws ks _ hstands₃ hrun => ?_)
    obtain ⟨rfl, rfl⟩ := run_reads rfl hrun
    split
    · exact ok_raise _
    refine Ok.bind ?_ (ok_uuids (hl _) hstands₃)
    rintro ids _ w₄ ⟨hcount, rfl, hstands₄⟩
    generalize hrows : seatsToCreate coach coachId ids = rows
    have hone : Key.seat coachId 1 ∈ rows.map Write.seatKey := by
      rw [← hrows]
      have hlaid : LaidOut coach (seatsToCreate coach coachId ids) := laidOut_seatsToCreate hcount
      obtain ⟨s, hs, hnumber⟩ := hlaid.exists_one hpos
      refine List.mem_map.mpr ⟨s, hs, ?_⟩
      rw [Write.seatKey, hnumber, coachId_of_mem_seatsToCreate hs]
    refine Ok.seq (ok_statement (hl _) hstands₄ fun w₅ _ ws ks hi₅ hstands₅ hrun => ?_)
    rw [view_nil rfl] at hrun
    simp only [run] at hrun
    split at hrun
    · cases hrun
    split at hrun
    · cases hrun
    next hnodup =>
    cases hrun
    have hbare₅ := bare_of_nodup hi₅.1 hi₅.2 (not_not.mp (not_or.mp hnodup).2) hone
    generalize ht₅ : Tx.record _ _ _ _ _ = t₅
    have hlock : Key.seat coachId 1 ∈ t₅.locks := by
      rw [← ht₅, Tx.record_locks]
      exact List.mem_append_right _ (by simpa [Tx.rowKeys, Write.keys] using hone)
    have hs : Stable discipline i (t₅.locks ++ ts.locks)
        (fun w => rowOf w.db coachId ≠ none ∧ w.db.seatsOf coachId = []) :=
      (hl _).and discipline (stable_seatsOf coachId [] (List.mem_append_left _ hlock))
    refine Ok.bind ?_ (ok_seatTemplateCreatedEvent hs ⟨hstands₅, hbare₅⟩)
    rintro payload _ w₆ ⟨rfl, hf₆⟩
    refine ok_announce hs hf₆ fun w' hf => ?_
    refine .generated coachId coach ids payload rfl ?_ hf.1 hf.2 hcount hpos ?_
    · rw [← ht₅]
      simp [Tx.record, Tx.start, read]
    · rw [Tx.record_writes, ← ht₅, hrows]
      rfl

theorem ok_resetSeats (coachId : Id) :
    OkOut i (.resetSeats coachId) (Returns ts) ts (resetSeats coachId) w := by
  refine Ok.transaction_any lawful fun h w₁ _ _ => ?_
  refine Ok.bind ?_ (ok_find rfl lasting_true trivial)
  rintro coach _ w₂ ⟨t₂, rfl, hr₂, -⟩
  split
  · exact ok_raise _
  refine Ok.bind ?_ (ok_find rfl lasting_true trivial)
  rintro count _ w₃ ⟨t₃, rfl, hr₃, -⟩
  have hr := hr₂.trans hr₃
  split
  · exact commits_intro stable_true trivial fun _ _ => .kept coachId rfl hr.writes
  refine Ok.seq (ok_statement stable_true trivial fun w₄ _ ws ks hi₄ _ hrun => ?_)
  rw [view_nil hr.writes] at hrun
  cases hrun
  generalize hrows : w₄.db.seatsOf coachId = rows
  refine commits_intro (stable_deleted coachId rows fun hne => List.mem_append_left _ ?_)
    (.inr hrows) fun w' hall => .reset coachId rows rfl hall ?_
  · -- the seats that are deleted are locked, and that of number 1 is one of them
    obtain ⟨s, hs, hnumber⟩ := exists_one hi₄.1 hi₄.2 (hrows ▸ hne)
    have hid := (mem_seatsOf.mp hs).2
    have hkey : Key.seat coachId 1 ∈ rows.map Write.seatKey :=
      List.mem_map.mpr ⟨s, hrows ▸ hs, by rw [Write.seatKey, hid, hnumber]⟩
    rw [Tx.record_locks]
    exact List.mem_append_right _ (by simpa [Tx.rowKeys, Write.keys] using hkey)
  · rw [Tx.record_writes, hr.writes]
    rfl

end Seats

/-- Each request keeps the discipline, whatever the others do. -/
theorem sound : discipline.Sound := by
  intro i c w _ _
  have hpost : ∀ o w, discipline.post c o w := fun _ _ => trivial
  cases c with
  | addCoach trainId dto => exact Ok.passed hpost (ok_addCoach trainId dto) fun _ => ⟨_, rfl⟩
  | updateCoach coachId dto => exact Ok.passed hpost (ok_updateCoach coachId dto) fun _ => ⟨_, rfl⟩
  | deleteCoach coachId => exact Ok.passed hpost (ok_deleteCoach coachId) fun _ => ⟨_, rfl⟩
  | bulkCreateSeats coachId => exact Ok.passed hpost (ok_bulkCreateSeats coachId) fun _ => ⟨_, rfl⟩
  | resetSeats coachId => exact Ok.passed hpost (ok_resetSeats coachId) fun _ => ⟨_, rfl⟩

end RailwayBooking.CoachService
