import RailwayBooking.Concurrency.Schedule
import RailwayBooking.Catalogue.Facts

namespace RailwayBooking.Catalogue

open Concurrency

variable {K : Kind} {i : Nat} {c : Call K} {h : Nat} {t : CatalogueTx K}
  {ts : Stack (service K)} {w : CatalogueWorld K} {α : Type} {F : CatalogueWorld K → Prop}

abbrev OkIn (i : Nat) (c : Call K) {α : Type}
    (Q : α → Stack (service K) → CatalogueWorld K → Prop) (h : Nat) (ts : Stack (service K))
    (p : CatalogueCode K α) (t : CatalogueTx K) (w : CatalogueWorld K) : Prop :=
  Ok (discipline K) i c Q (Inside (discipline K) h ts) p ((h, t) :: ts) w

abbrev OkOut (i : Nat) (c : Call K) {α : Type}
    (Q : α → Stack (service K) → CatalogueWorld K → Prop) (ts : Stack (service K))
    (p : CatalogueCode K α) (w : CatalogueWorld K) : Prop :=
  Ok (discipline K) i c Q (Outside (discipline K) ts) p ts w

abbrev Returns {α : Type} (ts : Stack (service K)) (_ : α) (ts' : Stack (service K))
    (_ : CatalogueWorld K) : Prop := ts' = ts

abbrev OnlyReads {α : Type} (h : Nat) (ts : Stack (service K)) (t : CatalogueTx K) (_ : α)
    (ts' : Stack (service K)) (_ : CatalogueWorld K) : Prop :=
  ∃ t' : CatalogueTx K, ts' = (h, t') :: ts ∧ t'.owner = t.owner ∧ t'.writes = t.writes

section Statements

def Sql.reads : Sql K → Bool
  | .getByColumn _ | .getById _ => true
  | _ => false

theorem run_reads {q : Sql K} {d : Db K} {a : Rows q} {ws : List (Write K)} {ks : List (Key K)}
    (hq : q.reads = true) (hr : run q d = .ok (a, ws, ks)) : ws = [] ∧ ks = [] := by
  cases q with
  | getByColumn | getById =>
    cases hr
    exact ⟨rfl, rfl⟩
  | create | update | insertOutbox => cases hq

theorem ok_raise {Q : α → Stack (service K) → CatalogueWorld K → Prop} (e : Err K) :
    OkIn i c Q h ts (raise e) t w :=
  ⟨trivial, t, rfl⟩

theorem ok_statement {q : Sql K} {Q : Rows q → Stack (service K) → CatalogueWorld K → Prop}
    (hs : Stable (discipline K) i (t.locks ++ ts.locks) F) (hF : F w)
    (hq : ∀ w' a ws ks, Inv w' → F w' → run q (t.view w'.db) = .ok (a, ws, ks) →
      Q a ((h, t.record q a ws ks) :: ts) w') :
    OkIn i c Q h ts (sql h q) t w :=
  Ok.sql lawful F hs hF fun w' hi _ hf _ a ws ks hr => hq w' a ws ks hi hf hr

theorem ok_find {q : Sql K} (hq : q.reads = true) :
    OkIn i c (fun _ : Rows q => OnlyReads h ts t ()) h ts (sql h q) t w := by
  refine ok_statement stable_true trivial fun w' a ws ks _ _ hr => ?_
  obtain ⟨rfl, rfl⟩ := run_reads hq hr
  exact ⟨_, rfl, rfl, List.append_nil _⟩

theorem ok_now {Q : Nat → Stack (service K) → CatalogueWorld K → Prop}
    (hq : ∀ n w', Q n ((h, t) :: ts) w') : OkIn i c Q h ts now t w := by
  refine Ok.aux (fun _ => True) stable_true trivial (fun _ _ => trivial)
    fun w' _ _ _ _ ch r e he => ?_
  cases he
  exact ⟨fun _ _ => hq _ _, fun _ hx => by cases hx⟩

theorem ok_randomUUID {Q : Id → Stack (service K) → CatalogueWorld K → Prop}
    (hs : Stable (discipline K) i (t.locks ++ ts.locks) F) (hF : F w)
    (hq : ∀ w' uuid, F w' → Drawn uuid i w' → Q uuid ((h, t) :: ts) w') :
    OkIn i c Q h ts randomUUID t w := by
  refine Ok.aux F hs hF (fun _ _ => trivial) fun w' hi _ hf _ ch r e he => ?_
  have hdrift : (discipline K).drift w' e := lawful.ask w' _ c _ _ _ _ trivial he
  cases he
  refine ⟨fun uuid huuid => ?_, fun _ hx => by cases hx⟩
  cases huuid
  exact hq _ _ (hs.drift w' _ hdrift hf) (drawn_fresh hi rfl)

theorem ok_announce {old : Option K.Row} {row : K.Row} {event : Id → Option K.Event}
    (hid : ∀ r, old = some r → K.id r = K.id row)
    (hchange : ∀ eventId e, event eventId = some e → Change old row e ∧ K.eventId e = eventId)
    (howner : t.owner = i) (hwrites : t.writes = [changeWrite old row])
    (hlocks : ∀ k ∈ (changeWrite old row).keys, k ∈ t.locks)
    (hfound : rowOf w.db (K.id row) = old) (hfree : taken w.db row = false) :
    OkIn i c (Commits (discipline K) i c h ts (Returns ts)) h ts
      (do
        announce h event
        return row) t w := by
  have hs : Stable (discipline K) i (t.locks ++ ts.locks)
      (fun w => rowOf w.db (K.id row) = old ∧ taken w.db row = false) :=
    (stable_rowOf _ _ (List.mem_append_left _ (hlocks _ (row_mem_keys hid)))).and _
      (stable_free row fun x hx => List.mem_append_left _ (hlocks _ (column_mem_keys hx)))
  refine Ok.seq (Ok.seq (ok_randomUUID hs ⟨hfound, hfree⟩ fun w₁ eventId hf₁ hdrawn₁ => ?_))
  cases hevent : event eventId with
  | none => exact ok_raise _
  | some e =>
    obtain ⟨hc, hid⟩ := hchange eventId e hevent
    have hs₁ := hs.and _ (stable_drawn eventId)
    refine ok_statement hs₁ ⟨hf₁, hdrawn₁⟩ fun w₂ _ ws ks _ hf₂ hr => ?_
    cases hr
    refine ⟨_, rfl, _, hs₁.record _ _ _ _, hf₂, fun w' _ _ hf _ => ⟨?_, rfl⟩⟩
    obtain ⟨⟨hfound', hfree'⟩, hdrawn'⟩ := hf
    refine .changed old row e hc hfound' hfree' ?_ ?_
    · rw [hid]
      change Drawn eventId t.owner w'
      rw [howner]
      exact hdrawn'
    · rw [Tx.record_writes, hwrites]
      rfl

theorem ok_existsAlready {Q : α → Stack (service K) → CatalogueWorld K → Prop}
    {ts' : Stack (service K)} (e : Err K) (h : ts' = ts) :
    Ok (discipline K) i c Q (Outside (discipline K) ts) (existsAlready e) ts' w := by
  cases e with
  | uniqueViolation => exact ⟨trivial, h⟩
  | api | validation | recordNotFound | fault => exact ⟨trivial, h⟩

end Statements

section Requests

theorem ok_ensureUnique (column : K.Column) :
    OkIn i c (OnlyReads h ts t) h ts (ensureUnique h column) t w := by
  refine Ok.bind ?_ (ok_find rfl)
  rintro existing _ w₁ ⟨t₁, rfl, hr₁⟩
  split
  · exact ok_raise _
  · exact ⟨t₁, rfl, hr₁⟩

theorem ok_ensureChangeable (column : Option K.Column) :
    OkIn i c (OnlyReads h ts t) h ts (ensureChangeable h column) t w := by
  cases column with
  | none => exact ⟨t, rfl, rfl, rfl⟩
  | some column => exact ok_ensureUnique column

theorem ok_create (dto : K.Create) :
    OkOut i (.create dto) (Returns ts) ts (create dto) w := by
  refine Ok.attempt (X := Outside (discipline K) ts) ?_ fun e _ _ hx => ok_existsAlready e hx.2
  refine Ok.transaction_any lawful fun h w₁ _ _ => ?_
  refine Ok.bind ?_ (ok_ensureUnique (K.wanted dto))
  rintro _ _ w₂ ⟨t₂, rfl, howner, hwrites⟩
  refine Ok.seq (ok_randomUUID stable_true trivial fun w₃ id _ _ => ?_)
  refine Ok.seq (ok_now fun time w₄ => ?_)
  refine Ok.seq (ok_statement stable_true trivial fun w₅ row ws ks _ _ hrun => ?_)
  have hview : t₂.view w₅.db = w₅.db := by
    rw [Tx.view, hwrites]
    rfl
  rw [hview] at hrun
  simp only [run] at hrun
  split at hrun
  · cases hrun
  next hfree =>
  cases hrun
  obtain ⟨hnew, hfree⟩ :
      rowOf w₅.db (K.id (K.new dto id time)) = none ∧ taken w₅.db (K.new dto id time) = false := by
    simpa [rowOf_eq_none] using hfree
  refine ok_announce (fun r hr => by cases hr)
    (fun eventId e he => ⟨.created he, (K.named_created _ _ _ he).1⟩) howner ?_ (fun k hk => ?_) hnew
    hfree
  · rw [Tx.record_writes, hwrites]
    rfl
  · rw [Tx.record_locks]
    exact List.mem_append_right _ (by simpa [Tx.rowKeys, changeWrite] using hk)

theorem ok_set {id : Id} {data : K.Data} {time : Nat} {event : Id → K.Row → Option K.Event}
    (hchange : ∀ eventId row e, event eventId (K.set data time row) = some e →
      Change (some row) (K.set data time row) e ∧ K.eventId e = eventId) (howner : t.owner = i)
    (hwrites : t.writes = []) :
    OkIn i c (Commits (discipline K) i c h ts (Returns ts)) h ts
      (do
        let row ← sql h (.update id data time)
        announce h (fun eventId => event eventId row)
        return row) t w := by
  refine Ok.seq (ok_statement stable_true trivial fun w₁ row ws ks _ _ hrun => ?_)
  have hview : t.view w₁.db = w₁.db := by
    rw [Tx.view, hwrites]
    rfl
  rw [hview] at hrun
  simp only [run] at hrun
  split at hrun
  · cases hrun
  next old hold =>
  split at hrun
  · cases hrun
  next hfree =>
  cases hrun
  refine ok_announce (fun r hr => by cases hr; exact (K.set_id _ _ _).symm)
    (fun eventId e he => hchange eventId old e he) howner ?_ (fun k hk => ?_) ?_
    (Bool.eq_false_iff.mpr hfree)
  · rw [Tx.record_writes, hwrites]
    rfl
  · rw [Tx.record_locks]
    exact List.mem_append_right _ (by simpa [Tx.rowKeys, changeWrite] using hk)
  · rw [K.set_id, rowOf_id hold]
    exact hold

theorem ok_update (id : Id) (dto : K.Update) :
    OkOut i (.update id dto) (Returns ts) ts (update id dto) w := by
  refine Ok.attempt (X := Outside (discipline K) ts) ?_ fun e _ _ hx => ok_existsAlready e hx.2
  refine Ok.transaction_any lawful fun h w₁ _ _ => ?_
  refine Ok.bind ?_ (ok_find rfl)
  rintro row _ w₂ ⟨t₂, rfl, howner₂, hwrites₂⟩
  cases row with
  | none => exact ok_raise _
  | some row =>
    refine Ok.bind ?_ (ok_ensureChangeable (K.changed dto row))
    rintro _ _ w₃ ⟨t₃, rfl, howner₃, hwrites₃⟩
    refine Ok.seq (ok_now fun time w₄ => ?_)
    exact ok_set (fun eventId row e he => ⟨.updated he, (K.named_updated _ _ _ he).1⟩)
      (howner₃.trans howner₂) (hwrites₃.trans hwrites₂)

theorem ok_deactivate (id : Id) :
    OkOut i (.deactivate id) (Returns ts) ts (deactivate id) w := by
  refine Ok.transaction_any lawful fun h w₁ _ _ => ?_
  refine Ok.bind ?_ (ok_find rfl)
  rintro row _ w₂ ⟨t₂, rfl, howner₂, hwrites₂⟩
  cases row with
  | none => exact ok_raise _
  | some row =>
    dsimp only
    split
    · exact ⟨t₂, rfl, _, stable_true, trivial, fun _ _ _ _ _ => ⟨.kept hwrites₂, rfl⟩⟩
    · refine Ok.seq (ok_now fun time w₃ => ?_)
      exact ok_set (fun eventId row e he => ⟨.deactivated he, (K.named_deactivated _ _ _ he).1⟩)
        howner₂ hwrites₂

end Requests

/-- Each request keeps the discipline, whatever the others do. -/
theorem sound : (discipline K).Sound := by
  intro i c w _ _
  have hout : ∀ {p : CatalogueCode K K.Row}, OkOut i c (Returns []) [] p w →
      Ok (discipline K) i c (fun a _ w => (discipline K).post c a w) (fun _ _ _ => True) p [] w :=
    fun h => Ok.mono (fun _ _ _ _ => trivial) (fun _ _ _ _ => trivial) h
  cases c with
  | create dto => exact hout (ok_create dto)
  | update id dto => exact hout (ok_update id dto)
  | deactivate id => exact hout (ok_deactivate id)

/-- All runs, of any requests. -/
@[reducible] def allRuns (K : Kind) : Scope (machine K) := Scope.calls fun _ => True

theorem inv_of_reachable {now : Nat} {p : Pool (machine K)}
    (h : Reachable (allRuns K) (start K now) p) : Inv p.world := by
  have hinit : Inv (start K now).world := by
    refine ⟨List.nodup_nil, fun _ hr => absurd hr List.not_mem_nil, fun _ => .none,
      List.nodup_nil, fun _ he => absurd he List.not_mem_nil⟩
  have hwithin : (allRuns K).Within (discipline K) := ⟨fun _ _ _ => trivial, fun _ _ _ _ _ => trivial⟩
  exact (Reachable.wellFormed lawful sound hwithin (wellFormed_init hinit) h).inv

end RailwayBooking.Catalogue
