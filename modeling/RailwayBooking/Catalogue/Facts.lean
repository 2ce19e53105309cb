import RailwayBooking.Catalogue.Commits

namespace RailwayBooking.Catalogue

open Concurrency

variable {K : Kind} {i : Nat} {c : Call K} {h : Nat} {t : CatalogueTx K}
  {ts : Stack (service K)} {w : CatalogueWorld K} {d : Db K} {k : Id}

def discipline (K : Kind) : Discipline (machine K) where
  pre _ _ := True
  inv := Inv
  allow _ _ _ _ := True
  commits _ := Commit
  asks _ _ _ := True
  drift w e := w.env.drawn ≤ e.drawn
  raises _ := True
  post _ _ _ := True

section Writes

variable {old : Option K.Row} {row : K.Row} {event : K.Event}

theorem rowOf_changed (hfound : rowOf d (K.id row) = old) (hid : ∀ r, old = some r → K.id r = K.id row) :
    rowOf ((changeWrite old row).apply d) k = if k = K.id row then some row else rowOf d k := by
  cases old with
  | none =>
    change (d.rows ++ [row]).find? _ = _
    rw [List.find?_append, List.find?_singleton]
    by_cases hk : k = K.id row
    · subst hk
      rw [rowOf] at hfound
      simp [hfound]
    · simp [hk, Ne.symm hk, rowOf]
  | some r =>
    have hr := hid r rfl
    have hkey : ∀ x, K.id (if K.id x = K.id r then row else x) = K.id x := by
      intro x
      split
      · next hx => rw [← hr, hx]
      · rfl
    change (d.rows.map (fun x => if K.id x = K.id r then row else x)).find? _ = _
    rw [find?_update K.id _ hkey d.rows k]
    change (rowOf d k).map _ = _
    by_cases hk : k = K.id row
    · rw [hk, hfound, Option.map_some, if_pos rfl, if_pos rfl]
    · rw [if_neg hk]
      cases hrow : rowOf d k with
      | none => rfl
      | some x =>
        have hx := rowOf_id hrow
        rw [Option.map_some, if_neg (by rw [hx, hr]; exact hk)]

theorem changeWrite_outbox : ((changeWrite old row).apply d).outbox = d.outbox := by
  cases old <;> rfl

theorem mem_changed (hfound : rowOf d (K.id row) = old) (hid : ∀ r, old = some r → K.id r = K.id row)
    {r : K.Row} : r ∈ ((changeWrite old row).apply d).rows ↔
      r = row ∨ (r ∈ d.rows ∧ K.id r ≠ K.id row) := by
  cases old with
  | none =>
    change r ∈ d.rows ++ [row] ↔ _
    rw [List.mem_append, List.mem_singleton, or_comm]
    refine or_congr_right ⟨fun hr => ⟨hr, rowOf_eq_none.mp hfound r hr⟩, fun hr => hr.1⟩
  | some x =>
    have hx := hid x rfl
    change r ∈ d.rows.map (fun y => if K.id y = K.id x then row else y) ↔ _
    rw [List.mem_map]
    constructor
    · rintro ⟨y, hy, rfl⟩
      by_cases hyx : K.id y = K.id x
      · exact .inl (if_pos hyx)
      · rw [if_neg hyx]
        exact .inr ⟨hy, by rw [← hx]; exact hyx⟩
    · rintro (rfl | ⟨hr, hne⟩)
      · exact ⟨x, rowOf_mem hfound, if_pos rfl⟩
      · exact ⟨r, hr, if_neg (by rw [hx]; exact hne)⟩

theorem ids_changed (hfound : rowOf d (K.id row) = old) (hid : ∀ r, old = some r → K.id r = K.id row)
    (hnodup : (d.rows.map K.id).Nodup) : (((changeWrite old row).apply d).rows.map K.id).Nodup := by
  cases old with
  | none =>
    change ((d.rows ++ [row]).map K.id).Nodup
    rw [List.map_append, List.nodup_append']
    refine ⟨hnodup, List.nodup_singleton _, fun k hmem hmem' => ?_⟩
    obtain ⟨r, hr, rfl⟩ := List.mem_map.mp hmem
    exact rowOf_eq_none.mp hfound r hr (List.mem_singleton.mp hmem')
  | some x =>
    change ((d.rows.map (fun y => if K.id y = K.id x then row else y)).map K.id).Nodup
    have hkey : K.id ∘ (fun y => if K.id y = K.id x then row else y) = K.id := by
      funext y
      rw [Function.comp_apply]
      split
      · next hy => rw [hy, hid x rfl]
      · rfl
    rw [List.map_map, hkey]
    exact hnodup

theorem eventsOf_concat (d : Db K) (event : K.Event) (k : Id) :
    eventsOf { d with outbox := d.outbox ++ [event] } k =
      if K.recordId event = k then eventsOf d k ++ [event] else eventsOf d k := by
  change (d.outbox ++ [event]).filter _ = _
  rw [List.filter_append, List.filter_singleton]
  by_cases h : K.recordId event = k
  · simp [eventsOf, h]
  · simp [eventsOf, h]

end Writes

section Invariant

theorem view_changed {old : Option K.Row} {row : K.Row} {event : K.Event}
    (hw : t.writes = [changeWrite old row, .outbox event]) (d : Db K) :
    t.view d = { (changeWrite old row).apply d with outbox := d.outbox ++ [event] } := by
  have hview : t.view d = (Write.outbox event).apply ((changeWrite old row).apply d) := by
    rw [Tx.view, hw]
    rfl
  rw [hview, Write.apply, changeWrite_outbox]

theorem Commit.inv (hc : Commit t w) (hi : Inv w) : Inv (w.commit c t) := by
  cases hc with
  | kept hw =>
    have hview : t.view w.db = w.db := by
      rw [Tx.view, hw]
      rfl
    change Inv { w with db := t.view w.db, log := _ }
    rw [hview]
    exact ⟨hi.ids, hi.columns, hi.recorded, hi.events, hi.drawn⟩
  | changed old row event hchange hfound hfree hdrawn hw =>
    have hid := fun r (hr : old = some r) => hchange.found hr
    have hview := view_changed hw w.db
    obtain ⟨n, hn, hevent⟩ := hdrawn.drawn
    refine ⟨?_, ?_, ?_, ?_, ?_⟩
    · change ((t.view w.db).rows.map K.id).Nodup
      rw [hview]
      exact ids_changed hfound hid hi.ids
    · change ∀ r ∈ (t.view w.db).rows, ∀ r' ∈ (t.view w.db).rows, _
      rw [hview]
      rw [taken_eq_false] at hfree
      intro r hr r' hr' x hx hx'
      obtain hrow | ⟨hmem, hne⟩ := (mem_changed hfound hid).mp hr
      · obtain hrow' | ⟨hmem', hne'⟩ := (mem_changed hfound hid).mp hr'
        · rw [hrow, hrow']
        · exact absurd (hrow ▸ hx) (hfree r' hmem' hne' x hx')
      · obtain hrow' | ⟨hmem', hne'⟩ := (mem_changed hfound hid).mp hr'
        · exact absurd (hrow' ▸ hx') (hfree r hmem hne x hx)
        · exact hi.columns r hmem r' hmem' x hx hx'
    · intro k
      change Recorded (rowOf (t.view w.db) k) (eventsOf (t.view w.db) k)
      rw [hview]
      have hrow : rowOf ((changeWrite old row).apply w.db) k =
          if k = K.id row then some row else rowOf w.db k := rowOf_changed hfound hid
      have hevents : eventsOf { (changeWrite old row).apply w.db with
          outbox := w.db.outbox ++ [event] } k =
          if K.recordId event = k then eventsOf w.db k ++ [event] else eventsOf w.db k :=
        eventsOf_concat w.db event k
      change Recorded (rowOf ((changeWrite old row).apply w.db) k) _
      rw [hrow, hevents, hchange.recordId]
      by_cases hk : k = K.id row
      · rw [if_pos hk, if_pos hk.symm, hk]
        refine Recorded.change ?_ hchange
        rw [← hfound]
        exact hi.recorded _
      · rw [if_neg hk, if_neg (Ne.symm hk)]
        exact hi.recorded k
    · change ((t.view w.db).outbox.map K.eventId).Nodup
      rw [hview, List.map_append, List.nodup_append']
      refine ⟨hi.events, List.nodup_singleton _, fun x hmem hmem' => ?_⟩
      obtain ⟨e, he, rfl⟩ := List.mem_map.mp hmem
      exact hdrawn.unused e he (List.mem_singleton.mp hmem')
    · change ∀ e ∈ (t.view w.db).outbox, _
      rw [hview]
      intro e he
      obtain he | he := List.mem_append.mp he
      · exact hi.drawn e he
      · rw [List.mem_singleton.mp he]
        exact ⟨_, n, hn, hevent⟩

theorem lasting_inv : Lasting (discipline K) Inv where
  commit _ _ _ hi _ hc _ _ := Commit.inv hc hi
  drift w e hd hi := by
    refine ⟨hi.ids, hi.columns, hi.recorded, hi.events, fun x hx => ?_⟩
    obtain ⟨i, n, hn, heq⟩ := hi.drawn x hx
    exact ⟨i, n, lt_of_lt_of_le hn hd, heq⟩

theorem lawful : (discipline K).Lawful where
  ask w i c a ch r e _ he := by
    cases a with
    | now =>
      cases he
      exact le_refl _
    | randomUUID =>
      cases he
      exact Nat.le_succ _
  tick _ _ := le_refl _
  fault := trivial
  run _ _ _ _ := trivial
  answer _ _ _ _ _ _ _ := trivial
  inv := lasting_inv
  pre _ := lasting_true
  post _ _ := lasting_true

end Invariant

section Stable

variable {ks : List (Key K)}

theorem column_mem_keys {old : Option K.Row} {row : K.Row} {x : K.Column} (hx : x ∈ K.columns row) :
    Key.column x ∈ (changeWrite old row).keys := by
  cases old with
  | none => exact List.mem_cons_of_mem _ (List.mem_map_of_mem hx)
  | some r => exact List.mem_cons_of_mem _ (List.mem_map_of_mem (List.mem_append_right _ hx))

theorem row_mem_keys {old : Option K.Row} {row : K.Row}
    (hid : ∀ r, old = some r → K.id r = K.id row) :
    Key.row (K.id row) ∈ (changeWrite old row).keys := by
  cases old with
  | none => exact List.mem_cons_self
  | some r =>
    rw [← hid r rfl]
    exact List.mem_cons_self

theorem stable_rowOf (k : Id) (found : Option K.Row) (hk : .row k ∈ ks) :
    Stable (discipline K) i ks (fun w => rowOf w.db k = found) where
  commit w c t _ _ hc hv _ hd h := by
    have hkey : ∀ x ∈ t.writes, Key.row k ∉ x.keys := hv.untouched hd hk
    change rowOf (t.view w.db) k = found
    cases hc with
    | kept hw =>
      rw [Tx.view, hw]
      exact h
    | changed old row event hchange hfound _ _ hw =>
      have hid := fun r (hr : old = some r) => hchange.found hr
      rw [view_changed hw]
      have hne : k ≠ K.id row := by
        rintro rfl
        exact hkey (changeWrite old row) (by rw [hw]; exact List.mem_cons_self) (row_mem_keys hid)
      exact (rowOf_changed hfound hid).trans ((if_neg hne).trans h)
  drift _ _ _ h := h

theorem stable_free (row : K.Row) (hk : ∀ x ∈ K.columns row, .column x ∈ ks) :
    Stable (discipline K) i ks (fun w => taken w.db row = false) where
  commit w c t _ _ hc hv _ hd h := by
    change taken (t.view w.db) row = false
    rw [taken_eq_false] at h ⊢
    cases hc with
    | kept hw =>
      rw [Tx.view, hw]
      exact h
    | changed old row' event hchange hfound _ _ hw =>
      have hid := fun r (hr : old = some r) => hchange.found hr
      rw [view_changed hw]
      intro r hr hne x hx hx'
      obtain rfl | ⟨hmem, -⟩ := (mem_changed hfound hid).mp hr
      · have hkey : ∀ y ∈ t.writes, Key.column x ∉ y.keys := hv.untouched hd (hk x hx')
        exact hkey (changeWrite old r) (by rw [hw]; exact List.mem_cons_self) (column_mem_keys hx)
      · exact h r hmem hne x hx hx'
  drift _ _ _ h := h

theorem stable_drawn (uuid : Id) : Stable (discipline K) i ks (Drawn uuid i) where
  commit w c t _ _ hc _ ho _ h := by
    refine ⟨h.drawn, ?_⟩
    change ∀ e ∈ (t.view w.db).outbox, _
    cases hc with
    | kept hw =>
      rw [Tx.view, hw]
      exact h.unused
    | changed old row event _ _ _ hdrawn hw =>
      rw [view_changed hw]
      intro e he
      obtain he | he := List.mem_append.mp he
      · exact h.unused e he
      · obtain ⟨n, -, hevent⟩ := hdrawn.drawn
        obtain ⟨m, -, huuid⟩ := h.drawn
        rw [List.mem_singleton.mp he, hevent, huuid]
        intro heq
        exact ho (Nat.pair_eq_pair.mp heq).1
  drift w e hd h := by
    obtain ⟨n, hn, huuid⟩ := h.drawn
    exact ⟨⟨n, lt_of_lt_of_le hn hd, huuid⟩, h.unused⟩

theorem drawn_fresh {e : Env} (hi : Inv w) (he : e.drawn = w.env.drawn + 1) :
    Drawn (Nat.pair i w.env.drawn) i (w.setEnv e) := by
  refine ⟨⟨w.env.drawn, ?_, rfl⟩, fun x hx heq => ?_⟩
  · change w.env.drawn < e.drawn
    omega
  · obtain ⟨j, n, hn, hevent⟩ := hi.drawn x hx
    obtain ⟨-, rfl⟩ := Nat.pair_eq_pair.mp (hevent.symm.trans heq)
    exact lt_irrefl _ hn

end Stable

end RailwayBooking.Catalogue
