import RailwayBooking.CoachService.Commits

namespace RailwayBooking.CoachService

open Concurrency

def discipline : Discipline machine where
  pre _ _ := True
  inv w := w.db.Keys ∧ w.db.Consistent
  allow c t w s := ∀ h t', s = .commit h → t = some t' → Guarded c t' w
  commits c t w := Commit c t w ∧ Guarded c t w
  asks _ _ _ := True
  drift _ _ := True
  raises _ := True
  post _ _ _ := True

variable {c : Call} {t : CoachTx} {w : CoachWorld} {d : Db} {k : Id}

section Writes

theorem rowOf_coach (row : Coach) : rowOf ((Write.coach row).apply d) k =
    (rowOf d k).or (if row.id = k then some row else none) := by
  change (d.coaches ++ [row]).find? _ = _
  rw [List.find?_append, List.find?_singleton]
  simp [rowOf]

theorem rowOf_updated (row : Coach) (data : CoachUpdate) :
    rowOf ((Write.updated row data).apply d) k = (rowOf d k).map (data.setAt row.id) :=
  find?_update Coach.id (data.setAt row.id) (fun _ => data.setAt_id _ _) d.coaches k

theorem rowOf_stands {ws : List Write} (h : rowOf d k ≠ none) : rowOf (applyAll d ws) k ≠ none := by
  induction ws generalizing d with
  | nil => exact h
  | cons x ws ih =>
    apply ih
    cases x with
    | coach row =>
      rw [rowOf_coach]
      simp [h]
    | updated row data =>
      rw [rowOf_updated]
      simpa using h
    | _ => exact h

theorem rowOf_other {ws : List Write} (h : ∀ x ∈ ws, Key.coach k ∉ x.keys) :
    rowOf (applyAll d ws) k = rowOf d k := by
  induction ws generalizing d with
  | nil => rfl
  | cons x ws ih =>
    rw [applyAll_cons, ih (fun y hy => h y (List.mem_cons_of_mem _ hy))]
    have hx := h x List.mem_cons_self
    cases x with
    | coach row =>
      have hne : row.id ≠ k := fun he => hx (by simp [Write.keys, he])
      rw [rowOf_coach, if_neg hne, Option.or_none]
    | updated row data =>
      have hne : k ≠ row.id := fun he => hx (by simp [Write.keys, he])
      rw [rowOf_updated]
      cases hrow : rowOf d k with
      | none => rfl
      | some c => simp [CoachUpdate.setAt, rowOf_id hrow, hne]
    | _ => rfl

theorem seatsOf_seats {j : Id} {rows : List Seat} (h : ∀ s ∈ rows, s.coachId = j) :
    ((Write.seats rows).apply d).seatsOf k =
      if k = j then d.seatsOf k ++ rows else d.seatsOf k := by
  change (d.seats ++ rows).filter _ = _
  rw [List.filter_append]
  split
  · next hk =>
    rw [List.filter_eq_self.mpr fun s hs => decide_eq_true ((h s hs).trans hk.symm)]
    rfl
  · next hk =>
    have hnone : rows.filter (fun s => s.coachId = k) = [] :=
      List.filter_eq_nil_iff.mpr fun s hs he => hk ((of_decide_eq_true he).symm.trans (h s hs))
    rw [hnone, List.append_nil]
    rfl

theorem seatsOf_reset {j : Id} {rows : List Seat} (k : Id) (h : rows = [] ∨ d.seatsOf j = rows) :
    ((Write.deletedSeats rows).apply d).seatsOf k = d.seatsOf k ∨
      (d.seatsOf k = rows ∧ ((Write.deletedSeats rows).apply d).seatsOf k = []) := by
  change (d.seats.filter _).filter _ = _ ∨ (_ ∧ (d.seats.filter _).filter _ = _)
  rw [List.filter_filter]
  obtain rfl | rfl := h
  · left
    apply List.filter_congr
    simp
  by_cases hk : k = j
  · right
    refine ⟨by rw [hk], List.filter_eq_nil_iff.mpr fun s hs => ?_⟩
    simp [Db.seatsOf, hs, hk]
  · left
    apply List.filter_congr
    intro s _
    by_cases hs : s.coachId = k
    · simp [Db.seatsOf, hs, hk]
    · simp [hs]

end Writes

section Invariant

theorem Db.Keys.bare (hk : d.Keys) (h : rowOf d k = none) : d.seatsOf k = [] := by
  apply List.eq_nil_iff_forall_not_mem.mpr
  intro s hs
  obtain ⟨hmem, rfl⟩ := mem_seatsOf.mp hs
  exact hk.rooted s hmem h

theorem exists_one (hk : d.Keys) (hc : d.Consistent) (h : d.seatsOf k ≠ []) :
    ∃ s ∈ d.seatsOf k, s.seatNumber = 1 := by
  cases hrow : rowOf d k with
  | none => exact absurd (hk.bare hrow) h
  | some coach =>
    obtain rfl := rowOf_id hrow
    have hlaid := (hc coach (rowOf_mem hrow)).resolve_left h
    exact hlaid.exists_one (hk.positive coach (rowOf_mem hrow))

theorem Db.Keys.updated (hk : d.Keys) {row : Coach} {data : CoachUpdate}
    (hrow : rowOf d row.id = some row) (hfree : numberTaken d (data.set row) = false)
    (hpos : 0 < (data.set row).totalSeats) : ((Write.updated row data).apply d).Keys := by
  have hown : ∀ c ∈ d.coaches, c.id = row.id → c = row := fun c hc hid =>
    List.inj_on_of_nodup_map hk.ids hc (rowOf_mem hrow) hid
  rw [numberTaken_eq_false] at hfree
  have hother : ∀ c ∈ d.coaches, c.id ≠ row.id →
      (c.trainId, c.coachNumber) ≠ ((data.set row).trainId, (data.set row).coachNumber) :=
    fun c hc hid heq => hfree c hc hid (Prod.mk.inj heq).1 (Prod.mk.inj heq).2
  refine ⟨?_, ?_, fun s hs => ?_, fun c hc => ?_⟩
  · change ((d.coaches.map (data.setAt row.id)).map Coach.id).Nodup
    rw [List.map_map, show Coach.id ∘ data.setAt row.id = Coach.id from
      funext fun c => data.setAt_id _ c]
    exact hk.ids
  · change ((d.coaches.map (data.setAt row.id)).map _).Nodup
    rw [List.map_map, List.nodup_map_iff_inj_on hk.ids.of_map]
    intro a ha b hb heq
    simp only [Function.comp_apply, CoachUpdate.setAt] at heq
    by_cases hai : a.id = row.id
    · obtain rfl := hown a ha hai
      by_cases hbi : b.id = a.id
      · exact (hown b hb hbi).symm
      · rw [if_pos rfl, if_neg hbi] at heq
        exact absurd heq.symm (hother b hb hbi)
    · rw [if_neg hai] at heq
      by_cases hbi : b.id = row.id
      · obtain rfl := hown b hb hbi
        rw [if_pos rfl] at heq
        exact absurd heq (hother a ha hai)
      · rw [if_neg hbi] at heq
        exact List.inj_on_of_nodup_map hk.numbers ha hb heq
  · rw [rowOf_updated]
    simpa using hk.rooted s hs
  · obtain ⟨c, hmem, rfl⟩ := List.mem_map.mp hc
    split
    · next hid =>
      rw [hown c hmem hid]
      exact hpos
    · exact hk.positive c hmem

theorem Commit.keys (h : Commit c t w) (hk : w.db.Keys) : (t.view w.db).Keys := by
  rw [view_eq]
  cases h with
  | added _ _ row event _ hnew hfree hpos hw =>
    rw [hw]
    rw [numberTaken_eq_false] at hfree
    refine ⟨?_, ?_, fun s hs => rowOf_stands (hk.rooted s hs), fun c hc => ?_⟩
    · change ((w.db.coaches ++ [row]).map Coach.id).Nodup
      rw [List.map_append, List.nodup_append']
      refine ⟨hk.ids, List.nodup_singleton _, fun k hmem hmem' => ?_⟩
      obtain ⟨c, hc, rfl⟩ := List.mem_map.mp hmem
      exact rowOf_eq_none.mp hnew c hc (List.mem_singleton.mp hmem')
    · change ((w.db.coaches ++ [row]).map _).Nodup
      rw [List.map_append, List.nodup_append']
      refine ⟨hk.numbers, List.nodup_singleton _, fun k hmem hmem' => ?_⟩
      obtain ⟨c, hc, rfl⟩ := List.mem_map.mp hmem
      obtain ⟨htrain, hnumber⟩ := Prod.mk.inj (List.mem_singleton.mp hmem')
      exact hfree c hc (rowOf_eq_none.mp hnew c hc) htrain hnumber
    · obtain hc | hc := List.mem_append.mp hc
      · exact hk.positive c hc
      · rw [List.mem_singleton.mp hc]
        exact hpos
  | updated data row _ hrow hfree hpos hw =>
    rw [hw]
    exact hk.updated hrow hfree hpos
  | generated coachId coach ids event _ _ hstands _ _ _ hw =>
    rw [hw]
    refine ⟨hk.ids, hk.numbers, fun s hs => ?_, hk.positive⟩
    obtain hs | hs := List.mem_append.mp hs
    · exact hk.rooted s hs
    · rw [coachId_of_mem_seatsToCreate hs]
      exact hstands
  | reset coachId rows _ _ hw =>
    rw [hw]
    exact ⟨hk.ids, hk.numbers, fun s hs => hk.rooted s (List.mem_filter.mp hs).1, hk.positive⟩
  | kept _ _ hw =>
    rw [hw]
    exact hk

theorem Guarded.sets {data : CoachUpdate} (h : Guarded c t w) (hc : c.sets = some (k, data)) :
    w.db.seatsOf k = [] ∨
      ∀ coach ∈ w.db.coaches, coach.id = k → SameLayout coach (data.set coach) := by
  cases c with
  | updateCoach coachId dto =>
    cases hc
    exact h
  | deleteCoach coachId =>
    cases hc
    exact .inr fun coach _ _ => ⟨rfl, fun _ _ => rfl⟩
  | addCoach | bulkCreateSeats | resetSeats => cases hc

theorem Commit.consistent (h : Commit c t w) (hg : Guarded c t w) (hk : w.db.Keys)
    (hc : w.db.Consistent) : (t.view w.db).Consistent := by
  rw [view_eq]
  intro coach hcoach
  cases h with
  | added _ _ row event _ hnew _ _ hw =>
    rw [hw] at hcoach ⊢
    change w.db.seatsOf coach.id = [] ∨ LaidOut coach (w.db.seatsOf coach.id)
    obtain hcoach | hcoach := List.mem_append.mp hcoach
    · exact hc coach hcoach
    · rw [List.mem_singleton.mp hcoach]
      exact .inl (hk.bare hnew)
  | updated data row hcall hrow _ _ hw =>
    rw [hw] at hcoach ⊢
    obtain ⟨coach, hmem, rfl⟩ := List.mem_map.mp hcoach
    change w.db.seatsOf (data.setAt row.id coach).id = [] ∨
      LaidOut (data.setAt row.id coach) (w.db.seatsOf (data.setAt row.id coach).id)
    rw [CoachUpdate.setAt_id]
    unfold CoachUpdate.setAt
    split
    · next hid =>
      obtain hbare | hsame := hg.sets hcall
      · exact .inl (hid ▸ hbare)
      · exact (hc coach hmem).imp_right fun hlaid => hlaid.same (hsame coach hmem hid)
    · exact hc coach hmem
  | generated coachId seen ids event hcall hseen _ hbare hcount _ hw =>
    rw [hw] at hcoach ⊢
    change ((Write.seats _).apply w.db).seatsOf coach.id = [] ∨
      LaidOut coach (((Write.seats _).apply w.db).seatsOf coach.id)
    rw [seatsOf_seats fun s hs => coachId_of_mem_seatsToCreate hs]
    split
    · next hid =>
      rw [hid, hbare, List.nil_append]
      rw [hcall] at hg
      have hmem : seen ∈ t.stmts.filterMap (read coachId) := hseen ▸ List.mem_cons_self
      exact .inr ((laidOut_seatsToCreate hcount).same (hg seen hmem coach hcoach hid))
    · exact hc coach hcoach
  | reset coachId rows _ hall hw =>
    rw [hw] at hcoach ⊢
    change ((Write.deletedSeats rows).apply w.db).seatsOf coach.id = [] ∨
      LaidOut coach (((Write.deletedSeats rows).apply w.db).seatsOf coach.id)
    obtain heq | ⟨-, heq⟩ := seatsOf_reset coach.id hall
    · rw [heq]
      exact hc coach hcoach
    · exact .inl heq
  | kept _ _ hw =>
    rw [hw] at hcoach ⊢
    exact hc coach hcoach

theorem Commit.guarded (h : Commit c t w) (hc : w.db.Consistent)
    (hafter : (t.view w.db).Consistent) : Guarded c t w := by
  rw [view_eq] at hafter
  cases h with
  | updated data row hcall _ _ _ hw =>
    cases c with
    | updateCoach coachId dto =>
      cases hcall
      by_cases hbare : w.db.seatsOf row.id = []
      · exact .inl hbare
      refine .inr fun coach hcoach hid => ?_
      rw [hw] at hafter
      have hlaid := (hc coach hcoach).resolve_left (hid ▸ hbare)
      have hset : dto.updatedData.setAt row.id coach = dto.updatedData.set coach := if_pos hid
      have hmem : dto.updatedData.set coach ∈
          (applyAll w.db [.updated row dto.updatedData]).coaches :=
        hset ▸ List.mem_map_of_mem hcoach
      exact hlaid.sameLayout ((hafter _ hmem).resolve_left (hid ▸ hbare))
    | deleteCoach => trivial
    | addCoach | bulkCreateSeats | resetSeats => cases hcall
  | generated coachId seen ids event hcall hseen _ hbare hcount hpos hw =>
    rw [hcall]
    intro seen' hseen' coach hcoach hid
    rw [hseen, List.mem_singleton] at hseen'
    rw [hseen']
    rw [hw] at hafter
    have hseats : (applyAll w.db [.seats (seatsToCreate seen coachId ids), .outbox event]).seatsOf
        coach.id = seatsToCreate seen coachId ids := by
      change ((Write.seats _).apply w.db).seatsOf coach.id = _
      rw [seatsOf_seats fun s hs => coachId_of_mem_seatsToCreate hs, if_pos hid, hid, hbare,
        List.nil_append]
    have hlaid : LaidOut seen (seatsToCreate seen coachId ids) := laidOut_seatsToCreate hcount
    have hne : seatsToCreate seen coachId ids ≠ [] := by
      obtain ⟨s, hs, _⟩ := hlaid.exists_one hpos
      exact List.ne_nil_of_mem hs
    have hafter' := hafter coach hcoach
    rw [hseats] at hafter'
    exact hlaid.sameLayout (hafter'.resolve_left hne)
  | added _ _ _ _ hcall | reset _ _ hcall | kept _ hcall =>
    rw [hcall]
    trivial

theorem Commit.consistent_iff (h : Commit c t w) (hk : w.db.Keys) (hc : w.db.Consistent) :
    (t.view w.db).Consistent ↔ Guarded c t w :=
  ⟨h.guarded hc, fun hg => h.consistent hg hk hc⟩

theorem lasting_inv : Lasting discipline discipline.inv where
  commit _ _ _ hi _ hc _ _ := ⟨hc.1.keys hi.1, hc.1.consistent hc.2 hi.1 hi.2⟩
  drift _ _ _ h := h

theorem lawful : discipline.Lawful where
  ask _ _ _ _ _ _ _ _ _ := trivial
  tick _ _ := trivial
  fault := trivial
  run _ _ _ _ := trivial
  answer _ _ _ _ _ _ _ := trivial
  inv := lasting_inv
  pre _ := lasting_true
  post _ _ := lasting_true

end Invariant

section Stable

variable {i : Nat} {ks : List Key}

theorem stable_rowOf (k : Id) (row : Option Coach) (hk : .coach k ∈ ks) :
    Stable discipline i ks (fun w => rowOf w.db k = row) where
  commit w c t _ _ _ hv _ hd h := by
    change rowOf (t.view w.db) k = row
    rw [view_eq, rowOf_other, h]
    exact hv.untouched hd hk
  drift _ _ _ h := h

theorem lasting_stands (k : Id) : Lasting discipline (fun w => rowOf w.db k ≠ none) where
  commit w c t _ _ _ _ h := by
    change rowOf (t.view w.db) k ≠ none
    rw [view_eq]
    exact rowOf_stands h
  drift _ _ _ h := h

theorem Commit.seatsOf_other (h : Commit c t w) (hi : discipline.inv w)
    (hkey : ∀ x ∈ t.writes, Key.seat k 1 ∉ x.keys) :
    (t.view w.db).seatsOf k = w.db.seatsOf k := by
  have hone : ∀ rows, (.seats rows ∈ t.writes ∨ .deletedSeats rows ∈ t.writes) →
      ∀ s ∈ rows, s.coachId = k → s.seatNumber ≠ 1 := by
    rintro rows hmem s hs rfl hnumber
    have hin : Key.seat s.coachId 1 ∈ rows.map Write.seatKey :=
      List.mem_map.mpr ⟨s, hs, by rw [Write.seatKey, hnumber]⟩
    obtain hmem | hmem := hmem
    · exact hkey _ hmem hin
    · exact hkey _ hmem hin
  rw [view_eq]
  cases h with
  | added _ _ row event _ _ _ _ hw =>
    rw [hw]
    rfl
  | updated data row _ _ _ _ hw =>
    rw [hw]
    rfl
  | generated coachId coach ids event _ _ _ _ hcount hpos hw =>
    rw [hw] at hone ⊢
    change ((Write.seats _).apply w.db).seatsOf k = _
    rw [seatsOf_seats fun s hs => coachId_of_mem_seatsToCreate hs]
    split
    · next hk =>
      obtain ⟨s, hs, hnumber⟩ := (laidOut_seatsToCreate hcount).exists_one hpos
      have hid := coachId_of_mem_seatsToCreate hs
      exact absurd hnumber (hone _ (.inl List.mem_cons_self) s hs (hid.trans hk.symm))
    · rfl
  | reset coachId rows _ hall hw =>
    rw [hw] at hone ⊢
    change ((Write.deletedSeats rows).apply w.db).seatsOf k = _
    obtain heq | ⟨hrows, heq⟩ := seatsOf_reset k hall
    · exact heq
    · rw [heq]
      by_contra hne
      obtain ⟨s, hs, hnumber⟩ := exists_one hi.1 hi.2 (Ne.symm hne)
      have hid := (mem_seatsOf.mp hs).2
      rw [hrows] at hs
      exact hone rows (.inr List.mem_cons_self) s hs hid hnumber
  | kept _ _ hw =>
    rw [hw]
    rfl

theorem stable_seatsOf (k : Id) (rows : List Seat) (hk : .seat k 1 ∈ ks) :
    Stable discipline i ks (fun w => w.db.seatsOf k = rows) where
  commit _ _ _ hi _ hc hv _ hd h :=
    (hc.1.seatsOf_other hi (hv.untouched hd hk)).trans h
  drift _ _ _ h := h

theorem stable_deleted (k : Id) (rows : List Seat) (hk : rows ≠ [] → .seat k 1 ∈ ks) :
    Stable discipline i ks (fun w => rows = [] ∨ w.db.seatsOf k = rows) where
  commit w c t hi hp hc hv ho hd h := by
    by_cases hbare : rows = []
    · exact .inl hbare
    · exact .inr ((stable_seatsOf k rows (hk hbare)).commit w c t hi hp hc hv ho hd
        (h.resolve_left hbare))
  drift _ _ _ h := h

theorem stable_number (row : Coach) (hk : .number row.trainId row.coachNumber ∈ ks) :
    Stable discipline i ks (fun w => numberTaken w.db row = false) where
  commit w c t hi _ hc hv _ hd h := by
    have hkey : ∀ x ∈ t.writes, Key.number row.trainId row.coachNumber ∉ x.keys :=
      hv.untouched hd hk
    change numberTaken (t.view w.db) row = false
    rw [view_eq]
    rw [numberTaken_eq_false] at h ⊢
    intro coach hcoach
    cases hc.1 with
    | added _ _ new event _ _ _ _ hw =>
      rw [hw] at hcoach hkey
      obtain hcoach | hcoach := List.mem_append.mp hcoach
      · exact h coach hcoach
      · rintro - htrain hnumber
        rw [List.mem_singleton.mp hcoach] at htrain hnumber
        exact hkey _ List.mem_cons_self (by simp [Write.keys, htrain, hnumber])
    | updated data new _ hrow _ _ hw =>
      rw [hw] at hcoach hkey
      obtain ⟨coach, hmem, rfl⟩ := List.mem_map.mp hcoach
      split
      · next hid =>
        -- the updated row takes the number that its own transaction has locked
        rintro - htrain hnumber
        rw [List.inj_on_of_nodup_map hi.1.ids hmem (rowOf_mem hrow) hid] at htrain hnumber
        exact hkey _ List.mem_cons_self (by simp [Write.keys, ← htrain, ← hnumber])
      · exact h coach hmem
    | generated _ _ _ _ _ _ _ _ _ _ hw | reset _ _ _ _ hw | kept _ _ hw =>
      rw [hw] at hcoach
      exact h coach hcoach
  drift _ _ _ h := h

end Stable

end RailwayBooking.CoachService
