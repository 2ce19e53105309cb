import RailwayBooking.AdminService.Commits

namespace RailwayBooking.AdminService

open Concurrency

def discipline : Discipline machine where
  pre _ _ := True
  inv w := w.db.Keys
  allow _ _ _ _ := True
  commits c t w := t.site ≠ .auto ∧ Commit c t w
  asks _ _ _ := True
  drift w e := w.env.now ≤ e.now
  raises _ := True
  post _ _ _ := True

variable {c : Call} {t : AdminTx} {w : AdminWorld} {d : Db} {i : Nat} {ks : List Key}

section Invariant

theorem Commit.keys (h : Commit c t w) (hk : w.db.Keys) : (t.view w.db).Keys := by
  rw [view_eq]
  cases h with
  | created schedule payload _ _ _ _ _ _ _ _ _ _ hnew _ hw =>
    rw [hw]
    refine ⟨?_, hk.routes, hk.routeStations⟩
    change ((w.db.schedules ++ [schedule]).map Schedule.id).Nodup
    rw [List.map_append, List.nodup_append']
    refine ⟨hk.schedules, List.nodup_singleton _, fun k hmem hmem' => ?_⟩
    obtain ⟨s, hs, rfl⟩ := List.mem_map.mp hmem
    exact rowOf_eq_none.mp hnew s hs (List.mem_singleton.mp hmem')
  | unchanged hw =>
    rw [hw]
    exact hk
  | @statusChanged _ _ id status schedule _ _ _ hw =>
    rw [hw]
    refine ⟨?_, hk.routes, hk.routeStations⟩
    change ((w.db.schedules.map (Schedule.updated id status _)).map Schedule.id).Nodup
    rw [List.map_map, show Schedule.id ∘ Schedule.updated id status _ = Schedule.id from
      funext fun s => Schedule.updated_id s]
    exact hk.schedules
  | operatingDays _ _ _ _ _ hw =>
    rw [hw]
    exact ⟨hk.schedules, hk.routes, hk.routeStations⟩
  | routeStatus _ _ _ hw | routeDeleted _ _ _ hw =>
    rw [hw]
    refine ⟨hk.schedules, ?_, hk.routeStations⟩
    change ((w.db.routes.map (Route.updated _ _)).map Route.id).Nodup
    rw [List.map_map, show Route.id ∘ Route.updated _ _ = Route.id from
      funext fun r => Route.updated_id r]
    exact hk.routes
  | stationAdded row _ _ hnew hw =>
    rw [hw]
    refine ⟨hk.schedules, hk.routes, ?_⟩
    change ((w.db.routeStations ++ [row]).map RouteStation.id).Nodup
    rw [List.map_append, List.nodup_append']
    refine ⟨hk.routeStations, List.nodup_singleton _, fun k hmem hmem' => ?_⟩
    obtain ⟨s, hs, rfl⟩ := List.mem_map.mp hmem
    exact stopRow_eq_none.mp hnew s hs (List.mem_singleton.mp hmem')
  | stationRemoved _ _ _ _ _ _ _ _ _ _ _ hw =>
    rw [hw]
    exact ⟨hk.schedules, hk.routes, hk.routeStations.sublist (List.filter_sublist.map _)⟩

theorem lasting_keys : Lasting discipline (fun w => w.db.Keys) where
  commit _ _ _ hi _ hc _ _ := hc.2.keys hi
  drift _ _ _ h := h

theorem lawful : discipline.Lawful where
  ask w i _ a ch r e _ h := by
    cases a with
    | now | randomUUID =>
      cases h
      exact Nat.le_refl _
  tick d w := Nat.le_add_right w.env.now d
  fault := trivial
  run _ _ _ _ := trivial
  answer _ _ _ _ _ _ _ := trivial
  inv := lasting_keys
  pre _ := lasting_true
  post _ _ := lasting_true

end Invariant

section Stable

theorem stable_rowOf (k : Id) (r : Option Schedule) (hk : .schedule k ∈ ks) :
    Stable discipline i ks (fun w => rowOf w.db k = r) where
  commit w c t _ _ _ hv _ hd h := by
    change rowOf (t.view w.db) k = r
    rw [view_eq, rowOf_other, h]
    exact hv.untouched hd hk
  drift _ _ _ h := h

theorem stable_stopRow (k : Id) (r : Option RouteStation) (hk : .stop k ∈ ks) :
    Stable discipline i ks (fun w => stopRow w.db k = r) where
  commit w c t _ _ _ hv _ hd h := by
    change stopRow (t.view w.db) k = r
    rw [view_eq, stopRow_other, h]
    exact hv.untouched hd hk
  drift _ _ _ h := h

theorem lasting_now (date : Nat) : Lasting discipline (fun w => date ≤ w.env.now) where
  commit _ _ _ _ _ _ _ h := h
  drift _ _ hd h := h.trans hd

end Stable

end RailwayBooking.AdminService
