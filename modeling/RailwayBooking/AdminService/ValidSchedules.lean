import RailwayBooking.Concurrency.Schedule
import RailwayBooking.AdminService.Sound

namespace RailwayBooking.AdminService

open Concurrency

/-- The train operates on the day, and its route is active and has two stops. -/
structure RunsOn (d : Db) (trainId : Id) (dayOfWeek : Nat) : Prop where
  day : dayOfWeek ∈ d.daysOf trainId
  route : ∃ r ∈ d.routes, r.trainId = trainId ∧ r.isActive = true ∧ 2 ≤ (d.stopsOf r.id).length

instance (d : Db) (trainId : Id) (dayOfWeek : Nat) : Decidable (RunsOn d trainId dayOfWeek) :=
  decidable_of_iff (dayOfWeek ∈ d.daysOf trainId ∧ ∃ r ∈ d.routes, r.trainId = trainId ∧
    r.isActive = true ∧ 2 ≤ (d.stopsOf r.id).length) ⟨fun h => ⟨h.1, h.2⟩, fun h => ⟨h.1, h.2⟩⟩

/-- Every active schedule that has not departed has its train running on its day. -/
def Valid (d : Db) (now : Nat) : Prop :=
  ∀ s ∈ d.schedules, s.status = .active → now ≤ s.departureDate →
    RunsOn d s.trainId (getUTCDay s.departureDate)

instance (d : Db) (now : Nat) : Decidable (Valid d now) :=
  inferInstanceAs (Decidable (∀ s ∈ d.schedules, _))

/-- The checks of a request on given tables. A change of status makes none; those of the
creation stand in for them here. -/
def ChecksPass (d : Db) (now : Nat) : Call → Prop
  | .createSchedule dto => now ≤ startOfDay dto.departureDate →
      RunsOn d dto.trainId (getUTCDay (startOfDay dto.departureDate))
  | .updateScheduleStatus id status => status = .active → ∀ s ∈ d.schedules, s.id = id →
      now ≤ s.departureDate → RunsOn d s.trainId (getUTCDay s.departureDate)
  | .updateTrainOperatingDays trainId newDays =>
      ∀ s ∈ d.futureActive trainId now, getUTCDay s.departureDate ∈ newDays
  | .updateRouteStatus routeId isActive => isActive = false → ∀ r ∈ d.routes, r.id = routeId →
      d.futureActive r.trainId now = []
  | .deleteRoute routeId => ∀ r ∈ d.routes, r.id = routeId → d.futureActive r.trainId now = []
  | .addStationToRoute _ _ => True
  | .removeRouteStation routeStationId => ∀ stop ∈ d.routeStations, stop.id = routeStationId →
      ∀ r ∈ d.routes, r.id = stop.routeId → d.futureActive r.trainId now ≠ [] →
        2 < (d.stopsOf r.id).length

instance (d : Db) (now : Nat) : (c : Call) → Decidable (ChecksPass d now c)
  | .createSchedule _ => inferInstanceAs (Decidable (_ → _))
  | .updateScheduleStatus _ _ => inferInstanceAs (Decidable (_ → ∀ s ∈ d.schedules, _))
  | .updateTrainOperatingDays trainId _ =>
      inferInstanceAs (Decidable (∀ s ∈ d.futureActive trainId now, _))
  | .updateRouteStatus _ _ => inferInstanceAs (Decidable (_ → ∀ r ∈ d.routes, _))
  | .deleteRoute _ => inferInstanceAs (Decidable (∀ r ∈ d.routes, _))
  | .addStationToRoute _ _ => inferInstanceAs (Decidable True)
  | .removeRouteStation _ =>
      inferInstanceAs (Decidable (∀ stop ∈ d.routeStations, _ → ∀ r ∈ d.routes, _))

def Sql.checks : Sql → Bool
  | .findTrain _ | .findRoute _ _ | .findRouteStations _ | .findRouteStation _
  | .futureActiveSchedules _ _ | .countFutureActive _ _ => true
  | _ => false

def Current (t : AdminTx) (w : AdminWorld) : Prop :=
  ∀ (q : Sql) (a : Rows q), q.checks = true → t.Answered q a → ∃ ws ks, run q w.db = .ok (a, ws, ks)

def Reactivates (c : Call) : Prop := ∃ id, c = .updateScheduleStatus id .active

/-- Where the transaction commits, its checks would pass again, or it has made them on the
tables as they are. -/
def Checked (c : Call) (t : AdminTx) (w : AdminWorld) : Prop :=
  ChecksPass w.db w.env.now c ∨ (Current t w ∧ ¬ Reactivates c)

/-- The runs in which every commit is checked. -/
def checkedRuns : Scope machine where
  start _ _ := True
  allow c t w s := ∀ h t', s = .commit h → t = some t' → Checked c t' w

theorem checkedRuns_within : checkedRuns.Within discipline where
  start _ _ _ := trivial
  allow _ _ _ _ _ := trivial

section Lookups

variable {d : Db} {trainId : Id} {now date : Nat} {s : Schedule}

theorem mem_futureActive : s ∈ d.futureActive trainId now ↔
    s ∈ d.schedules ∧ s.trainId = trainId ∧ s.status = .active ∧ now ≤ s.departureDate := by
  simp [Db.futureActive, List.mem_filter, and_assoc]

theorem futureActive_mono (h : date ≤ now) (hs : s ∈ d.futureActive trainId now) :
    s ∈ d.futureActive trainId date := by
  obtain ⟨hmem, ht, hact, hle⟩ := mem_futureActive.mp hs
  exact mem_futureActive.mpr ⟨hmem, ht, hact, h.trans hle⟩

theorem Db.Keys.route_eq (hk : d.Keys) {r r' : Route} (hr : r ∈ d.routes) (hr' : r' ∈ d.routes)
    (h : r.id = r'.id) : r = r' :=
  List.inj_on_of_nodup_map hk.routes hr hr' h

theorem Db.Keys.stop_eq (hk : d.Keys) {s s' : RouteStation} (hs : s ∈ d.routeStations)
    (hs' : s' ∈ d.routeStations) (h : s.id = s'.id) : s = s' :=
  List.inj_on_of_nodup_map hk.routeStations hs hs' h

theorem stopsOf_length (routeId : Id) {routeStation : List StopWithStation} {ws : List Write}
    {ks : List Key} (h : run (.findRouteStations routeId) d = .ok (routeStation, ws, ks)) :
    routeStation.length = (d.stopsOf routeId).length := by
  cases h
  rw [List.length_map, List.length_insertionSort]

theorem found_route {key : RouteWhere} {includeInactive : Bool} {r : Route} {ws : List Write}
    {ks : List Key} (h : run (.findRoute key includeInactive) d = .ok (some r, ws, ks)) :
    r ∈ d.routes ∧ key.test r = true ∧ (includeInactive = true ∨ r.isActive = true) := by
  have hfind := congrArg Prod.fst (Except.ok.inj h)
  have htest := List.find?_some hfind
  rw [Bool.and_eq_true, Bool.or_eq_true] at htest
  exact ⟨List.mem_of_find?_eq_some hfind, htest.1, htest.2⟩

theorem found_days {train : Train} {days : List Nat} {ws : List Write} {ks : List Key}
    (h : run (.findTrain trainId) d = .ok (some (train, days), ws, ks)) : days = d.daysOf trainId := by
  obtain ⟨_, _, heq⟩ := Option.map_eq_some_iff.mp (congrArg Prod.fst (Except.ok.inj h))
  exact (congrArg Prod.snd heq).symm

theorem length_le_filter_ne {α : Type} (key : α → Id) {as : List α} (h : (as.map key).Nodup)
    (k : Id) : as.length ≤ (as.filter (fun a => key a ≠ k)).length + 1 := by
  have hone : (as.filter (fun a => key a = k)).length ≤ 1 := by
    rw [← List.countP_eq_length_filter,
      show as.countP (fun a => key a = k) = (as.map key).count k by
        rw [List.count, List.countP_map]
        apply List.countP_congr
        intro a _
        simp [Function.comp]]
    exact List.nodup_iff_count_le_one.mp h k
  have hrest : as.filter (fun a => key a ≠ k) = as.filter (fun a => !decide (key a = k)) := by
    congr
    funext a
    exact decide_not
  have hsplit := List.length_eq_length_filter_add (l := as) (fun a => decide (key a = k))
  rw [hrest]
  omega

end Lookups

section Checks

variable {c : Call} {t : AdminTx} {w : AdminWorld} {routeId : Id}

theorem Unreferenced.futureActive (h : Unreferenced routeId t w) (hcur : Current t w)
    (hk : w.db.Keys) {r : Route} (hr : r ∈ w.db.routes) (hid : r.id = routeId) :
    w.db.futureActive r.trainId w.env.now = [] := by
  obtain ⟨route, date, hroute, hcount, hdate⟩ := h.seen
  obtain ⟨_, _, hrun⟩ := hcur _ _ rfl hroute
  obtain ⟨hmem, htest, -⟩ := found_route hrun
  have hsame : r = route := hk.route_eq hr hmem (hid.trans (of_decide_eq_true htest).symm)
  obtain ⟨_, _, hrun⟩ := hcur _ _ rfl hcount
  have hzero : (w.db.futureActive route.trainId date).length = 0 :=
    congrArg Prod.fst (Except.ok.inj hrun)
  rw [hsame]
  apply List.eq_nil_iff_forall_not_mem.mpr
  intro s hs
  have hpast := futureActive_mono hdate hs
  rw [List.length_eq_zero_iff.mp hzero] at hpast
  cases hpast

theorem Commit.checksPass (h : Commit c t w) (hk : w.db.Keys) (hv : Valid w.db w.env.now)
    (hcur : Current t w) (hre : ¬ Reactivates c) : ChecksPass w.db w.env.now c := by
  cases h with
  | created schedule payload train days route routeStation hfound hop hroute hstops hlong =>
    intro _
    obtain ⟨_, _, hrun⟩ := hcur _ _ rfl hfound
    rw [found_days hrun] at hop
    obtain ⟨_, _, hrun⟩ := hcur _ _ rfl hroute
    obtain ⟨hmem, htest, hact⟩ := found_route hrun
    obtain ⟨_, _, hrun⟩ := hcur _ _ rfl hstops
    rw [stopsOf_length _ hrun] at hlong
    exact ⟨hop, route, hmem, of_decide_eq_true htest, hact.resolve_left Bool.false_ne_true, hlong⟩
  | unchanged | statusChanged =>
    intro hact
    rw [hact] at hre
    exact absurd ⟨_, rfl⟩ hre
  | operatingDays train currentDays deleted hfound hunref =>
    intro s hs
    obtain ⟨hmem, ht, hact, hle⟩ := mem_futureActive.mp hs
    obtain ⟨_, _, hrun⟩ := hcur _ _ rfl hfound
    have hday : getUTCDay s.departureDate ∈ currentDays := by
      rw [found_days hrun, ← ht]
      exact (hv s hmem hact hle).day
    obtain hall | ⟨date, dates, hdates, hdate, hall⟩ := hunref
    · exact hall _ hday
    · obtain ⟨_, _, hrun⟩ := hcur _ _ rfl hdates
      refine hall _ ?_ hday
      cases hrun
      exact List.mem_map_of_mem (futureActive_mono hdate hs)
  | routeStatus _ _ hunref =>
    intro hact r hr hid
    exact (hunref hact).futureActive hcur hk hr hid
  | routeDeleted _ _ hunref =>
    intro r hr hid
    exact hunref.futureActive hcur hk hr hid
  | stationAdded => trivial
  | stationRemoved stop route routeStation row _ _ hfound hroute hstops hlong =>
    intro stop' hstop' hid r hr hrid _
    obtain ⟨_, _, hrun⟩ := hcur _ _ rfl hfound
    obtain ⟨found, hfind, rfl⟩ := Option.map_eq_some_iff.mp (congrArg Prod.fst (Except.ok.inj hrun))
    have hsame : stop' = found := hk.stop_eq hstop' (List.mem_of_find?_eq_some hfind)
      (hid.trans (stopRow_id hfind).symm)
    obtain ⟨_, _, hrun⟩ := hcur _ _ rfl hroute
    obtain ⟨hmem, htest, -⟩ := found_route hrun
    have hroute : r = route := by
      apply hk.route_eq hr hmem
      rw [hrid, hsame]
      exact (of_decide_eq_true htest).symm
    obtain ⟨_, _, hrun⟩ := hcur _ _ rfl hstops
    rw [hroute, ← stopsOf_length _ hrun]
    exact hlong

theorem Checked.checksPass (h : Checked c t w) (hc : Commit c t w) (hk : w.db.Keys)
    (hv : Valid w.db w.env.now) : ChecksPass w.db w.env.now c :=
  h.elim id fun ⟨hcur, hre⟩ => hc.checksPass hk hv hcur hre

end Checks

section Preservation

variable {c : Call} {t : AdminTx} {w : AdminWorld} {d : Db} {now : Nat}

/-- A stop that is removed leaves two of the route's, where the route had more or the stop
was another's. -/
theorem stopsOf_removed (hk : d.Keys) {k routeId : Id} (hlong : 2 ≤ (d.stopsOf routeId).length)
    (hmore : ∀ stop ∈ d.routeStations, stop.id = k → stop.routeId = routeId →
      2 < (d.stopsOf routeId).length) :
    2 ≤ ((d.routeStations.filter (fun s => s.id ≠ k)).filter
      (fun s => s.routeId = routeId)).length := by
  rw [List.filter_comm]
  change 2 ≤ ((d.stopsOf routeId).filter (fun s => s.id ≠ k)).length
  by_cases hany : ∃ stop ∈ d.stopsOf routeId, stop.id = k
  · obtain ⟨stop, hstop, hid⟩ := hany
    obtain ⟨hmem, hroute⟩ := List.mem_filter.mp hstop
    have hthree := hmore stop hmem hid (of_decide_eq_true hroute)
    have hone := length_le_filter_ne RouteStation.id
      (hk.routeStations.sublist (List.filter_sublist.map _) :
        ((d.stopsOf routeId).map RouteStation.id).Nodup) k
    omega
  · rw [List.filter_eq_self.mpr]
    · exact hlong
    · intro stop hstop
      have hne : stop.id ≠ k := fun hid => hany ⟨stop, hstop, hid⟩
      simpa using hne

theorem runsOn_route {routeId : Id} {isActive : Bool} {event : OutboxEvent} {s : Schedule}
    (hc : isActive = false → ∀ r ∈ d.routes, r.id = routeId → d.futureActive r.trainId now = [])
    (h : RunsOn d s.trainId (getUTCDay s.departureDate)) (hs : s ∈ d.schedules)
    (hact : s.status = .active) (hle : now ≤ s.departureDate) :
    RunsOn (applyAll d [.route routeId isActive, .outbox event]) s.trainId
      (getUTCDay s.departureDate) := by
  obtain ⟨hday, r, hr, ht, hra, hlong⟩ := h
  refine ⟨hday, r.updated routeId isActive, List.mem_map_of_mem hr, ?_, ?_, ?_⟩
  · rw [Route.updated_trainId]
    exact ht
  · unfold Route.updated
    split
    · next hid =>
      by_contra hoff
      have hnone := hc (Bool.eq_false_iff.mpr hoff) r hr hid
      have hmem := mem_futureActive.mpr ⟨hs, ht.symm, hact, hle⟩
      rw [hnone] at hmem
      cases hmem
    · exact hra
  · rw [Route.updated_id]
    exact hlong

theorem Commit.valid (h : Commit c t w) (hk : w.db.Keys) (hv : Valid w.db now)
    (hc : ChecksPass w.db now c) : Valid (t.view w.db) now := by
  rw [view_eq]
  intro s hs hact hle
  cases h with
  | created schedule payload _ _ _ _ _ _ _ _ _ hrow _ _ hw =>
    rw [hw] at hs ⊢
    obtain hs | hs := List.mem_append.mp hs
    · obtain ⟨hday, hroute⟩ := hv s hs hact hle
      exact ⟨hday, hroute⟩
    · rw [List.mem_singleton.mp hs, hrow] at hle ⊢
      obtain ⟨hday, hroute⟩ := hc hle
      exact ⟨hday, hroute⟩
  | unchanged hw =>
    rw [hw] at hs ⊢
    exact hv s hs hact hle
  | @statusChanged _ _ id status schedule payload _ _ hw =>
    rw [hw] at hs ⊢
    obtain ⟨s, hmem, rfl⟩ := List.mem_map.mp hs
    change (s.updated id status _).status = _ at hact
    change now ≤ (s.updated id status _).departureDate at hle
    change RunsOn _ (s.updated id status _).trainId
      (getUTCDay (s.updated id status _).departureDate)
    rw [Schedule.updated_departureDate] at hle ⊢
    rw [Schedule.updated_trainId]
    have hruns : RunsOn w.db s.trainId (getUTCDay s.departureDate) := by
      by_cases hid : s.id = id
      · rw [Schedule.updated, if_pos hid] at hact
        exact hc hact s hmem hid hle
      · rw [Schedule.updated, if_neg hid] at hact
        exact hv s hmem hact hle
    exact ⟨hruns.day, hruns.route⟩
  | @operatingDays _ _ trainId newDays train currentDays deleted _ _ hw =>
    rw [hw] at hs ⊢
    obtain ⟨hday, hroute⟩ := hv s hs hact hle
    refine ⟨?_, hroute⟩
    change _ ∈ ((w.db.operatingDays.filter _ ++ newDays.map (OperatingDay.mk trainId)).filter
      _).map OperatingDay.dayOfWeek
    rw [List.filter_append, List.map_append, List.mem_append]
    by_cases htrain : s.trainId = trainId
    · right
      have hnew := hc s (mem_futureActive.mpr ⟨hs, htrain, hact, hle⟩)
      refine List.mem_map.mpr ⟨⟨trainId, getUTCDay s.departureDate⟩, ?_, rfl⟩
      exact List.mem_filter.mpr ⟨List.mem_map_of_mem hnew, by simp [htrain]⟩
    · left
      obtain ⟨x, hx, heq⟩ := List.mem_map.mp hday
      obtain ⟨hx, hxt⟩ := List.mem_filter.mp hx
      have hother : x.trainId ≠ trainId := by
        rw [of_decide_eq_true hxt]
        exact htrain
      refine List.mem_map.mpr ⟨x, List.mem_filter.mpr ⟨List.mem_filter.mpr ⟨hx, ?_⟩, hxt⟩, heq⟩
      simp [hother]
  | @routeStatus _ _ routeId isActive _ _ _ hw =>
    rw [hw] at hs ⊢
    exact runsOn_route hc (hv s hs hact hle) hs hact hle
  | @routeDeleted _ _ routeId _ _ _ hw =>
    rw [hw] at hs ⊢
    exact runsOn_route (fun _ => hc) (hv s hs hact hle) hs hact hle
  | stationAdded row _ _ _ hw =>
    rw [hw] at hs ⊢
    obtain ⟨hday, r, hr, ht, hra, hlong⟩ := hv s hs hact hle
    refine ⟨hday, r, hr, ht, hra, ?_⟩
    change 2 ≤ ((w.db.routeStations ++ [row]).filter _).length
    rw [List.filter_append, List.length_append]
    exact hlong.trans (Nat.le_add_right _ _)
  | stationRemoved stop route routeStation row _ _ _ _ _ _ hdeleted hw =>
    rw [hw] at hs ⊢
    obtain ⟨hday, r, hr, ht, hra, hlong⟩ := hv s hs hact hle
    refine ⟨hday, r, hr, ht, hra, ?_⟩
    refine stopsOf_removed hk hlong fun stop' hstop' hid hroute => ?_
    refine hc stop' hstop' (hid.trans hdeleted) r hr hroute.symm fun hnone => ?_
    have hmem : s ∈ w.db.futureActive r.trainId now := mem_futureActive.mpr ⟨hs, ht.symm, hact, hle⟩
    rw [hnone] at hmem
    cases hmem

theorem keeps_valid : Keeps discipline checkedRuns (fun w => Valid w.db w.env.now) where
  commit w c t hi _ hc _ hp hv := by
    obtain ⟨hsite, hc⟩ := hc
    cases hp with
    | commit h allow => exact hc.valid hi hv ((allow h t rfl rfl).checksPass hc hi hv)
    | single i q a ws ks _ _ tx =>
      rw [tx] at hsite
      exact absurd rfl hsite
  drift w e hd hv s hs hact hle := hv s hs hact (hd.trans hle)

end Preservation

/-- In every run whose commits are all checked the active schedules stay valid. -/
theorem valid_of_checkedRuns {d : Db} {now : Nat} {p : Pool machine} (hk : d.Keys)
    (hv : Valid d now) (h : Reachable checkedRuns (start d now) p) :
    Valid p.world.db p.world.env.now :=
  Reachable.keeps lawful sound checkedRuns_within
    (wellFormed_init hk : WellFormed discipline (start d now)) keeps_valid hv h

section Runs

def sampleTables : Db where
  stations := [⟨1, "New Delhi", "NDLS", true⟩, ⟨2, "Kanpur", "CNB", true⟩,
    ⟨3, "Patna", "PNBE", true⟩]
  trains := [⟨1, "12301", "Rajdhani Express", .rajdhani, true⟩]
  coaches := []
  operatingDays := [⟨1, 0⟩, ⟨1, 1⟩]
  routes := [⟨1, 1, true⟩]
  routeStations := [⟨1, 1, 1, 1, none, some 0, 0, none⟩, ⟨2, 1, 2, 2, some 300, some 310, 440, none⟩,
    ⟨3, 1, 3, 3, some 720, none, 1000, none⟩]
  schedules := []
  outbox := []

theorem sampleTables_keys : sampleTables.Keys := ⟨by decide, by decide, by decide⟩

def sampleDate : Nat := 10 * millisecondsPerDay + 28800000

/-- The schedule is created, a stop is removed, the Mondays are given up, and the schedule
is cancelled and taken up again. -/
theorem valid_reactivated : ∃ p, Reachable checkedRuns (start sampleTables 0) p ∧
    p.world.db.schedules = [⟨0, 1, 10 * millisecondsPerDay, .active, 3⟩] ∧
      p.world.db.daysOf 1 = [0] ∧ (p.world.db.stopsOf 1).length = 2 ∧
        Valid p.world.db p.world.env.now := by
  obtain ⟨p, hp, ht⟩ := exists_reachable checkedRuns (start sampleTables 0)
    (guardsCommits fun c _ w => decide (ChecksPass w.db w.env.now c))
    [.call (.createSchedule ⟨1, sampleDate⟩), .burst 0 30,
      .call (.removeRouteStation 2), .burst 1 30,
      .call (.updateTrainOperatingDays 1 [0]), .burst 2 30,
      .call (.updateScheduleStatus 0 .cancelled), .burst 3 30,
      .call (.updateScheduleStatus 0 .active), .burst 4 30]
    (fun p => decide (p.world.db.schedules = [⟨0, 1, 10 * millisecondsPerDay, .active, 3⟩] ∧
      p.world.db.daysOf 1 = [0] ∧ (p.world.db.stopsOf 1).length = 2))
    (permits_guardsCommits fun c t w s h h' t' hs ht => .inl (of_decide_eq_true (h h' t' hs ht)))
    (fun _ _ _ _ _ => trivial) (by decide +kernel)
  obtain ⟨hschedules, hdays, hstops⟩ := of_decide_eq_true ht
  exact ⟨p, hp, hschedules, hdays, hstops,
    valid_of_checkedRuns sampleTables_keys (by decide) hp⟩

/-- The schedule is cancelled, its day is given up, and it is taken up again. -/
theorem not_valid : ¬ ∀ (d : Db) (now : Nat) (p : Pool machine), d.Keys → Valid d now →
    Reachable (Scope.calls fun _ => True) (start d now) p → Valid p.world.db p.world.env.now := by
  intro hall
  obtain ⟨p, hp, ht⟩ := exists_reachable (Scope.calls fun _ => True) (start sampleTables 0)
    (fun _ _ => true)
    [.call (.createSchedule ⟨1, sampleDate⟩), .burst 0 30,
      .call (.updateScheduleStatus 0 .cancelled), .burst 1 30,
      .call (.updateTrainOperatingDays 1 [1]), .burst 2 30,
      .call (.updateScheduleStatus 0 .active), .burst 3 30]
    (fun p => decide (¬ Valid p.world.db p.world.env.now))
    (fun p a _ => permits_calls p a) (fun _ _ _ _ _ => trivial) (by decide +kernel)
  exact of_decide_eq_true ht (hall sampleTables 0 p sampleTables_keys (by decide) hp)

end Runs

end RailwayBooking.AdminService
