import RailwayBooking.ScheduleService.Announcements
import RailwayBooking.ScheduleService.Attachment

namespace RailwayBooking.ScheduleService

open Concurrency InventoryService

section Delivered

/-- The call is a delivery about schedules. -/
def Call.aboutSchedules : Call → Bool
  | .inventory _ => false
  | .scheduleCreated _ | .scheduleStatusChanged _ => true

variable (calls : Call → Prop) (inv : ScheduleWorld → Prop)
  (allow : Call → ScheduleWorld → Stmt scheduleService → Prop)
  (commits : Call → ScheduleTx → ScheduleWorld → Prop)

def delivered : Discipline machine where
  pre c _ := calls c ∧ c.aboutSchedules = true
  inv
  allow c _ w s := allow c w s
  commits
  asks _ _ _ := True
  drift _ _ := True
  raises _ := True
  post _ _ _ := True

variable {calls inv allow commits}

theorem delivered_lawful (h : Lasting (delivered calls inv allow commits) inv) :
    (delivered calls inv allow commits).Lawful where
  ask _ _ _ _ _ _ _ _ _ := trivial
  tick _ _ := trivial
  fault := trivial
  run _ _ _ _ := trivial
  answer _ _ _ _ _ _ _ := trivial
  inv := h
  pre _ := lasting_const _
  post _ _ := lasting_true

theorem delivered_idles {c : Call} (h : Lasting (delivered calls inv allow commits) inv)
    (hidle : ∀ t w, t.writes = [] → commits c t w) :
    Idles (delivered calls inv allow commits) c (fun _ => True) where
  lawful := delivered_lawful h
  asks _ _ := trivial
  lasting := lasting_true
  idle t w _ _ hw := ⟨hidle t w hw, trivial⟩

theorem delivered_sound (h : Lasting (delivered calls inv allow commits) inv)
    (hcreated : ∀ i parsed, ∃ F G, Projects (delivered calls inv allow commits) i
      (.scheduleCreated (.event parsed)) parsed F G (fun _ => True))
    (hchanged : ∀ i changed, ∃ E F, Changes (delivered calls inv allow commits) i
      (.scheduleStatusChanged (.event changed)) changed E F (fun _ => True)) :
    (delivered calls inv allow commits).Sound := by
  intro i c w _ hp
  cases c with
  | inventory call => cases hp.2
  | scheduleCreated m =>
    refine ok_consumed (delivered_lawful h) (fun _ _ => trivial) (fun _ _ => trivial) ?_
    rintro e rfl
    obtain ⟨F, G, hprojects⟩ := hcreated i e
    exact Ok.mono (fun _ _ _ hq => hq.1) (fun _ _ _ hx => hx.2) (ok_processCreated hprojects)
  | scheduleStatusChanged m =>
    refine ok_consumed (delivered_lawful h) (fun _ _ => trivial) (fun _ _ => trivial) ?_
    rintro e rfl
    obtain ⟨E, F, hchanges⟩ := hchanged i e
    exact Ok.mono (fun _ _ _ hq => hq.1) (fun _ _ _ hx => hx.2) (ok_processStatusChanged hchanges)

end Delivered

/-- The schedule and the row that the event of a delivery stands for. -/
def Call.brings : Call → Option (Id × ScheduleInventory)
  | .scheduleCreated (.event e) => some (e.scheduleId, ⟨foldStatus e.status, e.version⟩)
  | .scheduleStatusChanged (.event e) => some (e.scheduleId, ⟨foldStatus e.status, e.version⟩)
  | _ => none

def ScheduleOutboxEvent.carries : ScheduleOutboxEvent → Id × Nat
  | .projected _ scheduleId version => (scheduleId, version)
  | .statusChanged _ scheduleId _ version => (scheduleId, version)

/-- From one committed state to the next the version of a schedule does not fall, and
where it changes one outbox row is added, which carries it. -/
structure Follows (k : Id) (d d' : Db) : Prop where
  version : ∀ row, rowOf d k = some row → ∃ row', rowOf d' k = some row' ∧ row.version ≤ row'.version
  emitted : ∀ row', rowOf d' k = some row' →
    (∀ row, rowOf d k = some row → row.version ≠ row'.version) →
    ∃ event : ScheduleOutboxEvent, event.carries = (k, row'.version) ∧
      d'.outbox = d.outbox ++ [event]

/-- What is seen of a schedule in a pool: its row is that of a delivered event, and
whatever happens next follows it. -/
structure NeverBack (S : Scope machine) (calls : Call → Prop) (p : Pool machine) (k : Id) :
    Prop where
  stored : ∀ row, rowOf p.world.db k = some row → ∃ c, calls c ∧ c.brings = some (k, row)
  follows : ∀ a p', S.Permits p a → p.act a = some p' → Follows k p.world.db p'.world.db

def Low (k : Id) (version : Nat) (w : ScheduleWorld) : Prop :=
  ∀ row, rowOf w.db k = some row → row.version ≤ version

/-- A row is deleted for an event only where its version is still not above the
event's. -/
def Unsurpassed (c : Call) (w : ScheduleWorld) (s : Stmt scheduleService) : Prop :=
  ∀ h e, c = .scheduleCreated (.event e) → s = .sql (some h) (.deleteByScheduleId e.scheduleId) →
    Low e.scheduleId e.version w

/-- The transaction leaves this row of a schedule, and one outbox row with its
version. -/
structure Puts (t : ScheduleTx) (k : Id) (row : ScheduleInventory) : Prop where
  stands : ∀ d, rowOf (t.view d) k = some row
  others : ∀ d j, j ≠ k → rowOf (t.view d) j = rowOf d j
  outbox : ∃ event : ScheduleOutboxEvent, event.carries = (k, row.version) ∧
    ∀ d, (t.view d).outbox = d.outbox ++ [event]

inductive Moves (c : Call) (t : ScheduleTx) (w : ScheduleWorld) : Prop
  | kept (writes : t.writes = [])
  | put (k : Id) (row : ScheduleInventory) (brings : c.brings = some (k, row))
      (low : Low k row.version w) (puts : Puts t k row)

/-- Deliveries of these events, none of which overwrites a row that has gone past it. -/
def unsurpassedRuns (calls : Call → Prop) : Scope machine where
  start c _ := calls c ∧ c.aboutSchedules = true
  allow c _ w s := Unsurpassed c w s

def Versions.discipline (calls : Call → Prop) : Discipline machine :=
  delivered calls (fun w => ∀ k row, rowOf w.db k = some row → ∃ c, calls c ∧
    c.brings = some (k, row)) Unsurpassed Moves

theorem unsurpassedRuns_within (calls : Call → Prop) :
    (unsurpassedRuns calls).Within (Versions.discipline calls) where
  start _ _ h := h
  allow _ _ _ _ h := h

section Writes

variable {t : ScheduleTx} {k : Id} {row : ScheduleInventory}

def Write.event? : Write → Option ScheduleOutboxEvent
  | .outbox event => some event
  | _ => none

theorem applyAll_outbox (d : Db) (ws : List Write) :
    (applyAll d ws).outbox = d.outbox ++ ws.filterMap Write.event? := by
  induction ws generalizing d with
  | nil => simp [applyAll]
  | cons x ws ih =>
    rw [applyAll_cons, ih]
    cases x <;> simp [Write.apply, Write.event?, List.filterMap_cons]

theorem puts_of_writes (row : ScheduleInventory) (pre post : List Write)
    (event : ScheduleOutboxEvent)
    (hw : t.writes = pre ++ .schedule k row :: (post ++ [.outbox event]))
    (hpre : ∀ x ∈ pre, ∃ ids, x = .deleted k ids)
    (hpost : ∀ x ∈ post, x.event? = none ∧ ∀ j, Key.schedule j ∉ x.keys)
    (he : event.carries = (k, row.version)) : Puts t k row where
  stands d := by
    rw [view_eq, hw, applyAll, List.foldl_append]
    apply rowOf_put
    intro x hx
    obtain hx | hx := List.mem_append.mp hx
    · exact (hpost x hx).2 k
    · rw [List.mem_singleton.mp hx]
      simp [Write.keys]
  others d j hj := by
    rw [view_eq, rowOf_other]
    intro x hx hkey
    rw [hw] at hx
    obtain hx | hx := List.mem_append.mp hx
    · obtain ⟨ids, rfl⟩ := hpre x hx
      simp [Write.keys, hj] at hkey
    obtain rfl | hx := List.mem_cons.mp hx
    · exact hj (Key.schedule.inj (List.mem_singleton.mp hkey))
    obtain hx | hx := List.mem_append.mp hx
    · exact (hpost x hx).2 j hkey
    · rw [List.mem_singleton.mp hx] at hkey
      simp [Write.keys] at hkey
  outbox := by
    refine ⟨event, he, fun d => ?_⟩
    have hnone : pre.filterMap Write.event? = [] := by
      apply List.filterMap_eq_nil_iff.mpr
      intro x hx
      obtain ⟨ids, rfl⟩ := hpre x hx
      rfl
    have hnone' : post.filterMap Write.event? = [] :=
      List.filterMap_eq_nil_iff.mpr fun x hx => (hpost x hx).1
    rw [view_eq, applyAll_outbox, hw, List.filterMap_append, hnone, List.filterMap_cons,
      List.filterMap_append, hnone']
    rfl

theorem Moves.follows {c : Call} {w : ScheduleWorld} (h : Moves c t w) (j : Id) :
    Follows j w.db (t.view w.db) := by
  have hsame : rowOf (t.view w.db) j = rowOf w.db j → Follows j w.db (t.view w.db) := by
    intro hrow
    refine ⟨fun row hr => ⟨row, hrow.trans hr, Nat.le_refl _⟩, fun row' hr' hne => ?_⟩
    exact absurd rfl (hne row' (hrow.symm.trans hr'))
  cases h with
  | kept hw =>
    apply hsame
    rw [view_eq, hw]
    rfl
  | put k row _ hlow hputs =>
    by_cases hj : j = k
    · subst hj
      refine ⟨fun r hr => ⟨row, hputs.stands w.db, hlow r hr⟩, fun row' hr' _ => ?_⟩
      rw [hputs.stands w.db] at hr'
      cases hr'
      obtain ⟨event, he, hout⟩ := hputs.outbox
      exact ⟨event, he, hout w.db⟩
    · exact hsame (hputs.others w.db j hj)

end Writes

namespace Versions

variable {calls : Call → Prop} {i : Nat} {c : Call} {h : Nat} {t : ScheduleTx}
  {ts : Stack scheduleService} {w : ScheduleWorld}

theorem lasting_inv : Lasting (discipline calls) (discipline calls).inv where
  commit w c t hi hp hc _ _ := by
    intro j row' hrow
    change rowOf (t.view w.db) j = some row' at hrow
    cases hc with
    | kept hw =>
      rw [view_eq, hw] at hrow
      exact hi j row' hrow
    | put k row hb _ hputs =>
      by_cases hj : j = k
      · subst hj
        rw [hputs.stands w.db] at hrow
        cases hrow
        exact ⟨c, hp.1, hb⟩
      · rw [hputs.others w.db j hj] at hrow
        exact hi j row' hrow
  drift _ _ _ h := h

theorem stable_low {ks : List Key} {k : Id} (version : Nat) (hk : .schedule k ∈ ks) :
    Stable (discipline calls) i ks (Low k version) :=
  stable_row (fun r => ∀ row, r = some row → row.version ≤ version) hk

theorem idles : Idles (discipline calls) c (fun _ => True) :=
  delivered_idles lasting_inv fun _ _ hw => .kept hw

theorem projects (parsed : ScheduleCreated) :
    Projects (discipline calls) i (.scheduleCreated (.event parsed)) parsed
      (fun _ => Low parsed.scheduleId parsed.version)
      (fun _ _ => Low parsed.scheduleId parsed.version) (fun _ => True) where
  toIdles := idles
  argument := trivial
  known _ _ hk := stable_low _ hk
  seated _ _ _ hk := stable_low _ hk
  current _ _ _ _ _ := trivial
  absent _ _ hnone row hrow := by
    rw [hnone] at hrow
    cases hrow
  older _ _ _ _ _ h _ _ _ hun := hun h parsed rfl rfl
  drawn _ _ _ hlow _ := hlow
  commits deleted ids eventId _ _ t _ _ _ hlow _ _ hwrites _ := by
    refine ⟨.put parsed.scheduleId ⟨foldStatus parsed.status, parsed.version⟩ rfl hlow ?_, trivial⟩
    refine puts_of_writes _ (deleted.map (Write.deleted parsed.scheduleId)).toList
      [.stops (routeStopsData parsed), .seats (seatInventoriesData parsed ids)]
      (.projected eventId parsed.scheduleId parsed.version) hwrites (fun x hx => ?_) ?_ rfl
    · obtain ⟨gone, -, rfl⟩ := Option.map_eq_some_iff.mp (Option.mem_toList.mp hx)
      exact ⟨gone, rfl⟩
    · simp [Write.event?, Write.keys]

theorem changes (changed : ScheduleStatusChanged) :
    Changes (discipline calls) i (.scheduleStatusChanged (.event changed)) changed
      (fun _ => True) (Low changed.scheduleId changed.version) (fun _ => True) where
  toIdles := idles
  missing _ _ _ _ _ _ := trivial
  found _ _ _ _ := trivial
  persists := lasting_true
  current _ _ _ _ := trivial
  lower _ row _ _ hrow hlt row' hrow' := by
    rw [hrow] at hrow'
    cases hrow'
    exact Nat.le_of_lt hlt
  known _ hk := stable_low _ hk
  commits eventId _ _ _ _ _ hlow _ hwrites := by
    refine ⟨.put changed.scheduleId ⟨foldStatus changed.status, changed.version⟩ rfl hlow ?_,
      trivial⟩
    exact puts_of_writes _ [] [] (.statusChanged eventId changed.scheduleId
      (foldStatus changed.status) changed.version) hwrites (by simp) (by simp) rfl

theorem sound : (discipline calls).Sound :=
  delivered_sound lasting_inv (fun _ parsed => ⟨_, _, projects parsed⟩)
    fun _ changed => ⟨_, _, changes changed⟩

theorem lawful : (discipline calls).Lawful := delivered_lawful lasting_inv

end Versions

theorem Follows.refl (k : Id) (d : Db) : Follows k d d where
  version row hrow := ⟨row, hrow, Nat.le_refl _⟩
  emitted row hrow hne := absurd rfl (hne row hrow)

/-- Where no event overwrites a row that has gone past it, the row of a schedule is that
of a delivered event in every state, its version never falls, and every change of it is
announced once. -/
theorem neverBack_of_unsurpassedRuns (calls : Call → Prop) {now : Nat} {p : Pool machine}
    (h : Reachable (unsurpassedRuns calls) (start now) p) (k : Id) :
    NeverBack (unsurpassedRuns calls) calls p k := by
  have hinv : (Versions.discipline calls).inv (start now).world := by
    intro j row hrow
    cases hrow
  have hwf := Reachable.wellFormed Versions.lawful Versions.sound (unsurpassedRuns_within calls)
    (wellFormed_init hinv) h
  refine ⟨hwf.inv k, fun a p' ha hp' => ?_⟩
  obtain ⟨-, he⟩ := wellFormed_act Versions.lawful (unsurpassedRuns_within calls) hwf ha hp'
  generalize p'.world = w' at he
  cases he with
  | none => exact .refl k _
  | drift => exact .refl k _
  | commit _ _ _ _ hmoves => exact hmoves.follows k

section Schedules

def unsurpassedTest (c : Call) (w : ScheduleWorld) : Stmt scheduleService → Bool
  | .sql (some _) (.deleteByScheduleId scheduleId) =>
    match c with
    | .scheduleCreated (.event e) => e.scheduleId != scheduleId ||
        (rowOf w.db scheduleId).all (fun row => row.version ≤ e.version)
    | _ => true
  | _ => true

theorem unsurpassed_of_test {c : Call} {w : ScheduleWorld} {s : Stmt scheduleService}
    (h : unsurpassedTest c w s = true) : Unsurpassed c w s := by
  rintro _ e rfl rfl row hrow
  simpa [unsurpassedTest, hrow] using h

def sampleChanged (version : Nat) : ScheduleStatusChanged := ⟨1, .cancelled, version⟩

/-- A schedule is projected, cancelled, and projected again. -/
theorem neverBack_reprojected : ∃ p, Reachable (unsurpassedRuns fun _ => True) (start 0) p ∧
    rowOf p.world.db 1 = some ⟨.active, 3⟩ ∧
      NeverBack (unsurpassedRuns fun _ => True) (fun _ => True) p 1 := by
  obtain ⟨p, hp, ht⟩ := exists_reachable (unsurpassedRuns fun _ => True) (start 0)
    (guards unsurpassedTest)
    (inTurn 20 [.scheduleCreated (.event (sampleCreated 1)),
      .scheduleStatusChanged (.event (sampleChanged 2)),
      .scheduleCreated (.event (sampleCreated 3))])
    (fun p => decide (rowOf p.world.db 1 = some ⟨.active, 3⟩))
    (permits_guards fun _ _ _ _ h => unsurpassed_of_test h)
    (by simp [inTurn, Move.started, unsurpassedRuns, Call.aboutSchedules]) (by decide +kernel)
  exact ⟨p, hp, of_decide_eq_true ht, neverBack_of_unsurpassedRuns _ hp 1⟩

/-- A creation of version 3 finds version 1, a change of status to version 5 commits,
and the creation deletes that row and puts its own. -/
theorem not_neverBack : ¬ ∀ (calls : Call → Prop) (now : Nat) (p : Pool machine) (k : Id),
    Reachable (Scope.calls fun c : Call => calls c ∧ c.aboutSchedules = true) (start now) p →
      NeverBack (Scope.calls fun c : Call => calls c ∧ c.aboutSchedules = true) calls p k := by
  intro hall
  obtain ⟨p, hp, ht⟩ := exists_reachable
    (Scope.calls (M := machine) fun c : Call => True ∧ c.aboutSchedules = true) (start 0)
    (fun _ _ => true)
    [.call (.scheduleCreated (.event (sampleCreated 1))), .burst 0 20,
      .call (.scheduleCreated (.event (sampleCreated 3))), .burst 1 2,
      .call (.scheduleStatusChanged (.event (sampleChanged 5))), .burst 2 20, .burst 1 7]
    (fun p => (p.act (.run 1 .ok)).any (fun p' => decide
      (rowOf p.world.db 1 = some ⟨.cancelled, 5⟩ ∧ rowOf p'.world.db 1 = some ⟨.active, 3⟩)))
    (fun p a _ => permits_calls p a) (by simp [Move.started, Call.aboutSchedules])
    (by decide +kernel)
  obtain ⟨p', hact, hrows⟩ := (Option.any_eq_true _ _).mp ht
  obtain ⟨hfive, hthree⟩ := of_decide_eq_true hrows
  have hback := (hall (fun _ => True) 0 p 1 hp).follows _ p' (permits_calls _ _) hact
  obtain ⟨row, hrow, hle⟩ := hback.version _ hfive
  rw [hthree] at hrow
  cases hrow
  exact absurd hle (by decide)

end Schedules

end RailwayBooking.ScheduleService
