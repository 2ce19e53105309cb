import RailwayBooking.InventoryService.Facts

namespace RailwayBooking.InventoryService

open Concurrency

/-- A service that has the tables of inventory-service among its own, and runs the code
on them. -/
structure Host (V : Service) where
  tables : V.Db → Db
  write : Write → V.Write
  key : Key → V.Key
  code : {α : Type} → InventoryCode α → Code V α
  answered : Tx V → (q : Sql) → Rows q → Prop

variable {V : Service} {M : Machine V} {D : Discipline M} {i : Nat} {c : M.Call} {h : Nat}
  {t t' : Tx V} {ts : Stack V} {w : World V M.Call}

namespace Host

variable (H : Host V)

/-- The transaction has issued `q` and was answered `a`. -/
structure Records {q : Sql} (a : Rows q) (ws : List Write) (ks : List Key) (t t' : Tx V) :
    Prop where
  site : t'.site = t.site
  writes : t'.writes = t.writes ++ ws.map H.write
  locks : t'.locks = t.locks ++ (Tx.rowKeys inventoryService ws ks).map H.key
  answered : H.answered t' q a
  kept : ∀ q' a', H.answered t q' a' → H.answered t' q' a'

structure Lawful : Prop where
  bind : ∀ {α β : Type} (p : InventoryCode α) (f : α → InventoryCode β),
    H.code (p >>= f) = H.code p >>= fun a => H.code (f a)
  apply : ∀ d x, H.tables (V.apply (H.write x) d) = x.apply (H.tables d)
  /-- An allocation comes and goes with its key only, -/
  allocation : ∀ d x (a : SeatAllocation), H.key (.allocation a.id) ∉ V.keys x →
    (a ∈ (H.tables (V.apply x d)).allocations ↔ a ∈ (H.tables d).allocations)
  /-- and so does an idempotency key. -/
  idempotency : ∀ d x k, H.key (.idempotency k) ∉ V.keys x →
    (k ∈ (H.tables (V.apply x d)).idempotency ↔ k ∈ (H.tables d).idempotency)
  sql : ∀ {M : Machine V} {D : Discipline M} (_ : D.Lawful) {i : Nat} {c : M.Call} {h : Nat}
    {t : Tx V} {ts : Stack V} {w : World V M.Call} {q : Sql} {F : World V M.Call → Prop}
    {Q : Rows q → Stack V → World V M.Call → Prop} (_ : Stable D i (t.locks ++ ts.locks) F)
    (_ : F w) (_ : ∀ w' t' a ws ks, D.inv w' → F w' →
      run q (H.tables (t.view w'.db)) = .ok (a, ws, ks) → H.Records a ws ks t t' →
        Q a ((h, t') :: ts) w'),
    Ok D i c Q (Inside D h ts) (H.code (Code.sql (V := inventoryService) (some h) q))
      ((h, t) :: ts) w

variable {H}

theorem tables_view (hH : H.Lawful) {ws : List Write} (hw : t.writes = ws.map H.write) (d : V.Db) :
    H.tables (t.view d) = applyAll (H.tables d) ws := by
  rw [Tx.view, hw]
  clear hw
  induction ws generalizing d with
  | nil => rfl
  | cons x ws ih =>
    rw [List.map_cons, List.foldl_cons, ih, hH.apply]
    rfl

theorem untouched {P : V.Db → Prop} {k : V.Key}
    (hP : ∀ d x, k ∉ V.keys x → (P (V.apply x d) ↔ P d)) (hk : ∀ x ∈ t.writes, k ∉ V.keys x)
    (d : V.Db) : P (t.view d) ↔ P d := by
  rw [Tx.view]
  generalize t.writes = ws at hk
  induction ws generalizing d with
  | nil => rfl
  | cons x ws ih =>
    rw [List.foldl_cons, ih _ (fun y hy => hk y (List.mem_cons_of_mem _ hy))]
    exact hP d x (hk x List.mem_cons_self)

def New (H : Host V) (x : Hold) (w : World V M.Call) : Prop :=
  ∀ a ∈ (H.tables w.db).allocations, ∀ a' ∈ x.rows, a.id ≠ a'.id

theorem stable_new (hH : H.Lawful) (x : Hold) {ks : List V.Key}
    (hk : ∀ a ∈ x.rows, H.key (.allocation a.id) ∈ ks) : Stable D i ks (H.New x) where
  commit w c t _ _ _ hv _ hd hnew a ha a' ha' he := by
    have hkey : H.key (.allocation a.id) ∈ ks := by
      rw [he]
      exact hk a' ha'
    have hother := untouched (P := fun d => a ∈ (H.tables d).allocations)
      (fun d y => hH.allocation d y a) (hv.untouched hd hkey) w.db
    exact hnew a (hother.mp ha) a' ha' he
  drift _ _ _ h := h

theorem stable_key (hH : H.Lawful) (k : EventKey) {ks : List V.Key}
    (hk : H.key (.idempotency k) ∈ ks) :
    Stable D i ks (fun w => k ∉ (H.tables w.db).idempotency) where
  commit w _ _ _ _ _ hv _ hd h hmem :=
    h ((untouched (P := fun d => k ∈ (H.tables d).idempotency)
      (fun d y => hH.idempotency d y k) (hv.untouched hd hk) w.db).mp hmem)
  drift _ _ _ h := h

/-- What a hold has done in its transaction when it is about to commit. -/
structure Inserted (H : Host V) (x : Hold) (found : List SeatAllocation) (t t' : Tx V) : Prop where
  site : t'.site = t.site
  writes : t'.writes = [.allocations x.rows, .history (found.map holdHistoryRow),
    .idempotency (.hold x.request.eventId), .outbox (.seatsHeld x.payload)].map H.write
  locks : ∀ k ∈ t.locks, k ∈ t'.locks
  answered : H.answered t' (.findByBookingId x.request.bookingId) found

structure Ready (H : Host V) (x : Hold) (w : World V M.Call) : Prop where
  new : H.New x w
  distinct : (x.rows.map SeatAllocation.id).Nodup
  key : .hold x.request.eventId ∉ (H.tables w.db).idempotency

/-- The transaction of a hold from the insertion of its rows on, for every service that runs
it: `F` is known when it begins, and `E` of the rows that it reads back. -/
theorem ok_holdInsertions (hH : H.Lawful) (hl : D.Lawful) (x : Hold) {F : World V M.Call → Prop}
    {E : List SeatAllocation → World V M.Call → Prop}
    (hs : Stable D i (t.locks ++ ts.locks) F) (hw : F w) (hwrites : t.writes = [])
    (hE : ∀ found, Lasting D (E found))
    (hread : ∀ w, D.inv w → H.New x w → (x.rows.map SeatAllocation.id).Nodup →
      E (((H.tables w.db).allocations ++ x.rows).filter
        (fun a => a.bookingId = x.request.bookingId)) w)
    (hcommit : ∀ w t' found, D.inv w → F w → E found w → H.Ready x w → H.Inserted x found t t' →
      D.allow c (some t') w (.commit h) → D.commits c t' w) :
    Ok D i c (Commits D i c h ts (fun _ ts' _ => ts' = ts)) (Inside D h ts)
      (H.code (do
        createMany (some h) (allocationRows x.request x.segment x.holdExpiresAt x.seats)
        let createdAllocations ← findByBookingId (some h) x.request.bookingId
        createHistoryMany (some h) (createdAllocations.map holdHistoryRow)
        createKey (some h) (.hold x.request.eventId)
        insertOutbox (some h)
          (.seatsHeld (heldPayload x.request x.segment x.holdExpiresAt x.seats))))
      ((h, t) :: ts) w := by
  rw [hH.bind, createMany]
  refine Ok.seq (hH.sql (q := .createMany _) hl hs hw fun w₁ t₁ _ ws ks _ hw₁ hr h₁ => ?_)
  simp only [run] at hr
  split at hr
  · cases hr
  next hnodup =>
  split at hr
  · cases hr
  cases hr
  have hview : H.tables (t.view w₁.db) = H.tables w₁.db :=
    tables_view hH (show t.writes = List.map H.write [] from hwrites) w₁.db
  rw [hview, not_not, List.map_append, List.nodup_append'] at hnodup
  obtain ⟨-, hdistinct, hdisjoint⟩ := hnodup
  have hnew₁ : H.New x w₁ :=
    fun a ha a' ha' he => hdisjoint (List.mem_map_of_mem ha) (he ▸ List.mem_map_of_mem ha')
  have hkeys : ∀ a ∈ x.rows, H.key (.allocation a.id) ∈ t₁.locks := by
    intro a ha
    rw [h₁.locks]
    refine List.mem_append_right _ (List.mem_map_of_mem (List.mem_append_left _ ?_))
    simp only [List.flatMap_cons, List.flatMap_nil, List.append_nil]
    exact List.mem_map_of_mem (f := fun a : SeatAllocation => Key.allocation a.id) ha
  -- from here on the keys of the rows are locked
  have hrows : ∀ t' : Tx V, (∀ k ∈ t₁.locks, k ∈ t'.locks) →
      Stable D i (t'.locks ++ ts.locks) (fun w => F w ∧ H.New x w) := by
    intro t' hk
    refine (hs.mono D fun k hmem => ?_).and D (stable_new hH x fun a ha => ?_)
    · obtain hmem | hmem := List.mem_append.mp hmem
      · exact List.mem_append_left _ (hk k (by simp [h₁.locks, hmem]))
      · exact List.mem_append_right _ hmem
    · exact List.mem_append_left _ (hk _ (hkeys a ha))
  have hw₁' : t₁.writes = [Write.allocations x.rows].map H.write := by
    rw [h₁.writes, hwrites]
    rfl
  rw [hH.bind, findByBookingId]
  refine Ok.seq (hH.sql (q := .findByBookingId _) hl (hrows t₁ fun k hk => hk)
    ⟨hw₁, hnew₁⟩ fun w₂ t₂ found ws ks hi₂ hw₂ hr h₂ => ?_)
  simp only [run, tables_view hH hw₁', Except.ok.injEq, Prod.mk.injEq] at hr
  obtain ⟨rfl, rfl, rfl⟩ := hr
  have hE₂ := hread w₂ hi₂ hw₂.2 hdistinct
  change E ((applyAll (H.tables w₂.db) [Write.allocations x.rows]).allocations.filter
    (fun a => a.bookingId = x.request.bookingId)) w₂ at hE₂
  generalize hfound : (applyAll (H.tables w₂.db) [Write.allocations x.rows]).allocations.filter
    (fun a => a.bookingId = x.request.bookingId) = found at hE₂ h₂
  have hlocks₂ : ∀ k ∈ t₁.locks, k ∈ t₂.locks := fun k hk => by simp [h₂.locks, hk]
  rw [hH.bind, createHistoryMany]
  refine Ok.seq (hH.sql (q := .createHistoryMany _) hl
    ((hrows t₂ hlocks₂).and D ((hE found).stable D i _)) ⟨hw₂, hE₂⟩ fun w₃ t₃ _ ws ks _ hw₃ hr h₃ => ?_)
  cases hr
  have hlocks₃ : ∀ k ∈ t₁.locks, k ∈ t₃.locks := fun k hk => by simp [h₃.locks, hlocks₂ k hk]
  rw [hH.bind, createKey]
  refine Ok.seq (hH.sql (q := .createKey _) hl
    ((hrows t₃ hlocks₃).and D ((hE found).stable D i _)) hw₃ fun w₄ t₄ _ ws ks _ hw₄ hr h₄ => ?_)
  have hw₃' : t₃.writes =
      [Write.allocations x.rows, .history (found.map holdHistoryRow)].map H.write := by
    rw [h₃.writes, h₂.writes, hw₁']
    rfl
  simp only [run] at hr
  split at hr
  · cases hr
  next hkey =>
  cases hr
  rw [List.contains_iff_mem, tables_view hH hw₃', applyAll_key_other _ _ (by simp [Write.keys])]
    at hkey
  have hlocks₄ : ∀ k ∈ t₁.locks, k ∈ t₄.locks := fun k hk => by simp [h₄.locks, hlocks₃ k hk]
  have hkey₄ : H.key (.idempotency (.hold x.request.eventId)) ∈ t₄.locks := by
    simp [h₄.locks, Tx.rowKeys, Write.keys]
  rw [insertOutbox]
  refine hH.sql (q := .insertOutbox _) hl (((hrows t₄ hlocks₄).and D ((hE found).stable D i _)).and D
    (stable_key hH _ (List.mem_append_left _ hkey₄))) ⟨hw₄, hkey⟩
    fun w₅ t₅ _ ws ks _ hw₅ hr h₅ => ?_
  cases hr
  have hlocks₅ : ∀ k ∈ t₄.locks, k ∈ t₅.locks := fun k hk => by simp [h₅.locks, hk]
  refine ⟨t₅, rfl, _, ((hrows t₅ fun k hk => hlocks₅ k (hlocks₄ k hk)).and D
    ((hE found).stable D i _)).and D (stable_key hH _ (List.mem_append_left _ (hlocks₅ _ hkey₄))),
    hw₅, fun w₆ hi₆ _ hw₆ hallow => ⟨?_, rfl⟩⟩
  obtain ⟨⟨⟨hF₆, hnew₆⟩, hE₆⟩, hkey₆⟩ := hw₆
  refine hcommit w₆ t₅ found hi₆ hF₆ hE₆ ⟨hnew₆, hdistinct, hkey₆⟩ ⟨?_, ?_, ?_, ?_⟩ hallow
  · rw [h₅.site, h₄.site, h₃.site, h₂.site, h₁.site]
  · rw [h₅.writes, h₄.writes, hw₃']
    rfl
  · exact fun k hk => hlocks₅ k (hlocks₄ k (by simp [h₁.locks, hk]))
  · exact h₅.kept _ _ (h₄.kept _ _ (h₃.kept _ _ h₂.answered))

end Host

end RailwayBooking.InventoryService
