import RailwayBooking.Redis.Store

namespace RailwayBooking.Redis

variable {K Token : Type} [DecidableEq K] [DecidableEq Token]

/-- The loop of `seat-lock.lua`. `acquired` are the keys taken so far; the first
key that is already set makes the script delete them again. -/
def seatLockLoop (now : Nat) (lockValue : Token) (expires : Nat) :
    List K → List K → Store K Token → Bool × Store K Token
  | [], _, s => (true, s)
  | key :: keys, acquired, s =>
    match s.setNx now key lockValue expires with
    | (true, s') => seatLockLoop now lockValue expires keys (acquired ++ [key]) s'
    | (false, _) => (false, acquired.foldl Store.del s)

/-- `seat-lock.lua`. -/
def seatLock (s : Store K Token) (now : Nat) (keys : List K) (lockValue : Token)
    (ttlSeconds : Nat) : Bool × Store K Token :=
  seatLockLoop now lockValue (now + 1000 * ttlSeconds) keys [] s

/-- `seat-unlock.lua`. -/
def seatUnlock (s : Store K Token) (now : Nat) (keys : List K) (lockValue : Token) :
    Nat × Store K Token :=
  keys.foldl (fun r key =>
    if r.2.get now key = some lockValue then (r.1 + 1, r.2.del key) else r) (0, s)

/-- `seat-renew.lua`. -/
def seatRenew (s : Store K Token) (now : Nat) (keys : List K) (lockValue : Token)
    (ttlSeconds : Nat) : Bool × Store K Token :=
  if keys.all (fun key => s.get now key = some lockValue) then
    (true, keys.foldl (fun s key => s.expire now key (now + 1000 * ttlSeconds)) s)
  else (false, s)

section Specs

variable {s s' : Store K Token} {now ttl : Nat} {keys acquired : List K} {v : Token}

omit [DecidableEq Token] in
theorem foldl_del_of_notMem {k : K} (hk : k ∉ keys) : keys.foldl Store.del s k = s k := by
  induction keys generalizing s with
  | nil => rfl
  | cons key keys ih =>
    obtain ⟨hne, hk⟩ := not_or.mp (mt List.mem_cons.mpr hk)
    rw [List.foldl_cons, ih hk, Store.del, Function.update_of_ne hne]

omit [DecidableEq Token] in
theorem foldl_del_of_mem {k : K} (hk : k ∈ keys) : keys.foldl Store.del s k = none := by
  induction keys generalizing s with
  | nil => cases hk
  | cons key keys ih =>
    rw [List.foldl_cons]
    by_cases hmem : k ∈ keys
    · exact ih hmem
    · rw [foldl_del_of_notMem hmem, (List.mem_cons.mp hk).resolve_right hmem, Store.del,
        Function.update_self]

/-- The loop has set the keys acquired so far, which were free, and nothing else. -/
structure Acquired (s₀ : Store K Token) (now : Nat) (v : Token) (expires : Nat)
    (acquired : List K) (s : Store K Token) : Prop where
  free : ∀ k ∈ acquired, s₀.get now k = none
  taken : ∀ k ∈ acquired, s k = some ⟨v, expires⟩
  others : ∀ k, k ∉ acquired → s k = s₀ k

omit [DecidableEq K] [DecidableEq Token] in
theorem acquired_nil (s : Store K Token) (expires : Nat) : Acquired s now v expires [] s where
  free _ hk := absurd hk List.not_mem_nil
  taken _ hk := absurd hk List.not_mem_nil
  others _ _ := rfl

omit [DecidableEq Token] in
theorem seatLockLoop_spec {s₀ : Store K Token} {expires : Nat} (hlt : now < expires)
    (h : Acquired s₀ now v expires acquired s) :
    ((seatLockLoop now v expires keys acquired s).1 = true →
      Acquired s₀ now v expires (acquired ++ keys)
        (seatLockLoop now v expires keys acquired s).2) ∧
    ((seatLockLoop now v expires keys acquired s).1 = false →
      ∀ k, (seatLockLoop now v expires keys acquired s).2 k = s₀ k ∨ (s₀.get now k = none ∧
        (seatLockLoop now v expires keys acquired s).2 k = none)) := by
  induction keys generalizing acquired s with
  | nil =>
    refine ⟨fun _ => ?_, fun hx => (nomatch hx)⟩
    rw [List.append_nil]
    exact h
  | cons key keys ih =>
    cases hget : s.get now key with
    | some v' =>
      have hloop : seatLockLoop now v expires (key :: keys) acquired s =
          (false, acquired.foldl Store.del s) := by
        simp [seatLockLoop, Store.setNx, hget]
      rw [hloop]
      refine ⟨fun hx => (nomatch hx), fun _ k => ?_⟩
      dsimp only
      by_cases hmem : k ∈ acquired
      · exact .inr ⟨h.free k hmem, foldl_del_of_mem hmem⟩
      · left
        rw [foldl_del_of_notMem hmem, h.others k hmem]
    | none =>
      have hloop : seatLockLoop now v expires (key :: keys) acquired s =
          seatLockLoop now v expires keys (acquired ++ [key]) (s.set key v expires) := by
        simp [seatLockLoop, Store.setNx, hget]
      rw [hloop, show acquired ++ key :: keys = acquired ++ [key] ++ keys by simp]
      apply ih
      have hnew : key ∉ acquired := by
        intro hmem
        rw [Store.get, h.taken key hmem] at hget
        simp [hlt] at hget
      refine ⟨fun k hk => ?_, fun k hk => ?_, fun k hk => ?_⟩
      · obtain hk | hk := List.mem_append.mp hk
        · exact h.free k hk
        · rw [List.mem_singleton.mp hk, Store.get, ← h.others key hnew]
          exact hget
      · by_cases he : k = key
        · rw [he, Store.set, Function.update_self]
        · rw [Store.set, Function.update_of_ne he]
          exact h.taken k (by simpa [he] using hk)
      · have he : k ≠ key := fun he => hk (by simp [he])
        rw [Store.set, Function.update_of_ne he]
        exact h.others k fun hmem => hk (List.mem_append_left _ hmem)

omit [DecidableEq Token] in
theorem seatLock_taken (httl : 0 < ttl) (h : (seatLock s now keys v ttl).1 = true) :
    (∀ k ∈ keys, s.get now k = none) ∧
      (∀ k ∈ keys, (seatLock s now keys v ttl).2 k = some ⟨v, now + 1000 * ttl⟩) ∧
      ∀ k, k ∉ keys → (seatLock s now keys v ttl).2 k = s k := by
  have hloop := (seatLockLoop_spec (by omega) (acquired_nil s _)).1 h
  rw [List.nil_append] at hloop
  exact ⟨hloop.free, hloop.taken, hloop.others⟩

omit [DecidableEq Token] in
theorem seatLock_refused (httl : 0 < ttl) (h : (seatLock s now keys v ttl).1 = false) (k : K) :
    (seatLock s now keys v ttl).2 k = s k ∨
      (s.get now k = none ∧ (seatLock s now keys v ttl).2 k = none) :=
  (seatLockLoop_spec (by omega) (acquired_nil s _)).2 h k

/-- One turn of the loop of `seat-unlock.lua`. -/
def unlockKey (now : Nat) (lockValue : Token) (r : Nat × Store K Token) (key : K) :
    Nat × Store K Token :=
  if r.2.get now key = some lockValue then (r.1 + 1, r.2.del key) else r

theorem foldl_unlockKey (n : Nat) (k : K) : (keys.foldl (unlockKey now v) (n, s)).2 k =
    if k ∈ keys ∧ s.get now k = some v then none else s k := by
  induction keys generalizing n s with
  | nil => simp
  | cons key keys ih =>
    rw [List.foldl_cons]
    by_cases hkey : s.get now key = some v
    · rw [unlockKey, if_pos hkey, ih]
      by_cases he : k = key
      · subst he
        rw [Store.get_del_same, if_neg (by simp), if_pos ⟨List.mem_cons_self, hkey⟩, Store.del,
          Function.update_self]
      · rw [Store.get_del_ne s now he, Store.del, Function.update_of_ne he]
        simp [he]
    · rw [unlockKey, if_neg hkey, ih]
      by_cases he : k = key
      · subst he
        simp [hkey]
      · simp [he]

theorem seatUnlock_apply (k : K) : (seatUnlock s now keys v).2 k =
    if k ∈ keys ∧ s.get now k = some v then none else s k :=
  foldl_unlockKey 0 k

section Locality

variable {P : K → Prop}

omit [DecidableEq Token] in
theorem foldl_del_congr (h : ∀ k, P k → s k = s' k) (k : K) (hk : P k) :
    keys.foldl Store.del s k = keys.foldl Store.del s' k := by
  by_cases hmem : k ∈ keys
  · rw [foldl_del_of_mem hmem, foldl_del_of_mem hmem]
  · rw [foldl_del_of_notMem hmem, foldl_del_of_notMem hmem]
    exact h k hk

omit [DecidableEq Token] in
theorem seatLockLoop_congr {expires : Nat} (h : ∀ k, P k → s k = s' k) (hkeys : ∀ k ∈ keys, P k) :
    (seatLockLoop now v expires keys acquired s).1 =
      (seatLockLoop now v expires keys acquired s').1 ∧
    ∀ k, P k → (seatLockLoop now v expires keys acquired s).2 k =
      (seatLockLoop now v expires keys acquired s').2 k := by
  induction keys generalizing acquired s s' with
  | nil => exact ⟨rfl, h⟩
  | cons key keys ih =>
    have hget : s.get now key = s'.get now key :=
      Store.get_congr (h key (hkeys key List.mem_cons_self))
    simp only [seatLockLoop, Store.setNx, ← hget]
    cases s.get now key with
    | some v' => exact ⟨rfl, fun k hk => foldl_del_congr h k hk⟩
    | none =>
      refine ih (fun k hk => ?_) fun k hk => hkeys k (List.mem_cons_of_mem key hk)
      simp only [Store.set, Function.update_apply, h k hk]

omit [DecidableEq Token] in
theorem seatLock_congr (now : Nat) (v : Token) (ttl : Nat) (h : ∀ k, P k → s k = s' k)
    (hkeys : ∀ k ∈ keys, P k) :
    (seatLock s now keys v ttl).1 = (seatLock s' now keys v ttl).1 ∧
      ∀ k, P k → (seatLock s now keys v ttl).2 k = (seatLock s' now keys v ttl).2 k :=
  seatLockLoop_congr h hkeys

omit [DecidableEq Token] in
theorem seatLockLoop_other {expires : Nat} {k : K} (hkeys : k ∉ keys) (hacquired : k ∉ acquired) :
    (seatLockLoop now v expires keys acquired s).2 k = s k := by
  induction keys generalizing acquired s with
  | nil => rfl
  | cons key keys ih =>
    obtain ⟨hne, hkeys⟩ := not_or.mp (mt List.mem_cons.mpr hkeys)
    simp only [seatLockLoop, Store.setNx]
    cases s.get now key with
    | some v' => exact foldl_del_of_notMem hacquired
    | none =>
      have hk : k ∉ acquired ++ [key] := by simp [hacquired, hne]
      exact (ih hkeys hk).trans (Function.update_of_ne hne _ _)

omit [DecidableEq Token] in
theorem seatLock_other {k : K} (hk : k ∉ keys) : (seatLock s now keys v ttl).2 k = s k :=
  seatLockLoop_other hk List.not_mem_nil

theorem seatUnlock_other {k : K} (hk : k ∉ keys) : (seatUnlock s now keys v).2 k = s k := by
  rw [seatUnlock_apply, if_neg fun h => hk h.1]

theorem foldl_unlockKey_congr (n : Nat) (h : ∀ k, P k → s k = s' k) (hkeys : ∀ k ∈ keys, P k) :
    (keys.foldl (unlockKey now v) (n, s)).1 = (keys.foldl (unlockKey now v) (n, s')).1 := by
  induction keys generalizing n s s' with
  | nil => rfl
  | cons key keys ih =>
    have hget : s.get now key = s'.get now key :=
      Store.get_congr (h key (hkeys key List.mem_cons_self))
    have hrest := fun k hk => hkeys k (List.mem_cons_of_mem key hk)
    rw [List.foldl_cons, List.foldl_cons, unlockKey, unlockKey, ← hget]
    split
    · refine ih (n + 1) (fun k hk => ?_) hrest
      simp only [Store.del, Function.update_apply, h k hk]
    · exact ih n h hrest

theorem seatUnlock_congr (now : Nat) (v : Token) (h : ∀ k, P k → s k = s' k)
    (hkeys : ∀ k ∈ keys, P k) :
    (seatUnlock s now keys v).1 = (seatUnlock s' now keys v).1 ∧
      ∀ k, P k → (seatUnlock s now keys v).2 k = (seatUnlock s' now keys v).2 k := by
  refine ⟨foldl_unlockKey_congr 0 h hkeys, fun k hk => ?_⟩
  rw [seatUnlock_apply, seatUnlock_apply, Store.get_congr (h k hk), h k hk]

end Locality

omit [DecidableEq Token] in
theorem foldl_expire {t : Nat} (h : ∀ k ∈ keys, s.get now k = some v ∨ s k = some ⟨v, t⟩) (k : K) :
    keys.foldl (fun s key => s.expire now key t) s k =
      if k ∈ keys then some ⟨v, t⟩ else s k := by
  induction keys generalizing s with
  | nil => simp
  | cons key keys ih =>
    have hkey : ∀ k, s.expire now key t k = if k = key then some ⟨v, t⟩ else s k := by
      intro k
      cases hv : s.get now key with
      | some v' =>
        have hv' : v' = v := by
          obtain hget | hset := h key List.mem_cons_self
          · exact Option.some.inj (hv.symm.trans hget)
          · obtain ⟨t', he, _⟩ := Store.get_eq_some.mp hv
            rw [he] at hset
            cases hset
            rfl
        simp only [Store.expire, hv, Store.set, Function.update_apply, hv']
      | none =>
        simp only [Store.expire, hv]
        by_cases he : k = key
        · rw [if_pos he, he]
          exact (h key List.mem_cons_self).resolve_left (by simp [hv])
        · rw [if_neg he]
    rw [List.foldl_cons, ih]
    · rw [hkey]
      by_cases he : k = key <;> simp [he]
    · intro k' hk'
      rw [hkey]
      by_cases he : k' = key
      · exact .inr (if_pos he)
      · rw [if_neg he, Store.get, hkey, if_neg he]
        exact h k' (List.mem_cons_of_mem _ hk')

theorem seatRenew_renewed (h : (seatRenew s now keys v ttl).1 = true) :
    (∀ k ∈ keys, s.get now k = some v) ∧ ∀ k, (seatRenew s now keys v ttl).2 k =
      if k ∈ keys then some ⟨v, now + 1000 * ttl⟩ else s k := by
  unfold seatRenew at h ⊢
  split at h
  · next hall =>
    have hheld : ∀ k ∈ keys, s.get now k = some v :=
      fun k hk => of_decide_eq_true (List.all_eq_true.mp hall k hk)
    rw [if_pos hall]
    exact ⟨hheld, foldl_expire fun k hk => .inl (hheld k hk)⟩
  · cases h

theorem seatRenew_refused (h : (seatRenew s now keys v ttl).1 = false) :
    (seatRenew s now keys v ttl).2 = s := by
  unfold seatRenew at h ⊢
  split at h
  · cases h
  · next hall => rw [if_neg hall]

end Specs

end RailwayBooking.Redis
