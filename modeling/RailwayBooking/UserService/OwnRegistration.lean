import RailwayBooking.UserService.RegisterCalls

namespace RailwayBooking.UserService.Otp.Registration

open Concurrency

section Statements

variable {S : OtpSettings} {i j : Nat} {c : RegisterCall} {ch : Choice String}
  {stmt : Stmt (otpService S)} {r : Except Err stmt.Ans}
  {σ σ' : Shared (otpService S) RegisterCall} {e : RegisterEntry}
  {w : World (otpService S) RegisterCall} {id : Id}

theorem exec_log (he : σ.exec i c stmt ch = some (r, σ')) :
    σ'.world.log = σ.world.log ∨ ∃ t, t.owner = i ∧ σ'.world.log = σ.world.log ++ [(c, t)] := by
  cases Shared.exec_effect he with
  | @committed h t ch htx howner => exact .inr ⟨t, howner, rfl⟩
  | single hrun hne => exact .inr ⟨_, rfl, rfl⟩
  | _ => exact .inl rfl

theorem usersOf_commit {t : Tx (otpService S)} {w' : World (otpService S) RegisterCall}
    (h : w'.log = w.log ++ [(c, t)]) : usersOf w' j = usersOf w j ++
      if t.owner = j then t.writes.filterMap createdUser else [] := by
  unfold usersOf
  rw [h, List.filter_append, List.flatMap_append, List.filter_singleton]
  by_cases hj : t.owner = j
  · simp [hj]
  · simp [hj]

theorem usersOf_of_ne (he : σ.exec i c stmt ch = some (r, σ')) (hj : j ≠ i) :
    usersOf σ'.world j = usersOf σ.world j := by
  obtain hsame | ⟨t, howner, hlog⟩ := exec_log he
  · unfold usersOf
    rw [hsame]
  · have hne : t.owner ≠ j := by
      rw [howner]
      exact Ne.symm hj
    rw [usersOf_commit hlog, if_neg hne, List.append_nil]

theorem usersOf_ask {a : Aux} {r : Except Err (AuxAns a)}
    (he : σ.exec i c (.aux a) ch = some (r, σ')) : usersOf σ'.world j = usersOf σ.world j := by
  cases Shared.exec_effect he with
  | _ => rfl

theorem usersOf_harmless (h : RegisterStage.Harmless stmt)
    (he : σ.exec i c stmt ch = some (r, σ')) : usersOf σ'.world i = usersOf σ.world i := by
  cases Shared.exec_effect he with
  | @single q a ws ks ch hrun hne =>
    cases q with
    | auth q =>
      cases q with
      | findUserByEmail email =>
        cases hrun
        exact absurd rfl hne
      | _ => exact h.elim
    | createUser user => exact h.elim
    | deleteUser id =>
      have hwrites : ws = [.deleted id] := by
        simp only [run] at hrun
        split at hrun
        · cases hrun
        · cases hrun
          rfl
      subst hwrites
      have hnone : usersOf (σ.settle c (Shared.single (otpService S) i _ a [.deleted id] ks)).world
          i = usersOf σ.world i ++ [] := (usersOf_commit rfl).trans (by simp [Shared.single,
            Tx.start, Tx.record, createdUser])
      exact hnone.trans (List.append_nil _)
  | committed | recorded => exact h.elim
  | _ => rfl

theorem usersOf_createUser {user user' : User}
    (he : σ.exec i c (.sql none (.createUser user)) ch = some (.ok user', σ')) :
    usersOf σ'.world i = usersOf σ.world i ++ [user] := by
  have hwrites : ∀ {a ws ks}, run (.createUser user) σ.world.db = .ok (a, ws, ks) →
      ws = [.created user] := by
    intro a ws ks hrun
    simp only [run] at hrun
    split at hrun
    · cases hrun
    · cases hrun
      rfl
  generalize hr : (Except.ok user' : Except Err User) = r at he
  cases Shared.exec_effect he with
  | failed err => cases hr
  | read hrun => cases hwrites hrun
  | single hrun hne =>
    obtain rfl := hwrites hrun
    rw [usersOf_commit rfl]
    simp [Shared.single, Tx.start, Tx.record, createdUser]

/-- What is stored was stored before, or is stored by this operation. -/
structure Stores (i : Nat) (a : Aux) (e e' : Env) : Prop where
  otp : ∀ id hash, e'.otp.get e'.now id = some hash →
    (e.otp.get e.now id = some hash ∧ e'.otpWriter id = e.otpWriter id) ∨
      ∃ ttl, a = .setOtp id hash ttl ∧ e'.otpWriter id = some i
  data : ∀ id data, e'.registrationSession.get e'.now id = some data →
    (e.registrationSession.get e.now id = some data ∧ e'.dataWriter id = e.dataWriter id) ∨
      ∃ ttl, a = .setRegistrationSession id data ttl ∧ e'.dataWriter id = some i
  dataWriter : ∀ id, e'.dataWriter id = e.dataWriter id ∨
    (∃ data ttl, a = .setRegistrationSession id data ttl) ∧ e'.dataWriter id = some i

theorem Stores.refl (i : Nat) (a : Aux) (e : Env) : Stores i a e e where
  otp _ _ h := .inl ⟨h, rfl⟩
  data _ _ h := .inl ⟨h, rfl⟩
  dataWriter _ := .inl rfl

theorem ask_stores {a : Aux} {e e' : Env} {r : Except Err (AuxAns a)}
    (h : ask S e i a ch = some (r, e')) : Stores i a e e' := by
  have hkept : (∀ id hash ttl, a ≠ .setOtp id hash ttl) → (∀ id, a ≠ .incrAttempts id) →
      (∀ id ttl, a ≠ .expireAttempts id ttl) →
        (∀ id data ttl, a ≠ .setRegistrationSession id data ttl) → (∀ keys, a ≠ .del keys) →
          Stores i a e e' := by
    intro hset hincr hexpire hdata hdel
    have haside := ask_aside h ⟨hset, hincr, hexpire, hdata, hdel⟩
    refine ⟨fun id hash hget => ?_, fun id data hget => ?_, fun id => ?_⟩
    · rw [haside.otp, haside.now] at hget
      exact .inl ⟨hget, congrFun haside.otpWriter id⟩
    · rw [haside.registrationSession, haside.now] at hget
      exact .inl ⟨hget, congrFun haside.dataWriter id⟩
    · exact .inl (congrFun haside.dataWriter id)
  cases a with
  | setOtp id' hash' ttl =>
    obtain rfl | rfl := Env.command_env h
    · exact .refl i _ _
    · refine ⟨fun id hash hget => ?_, fun _ _ hget => .inl ⟨hget, rfl⟩, fun _ => .inl rfl⟩
      obtain ⟨rfl, rfl⟩ | ⟨hid, hold⟩ := Redis.Store.get_set_cases hget
      · exact .inr ⟨ttl, rfl, Function.update_self _ _ _⟩
      · exact .inl ⟨hold, Function.update_of_ne hid _ _⟩
  | setRegistrationSession id' data' ttl =>
    obtain rfl | rfl := Env.command_env h
    · exact .refl i _ _
    · refine ⟨fun _ _ hget => .inl ⟨hget, rfl⟩, fun id data hget => ?_, fun id => ?_⟩
      · obtain ⟨rfl, rfl⟩ | ⟨hid, hold⟩ := Redis.Store.get_set_cases hget
        · exact .inr ⟨ttl, rfl, Function.update_self _ _ _⟩
        · exact .inl ⟨hold, Function.update_of_ne hid _ _⟩
      · by_cases hid : id = id'
        · subst hid
          exact .inr ⟨⟨data', ttl, rfl⟩, Function.update_self _ _ _⟩
        · exact .inl (Function.update_of_ne hid _ _)
  | del keys =>
    obtain rfl | rfl := Env.command_env h
    · exact .refl i _ _
    · exact ⟨fun _ _ hget => .inl ⟨Redis.Store.get_of_erased hget, rfl⟩,
        fun _ _ hget => .inl ⟨Redis.Store.get_of_erased hget, rfl⟩, fun _ => .inl rfl⟩
  | incrAttempts id | expireAttempts id seconds =>
    obtain rfl | rfl := Env.command_env h
    · exact .refl i _ _
    · exact ⟨fun _ _ hget => .inl ⟨hget, rfl⟩, fun _ _ hget => .inl ⟨hget, rfl⟩, fun _ => .inl rfl⟩
  | _ => exact hkept nofun nofun nofun nofun nofun

theorem exec_stores (he : σ.exec i c stmt ch = some (r, σ')) :
    (∃ a, stmt = .aux a ∧ Stores i a σ.world.env σ'.world.env) ∨
      σ'.world.env = σ.world.env := by
  cases stmt with
  | aux a => exact .inl ⟨a, rfl, ask_stores (Shared.exec_ask he)⟩
  | _ => exact .inr ((Shared.exec_effect he).env fun _ h => by cases h)

/-- One of the records that calls store, with the call whose value it has. -/
structure Slot (V : Type) where
  store : Env → Redis.Store Id V
  writer : Env → Id → Option Nat
  write : Id → V → ℕ+ → Aux
  ticked : ∀ (e : Env) auth, store { e with auth } = store e ∧ writer { e with auth } = writer e
  stores : ∀ {i a} {e e' : Env}, Stores i a e e' → ∀ id v, (store e').get e'.now id = some v →
    ((store e).get e.now id = some v ∧ writer e' id = writer e id) ∨
      ∃ ttl, a = write id v ttl ∧ writer e' id = some i

def otpSlot : Slot String where
  store := Env.otp
  writer := Env.otpWriter
  write := .setOtp
  ticked _ _ := ⟨rfl, rfl⟩
  stores h := h.otp

def dataSlot : Slot RegistrationSessionData where
  store := Env.registrationSession
  writer := Env.dataWriter
  write := .setRegistrationSession
  ticked _ _ := ⟨rfl, rfl⟩
  stores h := h.data

theorem Slot.exec {V : Type} (x : Slot V) (he : σ.exec i c stmt ch = some (r, σ')) {v : V}
    (h : (x.store σ'.world.env).get σ'.world.env.now id = some v) :
    ((x.store σ.world.env).get σ.world.env.now id = some v ∧
      x.writer σ'.world.env id = x.writer σ.world.env id) ∨
    ∃ ttl, stmt = .aux (x.write id v ttl) ∧ x.writer σ'.world.env id = some i := by
  obtain ⟨a, rfl, hstores⟩ | hsame := exec_stores he
  · exact (x.stores hstores id v h).imp_right fun ⟨ttl, ha, hwriter⟩ => ⟨ttl, ha ▸ rfl, hwriter⟩
  · rw [hsame] at h ⊢
    exact .inl ⟨h, rfl⟩

theorem exec_dataWriter (id : Id) (he : σ.exec i c stmt ch = some (r, σ')) :
    σ'.world.env.dataWriter id = σ.world.env.dataWriter id ∨
      (∃ data ttl, stmt = .aux (.setRegistrationSession id data ttl)) ∧
        σ'.world.env.dataWriter id = some i := by
  obtain ⟨a, rfl, hstores⟩ | hsame := exec_stores he
  · exact (hstores.dataWriter id).imp_right
      fun ⟨⟨data, ttl, ha⟩, hwriter⟩ => ⟨⟨data, ttl, ha ▸ rfl⟩, hwriter⟩
  · rw [hsame]
    exact .inl rfl

end Statements

section Notes

variable {S : OtpSettings} {i : Nat} {c : RegisterCall} {g : RegisterStage} {ch : Choice String}
  {stmt : Stmt (otpService S)} {r : Except Err stmt.Ans}
  {σ σ' : Shared (otpService S) RegisterCall} {e : RegisterEntry}

def Accepted (S : OtpSettings) (c : RegisterCall) (e : RegisterEntry) : Prop :=
  ∃ sessionId otp fingerprint ipAddress userAgent r hash,
    c = .verifyAndRegister sessionId otp fingerprint ipAddress userAgent ∧
      e.read = some (r, hash) ∧ S.bcryptCompare otp hash = true

def RegisterStage.Means (i : Nat) (c : RegisterCall) (g : RegisterStage) (e : RegisterEntry)
    (σ : Shared (otpService S) RegisterCall) : Prop :=
  match g with
  | .arrived => e.otp = none ∧ e.hashedPassword = none
  | .generated otp => e.otp = some otp ∧ e.hashedPassword = none
  | .hashed otp hashedPassword => e.otp = some otp ∧ e.hashedPassword = some hashedPassword
  | .asking => e.loaded = none ∧ usersOf σ.world i = []
  | .read hash => (∃ r, e.read = some (r, hash)) ∧ e.loaded = none ∧ usersOf σ.world i = []
  | .accepted => Accepted S c e ∧ e.loaded = none ∧ usersOf σ.world i = []
  | .loaded data => Accepted S c e ∧ e.loaded = some data ∧ usersOf σ.world i = []
  | .created data => Accepted S c e ∧ e.loaded = some data ∧
      ∃ user, Matches data user ∧ usersOf σ.world i = [user]
  | .ended => True

theorem RegisterStage.Means.congr (h : g.Means i c e σ)
    (hu : usersOf σ'.world i = usersOf σ.world i) : g.Means i c e σ' := by
  unfold RegisterStage.Means at h ⊢
  rw [hu]
  exact h

theorem RegisterStage.means_send {data : RegisterRequest} {w : World (otpService S) RegisterCall}
    (hmay : g.maySend data stmt) (he : σ.exec i c stmt ch = some (r, σ')) (h : g.Means i c e σ) :
    (g.after stmt r).Means i c (e.after w stmt r) σ' := by
  have hkept : RegisterStage.Harmless stmt → (g.after stmt r).Means i c (e.after w stmt r) σ' := by
    intro hharmless
    obtain ⟨hg, he'⟩ := harmless_after (g := g) hharmless r e w
    rw [hg, he']
    exact h.congr (usersOf_harmless hharmless he)
  cases g with
  | arrived =>
    obtain hharmless | rfl := hmay
    · exact hkept hharmless
    · cases r with
      | error x => exact h
      | ok otp =>
        refine ⟨?_, h.2⟩
        change (e.otp <|> some otp) = some otp
        rw [h.1]
        rfl
  | generated otp =>
    obtain hharmless | rfl := hmay
    · exact hkept hharmless
    · cases r with
      | error x => exact h
      | ok hash =>
        refine ⟨h.1, ?_⟩
        change (e.hashedPassword <|> some hash) = some hash
        rw [h.2]
        rfl
  | hashed otp hashedPassword =>
    obtain hharmless | rfl | ⟨id, salt, ttl, rfl⟩ | ⟨id, ttl, rfl⟩ := hmay
    · exact hkept hharmless
    · cases r with
      | error x => exact h
      | ok hash =>
        refine ⟨h.1, ?_⟩
        change (e.hashedPassword <|> some hash) = some hashedPassword
        rw [h.2]
        rfl
    · exact h
    · exact h
  | _ => exact hmay.elim

theorem RegisterStage.means_register {sessionId : Id} {otp fingerprint : String}
    {ipAddress userAgent : Option String}
    (hc : c = .verifyAndRegister sessionId otp fingerprint ipAddress userAgent)
    (hmay : g.mayRegister sessionId otp stmt) (he : σ.exec i c stmt ch = some (r, σ'))
    (hwriter : ∀ hash, σ.world.env.otp.get σ.world.env.now sessionId = some hash →
      σ.world.env.otpWriter sessionId ≠ none)
    (h : g.Means i c e σ) : (g.after stmt r).Means i c (e.after σ.world stmt r) σ' := by
  have hkept : RegisterStage.Harmless stmt →
      (g.after stmt r).Means i c (e.after σ.world stmt r) σ' := by
    intro hharmless
    obtain ⟨hg, he'⟩ := harmless_after (g := g) hharmless r e σ.world
    rw [hg, he']
    exact h.congr (usersOf_harmless hharmless he)
  cases g with
  | asking =>
    obtain rfl := hmay
    have husers := (usersOf_ask he).trans h.2
    cases r with
    | error x => exact ⟨h.1, husers⟩
    | ok found =>
      cases found with
      | none => exact ⟨h.1, husers⟩
      | some hash =>
        have hget := ((Env.command_read (Shared.exec_ask he)).2 _ rfl).symm
        obtain ⟨r, hr⟩ := Option.ne_none_iff_exists'.mp (hwriter hash hget)
        refine ⟨⟨r, ?_⟩, h.1, husers⟩
        change (σ.world.env.otpWriter sessionId).map (·, hash) = some (r, hash)
        rw [hr]
        rfl
  | read hash =>
    obtain hharmless | rfl := hmay
    · exact hkept hharmless
    · obtain ⟨⟨r', hread⟩, hloaded, husers⟩ := h
      have husers' := (usersOf_ask he).trans husers
      have hanswer := (Prod.mk.inj (Option.some.inj (Shared.exec_ask he))).1
      cases r with
      | error x => exact ⟨⟨r', hread⟩, hloaded, husers'⟩
      | ok isValid =>
        cases isValid with
        | false => exact ⟨⟨r', hread⟩, hloaded, husers'⟩
        | true =>
          exact ⟨⟨_, _, _, _, _, r', hash, hc, hread, Except.ok.inj hanswer⟩, hloaded, husers'⟩
  | accepted =>
    obtain hharmless | rfl := hmay
    · exact hkept hharmless
    · obtain ⟨haccepted, hloaded, husers⟩ := h
      have husers' := (usersOf_ask he).trans husers
      cases r with
      | error x => exact ⟨haccepted, hloaded, husers'⟩
      | ok found =>
        have hloaded' : (e.loaded <|> found) = found := by
          rw [hloaded]
          rfl
        cases found with
        | none => exact ⟨haccepted, hloaded', husers'⟩
        | some data => exact ⟨haccepted, hloaded', husers'⟩
  | loaded data =>
    obtain hharmless | ⟨user, rfl, hmatches⟩ := hmay
    · exact hkept hharmless
    · obtain ⟨haccepted, hloaded, husers⟩ := h
      cases r with
      | error x => trivial
      | ok user' =>
        refine ⟨haccepted, hloaded, user, hmatches, ?_⟩
        rw [usersOf_createUser he, husers, List.nil_append]
  | created data => exact hkept hmay
  | ended => exact hkept hmay
  | _ => exact hmay.elim

end Notes

section Entries

variable {S : OtpSettings} {e : RegisterEntry} {w : World (otpService S) RegisterCall}
  {stmt : Stmt (otpService S)} {r : Except Err stmt.Ans}

theorem otp_after {otp : String} (h : e.otp = some otp) : (e.after w stmt r).otp = some otp := by
  unfold RegisterEntry.after
  split
  · change (e.otp <|> _) = _
    rw [h]
    rfl
  · exact h
  · exact h
  · exact h
  · exact h

theorem hashedPassword_after {hash : String} (h : e.hashedPassword = some hash) :
    (e.after w stmt r).hashedPassword = some hash := by
  unfold RegisterEntry.after
  split
  · exact h
  · change (e.hashedPassword <|> _) = _
    rw [h]
    rfl
  · exact h
  · exact h
  · exact h

theorem loaded_after {data : RegistrationSessionData} (h : e.loaded = some data) :
    (e.after w stmt r).loaded = some data := by
  unfold RegisterEntry.after
  split
  · exact h
  · exact h
  · exact h
  · change (e.loaded <|> _) = _
    rw [h]
    rfl
  · exact h

end Entries

section Runs

variable {S : OtpSettings} {s s' : (registerJournal S).State} {a : Event (registerMachine S)}

abbrev RegistersNoted (s : (registerJournal S).State) : Prop :=
  Journal.Noted (fun _ => RegisterStage.ledger) RegisterStage.Means
    (fun c _ g => RegisterStage.Returns c g) s

/-- The hash is one of the one-time password that the call has drawn. -/
def Sealed (s : (registerJournal S).State) (r : Nat) (hash : String) : Prop :=
  ∃ salt otp, (s.entries r).otp = some otp ∧ hash = S.bcryptHash salt otp

def Registers (s : (registerJournal S).State) (r : Nat) (data : RegistrationSessionData) : Prop :=
  ∃ request code hash, s.pool.threads[r]? = some ⟨.sendOtp request, code⟩ ∧
    (s.entries r).hashedPassword = some hash ∧ data = registration request hash

/-- The call presents, under the session, the one-time password of call `r` that it has
read. -/
def Presents (s : (registerJournal S).State) (i : Nat) (sessionId : Id) (r : Nat) : Prop :=
  ∃ otp fingerprint ipAddress userAgent code hash, s.pool.threads[i]? =
      some ⟨.verifyAndRegister sessionId otp fingerprint ipAddress userAgent, code⟩ ∧
    (s.entries i).read = some (r, hash) ∧ (s.entries r).otp = some otp

theorem otp_kept (hs : Journal.Stepped s a s') {i : Nat} {otp : String}
    (h : (s.entries i).otp = some otp) : (s'.entries i).otp = some otp := by
  obtain hsame | ⟨ch, c, stmt, k, r, -, -, -, hentry⟩ := hs.entry i
  · rw [hsame]
    exact h
  · rw [hentry]
    exact otp_after h

theorem loaded_kept (hs : Journal.Stepped s a s') {i : Nat} {data : RegistrationSessionData}
    (h : (s.entries i).loaded = some data) : (s'.entries i).loaded = some data := by
  obtain hsame | ⟨ch, c, stmt, k, r, -, -, -, hentry⟩ := hs.entry i
  · rw [hsame]
    exact h
  · rw [hentry]
    exact loaded_after h

theorem Sealed.of_step (hs : Journal.Stepped s a s') {r : Nat} {hash : String}
    (h : Sealed s r hash) : Sealed s' r hash := by
  obtain ⟨salt, otp, hotp, rfl⟩ := h
  exact ⟨salt, otp, otp_kept hs hotp, rfl⟩

theorem Registers.of_step (hs : Journal.Stepped s a s') {r : Nat} {data : RegistrationSessionData}
    (h : Registers s r data) : Registers s' r data := by
  obtain ⟨request, code, hash, ht, hhash, rfl⟩ := h
  obtain ⟨code', ht'⟩ := hs.stays ht
  refine ⟨request, code', hash, ht', ?_, rfl⟩
  obtain hsame | ⟨ch, c, stmt, k, r, -, -, -, hentry⟩ := hs.entry r
  · rw [hsame]
    exact hhash
  · rw [hentry]
    exact hashedPassword_after hhash

theorem new_otp (hs : Journal.Stepped s a s') {i : Nat} {otp : String}
    (h : (s'.entries i).otp = some otp) : (s.entries i).otp = some otp ∨ ∃ c k,
      a = .act (.run i (.reply otp)) ∧
        s.pool.threads[i]? = some ⟨c, some (.call (.aux .generateOtp) k)⟩ := by
  obtain hsame | ⟨ch, c, stmt, k, x, rfl, ht, he, hentry⟩ := hs.entry i
  · rw [hsame] at h
    exact .inl h
  rw [hentry] at h
  cases stmt with
  | aux b =>
    cases b with
    | generateOtp =>
      cases x with
      | error err => exact .inl h
      | ok otp' =>
        change ((s.entries i).otp <|> some otp') = some otp at h
        cases hold : (s.entries i).otp with
        | some otp'' =>
          rw [hold] at h
          exact .inl h
        | none =>
          rw [hold] at h
          obtain rfl : otp' = otp := Option.some.inj h
          have hask : ask S s.pool.world.env i .generateOtp ch =
            some (.ok otp', s'.pool.world.env) := Shared.exec_ask he
          cases ch with
          | reply x =>
            obtain rfl := Except.ok.inj (Prod.mk.inj (Option.some.inj hask)).1
            exact .inr ⟨c, k, rfl, ht⟩
          | _ => cases hask
    | bcryptHash text => cases x <;> exact .inl h
    | getOtp id =>
      cases x with
      | error err => exact .inl h
      | ok hash => cases hash <;> exact .inl h
    | getRegistrationSession id => cases x <;> exact .inl h
    | _ => exact .inl h
  | _ => exact .inl h

theorem new_read (hs : Journal.Stepped s a s') {i r : Nat} {hash : String}
    (h : (s'.entries i).read = some (r, hash)) : (s.entries i).read = some (r, hash) ∨
      ∃ ch c id k, a = .act (.run i ch) ∧
        s.pool.threads[i]? = some ⟨c, some (.call (.aux (.getOtp id)) k)⟩ ∧
          s.pool.world.env.otp.get s.pool.world.env.now id = some hash ∧
            s.pool.world.env.otpWriter id = some r := by
  obtain hsame | ⟨ch, c, stmt, k, x, rfl, ht, he, hentry⟩ := hs.entry i
  · rw [hsame] at h
    exact .inl h
  rw [hentry] at h
  cases stmt with
  | aux b =>
    cases b with
    | getOtp id =>
      cases x with
      | error err => exact .inl h
      | ok found =>
        cases found with
        | none => exact .inl h
        | some hash' =>
          obtain ⟨r', hr', heq⟩ := Option.map_eq_some_iff.mp h
          cases heq
          have hget := (Env.command_read (Shared.exec_ask he)).2 _ rfl
          exact .inr ⟨ch, c, id, k, rfl, ht, hget.symm, hr'⟩
    | generateOtp | bcryptHash text | getRegistrationSession id => cases x <;> exact .inl h
    | _ => exact .inl h
  | _ => exact .inl h

theorem new_loaded (hs : Journal.Stepped s a s') {i : Nat} {data : RegistrationSessionData}
    (h : (s'.entries i).loaded = some data) : (s.entries i).loaded = some data ∨
      ∃ ch c id k, a = .act (.run i ch) ∧
        s.pool.threads[i]? = some ⟨c, some (.call (.aux (.getRegistrationSession id)) k)⟩ ∧
          (s.entries i).loaded = none ∧
            s.pool.world.env.registrationSession.get s.pool.world.env.now id = some data := by
  obtain hsame | ⟨ch, c, stmt, k, x, rfl, ht, he, hentry⟩ := hs.entry i
  · rw [hsame] at h
    exact .inl h
  rw [hentry] at h
  cases stmt with
  | aux b =>
    cases b with
    | getRegistrationSession id =>
      cases x with
      | error err => exact .inl h
      | ok found =>
        change ((s.entries i).loaded <|> found) = some data at h
        cases hold : (s.entries i).loaded with
        | some data' =>
          rw [hold] at h
          exact .inl h
        | none =>
          rw [hold] at h
          obtain rfl : found = some data := h
          have hget := (Env.command_read (Shared.exec_ask he)).2 _ rfl
          exact .inr ⟨ch, c, id, k, rfl, ht, rfl, hget.symm⟩
    | getOtp id =>
      cases x with
      | error err => exact .inl h
      | ok hash => cases hash <;> exact .inl h
    | generateOtp | bcryptHash text => cases x <;> exact .inl h
    | _ => exact .inl h
  | _ => exact .inl h

theorem issues_getOtp (hn : RegistersNoted s) {i : Nat} {c : RegisterCall} {id : Id}
    {k : Except Err (Option String) → OtpCode S RegisterOut}
    (ht : s.pool.threads[i]? = some ⟨c, some (.call (.aux (.getOtp id)) k)⟩) :
    (∃ otp fingerprint ipAddress userAgent,
      c = .verifyAndRegister id otp fingerprint ipAddress userAgent) ∧
      (s.entries i).loaded = none := by
  obtain ⟨g, hg, hmay, -⟩ := hn.notes i c _ ht
  cases c with
  | sendOtp data => cases g <;> simp [RegisterStage.ledger, RegisterStage.maySend,
      RegisterStage.Harmless] at hmay
  | verifyAndRegister sessionId otp fingerprint ipAddress userAgent =>
    cases g with
    | asking =>
      cases hmay
      exact ⟨⟨otp, fingerprint, ipAddress, userAgent, rfl⟩, hg.1⟩
    | _ => simp [RegisterStage.ledger, RegisterStage.mayRegister, RegisterStage.Harmless] at hmay

theorem issues_getRegistrationSession (hn : RegistersNoted s) {i : Nat} {c : RegisterCall} {id : Id}
    {k : Except Err (Option RegistrationSessionData) → OtpCode S RegisterOut}
    (ht : s.pool.threads[i]? = some ⟨c, some (.call (.aux (.getRegistrationSession id)) k)⟩) :
    ∃ otp fingerprint ipAddress userAgent,
      c = .verifyAndRegister id otp fingerprint ipAddress userAgent := by
  obtain ⟨g, hg, hmay, -⟩ := hn.notes i c _ ht
  cases c with
  | sendOtp data => cases g <;> simp [RegisterStage.ledger, RegisterStage.maySend,
      RegisterStage.Harmless] at hmay
  | verifyAndRegister sessionId otp fingerprint ipAddress userAgent =>
    cases g with
    | accepted =>
      obtain hmay | hmay := hmay
      · exact hmay.elim
      · cases hmay
        exact ⟨otp, fingerprint, ipAddress, userAgent, rfl⟩
    | _ => simp [RegisterStage.ledger, RegisterStage.mayRegister, RegisterStage.Harmless] at hmay

theorem issues_setOtp (hn : RegistersNoted s) {i : Nat} {c : RegisterCall} {id : Id} {hash : String}
    {ttl : ℕ+} {k : Except Err Unit → OtpCode S RegisterOut}
    (ht : s.pool.threads[i]? = some ⟨c, some (.call (.aux (.setOtp id hash ttl)) k)⟩) :
    Sealed s i hash := by
  obtain ⟨g, hg, hmay, -⟩ := hn.notes i c _ ht
  cases c with
  | sendOtp data =>
    cases g with
    | hashed otp hashedPassword =>
      obtain hmay | hmay | ⟨id', salt, ttl', hmay⟩ | ⟨id', ttl', hmay⟩ := hmay
      · exact hmay.elim
      · cases hmay
      · cases hmay
        exact ⟨salt, otp, hg.1, rfl⟩
      · cases hmay
    | _ => simp [RegisterStage.ledger, RegisterStage.maySend, RegisterStage.Harmless] at hmay
  | verifyAndRegister sessionId otp fingerprint ipAddress userAgent =>
    cases g <;> simp [RegisterStage.ledger, RegisterStage.mayRegister,
      RegisterStage.Harmless] at hmay

theorem issues_setRegistrationSession (hn : RegistersNoted s) {i : Nat} {c : RegisterCall} {id : Id}
    {data : RegistrationSessionData} {ttl : ℕ+} {k : Except Err Unit → OtpCode S RegisterOut}
    (ht : s.pool.threads[i]? =
      some ⟨c, some (.call (.aux (.setRegistrationSession id data ttl)) k)⟩) :
    Registers s i data := by
  obtain ⟨g, hg, hmay, -⟩ := hn.notes i c _ ht
  cases c with
  | sendOtp request =>
    cases g with
    | hashed otp hashedPassword =>
      obtain hmay | hmay | ⟨id', salt, ttl', hmay⟩ | ⟨id', ttl', hmay⟩ := hmay
      · exact hmay.elim
      · cases hmay
      · cases hmay
      · cases hmay
        exact ⟨request, _, hashedPassword, ht, hg.2, rfl⟩
    | _ => simp [RegisterStage.ledger, RegisterStage.maySend, RegisterStage.Harmless] at hmay
  | verifyAndRegister sessionId otp fingerprint ipAddress userAgent =>
    cases g <;> simp [RegisterStage.ledger, RegisterStage.mayRegister,
      RegisterStage.Harmless] at hmay

/-- The requests of a run: the one-time passwords are those that the calls have drawn, the
registration data theirs; and who presents the one-time password of a call loads its data. -/
structure Consistent (s : (registerJournal S).State) : Prop where
  noted : RegistersNoted s
  users : ∀ i, s.pool.threads.length ≤ i → usersOf s.pool.world i = []
  otps : ∀ i otp, (s.entries i).otp = some otp → IsOtp otp
  distinct : ∀ i j otp, (s.entries i).otp = some otp → (s.entries j).otp = some otp → i = j
  storedOtp : ∀ id hash, s.pool.world.env.otp.get s.pool.world.env.now id = some hash →
    ∃ r, s.pool.world.env.otpWriter id = some r ∧ Sealed s r hash
  storedData : ∀ id data,
    s.pool.world.env.registrationSession.get s.pool.world.env.now id = some data →
    ∃ r, s.pool.world.env.dataWriter id = some r ∧ Registers s r data
  read : ∀ i r hash, (s.entries i).read = some (r, hash) → Sealed s r hash
  fresh : ∀ i id r, Presents s i id r → ¬ s.Over i → (s.entries i).loaded = none →
    s.pool.world.env.dataWriter id = some r
  loaded : ∀ i id r data, Presents s i id r → (s.entries i).loaded = some data →
    Registers s r data

theorem usersOf_step (hs : Journal.Stepped s a s') {i : Nat} (hi : ¬ Journal.Mine i a) :
    usersOf s'.pool.world i = usersOf s.pool.world i := by
  cases hs with
  | ran ht he => exact usersOf_of_ne he (Ne.symm hi)
  | _ => rfl

theorem can_of_exec {σ σ' : Shared (otpService S) RegisterCall} {i : Nat} {c : RegisterCall}
    {ch : Choice String} {stmt : Stmt (otpService S)} {r : Except Err stmt.Ans}
    (he : σ.exec i c stmt ch = some (r, σ')) : RegisterStage.can stmt r := by
  cases stmt with
  | aux b =>
    cases b with
    | bcryptHash text =>
      cases r with
      | error err => trivial
      | ok hash =>
        have hask : ask S σ.world.env i (.bcryptHash text) ch = some (.ok hash, σ'.world.env) :=
          Shared.exec_ask he
        exact ⟨_, (Except.ok.inj (Prod.mk.inj (Option.some.inj hask)).1).symm⟩
    | _ => trivial
  | _ => trivial

theorem Consistent.noted_step (h : Consistent s) (hs : Journal.Stepped s a s') :
    RegistersNoted s' := by
  refine h.noted.step hs (fun c _ => ⟨.first c, ?_, follows_registerBody c⟩) ?_ ?_
  · cases c with
    | sendOtp data => exact ⟨rfl, rfl⟩
    | verifyAndRegister id otp fingerprint ipAddress userAgent =>
      exact ⟨rfl, h.users _ (Nat.le_refl _)⟩
  · intro i ch c stmt k r σ g _ ht he hg hmay
    cases c with
    | sendOtp data => exact ⟨can_of_exec he, RegisterStage.means_send hmay he hg⟩
    | verifyAndRegister id otp fingerprint ipAddress userAgent =>
      refine ⟨can_of_exec he, RegisterStage.means_register rfl hmay he (fun hash hget => ?_) hg⟩
      obtain ⟨r', hr', -⟩ := h.storedOtp id hash hget
      change s.pool.world.env.otpWriter id ≠ none
      rw [hr']
      exact Option.some_ne_none r'
  · intro i c g hnot hg
    exact hg.congr (usersOf_step hs hnot)

theorem Consistent.users_step (h : Consistent s) (hs : Journal.Stepped s a s') {i : Nat}
    (hi : s'.pool.threads.length ≤ i) : usersOf s'.pool.world i = [] := by
  have hlength : s.pool.threads.length ≤ s'.pool.threads.length := by
    cases hs with
    | called c => simp [Pool.spawn]
    | ran ht he => exact Nat.le_of_eq List.length_set.symm
    | crashed ht => exact Nat.le_of_eq List.length_set.symm
    | ticked d => exact Nat.le_refl _
  rw [usersOf_step hs ?_]
  · exact h.users i (hlength.trans hi)
  · have hnone : s.pool.threads[i]? = none := List.getElem?_eq_none (hlength.trans hi)
    cases hs with
    | @ran j _ _ _ _ _ _ ht he =>
      rintro rfl
      cases hnone.symm.trans ht
    | @crashed j _ _ _ ht =>
      rintro rfl
      cases hnone.symm.trans ht
    | _ => exact id

theorem Consistent.otp_step (h : Consistent s) (ha : distinctOtps s a) (hs : Journal.Stepped s a s')
    {i : Nat} {otp : String} (hi : (s'.entries i).otp = some otp) : IsOtp otp ∧
      ∀ j, (s'.entries j).otp = some otp → i = j := by
  have hnew : ∀ {j c k}, a = .act (.run j (.reply otp)) →
      s.pool.threads[j]? = some ⟨c, some (.call (.aux .generateOtp) k)⟩ →
      IsOtp otp ∧ ∀ i, (s.entries i).otp ≠ some otp := by
    rintro j c k rfl ht
    obtain ⟨hotp, hothers⟩ := ha c k ht
    refine ⟨hotp, fun i hi => ?_⟩
    by_cases hlt : i < s.pool.threads.length
    · exact hothers i _ _ (List.getElem?_eq_getElem hlt) hi
    · rw [h.noted.blank i (Nat.le_of_not_lt hlt)] at hi
      cases hi
  obtain hold | ⟨c, k, rfl, ht⟩ := new_otp hs hi
  · refine ⟨h.otps i otp hold, fun j hj => ?_⟩
    obtain hold' | ⟨c, k, rfl, ht⟩ := new_otp hs hj
    · exact h.distinct i j otp hold hold'
    · exact absurd hold ((hnew rfl ht).2 i)
  · refine ⟨(hnew rfl ht).1, fun j hj => ?_⟩
    obtain hold' | ⟨c', k', heq, -⟩ := new_otp hs hj
    · exact absurd hold' ((hnew rfl ht).2 j)
    · cases heq
      rfl

/-- What holds of the values that calls write, and stays, holds of those that are stored. -/
theorem Slot.stored_step {V : Type} (x : Slot V) (hs : Journal.Stepped s a s')
    {P : (registerJournal S).State → Nat → V → Prop}
    (hstored : ∀ id v, (x.store s.pool.world.env).get s.pool.world.env.now id = some v →
      ∃ r, x.writer s.pool.world.env id = some r ∧ P s r v)
    (hwritten : ∀ {i c id v ttl k},
      s.pool.threads[i]? = some ⟨c, some (.call (.aux (x.write id v ttl)) k)⟩ → P s i v)
    (hP : ∀ {r v}, P s r v → P s' r v) {id : Id} {v : V}
    (hget : (x.store s'.pool.world.env).get s'.pool.world.env.now id = some v) :
    ∃ r, x.writer s'.pool.world.env id = some r ∧ P s' r v := by
  have hkept : (x.store s.pool.world.env).get s.pool.world.env.now id = some v →
      x.writer s'.pool.world.env id = x.writer s.pool.world.env id →
      ∃ r, x.writer s'.pool.world.env id = some r ∧ P s' r v := by
    intro hold hwriter
    obtain ⟨r, hr, hv⟩ := hstored id v hold
    exact ⟨r, hwriter.trans hr, hP hv⟩
  cases hs with
  | called c => exact hkept hget rfl
  | crashed ht => exact hkept hget rfl
  | ticked d =>
    obtain ⟨hstore, hwriter⟩ := x.ticked s.pool.world.env
      { s.pool.world.env.auth with now := s.pool.world.env.auth.now + d }
    refine hkept (Redis.Store.get_earlier (Nat.le_add_right _ d) ?_) (congrFun hwriter id)
    rw [← hstore]
    exact hget
  | @ran i ch c stmt k r σ ht he =>
    obtain ⟨hold, hwriter⟩ | ⟨ttl, rfl, hwriter⟩ := x.exec he hget
    · exact hkept hold hwriter
    · exact ⟨i, hwriter, hP (hwritten ht)⟩

theorem Consistent.storedOtp_step (h : Consistent s) (hs : Journal.Stepped s a s') {id : Id}
    {hash : String}
    (hget : s'.pool.world.env.otp.get s'.pool.world.env.now id = some hash) :
    ∃ r, s'.pool.world.env.otpWriter id = some r ∧ Sealed s' r hash :=
  otpSlot.stored_step hs h.storedOtp (issues_setOtp h.noted) (·.of_step hs) hget

theorem Consistent.storedData_step (h : Consistent s) (hs : Journal.Stepped s a s') {id : Id}
    {data : RegistrationSessionData}
    (hget : s'.pool.world.env.registrationSession.get s'.pool.world.env.now id = some data) :
    ∃ r, s'.pool.world.env.dataWriter id = some r ∧ Registers s' r data :=
  dataSlot.stored_step hs h.storedData (issues_setRegistrationSession h.noted) (·.of_step hs) hget

theorem Consistent.read_step (h : Consistent s) (hs : Journal.Stepped s a s') {i r : Nat}
    {hash : String} (hread : (s'.entries i).read = some (r, hash)) :
    Sealed s r hash := by
  obtain hold | ⟨ch, c, id, k, rfl, ht, hget, hwriter⟩ := new_read hs hread
  · exact h.read i r hash hold
  · obtain ⟨r', hr', hsealed⟩ := h.storedOtp id hash hget
    obtain rfl : r' = r := Option.some.inj (hr'.symm.trans hwriter)
    exact hsealed

theorem Consistent.presents_step (h : Consistent s) (hs : Journal.Stepped s a s') {i r : Nat}
    {id : Id} (hp : Presents s' i id r) : Presents s i id r ∨
      ∃ ch otp fingerprint ipAddress userAgent k, a = .act (.run i ch) ∧
        s.pool.threads[i]? = some ⟨.verifyAndRegister id otp fingerprint ipAddress userAgent,
          some (.call (.aux (.getOtp id)) k)⟩ ∧
        s.pool.world.env.otp.get s.pool.world.env.now id ≠ none ∧
          s.pool.world.env.otpWriter id = some r ∧ (s.entries r).otp = some otp ∧
            (s.entries i).loaded = none := by
  obtain ⟨otp, fingerprint, ipAddress, userAgent, code, hash, ht, hread, hotp⟩ := hp
  -- The call has drawn its one-time password before it was stored, and read.
  have hotp' : (s.entries r).otp = some otp := by
    obtain ⟨salt, otp', hold, -⟩ := h.read_step hs hread
    obtain rfl := Option.some.inj ((otp_kept hs hold).symm.trans hotp)
    exact hold
  obtain hold | ⟨ch, c, id', k, rfl, ht', hget, hwriter⟩ := new_read hs hread
  · obtain ⟨code', ht'⟩ | hnew := hs.thread ht
    · exact .inl ⟨otp, fingerprint, ipAddress, userAgent, code', hash, ht', hold, hotp'⟩
    · rw [h.noted.blank i hnew] at hold
      cases hold
  · obtain ⟨⟨otp', fingerprint', ipAddress', userAgent', rfl⟩, hloaded⟩ :=
      issues_getOtp h.noted ht'
    obtain ⟨code', hstays⟩ := hs.stays ht'
    obtain ⟨hcall, -⟩ := Thread.mk.inj (Option.some.inj (hstays.symm.trans ht))
    cases hcall
    refine .inr ⟨ch, otp, fingerprint, ipAddress, userAgent, k, rfl, ht', ?_, hwriter, hotp',
      hloaded⟩
    rw [hget]
    exact Option.some_ne_none hash

theorem dataWriter_step (hs : Journal.Stepped s a s') (id : Id) :
    s'.pool.world.env.dataWriter id = s.pool.world.env.dataWriter id ∨
      ∃ j ch c data ttl k, a = .act (.run j ch) ∧
        s.pool.threads[j]? = some ⟨c, some (.call (.aux (.setRegistrationSession id data ttl)) k)⟩ ∧
          s'.pool.world.env.dataWriter id = some j := by
  cases hs with
  | @ran i ch c stmt k r σ ht he =>
    obtain hsame | ⟨⟨data, ttl, rfl⟩, hwriter⟩ := exec_dataWriter id he
    · exact .inl hsame
    · exact .inr ⟨i, ch, c, data, ttl, k, rfl, ht, hwriter⟩
  | _ => exact .inl rfl

theorem Consistent.fresh_step (h : Consistent s) (ha : ownData s a) (hs : Journal.Stepped s a s')
    {i r : Nat} {id : Id} (hp : Presents s' i id r) (hover : ¬ s'.Over i)
    (hloaded : (s'.entries i).loaded = none) : s'.pool.world.env.dataWriter id = some r := by
  have hnone : (s.entries i).loaded = none := by
    cases hold : (s.entries i).loaded with
    | none => rfl
    | some data => cases hloaded.symm.trans (loaded_kept hs hold)
  obtain hp | ⟨ch, otp, fingerprint, ipAddress, userAgent, k, rfl, ht, hget, hwriter, hotp, -⟩ :=
    h.presents_step hs hp
  · have hactive : ¬ s.Over i := by
      obtain ⟨_, _, _, _, _, _, ht, -⟩ := hp
      exact fun ho => hover (hs.over (List.getElem?_eq_some_iff.mp ht).1 ho)
    obtain hsame | ⟨j, ch, c, data, ttl, k, rfl, ht, hwriter⟩ := dataWriter_step hs id
    · exact hsame.trans (h.fresh i id r hp hactive hnone)
    · obtain ⟨request, code, hash, ht', -⟩ := issues_setRegistrationSession h.noted ht
      obtain ⟨rfl, -⟩ := Thread.mk.inj (Option.some.inj (ht.symm.trans ht'))
      obtain ⟨otp, fingerprint, ipAddress, userAgent, code, hash, hti, hread, hotp⟩ := hp
      have hown := ha.2.2 request id data ttl k ht i r otp fingerprint ipAddress userAgent code hash
        hactive hti hread hnone hotp
      rw [hown]
      exact hwriter
  · have hown := ha.2.1 id otp fingerprint ipAddress userAgent k r ht hget hwriter hotp
    obtain hsame | ⟨j, ch', c, data, ttl, k', heq, ht', -⟩ := dataWriter_step hs id
    · exact hsame.trans hown
    · cases heq
      cases ht.symm.trans ht'

theorem Consistent.loaded_step (h : Consistent s) (hs : Journal.Stepped s a s') {i r : Nat}
    {id : Id} {data : RegistrationSessionData} (hp : Presents s' i id r)
    (hloaded : (s'.entries i).loaded = some data) : Registers s' r data := by
  refine Registers.of_step hs ?_
  obtain hold | ⟨ch, c, id', k, rfl, ht, hnone, hget⟩ := new_loaded hs hloaded
  · obtain hp | ⟨_, _, _, _, _, _, -, -, -, -, -, hnone⟩ := h.presents_step hs hp
    · exact h.loaded i id r data hp hold
    · cases hnone.symm.trans hold
  · obtain hp | ⟨_, _, _, _, _, _, heq, ht', -⟩ := h.presents_step hs hp
    · obtain ⟨_, _, _, _, rfl⟩ := issues_getRegistrationSession h.noted ht
      have hid : id' = id := by
        obtain ⟨_, _, _, _, _, _, ht', -⟩ := hp
        obtain ⟨hcall, -⟩ := Thread.mk.inj (Option.some.inj (ht.symm.trans ht'))
        cases hcall
        rfl
      subst hid
      have hfresh := h.fresh i id' r hp (fun ho => ho _ _ _ ht) hnone
      obtain ⟨r', hr', hregisters⟩ := h.storedData id' data hget
      obtain rfl := Option.some.inj (hr'.symm.trans hfresh)
      exact hregisters
    · cases heq
      cases ht.symm.trans ht'

theorem Consistent.step (h : Consistent s) (ha : ownData s a) (hs : Journal.Stepped s a s') :
    Consistent s' where
  noted := h.noted_step hs
  users _ hi := h.users_step hs hi
  otps _ _ hi := (h.otp_step ha.1 hs hi).1
  distinct _ j _ hi hj := (h.otp_step ha.1 hs hi).2 j hj
  storedOtp _ _ hget := h.storedOtp_step hs hget
  storedData _ _ hget := h.storedData_step hs hget
  read _ _ _ hread := (h.read_step hs hread).of_step hs
  fresh _ _ _ hp hover hnone := h.fresh_step ha hs hp hover hnone
  loaded _ _ _ _ hp hloaded := h.loaded_step hs hp hloaded

theorem Consistent.registersOwnData (hS : SeparatesOtps S) (h : Consistent s) :
    RegistersOwnData s := by
  intro i r id otp fingerprint ipAddress userAgent response data code ht hr hotp
  obtain ⟨g, hg, hreturns⟩ := h.noted.notes i _ _ ht
  obtain ⟨data', rfl⟩ : ∃ data', g = .created data' := hreturns
  obtain ⟨⟨_, otp', _, _, _, r', hash, hcall, hread, hcompare⟩, hloaded, user, hmatches, husers⟩ := hg
  cases hcall
  obtain ⟨salt, otp', hotp', rfl⟩ := h.read i r' hash hread
  obtain rfl := hS salt otp otp' (h.otps r otp hotp) (h.otps r' otp' hotp') hcompare
  obtain rfl := h.distinct r r' otp hotp hotp'
  have hpresents : Presents s i id r := ⟨_, _, _, _, _, _, ht, hread, hotp⟩
  obtain ⟨request, code', hashedPassword, hr', hhash, rfl⟩ := h.loaded i id r data' hpresents hloaded
  obtain ⟨hrequest, -⟩ := Thread.mk.inj (Option.some.inj (hr.symm.trans hr'))
  cases hrequest
  obtain ⟨hfirst, hlast, hpassword⟩ := hmatches
  refine ⟨user, husers, hfirst, hlast, ?_⟩
  rw [hhash, hpassword]
  rfl

/-- The service with its users, before any one-time password. -/
def registerStart (S : OtpSettings) (d : Db) (now : Nat) : (registerJournal S).State :=
  (registerJournal S).start (Pool.init d (.init now))

theorem consistent_start (d : Db) (now : Nat) : Consistent (registerStart S d now) where
  noted := Journal.noted_start rfl
  users _ _ := rfl
  otps _ _ h := by cases h
  distinct _ _ _ h := by cases h
  storedOtp _ _ h := by cases h
  storedData _ _ h := by cases h
  read _ _ _ h := by cases h
  fresh := by
    rintro i id r ⟨_, _, _, _, _, _, ht, -⟩
    cases ht
  loaded := nofun

/-- In runs in which the one-time password that a call presents is read together with the data
of its request, and these are not overwritten before they are loaded, a registration creates
the user of the request whose one-time password it presents. -/
theorem registersOwnData_of_ownData (hS : SeparatesOtps S) {d : Db} {now : Nat}
    (h : System.Run (registerJournal S).system ownData (registerStart S d now) s) :
    RegistersOwnData s := by
  have hconsistent : Consistent s := h.invariant (consistent_start d now)
    fun _ _ _ _ hq ha hstep => hq.step ha (Journal.stepped hstep)
  exact hconsistent.registersOwnData hS

theorem separatesOtps_sample : SeparatesOtps sampleOtpSettings := by
  intro salt otp otp' _ _ h
  have heq : "$2b$10$" ++ otp' = "$2b$10$" ++ otp := of_decide_eq_true h
  have hlists := congrArg String.toList heq
  rw [String.toList_append, String.toList_append] at hlists
  exact (String.toList_inj.mp (List.append_cancel_left hlists)).symm

/-- The next `n` statements of call `i`. -/
def nextStatements (i n : Nat) : List (Event (registerMachine sampleOtpSettings)) :=
  List.replicate n (.act (.run i .ok))

def sampleSend (i : Nat) (firstName password otp : String) (n : Nat) :
    List (Event (registerMachine sampleOtpSettings)) :=
  .call (.sendOtp ⟨firstName, "Rao", "asha@example.com", password⟩) :: nextStatements i 2 ++
    .act (.run i (.reply otp)) :: nextStatements i n

def sampleRegister (i : Nat) (otp : String) (n : Nat) :
    List (Event (registerMachine sampleOtpSettings)) :=
  .call (.verifyAndRegister 1 otp "phone" none none) :: nextStatements i n

def distinctTest (s : (registerJournal sampleOtpSettings).State) :
    Event (registerMachine sampleOtpSettings) → Bool
  | .act (.run _ (.reply otp)) => IsOtp otp && (List.range s.pool.threads.length).all
      (fun j => (s.entries j).otp ≠ some otp)
  | _ => true

theorem distinctOtps_of_test {s : (registerJournal sampleOtpSettings).State}
    {a : Event (registerMachine sampleOtpSettings)} (h : distinctTest s a = true) :
    distinctOtps s a := by
  unfold distinctTest at h
  split at h
  · obtain ⟨hotp, hothers⟩ := Bool.and_eq_true_iff.mp h
    refine fun c k ht => ⟨of_decide_eq_true hotp, fun j c' code hj => ?_⟩
    have hlt := (List.getElem?_eq_some_iff.mp hj).1
    exact of_decide_eq_true (List.all_eq_true.mp hothers j (List.mem_range.mpr hlt))
  · next hother =>
    unfold distinctOtps
    split
    · next i otp => exact absurd rfl (hother i otp)
    · trivial

def readsTest (s : (registerJournal sampleOtpSettings).State) :
    Event (registerMachine sampleOtpSettings) → Bool
  | .act (.run i _) =>
    match s.pool.threads[i]? with
    | some ⟨.verifyAndRegister sessionId .., some (.call (.aux (.getOtp _)) _)⟩ =>
      s.pool.world.env.dataWriter sessionId = s.pool.world.env.otpWriter sessionId
    | _ => true
  | _ => true

theorem readsWhole_of_test {s : (registerJournal sampleOtpSettings).State}
    {a : Event (registerMachine sampleOtpSettings)} (h : readsTest s a = true) :
    readsWhole s a := by
  cases a with
  | call c => trivial
  | act a =>
    cases a with
    | crash i => trivial
    | tick d => trivial
    | run i ch =>
      intro id otp fingerprint ipAddress userAgent k r ht _ hwriter _
      simp only [readsTest, ht] at h
      exact (of_decide_eq_true h).trans hwriter

def keepsTest (s : (registerJournal sampleOtpSettings).State) :
    Event (registerMachine sampleOtpSettings) → Bool
  | .act (.run i _) =>
    match s.pool.threads[i]? with
    | some ⟨_, some (.call (.aux (.setRegistrationSession ..)) _)⟩ =>
      s.pool.threads.all (fun
        | ⟨.verifyAndRegister .., some (.call _ _)⟩ => false
        | _ => true)
    | _ => true
  | _ => true

theorem keepsData_of_test {s : (registerJournal sampleOtpSettings).State}
    {a : Event (registerMachine sampleOtpSettings)} (h : keepsTest s a = true) :
    keepsData s a := by
  cases a with
  | call c => trivial
  | act a =>
    cases a with
    | crash i => trivial
    | tick d => trivial
    | run j ch =>
      intro request id data ttl k ht i r otp fingerprint ipAddress userAgent code hash hactive hti
      simp only [keepsTest, ht] at h
      refine absurd (fun c stmt k' ht' => ?_) hactive
      have hnone := List.all_eq_true.mp h _ (List.mem_of_getElem? ht')
      obtain ⟨rfl, -⟩ := Thread.mk.inj (Option.some.inj (hti.symm.trans ht'))
      cases hnone

def registeredNames (s : (registerJournal sampleOtpSettings).State) (i : Nat) : List String :=
  (usersOf s.pool.world i).map User.firstName

def sampleRegisterStart : (registerJournal sampleOtpSettings).State :=
  registerStart sampleOtpSettings ⟨[]⟩ 0

/-- Call `i` has registered with the one-time password of call `r`, and whether it has created
the user of that call. -/
def registersFor (s : (registerJournal sampleOtpSettings).State) (i r : Nat) : Option Bool :=
  match s.pool.threads[i]?, s.pool.threads[r]? with
  | some ⟨.verifyAndRegister _ otp _ _ _, some (.ret (.registered _))⟩, some ⟨.sendOtp data, _⟩ =>
    if (s.entries r).otp = some otp then some (registeredNames s i = [data.firstName]) else none
  | _, _ => none

theorem not_registersOwnData_of_false {s : (registerJournal sampleOtpSettings).State} {i r : Nat}
    (h : registersFor s i r = some false) : ¬ RegistersOwnData s := by
  intro hown
  unfold registersFor at h
  split at h
  · next ht hr =>
    split at h
    · next hotp =>
      obtain ⟨user, husers, hfirst, -⟩ := hown i r _ _ _ _ _ _ _ _ ht hr hotp
      have hnames := of_decide_eq_false (Option.some.inj h)
      unfold registeredNames at hnames
      rw [husers, List.map_singleton, hfirst] at hnames
      exact hnames rfl
    · cases h
  · cases h

/-- A registration that nothing overtakes. -/
theorem registersOwnData_registered : ∃ s,
    System.Run (registerJournal sampleOtpSettings).system ownData sampleRegisterStart s ∧
      registersFor s 1 0 = some true ∧ RegistersOwnData s := by
  obtain ⟨s, hs, ht⟩ := System.exists_run (T := (registerJournal sampleOtpSettings).system) ownData
    sampleRegisterStart (fun s a => distinctTest s a && (readsTest s a && keepsTest s a))
    (sampleSend 0 "Asha" "Secret#1" "111111" 12 ++ sampleRegister 1 "111111" 18)
    (fun s => decide (registersFor s 1 0 = some true))
    (fun s a _ h => by
      obtain ⟨h, h'⟩ := Bool.and_eq_true_iff.mp h
      obtain ⟨h', h''⟩ := Bool.and_eq_true_iff.mp h'
      exact ⟨distinctOtps_of_test h, readsWhole_of_test h', keepsData_of_test h''⟩)
    (by decide +kernel)
  exact ⟨s, hs, of_decide_eq_true ht, registersOwnData_of_ownData separatesOtps_sample hs⟩

theorem not_registersOwnData_of_keepsData : ¬ ∀ (S : OtpSettings), SeparatesOtps S →
    ∀ (d : Db) (now : Nat) (s : (registerJournal S).State),
    System.Run (registerJournal S).system (fun s a => distinctOtps s a ∧ keepsData s a)
      (registerStart S d now) s → RegistersOwnData s := by
  intro hall
  obtain ⟨s, hs, ht⟩ := System.exists_run (T := (registerJournal sampleOtpSettings).system)
    (fun s a => distinctOtps s a ∧ keepsData s a) sampleRegisterStart
    (fun s a => distinctTest s a && keepsTest s a)
    (sampleSend 0 "Asha" "Secret#1" "111111" 12 ++ sampleSend 1 "Eve" "Other#22" "222222" 7 ++
      sampleSend 2 "Asha" "Secret#1" "333333" 11 ++ nextStatements 1 4 ++
        sampleRegister 3 "333333" 18)
    (fun s => decide (registersFor s 3 2 = some false))
    (fun s a _ h => by
      obtain ⟨h, h'⟩ := Bool.and_eq_true_iff.mp h
      exact ⟨distinctOtps_of_test h, keepsData_of_test h'⟩) (by decide +kernel)
  exact not_registersOwnData_of_false (of_decide_eq_true ht)
    (hall _ separatesOtps_sample _ _ s hs)

theorem not_registersOwnData_of_readsWhole : ¬ ∀ (S : OtpSettings), SeparatesOtps S →
    ∀ (d : Db) (now : Nat) (s : (registerJournal S).State),
    System.Run (registerJournal S).system (fun s a => distinctOtps s a ∧ readsWhole s a)
      (registerStart S d now) s → RegistersOwnData s := by
  intro hall
  obtain ⟨s, hs, ht⟩ := System.exists_run (T := (registerJournal sampleOtpSettings).system)
    (fun s a => distinctOtps s a ∧ readsWhole s a) sampleRegisterStart
    (fun s a => distinctTest s a && readsTest s a)
    (sampleSend 0 "Asha" "Secret#1" "111111" 12 ++ sampleRegister 1 "111111" 6 ++
      sampleSend 2 "Eve" "Other#22" "222222" 11 ++ nextStatements 1 12)
    (fun s => decide (registersFor s 1 0 = some false))
    (fun s a _ h => by
      obtain ⟨h, h'⟩ := Bool.and_eq_true_iff.mp h
      exact ⟨distinctOtps_of_test h, readsWhole_of_test h'⟩) (by decide +kernel)
  exact not_registersOwnData_of_false (of_decide_eq_true ht)
    (hall _ separatesOtps_sample _ _ s hs)

theorem not_registersOwnData : ¬ ∀ (S : OtpSettings), SeparatesOtps S →
    ∀ (d : Db) (now : Nat) (s : (registerJournal S).State),
    System.Run (registerJournal S).system distinctOtps (registerStart S d now) s →
      RegistersOwnData s := by
  intro hall
  exact not_registersOwnData_of_keepsData fun S hS d now s hs =>
    hall S hS d now s (hs.mono fun _ _ h => h.1)

end Runs

end RailwayBooking.UserService.Otp.Registration
