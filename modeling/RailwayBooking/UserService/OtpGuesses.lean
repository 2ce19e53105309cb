import RailwayBooking.Concurrency.Journal
import RailwayBooking.UserService.OtpCommands

namespace RailwayBooking.UserService.Otp

open Concurrency

/-- The calls of `OtpService` on one-time passwords and their attempt counters. -/
inductive GuessCall
  | storeOtp (email otp : String) (ttlSeconds : ℕ+)
  | replaceOtp (sessionId : Id) (email otp : String) (ttlSeconds : ℕ+)
  | verifyOtp (sessionId : Id) (otp : String)
  deriving DecidableEq

inductive GuessOut
  | stored (sessionId : Id)
  | replaced
  | verified (isValid : Bool)
  deriving DecidableEq

def guessBody (S : OtpSettings) : GuessCall → OtpCode S GuessOut
  | .storeOtp email otp ttlSeconds => do return .stored (← storeOtp email otp ttlSeconds)
  | .replaceOtp sessionId email otp ttlSeconds => do
    replaceOtp sessionId email otp ttlSeconds
    return .replaced
  | .verifyOtp sessionId otp => do return .verified (← verifyOtp sessionId otp)

@[reducible] def guessMachine (S : OtpSettings) : Machine (otpService S) :=
  ⟨GuessCall, GuessOut, guessBody S⟩

/-- Call `r` has stored the one-time password that the session now has. -/
def Env.Stored (e : Env) (sessionId : Id) (r : Nat) : Prop :=
  e.otp.get e.now sessionId ≠ none ∧ e.otpWriter sessionId = some r

instance (e : Env) (sessionId : Id) (r : Nat) : Decidable (e.Stored sessionId r) :=
  inferInstanceAs (Decidable (_ ∧ _))

/-- `GET auth:otp_attempts:<id>`. -/
def Env.attempts (e : Env) (sessionId : Id) : Option Nat := e.otpAttempts.get e.now sessionId

/-- Whose one-time password a call has read under which session, the number of its attempt,
whether it has compared a guess, and whether it has stored a one-time password. A wrong
guess counts while the one-time password that was read is stored. -/
structure GuessEntry where
  read : Option (Id × Nat)
  attempt : Option Nat
  wrong : Bool
  correct : Bool
  stored : Bool
  deriving DecidableEq

namespace GuessEntry

def blank : GuessEntry := ⟨none, none, false, false, false⟩

def miss (e : GuessEntry) (env : Env) : GuessEntry :=
  { e with wrong := e.read.any (fun x => env.Stored x.1 x.2) }

variable {S : OtpSettings}

def after (e : GuessEntry) (w : World (otpService S) GuessCall) :
    (s : Stmt (otpService S)) → Except Err s.Ans → GuessEntry
  | .aux (.getOtp sessionId), .ok (some _) =>
    { e with read := (w.env.otpWriter sessionId).map (sessionId, ·) }
  | .aux (.incrAttempts _), .ok attempts => { e with attempt := some attempts }
  | .aux (.bcryptCompare _ _), .ok true => { e with correct := true }
  | .aux (.bcryptCompare _ _), .ok false => e.miss w.env
  | .aux (.setOtp _ _ _), _ => { e with stored := true }
  | _, _ => e

end GuessEntry

@[reducible] def guessJournal (S : OtpSettings) : Journal (guessMachine S) :=
  ⟨GuessEntry, .blank, GuessEntry.after⟩

section Conditions

variable {S : OtpSettings} (s : (guessJournal S).State)

/-- Nobody has guessed right in the session. -/
def NoCorrectGuess (sessionId : Id) : Prop :=
  ∀ (i : Nat) otp code, s.pool.threads[i]? = some ⟨.verifyOtp sessionId otp, code⟩ →
    (s.entries i).correct = false

/-- Call `i` has compared a wrong guess against the one-time password of call `r`, while it
was stored under the session. -/
def WrongGuess (sessionId : Id) (r i : Nat) : Prop :=
  (s.entries i).wrong = true ∧ (s.entries i).read = some (sessionId, r)

/-- Of each one-time password there are at most `OTP_ATTEMPT_LIMIT` wrong guesses. -/
def BoundedGuesses : Prop :=
  ∀ sessionId r, NoCorrectGuess s sessionId → ∀ calls : List Nat, calls.Nodup →
    (∀ i ∈ calls, WrongGuess s sessionId r i) → calls.length ≤ otpAttemptLimit

def Uncounted (sessionId : Id) : Prop :=
  ∀ r, s.pool.world.env.Stored sessionId r → ∀ i, (s.entries i).read = some (sessionId, r) →
    (s.entries i).attempt = none

/-- `replaceOtp` deletes the counter only when no guess at the new one-time password has been
counted. -/
def clearsUncounted : Event (guessMachine S) → Prop
  | .act (.run i _) => ∀ sessionId email otp ttl keys k,
      s.pool.threads[i]? =
        some ⟨.replaceOtp sessionId email otp ttl, some (.call (.aux (.del keys)) k)⟩ →
      Uncounted s sessionId
  | _ => True

def expiresUncounted : Event (guessMachine S) → Prop
  | .act (.tick d) => ∀ sessionId, s.pool.world.env.attempts sessionId ≠ none →
      s.pool.world.env.otpAttempts.get (s.pool.world.env.now + d) sessionId = none →
      s.pool.world.env.otp.get (s.pool.world.env.now + d) sessionId ≠ none → Uncounted s sessionId
  | _ => True

def keepsCount (a : Event (guessMachine S)) : Prop := clearsUncounted s a ∧ expiresUncounted s a

end Conditions

section Stages

/-- How far a guess has come: the one-time password is read, the attempt is counted, the
guess is compared. The other calls store a one-time password. -/
inductive GuessStage
  | arrived
  | read
  | counted (attempts : Nat)
  | compared (correct : Bool)
  | stored
  | ended

namespace GuessStage

variable {S : OtpSettings}

def after : GuessStage → (s : Stmt (otpService S)) → Except Err s.Ans → GuessStage
  | .arrived, .aux (.getOtp _), .ok (some _) => .read
  | .arrived, .aux (.getOtp _), _ => .ended
  | .read, .aux (.incrAttempts _), .ok attempts => .counted attempts
  | .read, .aux (.incrAttempts _), .error _ => .ended
  | .counted _, .aux (.bcryptCompare _ _), .ok correct => .compared correct
  | .counted _, .aux (.bcryptCompare _ _), .error _ => .ended
  | .arrived, .aux (.setOtp _ _ _), _ => .stored
  | g, _, _ => g

def Plain : Stmt (otpService S) → Prop
  | .aux (.auth .randomUUID) | .aux (.bcryptHash _) | .aux (.incrRate _) | .aux (.ttlRate _)
  | .aux (.expireRate _ _) | .aux (.setOtpSession _ _ _) => True
  | _ => False

def mayVerify (sessionId : Id) : GuessStage → Stmt (otpService S) → Prop
  | .arrived, s => s = .aux (.getOtp sessionId)
  | .read, s => s = .aux (.incrAttempts sessionId)
  | .counted attempts, s => s = .aux (.ttlOtp sessionId) ∨
      (∃ seconds, s = .aux (.expireAttempts sessionId seconds)) ∨
      s = .aux (.del [.otp sessionId]) ∨
      (attempts ≤ otpAttemptLimit ∧ ∃ otp hash, s = .aux (.bcryptCompare otp hash))
  | .compared correct, s => s = .aux (.del [.otpAttempts sessionId]) ∧ correct = true
  | _, _ => False

/-- A one-time password is stored once; only `replaceOtp` deletes the counter after it. -/
def mayStore (cleared : List Key → Prop) : GuessStage → Stmt (otpService S) → Prop
  | .arrived, s => Plain s ∨ ∃ sessionId hash ttl, s = .aux (.setOtp sessionId hash ttl)
  | .stored, s => Plain s ∨ ∃ keys, s = .aux (.del keys) ∧ cleared keys
  | _, _ => False

def ledger : GuessCall → Ledger (otpService S) GuessStage
  | .verifyOtp sessionId _ => ⟨mayVerify sessionId, fun _ _ => True, after⟩
  | .storeOtp .. => ⟨mayStore fun _ => False, fun _ _ => True, after⟩
  | .replaceOtp sessionId .. =>
    ⟨mayStore fun keys => keys = [.otpAttempts sessionId], fun _ _ => True, after⟩

end GuessStage

open GuessStage

variable {S : OtpSettings} {cleared : List Key → Prop}

/-- The ledger of a call that stores a one-time password. -/
abbrev storing (S : OtpSettings) (cleared : List Key → Prop) : Ledger (otpService S) GuessStage :=
  ⟨mayStore cleared, fun _ _ => True, after⟩

theorem still_plain {a : Aux} {g : GuessStage} (hg : g = .arrived ∨ g = .stored)
    (h : Plain (S := S) (.aux a)) : Still (storing S cleared) g (perform a) := by
  refine still_issue ?_ fun r => ?_
  · obtain rfl | rfl := hg
    · exact .inl h
    · exact .inl h
  · cases a with
    | auth a =>
      cases a with
      | randomUUID => cases g <;> rfl
      | _ => exact h.elim
    | bcryptHash text | incrRate email | ttlRate email | expireRate email seconds
    | setOtpSession email id ttl => cases g <;> rfl
    | _ => exact h.elim

theorem still_storing_limitRate (email : String) :
    Still (storing S cleared) .arrived (limitRate email) :=
  still_limitRate (still_plain (.inl rfl) trivial) (still_plain (.inl rfl) trivial)
    (still_plain (.inl rfl) trivial)

theorem follows_set {α : Type} {sessionId : Id} {hash : String} {ttl : ℕ+}
    {f : Unit → OtpCode S α} {Q : α → GuessStage → Prop}
    (hf : Follows (storing S cleared) Q (fun _ _ => True) (f ()) .stored) :
    Follows (storing S cleared) Q (fun _ _ => True)
      (perform (.setOtp sessionId hash ttl) >>= f) .arrived :=
  follows_seq (.inr ⟨_, _, _, rfl⟩) (fun _ _ => hf) fun _ _ => trivial

theorem follows_storeOtp (email otp : String) (ttl : ℕ+) :
    Follows (storing S cleared) (fun _ _ => True) (fun _ _ => True)
      (storeOtp email otp ttl) .arrived := by
  refine Still.bind (still_storing_limitRate email) (fun _ => trivial) fun _ => ?_
  refine Still.bind (still_plain (.inl rfl) trivial) (fun _ => trivial) fun sessionId => ?_
  refine Still.bind (still_plain (.inl rfl) trivial) (fun _ => trivial) fun hash => follows_set ?_
  exact Still.bind (still_plain (.inr rfl) trivial) (fun _ => trivial) fun _ => trivial

theorem follows_replaceOtp (sessionId : Id) (email otp : String) (ttl : ℕ+) :
    Follows (storing S fun keys => keys = [.otpAttempts sessionId]) (fun _ _ => True)
      (fun _ _ => True) (replaceOtp sessionId email otp ttl) .arrived := by
  refine Still.bind (still_storing_limitRate email) (fun _ => trivial) fun _ => ?_
  refine Still.bind (still_plain (.inl rfl) trivial) (fun _ => trivial) fun hash => follows_set ?_
  refine Still.bind (still_plain (.inr rfl) trivial) (fun _ => trivial) fun _ => ?_
  exact follows_issue (.inr ⟨_, rfl, rfl⟩) (fun _ _ => trivial) fun _ _ => trivial

theorem follows_verifyOtp (sessionId : Id) (otp : String) :
    Follows (ledger (S := S) (.verifyOtp sessionId otp)) (fun _ _ => True) (fun _ _ => True)
      (verifyOtp sessionId otp) .arrived := by
  refine follows_seq rfl (fun found _ => ?_) fun _ _ => trivial
  cases found with
  | none => exact trivial
  | some hash =>
    refine follows_seq rfl (fun attempts _ => ?_) fun _ _ => trivial
    have haligned : Still (ledger (S := S) (.verifyOtp sessionId otp)) (.counted attempts)
        (alignAttempts sessionId attempts) :=
      still_alignAttempts attempts (still_issue (.inl rfl) fun _ => rfl) fun _ =>
        still_issue (.inr (.inl ⟨_, rfl⟩)) fun _ => rfl
    refine Still.bind haligned (fun _ => trivial) fun _ => ?_
    split
    · exact follows_seq (.inr (.inr (.inl rfl))) (fun _ _ => trivial) fun _ _ => trivial
    · next hle =>
      refine follows_seq (.inr (.inr (.inr ⟨Nat.le_of_not_lt hle, _, _, rfl⟩)))
        (fun isValid _ => ?_) fun _ _ => trivial
      cases isValid with
      | false => exact trivial
      | true => exact follows_seq ⟨rfl, rfl⟩ (fun _ _ => trivial) fun _ _ => trivial

theorem follows_guessBody (c : GuessCall) :
    Follows (ledger (S := S) c) (fun _ _ => True) (fun _ _ => True) (guessBody S c) .arrived := by
  cases c with
  | storeOtp email otp ttl => exact (follows_storeOtp email otp ttl).bind fun _ _ _ => trivial
  | replaceOtp sessionId email otp ttl =>
    exact (follows_replaceOtp sessionId email otp ttl).bind fun _ _ _ => trivial
  | verifyOtp sessionId otp => exact (follows_verifyOtp sessionId otp).bind fun _ _ _ => trivial

end Stages

section Environments

variable {e : Env} {i r : Nat} {sessionId id : Id} {keys : List Key}

theorem Env.Stored.of_aside {e' : Env} (h : e.Aside e') (hs : e'.Stored id r) : e.Stored id r := by
  unfold Env.Stored at hs ⊢
  rw [h.now, h.otp, h.otpWriter] at hs
  exact hs

theorem Env.attempts_of_aside {e' : Env} (h : e.Aside e') : e'.attempts id = e.attempts id := by
  rw [Env.attempts, h.now, h.otpAttempts, Env.attempts]

theorem Env.Stored.of_del (hs : (e.del keys).Stored id r) : e.Stored id r := by
  refine ⟨fun hnone => hs.1 ?_, hs.2⟩
  by_cases hk : Key.otp id ∈ keys
  · have hgone : (e.del keys).otp id = none := if_pos hk
    exact Redis.Store.get_of_none hgone
  · have hsame : (e.del keys).otp id = e.otp id := if_neg hk
    exact (Redis.Store.get_congr hsame).trans hnone

theorem Env.attempts_del (h : Key.otpAttempts id ∉ keys) :
    (e.del keys).attempts id = e.attempts id := by
  have hsame : (e.del keys).otpAttempts id = e.otpAttempts id := if_neg h
  change Redis.Counters.get _ _ _ = Redis.Counters.get _ _ _
  rw [Redis.Counters.get, Redis.Counters.live_congr hsame, Redis.Counters.get]
  rfl

theorem Env.Stored.of_setOtp {hash : String} {ttl : ℕ+}
    (hs : (e.setOtp i sessionId hash ttl).Stored id r) : r = i ∨ e.Stored id r := by
  obtain ⟨hget, hwriter⟩ := hs
  by_cases hid : id = sessionId
  · subst hid
    have hself : (e.setOtp i id hash ttl).otpWriter id = some i := Function.update_self _ _ _
    exact .inl (Option.some.inj (hwriter.symm.trans hself))
  · refine .inr ⟨fun hnone => hget ?_, (Function.update_of_ne hid _ _).symm.trans hwriter⟩
    exact (Redis.Store.get_set_ne e.otp e.now hash _ hid).trans hnone

theorem Env.otpWriter_setOtp {hash : String} {ttl : ℕ+}
    (h : (e.setOtp i sessionId hash ttl).otpWriter id = some r) :
    r = i ∨ e.otpWriter id = some r := by
  by_cases hid : id = sessionId
  · subst hid
    have hself : (e.setOtp i id hash ttl).otpWriter id = some i := Function.update_self _ _ _
    exact .inl (Option.some.inj (h.symm.trans hself))
  · exact .inr ((Function.update_of_ne hid _ _).symm.trans h)

theorem Env.Stored.of_tick {d : Nat}
    (hs : ({ e with auth := { e.auth with now := e.auth.now + d } } : Env).Stored id r) :
    e.Stored id r := by
  refine ⟨fun hnone => hs.1 ?_, hs.2⟩
  cases hget : e.otp.get (e.now + d) id with
  | none => exact hget
  | some hash =>
    have hnow := Redis.Store.get_earlier (Nat.le_add_right e.now d) hget
    cases hnone.symm.trans hnow

end Environments

section Steps

variable {S : OtpSettings} {s s' : (guessJournal S).State} {a : Event (guessMachine S)}

def GuessStage.Means (_ : Nat) (_ : GuessCall) (g : GuessStage) (e : GuessEntry)
    (_ : Shared (otpService S) GuessCall) : Prop :=
  match g with
  | .arrived => e = .blank
  | .read => e.attempt = none ∧ e.wrong = false
  | .counted attempts => e.attempt = some attempts
  | .compared correct => correct = true → e.correct = true
  | .stored | .ended => True

abbrev GuessesNoted (s : (guessJournal S).State) : Prop :=
  Journal.Noted (fun _ => GuessStage.ledger) GuessStage.Means (fun _ _ _ => True) s

def Env.Grown (e e' : Env) (id : Id) : Prop :=
  ∀ n, e.attempts id = some n → ∃ n', e'.attempts id = some n' ∧ n ≤ n'

theorem Env.Grown.of_eq {e e' : Env} {id : Id} (h : e'.attempts id = e.attempts id) :
    e.Grown e' id := fun n hn => ⟨n, h.trans hn, Nat.le_refl n⟩

/-- A step leaves the entries, reads a one-time password, counts an attempt, compares a
guess, or stores a one-time password. Counters are forgotten only if no guess has been counted. -/
inductive Progress (s s' : (guessJournal S).State) : Prop
  | kept (entries : s'.entries = s.entries)
      (stored : ∀ id r, s'.pool.world.env.Stored id r → s.pool.world.env.Stored id r)
      (writer : s'.pool.world.env.otpWriter = s.pool.world.env.otpWriter)
      (attempts : ∀ id, s.pool.world.env.Grown s'.pool.world.env id ∨
        ¬ NoCorrectGuess s id ∨ ((∃ r, s'.pool.world.env.Stored id r) → Uncounted s id))
  | read (i : Nat) {id : Id} {otp : String} {code : Option (OtpCode S GuessOut)}
      (thread : s.pool.threads[i]? = some ⟨.verifyOtp id otp, code⟩)
      (entry : s.entries i = .blank)
      (entries : s'.entries = Function.update s.entries i
        { GuessEntry.blank with read := (s.pool.world.env.otpWriter id).map (id, ·) })
      (env : s'.pool.world.env = s.pool.world.env)
  | counted (i : Nat) {id : Id} {otp : String} {code : Option (OtpCode S GuessOut)} {n : Nat}
      (thread : s.pool.threads[i]? = some ⟨.verifyOtp id otp, code⟩)
      (entry : (s.entries i).attempt = none ∧ (s.entries i).wrong = false)
      (entries : s'.entries = Function.update s.entries i { s.entries i with attempt := some n })
      (stored : ∀ id r, s'.pool.world.env.Stored id r → s.pool.world.env.Stored id r)
      (writer : s'.pool.world.env.otpWriter = s.pool.world.env.otpWriter)
      (self : s'.pool.world.env.attempts id = some n ∧ 0 < n ∧
        ∀ m, s.pool.world.env.attempts id = some m → m < n)
      (others : ∀ id', id' ≠ id → s.pool.world.env.Grown s'.pool.world.env id')
  | compared (i : Nat) {n : Nat} {entry : GuessEntry}
      (attempt : (s.entries i).attempt = some n ∧ n ≤ otpAttemptLimit)
      (entries : s'.entries = Function.update s.entries i entry)
      (guess : entry = { s.entries i with correct := true } ∨
        entry = (s.entries i).miss s.pool.world.env)
      (env : s'.pool.world.env = s.pool.world.env)
  | stored (i : Nat) (entry : (s.entries i).stored = false)
      (entries : s'.entries = Function.update s.entries i { s.entries i with stored := true })
      (stored : ∀ id r, s'.pool.world.env.Stored id r → r = i ∨ s.pool.world.env.Stored id r)
      (writer : ∀ id r, s'.pool.world.env.otpWriter id = some r →
        r = i ∨ s.pool.world.env.otpWriter id = some r)
      (attempts : ∀ id, s.pool.world.env.Grown s'.pool.world.env id)

theorem Progress.aside (hentries : s'.entries = s.entries)
    (h : s.pool.world.env.Aside s'.pool.world.env) : Progress s s' :=
  .kept hentries (fun _ _ => Env.Stored.of_aside h) h.otpWriter fun _ =>
    .inl (.of_eq (Env.attempts_of_aside h))

theorem Progress.command {e' : Env} (hentries : s'.entries = s.entries)
    (henv : s'.pool.world.env = s.pool.world.env ∨ s'.pool.world.env = e')
    (hstored : ∀ id r, e'.Stored id r → s.pool.world.env.Stored id r)
    (hwriter : e'.otpWriter = s.pool.world.env.otpWriter)
    (hattempts : ∀ id, s.pool.world.env.Grown e' id ∨ ¬ NoCorrectGuess s id ∨
      ((∃ r, e'.Stored id r) → Uncounted s id)) : Progress s s' := by
  obtain henv | henv := henv
  · refine .aside hentries ?_
    rw [henv]
    exact .refl _
  · refine .kept hentries (fun id r h => hstored id r ?_) (henv ▸ hwriter) fun id => ?_
    · rw [← henv]
      exact h
    · rw [henv]
      exact hattempts id

/-- The deletion of the counter of a session in which somebody has guessed right, or no guess
has been counted. -/
theorem Progress.cleared {id : Id} (hentries : s'.entries = s.entries)
    (henv : s'.pool.world.env = s.pool.world.env ∨
      s'.pool.world.env = s.pool.world.env.del [.otpAttempts id])
    (h : ¬ NoCorrectGuess s id ∨ Uncounted s id) : Progress s s' := by
  refine .command hentries henv (fun _ _ => Env.Stored.of_del) rfl fun id' => ?_
  by_cases hid : id' = id
  · subst hid
    exact .inr (h.imp_right fun hu _ => hu)
  · exact .inl (.of_eq (Env.attempts_del (by simpa using hid)))

variable {i : Nat} {c : GuessCall} {g : GuessStage} {ch : Choice String} {e : GuessEntry}
  {w : World (otpService S) GuessCall}

theorem plain_after {stmt : Stmt (otpService S)} (h : GuessStage.Plain stmt)
    (r : Except Err stmt.Ans) : g.after stmt r = g ∧ e.after w stmt r = e := by
  cases stmt with
  | aux a =>
    cases a with
    | auth a =>
      cases a with
      | randomUUID => cases g <;> exact ⟨rfl, rfl⟩
      | _ => exact h.elim
    | bcryptHash text | incrRate email | ttlRate email | expireRate email seconds
    | setOtpSession email id ttl => cases g <;> exact ⟨rfl, rfl⟩
    | _ => exact h.elim
  | _ => exact h.elim

theorem plain_aside {σ σ' : Shared (otpService S) GuessCall} {stmt : Stmt (otpService S)}
    {r : Except Err stmt.Ans} (h : GuessStage.Plain stmt)
    (he : σ.exec i c stmt ch = some (r, σ')) : σ.world.env.Aside σ'.world.env := by
  cases stmt with
  | aux a =>
    refine ask_aside (Shared.exec_ask he) ⟨?_, ?_, ?_, ?_, ?_⟩
    · rintro id hash ttl rfl
      exact h
    · rintro id rfl
      exact h
    · rintro id ttl rfl
      exact h
    · rintro id data ttl rfl
      exact h
    · rintro keys rfl
      exact h
  | _ => exact h.elim

theorem means_storing {cleared : List Key → Prop} {stmt : Stmt (otpService S)}
    {r : Except Err stmt.Ans} {σ σ' : Shared (otpService S) GuessCall}
    (hmay : GuessStage.mayStore cleared g stmt) (h : GuessStage.Means i c g e σ) :
    GuessStage.Means i c (g.after stmt r) (e.after w stmt r) σ' := by
  cases g with
  | arrived =>
    obtain hplain | ⟨id, hash, ttl, rfl⟩ := hmay
    · obtain ⟨hg, he⟩ := plain_after (g := .arrived) (e := e) (w := w) hplain r
      rw [hg, he]
      exact h
    · trivial
  | stored =>
    obtain hplain | ⟨keys, rfl, -⟩ := hmay
    · obtain ⟨hg, he⟩ := plain_after (g := .stored) (e := e) (w := w) hplain r
      rw [hg, he]
      exact h
    · trivial
  | _ => exact hmay.elim

theorem means_verifying {id : Id} {stmt : Stmt (otpService S)} {r : Except Err stmt.Ans}
    {σ σ' : Shared (otpService S) GuessCall} (hmay : GuessStage.mayVerify id g stmt)
    (h : GuessStage.Means i c g e σ) :
    GuessStage.Means i c (g.after stmt r) (e.after w stmt r) σ' := by
  cases g with
  | arrived =>
    obtain rfl := hmay
    obtain rfl := h
    cases r with
    | error x => trivial
    | ok found =>
      cases found with
      | none => trivial
      | some hash => exact ⟨rfl, rfl⟩
  | read =>
    obtain rfl := hmay
    cases r with
    | error x => trivial
    | ok n => exact rfl
  | counted n =>
    obtain rfl | ⟨seconds, rfl⟩ | rfl | ⟨-, otp, hash, rfl⟩ := hmay
    · exact h
    · exact h
    · exact h
    · cases r with
      | error x => trivial
      | ok correct =>
        cases correct with
        | true => exact fun _ => rfl
        | false => exact nofun
  | compared correct =>
    obtain ⟨rfl, -⟩ := hmay
    exact h
  | _ => exact hmay.elim

theorem guesses_noted_step (hs : Journal.Stepped s a s') (h : GuessesNoted s) :
    GuessesNoted s' := by
  refine h.step hs (fun c _ => ⟨.arrived, rfl, ?_⟩) ?_ fun _ _ _ _ hg => hg
  · exact (follows_guessBody c).mono (fun _ _ _ => trivial) fun _ _ h => h
  · rintro i ch c stmt k r σ g rfl ht he hg hmay
    refine ⟨?_, ?_⟩
    · cases c <;> trivial
    · cases c with
      | verifyOtp id otp => exact means_verifying hmay hg
      | storeOtp email otp ttl | replaceOtp id email otp ttl => exact means_storing hmay hg

theorem attempts_expire {e : Env} {sessionId id : Id} {seconds : ℕ+} :
    ({ e with otpAttempts := e.otpAttempts.expire e.now sessionId (e.after seconds) } : Env).attempts
      id = e.attempts id :=
  Redis.Counters.get_expire (Nat.lt_add_of_pos_right (Nat.mul_pos (by decide) seconds.pos))

theorem progress_incr {id : Id} {otp : String} {code : Option (OtpCode S GuessOut)}
    {r : Except Err Nat} (ht : s.pool.threads[i]? = some ⟨.verifyOtp id otp, code⟩)
    (hentry : (s.entries i).attempt = none ∧ (s.entries i).wrong = false)
    (he : ask S s.pool.world.env i (.incrAttempts id) ch = some (r, s'.pool.world.env))
    (hentries : s'.entries = Function.update s.entries i
      ((s.entries i).after s.pool.world (.aux (.incrAttempts id)) r)) : Progress s s' := by
  let count := s.pool.world.env.otpAttempts.incr s.pool.world.env.now id
  let counted : Env := { s.pool.world.env with otpAttempts := count.2 }
  have hself : counted.attempts id = some count.1 := Redis.Counters.get_incr_same
  have hlt : ∀ m, s.pool.world.env.attempts id = some m → m < count.1 :=
    fun m hm => Redis.Counters.get_lt_incr hm
  have hothers : ∀ id', id' ≠ id → s.pool.world.env.Grown counted id' :=
    fun id' hid => .of_eq (Redis.Counters.get_incr_ne hid)
  have hcommand : some (s.pool.world.env.command counted count.1 ch) =
      some (r, s'.pool.world.env) := he
  obtain ⟨rfl, henv⟩ | ⟨⟨err, rfl⟩, henv⟩ := Env.command_cases hcommand
  · refine .counted i ht hentry hentries (fun id' r' hr' => ?_) ?_ ⟨?_, Redis.Counters.incr_pos, hlt⟩
      fun id' hid => ?_
    · rw [henv] at hr'
      exact hr'
    · rw [henv]
    · rw [henv]
      exact hself
    · rw [henv]
      exact hothers id' hid
  · have hsame : s'.entries = s.entries := hentries.trans (Function.update_eq_self i s.entries)
    refine .command hsame henv (fun _ _ h => h) rfl fun id' => .inl ?_
    by_cases hid : id' = id
    · subst hid
      exact fun m hm => ⟨_, hself, Nat.le_of_lt (hlt m hm)⟩
    · exact hothers id' hid

theorem progress_verifying (hn : GuessesNoted s) {id : Id} {otp : String} {stmt : Stmt (otpService S)}
    {k : Except Err stmt.Ans → OtpCode S GuessOut} {r : Except Err stmt.Ans}
    (ht : s.pool.threads[i]? = some ⟨.verifyOtp id otp, some (.call stmt k)⟩)
    (he : s.pool.shared.exec i (.verifyOtp id otp) stmt ch = some (r, s'.pool.shared))
    (hentries : s'.entries =
      Function.update s.entries i ((s.entries i).after s.pool.world stmt r)) : Progress s s' := by
  obtain ⟨g, hg, hmay, -⟩ := hn.notes i _ _ ht
  change GuessStage.mayVerify id g stmt at hmay
  have hsame : (s.entries i).after s.pool.world stmt r = s.entries i → s'.entries = s.entries := by
    intro h
    rw [hentries, h, Function.update_eq_self]
  have hread : (s.entries i).after s.pool.world stmt r = s.entries i →
      s'.pool.world.env = s.pool.world.env → Progress s s' := fun h henv =>
    .command (hsame h) (.inl henv) (fun _ _ h => h) rfl fun _ => .inl (.of_eq rfl)
  cases g with
  | arrived =>
    obtain rfl := hmay
    have hblank : s.entries i = .blank := hg
    have henv := (Env.command_read (Shared.exec_ask he)).1
    cases r with
    | error x => exact hread rfl henv
    | ok found =>
      cases found with
      | none => exact hread rfl henv
      | some hash =>
        refine .read i ht hblank ?_ henv
        rw [hentries, hblank]
        rfl
  | read =>
    obtain rfl := hmay
    exact progress_incr ht hg (Shared.exec_ask he) hentries
  | counted n =>
    obtain rfl | ⟨seconds, rfl⟩ | rfl | ⟨hle, guess, hash, rfl⟩ := hmay
    · exact hread rfl (Env.command_read (Shared.exec_ask he)).1
    · exact .command (hsame rfl) (Env.command_env (Shared.exec_ask he)) (fun _ _ h => h) rfl
        fun _ => .inl (.of_eq attempts_expire)
    · exact .command (hsame rfl) (Env.command_env (Shared.exec_ask he))
        (fun _ _ => Env.Stored.of_del) rfl fun _ => .inl (.of_eq (Env.attempts_del (by simp)))
    · obtain ⟨rfl, henv⟩ := Prod.mk.inj (Option.some.inj (Shared.exec_ask he))
      refine .compared i ⟨hg, hle⟩ hentries ?_ henv.symm
      cases S.bcryptCompare guess hash with
      | true => exact .inl rfl
      | false => exact .inr rfl
  | compared correct =>
    obtain ⟨rfl, rfl⟩ := hmay
    refine .cleared (hsame rfl) (Env.command_env (Shared.exec_ask he)) (.inl fun hno => ?_)
    have hfalse := hno i otp _ ht
    rw [hg rfl] at hfalse
    cases hfalse
  | _ => exact hmay.elim

theorem progress_storing {cleared : List Key → Prop} {stmt : Stmt (otpService S)}
    {r : Except Err stmt.Ans} (hmay : GuessStage.mayStore cleared g stmt)
    (hg : GuessStage.Means i c g (s.entries i) s.pool.shared)
    (hcleared : ∀ keys, stmt = .aux (.del keys) → cleared keys →
      ∃ id, keys = [.otpAttempts id] ∧ Uncounted s id)
    (he : s.pool.shared.exec i c stmt ch = some (r, s'.pool.shared))
    (hentries : s'.entries =
      Function.update s.entries i ((s.entries i).after s.pool.world stmt r)) : Progress s s' := by
  have hplain : GuessStage.Plain stmt → Progress s s' := by
    intro h
    refine .aside ?_ (plain_aside h he)
    rw [hentries, (plain_after (g := g) h r).2, Function.update_eq_self]
  cases g with
  | arrived =>
    obtain h | ⟨id, hash, ttl, rfl⟩ := hmay
    · exact hplain h
    · have hblank : s.entries i = .blank := hg
      have hstored : (s.entries i).stored = false := by rw [hblank]; rfl
      obtain henv | henv := Env.command_env (Shared.exec_ask he)
      · refine .stored i hstored hentries (fun id' r' hr' => .inr ?_) (fun id' r' hr' => .inr ?_)
          fun id' => .of_eq ?_
        · rw [Pool.world, henv] at hr'
          exact hr'
        · rw [Pool.world, henv] at hr'
          exact hr'
        · rw [Pool.world, henv]
      · refine .stored i hstored hentries (fun id' r' hr' => ?_) (fun id' r' hr' => ?_)
          fun id' => .of_eq ?_
        · rw [Pool.world, henv] at hr'
          exact hr'.of_setOtp
        · rw [Pool.world, henv] at hr'
          exact Env.otpWriter_setOtp hr'
        · rw [Pool.world, henv]
          rfl
  | stored =>
    obtain h | ⟨keys, rfl, hkeys⟩ := hmay
    · exact hplain h
    · obtain ⟨id, rfl, hu⟩ := hcleared keys rfl hkeys
      refine .cleared ?_ (Env.command_env (Shared.exec_ask he)) (.inr hu)
      exact hentries.trans (Function.update_eq_self i s.entries)
  | _ => exact hmay.elim

theorem progress (hn : GuessesNoted s) (ha : keepsCount s a) (hs : Journal.Stepped s a s') :
    Progress s s' := by
  cases hs with
  | called c => exact .aside rfl (.refl _)
  | @ran i ch c stmt k r σ ht he =>
    cases c with
    | verifyOtp id otp => exact progress_verifying hn ht he rfl
    | storeOtp email otp ttl =>
      obtain ⟨g, hg, hmay, -⟩ := hn.notes i _ _ ht
      exact progress_storing hmay hg (fun _ _ h => h.elim) he rfl
    | replaceOtp id email otp ttl =>
      obtain ⟨g, hg, hmay, -⟩ := hn.notes i _ _ ht
      refine progress_storing hmay hg (fun keys hstmt hkeys => ⟨id, hkeys, ?_⟩) he rfl
      subst hstmt
      exact ha.1 id email otp ttl keys k ht
  | crashed ht => exact .aside rfl (.refl _)
  | ticked d =>
    refine .kept rfl (fun _ _ => Env.Stored.of_tick) rfl fun id => ?_
    by_cases hlater : s.pool.world.env.otpAttempts.get (s.pool.world.env.now + d) id = none
    · by_cases hnow : s.pool.world.env.attempts id = none
      · exact .inl (.of_eq (hlater.trans hnow.symm))
      · exact .inr (.inr fun ⟨r, hr⟩ => ha.2 id hnow hlater hr.1)
    · obtain ⟨n, hn⟩ := Option.ne_none_iff_exists'.mp hlater
      have hnow := Redis.Counters.get_earlier (Nat.le_add_right _ d) hn
      exact .inl (.of_eq (hn.trans hnow.symm))

end Steps

end RailwayBooking.UserService.Otp
