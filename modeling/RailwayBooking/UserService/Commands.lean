import RailwayBooking.UserService.Operations

namespace RailwayBooking.UserService

open Concurrency

namespace Env

/-- The environment after an operation that has had its effect. -/
def after (e : Env) : Aux → Env
  | .randomUUID => { e with drawn := e.drawn + 1 }
  | .setSession sessionId session => e.write sessionId session
  | .delSessions sessionIds => e.delSessions sessionIds
  | .multi sessionId session userId => e.store sessionId session userId
  | .srem userId sessionId => e.srem userId sessionId
  | .expire userId => e.expire userId
  | .delUserSessions userId => e.delUserSessions userId
  | .setPasswordResetToken token email =>
    { e with passwordResetTokens :=
        e.passwordResetTokens.set token email (e.now + passwordResetTokenTtlMs) }
  | .delPasswordResetToken token =>
    { e with passwordResetTokens := e.passwordResetTokens.del token }
  | _ => e

variable {e e' e'' : Env} {i : Nat} {a : Aux} {ch : Choice Empty} {α : Type}

@[simp] theorem after_now : (e.after a).now = e.now := by
  cases a <;> rfl

@[simp] theorem after_failed : (e.after a).failed = e.failed := by
  cases a <;> rfl

theorem command_cases {x : α} {r : Except Err α} (h : e.command e' x ch = (r, e'')) :
    (r = .ok x ∧ e'' = e') ∨ (∃ err, r = .error err) ∧
      (e'' = { e with failed := true } ∨ e'' = { e' with failed := true }) := by
  cases ch with
  | fault =>
    cases h
    exact .inr ⟨⟨_, rfl⟩, .inl rfl⟩
  | lost =>
    cases h
    exact .inr ⟨⟨_, rfl⟩, .inr rfl⟩
  | ok | reply =>
    cases h
    exact .inl ⟨rfl, rfl⟩

theorem command_ok {x y : α} (h : some (e.command e' x ch) = some (.ok y, e'')) :
    y = x ∧ e'' = e' := by
  obtain ⟨hr, rfl⟩ | ⟨⟨_, hr⟩, _⟩ := command_cases (Option.some.inj h)
  · cases hr
    exact ⟨rfl, rfl⟩
  · cases hr

theorem ask_after {r : Except Err (AuxAns a)} (h : ask e i a ch = some (r, e')) :
    e' = e.after a ∨ e' = { e with failed := true } ∨ e' = { e.after a with failed := true } := by
  cases a with
  | now | randomUUID | publishUserLoggedIn =>
    cases h
    exact .inl rfl
  | multi sessionId session userId =>
    change (if _ then _ else _) = _ at h
    split at h
    · cases h
    · obtain ⟨-, h⟩ | ⟨-, h⟩ := command_cases (Option.some.inj h)
      · exact .inl h
      · exact .inr h
  | _ =>
    obtain ⟨-, h⟩ | ⟨-, h⟩ := command_cases (Option.some.inj h)
    · exact .inl h
    · exact .inr h

theorem ask_unfailed {r : Except Err (AuxAns a)} (h : ask e i a ch = some (r, e'))
    (hf : e'.failed = false) : e' = e.after a ∧ e.failed = false := by
  obtain rfl | rfl | rfl := ask_after h
  · exact ⟨rfl, after_failed.symm.trans hf⟩
  · cases hf
  · cases hf

theorem multi_new {sessionId userId : Id} {session : SessionRecord}
    {r : Except Err (AuxAns (.multi sessionId session userId))}
    (h : ask e i (.multi sessionId session userId) ch = some (r, e')) :
    sessionId ∉ e.stored.map Prod.fst := by
  change (if _ then _ else _) = _ at h
  split at h
  · cases h
  · assumption

end Env

end RailwayBooking.UserService
