import RailwayBooking.UserService.ResetCalls

namespace RailwayBooking.UserService.Otp

open Concurrency

section Stages

variable {S : OtpSettings} {i : Nat} {c : ResetCall} {g : ResetStage} {ch : Choice String}
  {stmt : Stmt (otpService S)} {r : Except Err stmt.Ans} {σ σ' : Shared (otpService S) ResetCall}
  {e : ResetEntry} {w : World (otpService S) ResetCall}

def ResetStage.Means (i : Nat) (_ : ResetCall) (g : ResetStage) (e : ResetEntry)
    (σ : Shared (otpService S) ResetCall) : Prop :=
  match g with
  | .arrived | .read => e.correct = false ∧ ∀ t ∈ σ.world.env.resetTokens, t.2 ≠ i
  | .correct => e.correct = true ∧ ∀ t ∈ σ.world.env.resetTokens, t.2 ≠ i
  | .unread => ∀ x ∈ σ.world.log, x.2.owner ≠ i
  | .found => e.found = true ∧ ∀ x ∈ σ.world.log, x.2.owner ≠ i
  | .issued | .changed | .ended => True

theorem may_of_mayCall (h : ResetStage.mayCall c g stmt) : g.may stmt := by
  cases c with
  | resetPassword token password =>
    cases g with
    | unread => exact ⟨token, h⟩
    | _ => exact h
  | _ => exact h

theorem correct_of_may {token : Id} {email : String}
    (h : g.may (S := S) (.aux (.auth (.setPasswordResetToken token email)))) : g = .correct := by
  cases g with
  | correct => rfl
  | _ => simp [ResetStage.may, ResetStage.Harmless] at h

theorem found_of_may {id : Id} {password : String}
    (h : g.may (S := S) (.sql none (.auth (.update id password)))) : g = .found := by
  cases g with
  | found => rfl
  | _ => simp [ResetStage.may, ResetStage.Harmless] at h

theorem exec_resetTokens (he : σ.exec i c stmt ch = some (r, σ')) :
    σ'.world.env.resetTokens = σ.world.env.resetTokens ∨ ∃ token email,
      stmt = .aux (.auth (.setPasswordResetToken token email)) ∧
        σ'.world.env.resetTokens = (token, i) :: σ.world.env.resetTokens := by
  cases stmt with
  | aux a =>
    obtain hsame | ⟨token, email, rfl, hnew⟩ := ask_resetTokens (Shared.exec_ask he)
    · exact .inl hsame
    · exact .inr ⟨token, email, rfl, hnew⟩
  | _ => exact .inl (congrArg Env.resetTokens ((Shared.exec_effect he).env fun _ h => by cases h))

theorem exec_log (hmay : g.may stmt) (he : σ.exec i c stmt ch = some (r, σ')) :
    σ'.world.log = σ.world.log ∨ ∃ id password t,
      stmt = .sql none (.auth (.update id password)) ∧ t.owner = i ∧
        σ'.world.log = σ.world.log ++ [(c, t)] := by
  cases Shared.exec_effect he with
  | committed => cases g <;> simp [ResetStage.may, ResetStage.Harmless] at hmay
  | @single q a ws ks ch hrun hne =>
    cases q with
    | auth q =>
      cases q with
      | update id password => exact .inr ⟨id, password, _, rfl, rfl, rfl⟩
      | findUserByEmail email =>
        cases hrun
        exact absurd rfl hne
      | findById id =>
        cases hrun
        exact absurd rfl hne
    | createUser user => cases g <;> simp [ResetStage.may, ResetStage.Harmless] at hmay
    | deleteUser id => cases g <;> simp [ResetStage.may, ResetStage.Harmless] at hmay
  | _ => exact .inl rfl

theorem harmless_kept (h : ResetStage.Harmless stmt) (hmay : g.may stmt)
    (he : σ.exec i c stmt ch = some (r, σ')) :
    σ'.world.env.resetTokens = σ.world.env.resetTokens ∧ σ'.world.log = σ.world.log := by
  constructor
  · obtain hsame | ⟨token, email, rfl, -⟩ := exec_resetTokens he
    · exact hsame
    · exact h.elim
  · obtain hsame | ⟨id, password, t, rfl, -⟩ := exec_log hmay he
    · exact hsame
    · exact h.elim

theorem ask_kept {a : Aux} {r : Except Err (AuxAns a)}
    (he : σ.exec i c (.aux a) ch = some (r, σ')) (ha : ∀ token email,
      a ≠ .auth (.setPasswordResetToken token email)) :
    σ'.world.env.resetTokens = σ.world.env.resetTokens ∧ σ'.world.log = σ.world.log := by
  constructor
  · obtain hsame | ⟨token, email, heq, -⟩ := exec_resetTokens he
    · exact hsame
    · cases heq
      exact absurd rfl (ha token email)
  · cases Shared.exec_effect he with
    | _ => rfl

theorem ResetEntry.correct_after (h : e.correct = true) : (e.after w stmt r).correct = true := by
  unfold ResetEntry.after
  split
  · exact h
  · rfl
  · exact h
  · exact h

theorem ResetEntry.found_after (h : e.found = true) : (e.after w stmt r).found = true := by
  unfold ResetEntry.after
  split
  · exact h
  · exact h
  · rfl
  · exact h

theorem ResetStage.means_own (hmay : ResetStage.mayCall c g stmt)
    (he : σ.exec i c stmt ch = some (r, σ'))
    (h : g.Means i c e σ) : (g.after stmt r).Means i c (e.after w stmt r) σ' := by
  have hstep := may_of_mayCall hmay
  have hkept : ResetStage.Harmless stmt → (g.after stmt r).Means i c (e.after w stmt r) σ' := by
    intro hharmless
    obtain ⟨hg, he'⟩ := harmless_after (g := g) hharmless r e w
    obtain ⟨htokens, hlog⟩ := harmless_kept hharmless hstep he
    rw [hg, he']
    unfold ResetStage.Means at h ⊢
    rw [htokens, hlog]
    exact h
  cases g with
  | arrived =>
    obtain hharmless | ⟨id, rfl⟩ := hstep
    · exact hkept hharmless
    · obtain ⟨hcorrect, htokens⟩ := h
      rw [← (ask_kept he nofun).1] at htokens
      cases r with
      | error x => exact ⟨hcorrect, htokens⟩
      | ok found => cases found <;> exact ⟨hcorrect, htokens⟩
  | read =>
    obtain hharmless | ⟨otp, hash, rfl⟩ := hstep
    · exact hkept hharmless
    · obtain ⟨-, htokens⟩ := h
      rw [← (ask_kept he nofun).1] at htokens
      cases r with
      | error x => trivial
      | ok isValid =>
        cases isValid with
        | true => exact ⟨rfl, htokens⟩
        | false => trivial
  | correct =>
    obtain hharmless | ⟨token, email, rfl⟩ := hstep
    · exact hkept hharmless
    · trivial
  | unread =>
    obtain ⟨token, rfl⟩ := hstep
    have hlog : ∀ x ∈ σ.world.log, x.2.owner ≠ i := h
    rw [← (ask_kept he nofun).2] at hlog
    cases r with
    | error x => trivial
    | ok email =>
      cases email with
      | none => trivial
      | some email => exact ⟨rfl, hlog⟩
  | found =>
    obtain hharmless | ⟨id, password, rfl⟩ := hstep
    · exact hkept hharmless
    · trivial
  | issued | changed | ended => exact hkept hstep

end Stages

section Runs

variable {S : OtpSettings} {s s' : (resetJournal S).State} {a : Event (resetMachine S)}

abbrev ResetsNoted (s : (resetJournal S).State) : Prop :=
  Journal.Noted (fun _ => ResetStage.ledger) ResetStage.Means (fun _ _ _ => True) s

theorem resetTokens_step (hn : ResetsNoted s) (hs : Journal.Stepped s a s') :
    s'.pool.world.env.resetTokens = s.pool.world.env.resetTokens ∨ ∃ i ch token,
      a = .act (.run i ch) ∧ ¬ s.Over i ∧ (s.entries i).correct = true ∧
        (∀ t ∈ s.pool.world.env.resetTokens, t.2 ≠ i) ∧
          s'.pool.world.env.resetTokens = (token, i) :: s.pool.world.env.resetTokens := by
  cases hs with
  | @ran i ch c stmt k r σ ht he =>
    obtain hsame | ⟨token, email, rfl, hnew⟩ := exec_resetTokens he
    · exact .inl hsame
    · obtain ⟨g, hg, hmay, -⟩ := hn.notes i c _ ht
      obtain rfl := correct_of_may (may_of_mayCall hmay)
      exact .inr ⟨i, ch, token, rfl, fun ho => ho _ _ _ ht, hg.1, hg.2, hnew⟩
  | _ => exact .inl rfl

/-- The log after a step: no change is new, or the acting call has found its token and has its
first one. -/
theorem log_step (hn : ResetsNoted s) (hs : Journal.Stepped s a s') :
    s'.pool.world.log = s.pool.world.log ∨ ∃ i ch c code t,
      a = .act (.run i ch) ∧ ¬ s.Over i ∧ s.pool.threads[i]? = some ⟨c, code⟩ ∧
        (s.entries i).found = true ∧ (∀ x ∈ s.pool.world.log, x.2.owner ≠ i) ∧ t.owner = i ∧
          s'.pool.world.log = s.pool.world.log ++ [(c, t)] := by
  cases hs with
  | @ran i ch c stmt k r σ ht he =>
    obtain ⟨g, hg, hmay, -⟩ := hn.notes i c _ ht
    obtain hsame | ⟨id, password, t, rfl, howner, hnew⟩ := exec_log (may_of_mayCall hmay) he
    · exact .inl hsame
    · obtain rfl := found_of_may (may_of_mayCall hmay)
      exact .inr ⟨i, ch, c, _, t, rfl, fun ho => ho _ _ _ ht, ht, hg.1, hg.2, howner, hnew⟩
  | _ => exact .inl rfl

theorem tokens_of_step (hn : ResetsNoted s) (hs : Journal.Stepped s a s') {i : Nat}
    (hi : ∀ ch, a = .act (.run i ch) → s.Over i)
    (h : ∀ t ∈ s.pool.world.env.resetTokens, t.2 ≠ i) :
    ∀ t ∈ s'.pool.world.env.resetTokens, t.2 ≠ i := by
  intro t ht
  obtain hsame | ⟨j, ch, token, ha, hactive, -, -, hnew⟩ := resetTokens_step hn hs
  · rw [hsame] at ht
    exact h t ht
  · rw [hnew] at ht
    obtain rfl | ht := List.mem_cons.mp ht
    · rintro rfl
      exact hactive (hi ch ha)
    · exact h t ht

theorem log_of_step (hn : ResetsNoted s) (hs : Journal.Stepped s a s') {i : Nat}
    (hi : ∀ ch, a = .act (.run i ch) → s.Over i) (h : ∀ x ∈ s.pool.world.log, x.2.owner ≠ i) :
    ∀ x ∈ s'.pool.world.log, x.2.owner ≠ i := by
  intro x hx
  obtain hsame | ⟨j, ch, c, code, t, ha, hactive, -, -, -, rfl, hnew⟩ := log_step hn hs
  · rw [hsame] at hx
    exact h x hx
  · rw [hnew] at hx
    obtain hx | hx := List.mem_append.mp hx
    · exact h x hx
    · obtain rfl := List.mem_singleton.mp hx
      rintro rfl
      exact hactive (hi ch ha)

theorem NoToken.of_step (hn : ResetsNoted s) (hs : Journal.Stepped s a s') {i : Nat}
    (hi : i < s.pool.threads.length) (h : NoToken s i) : NoToken s' i :=
  ⟨hs.over hi h.1, tokens_of_step hn hs (fun _ _ => h.1) h.2⟩

theorem NoChange.of_step (hn : ResetsNoted s) (hs : Journal.Stepped s a s') {i : Nat}
    (hi : i < s.pool.threads.length) (h : NoChange s i) : NoChange s' i :=
  ⟨hs.over hi h.1, log_of_step hn hs (fun _ _ => h.1) h.2⟩

/-- The call has guessed the one-time password of call `r` right. -/
def Guessed (s : (resetJournal S).State) (i r : Nat) : Prop :=
  (s.entries i).read = some r ∧ (s.entries i).correct = true

def Found (s : (resetJournal S).State) (i : Nat) (token : Id) : Prop :=
  (∃ password code, s.pool.threads[i]? = some ⟨.resetPassword token password, code⟩) ∧
    (s.entries i).found = true

theorem lt_of_entry (hn : ResetsNoted s) {i : Nat}
    (h : (s.entries i).correct = true ∨ (s.entries i).found = true) :
    i < s.pool.threads.length := by
  by_contra hlt
  rw [hn.blank i (Nat.le_of_not_lt hlt)] at h
  obtain h | h := h <;> cases h

/-- Each one-time password has one call that may store a token, and each token one call that
may change a password. -/
structure Authorised (s : (resetJournal S).State) : Prop where
  noted : ResetsNoted s
  tokens : (s.pool.world.env.resetTokens.map Prod.snd).Nodup
  correct : ∀ t ∈ s.pool.world.env.resetTokens, (s.entries t.2).correct = true
  guesses : Sole (Guessed s) (NoToken s)
  changes : (s.pool.world.log.map (fun x => x.2.owner)).Nodup
  found : ∀ x ∈ s.pool.world.log, (s.entries x.2.owner).found = true ∧
    ∃ code, s.pool.threads[x.2.owner]? = some ⟨x.1, code⟩
  resets : Sole (Found s) (NoChange s)

theorem Authorised.singleAuthorisation (h : Authorised s) : SingleAuthorisation s := by
  refine ⟨fun r => ?_, fun token => ?_⟩
  · refine h.guesses.length_le_one (x := r) (f := Prod.snd) ?_ fun t ht => ?_
    · exact (List.filter_sublist.map _).nodup h.tokens
    · obtain ⟨hmem, hread⟩ := List.mem_filter.mp ht
      exact ⟨⟨of_decide_eq_true hread, h.correct t hmem⟩, fun hno => hno.2 t hmem rfl⟩
  · refine h.resets.length_le_one (x := token) (f := fun x => x.2.owner) ?_ fun x hx => ?_
    · exact (List.filter_sublist.map _).nodup h.changes
    · obtain ⟨hmem, hchanges⟩ := List.mem_filter.mp hx
      obtain ⟨hfound, code, hthread⟩ := h.found x hmem
      refine ⟨⟨?_, hfound⟩, fun hno => hno.2 x hmem rfl⟩
      obtain ⟨c, t⟩ := x
      cases c with
      | resetPassword token' password =>
        obtain rfl : token' = token := of_decide_eq_true hchanges
        exact ⟨password, code, hthread⟩
      | _ => cases hchanges

theorem resets_noted_step (h : Authorised s) (hs : Journal.Stepped s a s') : ResetsNoted s' := by
  refine h.noted.step hs (fun c _ => ⟨.first c, ?_, follows_resetBody c⟩) ?_ ?_
  · have htokens : ∀ t ∈ s.pool.world.env.resetTokens, t.2 ≠ s.pool.threads.length :=
      fun t ht => Nat.ne_of_lt (lt_of_entry h.noted (.inl (h.correct t ht)))
    have hlog : ∀ x ∈ s.pool.world.log, x.2.owner ≠ s.pool.threads.length :=
      fun x hx => Nat.ne_of_lt (lt_of_entry h.noted (.inr (h.found x hx).1))
    cases c with
    | forgotPassword email => trivial
    | verifyPasswordResetOtp id otp => exact ⟨rfl, htokens⟩
    | resetPassword token password => exact hlog
  · intro i ch c stmt k r σ g _ ht he hg hmay
    exact ⟨trivial, ResetStage.means_own hmay he hg⟩
  · intro i c g hnot hg
    have hi : ∀ ch, a = .act (.run i ch) → s.Over i := by
      rintro ch rfl
      exact absurd rfl hnot
    have htokens := tokens_of_step h.noted hs hi
    have hlog := log_of_step h.noted hs hi
    cases g with
    | arrived | read | correct => exact ⟨hg.1, htokens hg.2⟩
    | unread => exact hlog hg
    | found => exact ⟨hg.1, hlog hg.2⟩
    | issued | changed | ended => trivial

theorem correct_step (hs : Journal.Stepped s a s') {i : Nat} (h : (s.entries i).correct = true) :
    (s'.entries i).correct = true := by
  obtain hsame | ⟨ch, c, stmt, k, r, -, -, -, hentry⟩ := hs.entry i
  · rw [hsame]
    exact h
  · rw [hentry]
    exact ResetEntry.correct_after h

theorem found_step (hs : Journal.Stepped s a s') {i : Nat} (h : (s.entries i).found = true) :
    (s'.entries i).found = true := by
  obtain hsame | ⟨ch, c, stmt, k, r, -, -, -, hentry⟩ := hs.entry i
  · rw [hsame]
    exact h
  · rw [hentry]
    exact ResetEntry.found_after h

theorem guessed_step (hn : ResetsNoted s) (hs : Journal.Stepped s a s') {i r : Nat}
    (h : Guessed s' i r) : Guessed s i r ∨ ∃ ch c otp hash k, a = .act (.run i ch) ∧
      s.pool.threads[i]? = some ⟨c, some (.call (.aux (.bcryptCompare otp hash)) k)⟩ ∧
        S.bcryptCompare otp hash = true ∧ (s.entries i).read = some r := by
  obtain hsame | ⟨ch, c, stmt, k, x, rfl, ht, he, hentry⟩ := hs.entry i
  · unfold Guessed at h
    rw [hsame] at h
    exact .inl h
  obtain ⟨g, hg, hmay, -⟩ := hn.notes i c _ ht
  have hstep := may_of_mayCall hmay
  unfold Guessed at h
  rw [hentry] at h
  cases stmt with
  | aux b =>
    cases b with
    | getOtp id =>
      obtain rfl : g = .arrived := by
        cases g with
        | arrived => rfl
        | _ => simp [ResetStage.may, ResetStage.Harmless] at hstep
      have hfalse : (s.entries i).correct = false := hg.1
      have htrue : (s.entries i).correct = true := by
        cases x with
        | error err => exact h.2
        | ok hash => cases hash <;> exact h.2
      rw [hfalse] at htrue
      cases htrue
    | bcryptCompare otp hash =>
      cases x with
      | error err => exact .inl h
      | ok isValid =>
        cases isValid with
        | false => exact .inl h
        | true =>
          have hanswer := (Prod.mk.inj (Option.some.inj (Shared.exec_ask he))).1
          exact .inr ⟨ch, c, otp, hash, k, rfl, ht, Except.ok.inj hanswer, h.1⟩
    | auth b =>
      cases b with
      | getPasswordResetToken token =>
        cases x with
        | error err => exact .inl h
        | ok email => cases email <;> exact .inl h
      | _ => exact .inl h
    | _ => exact .inl h
  | _ => exact .inl h

theorem found_token {e e' : Env} {i : Nat} {ch : Choice String} {token : Id} {email : Option String}
    (h : ask S e i (.auth (.getPasswordResetToken token)) ch = some (.ok email, e')) :
    email = e.auth.passwordResetTokens.get e.now token := by
  obtain ⟨r, auth', hask, -, hok⟩ := ask_session h ⟨nofun, nofun⟩
  obtain rfl := hok email rfl
  exact (UserService.Env.command_ok hask).1

theorem found_token_step (hn : ResetsNoted s) (hs : Journal.Stepped s a s') {i : Nat} {token : Id}
    (h : Found s' i token) : Found s i token ∨ ∃ ch password k, a = .act (.run i ch) ∧
      s.pool.threads[i]? = some ⟨.resetPassword token password,
        some (.call (.aux (.auth (.getPasswordResetToken token))) k)⟩ ∧
        s.pool.world.env.auth.passwordResetTokens.get s.pool.world.env.now token ≠ none := by
  obtain ⟨⟨password, code, hthread⟩, hfound⟩ := h
  obtain hsame | ⟨ch, c, stmt, k, x, rfl, ht, he, hentry⟩ := hs.entry i
  · rw [hsame] at hfound
    obtain ⟨code', hthread'⟩ | hnew := hs.thread hthread
    · exact .inl ⟨⟨password, code', hthread'⟩, hfound⟩
    · exact absurd (lt_of_entry hn (.inr hfound)) (Nat.not_lt.mpr hnew)
  obtain ⟨code', hstays⟩ := hs.stays ht
  obtain ⟨rfl, -⟩ := Thread.mk.inj (Option.some.inj (hthread.symm.trans hstays))
  obtain ⟨g, hg, hmay, -⟩ := hn.notes i _ _ ht
  have hstep := may_of_mayCall hmay
  have hold : (s.entries i).found = true → Found s i token :=
    fun hf => ⟨⟨password, _, ht⟩, hf⟩
  rw [hentry] at hfound
  cases stmt with
  | aux b =>
    cases b with
    | getOtp id =>
      cases x with
      | error err => exact .inl (hold hfound)
      | ok hash => cases hash <;> exact .inl (hold hfound)
    | bcryptCompare otp hash =>
      cases x with
      | error err => exact .inl (hold hfound)
      | ok isValid => cases isValid <;> exact .inl (hold hfound)
    | auth b =>
      cases b with
      | getPasswordResetToken token' =>
        obtain rfl : g = .unread := by
          cases g with
          | unread => rfl
          | _ => simp [ResetStage.may, ResetStage.Harmless] at hstep
        cases hmay
        cases x with
        | error err => exact .inl (hold hfound)
        | ok email =>
          cases email with
          | none => exact .inl (hold hfound)
          | some email =>
            have hask : ask S s.pool.world.env i (.auth (.getPasswordResetToken token)) ch =
                some (.ok (some email), s'.pool.world.env) := Shared.exec_ask he
            have hget := found_token hask
            refine .inr ⟨ch, password, k, rfl, ht, ?_⟩
            rw [← hget]
            exact Option.some_ne_none email
      | _ => exact .inl (hold hfound)
    | _ => exact .inl (hold hfound)
  | _ => exact .inl (hold hfound)

theorem Authorised.step (h : Authorised s) (ha : soleUse s a) (hs : Journal.Stepped s a s') :
    Authorised s' where
  noted := resets_noted_step h hs
  tokens := by
    obtain hsame | ⟨i, ch, token, -, -, -, hnone, hnew⟩ := resetTokens_step h.noted hs
    · rw [hsame]
      exact h.tokens
    · rw [hnew, List.map_cons, List.nodup_cons]
      refine ⟨fun hmem => ?_, h.tokens⟩
      obtain ⟨t, ht, heq⟩ := List.mem_map.mp hmem
      exact hnone t ht heq
  correct t ht := by
    refine correct_step hs ?_
    obtain hsame | ⟨i, ch, token, -, -, hcorrect, -, hnew⟩ := resetTokens_step h.noted hs
    · rw [hsame] at ht
      exact h.correct t ht
    · rw [hnew] at ht
      obtain rfl | ht := List.mem_cons.mp ht
      · exact hcorrect
      · exact h.correct t ht
  guesses := by
    have hout : ∀ i r, Guessed s i r → NoToken s i → NoToken s' i :=
      fun i r hi => NoToken.of_step h.noted hs (lt_of_entry h.noted (.inl hi.2))
    refine h.guesses.step hout fun i r hi => ?_
    obtain hold | ⟨ch, c, otp, hash, k, rfl, ht, hright, hread⟩ := guessed_step h.noted hs hi
    · exact .inl hold
    · refine .inr fun j hj hguessed => ?_
      unfold Guessed at hguessed
      rw [hs.entry_of_ne hj] at hguessed
      have hlt := lt_of_entry h.noted (.inl hguessed.2)
      exact hout j r hguessed (ha.1 c otp hash k ht hright r hread j _ _ hj
        (List.getElem?_eq_getElem hlt) hguessed.1 hguessed.2)
  changes := by
    obtain hsame | ⟨i, ch, c, code, t, -, -, -, -, hnone, howner, hnew⟩ := log_step h.noted hs
    · rw [hsame]
      exact h.changes
    · rw [hnew, List.map_append, List.map_singleton, List.nodup_append]
      refine ⟨h.changes, List.nodup_singleton _, fun x hx y hy => ?_⟩
      obtain ⟨z, hz, rfl⟩ := List.mem_map.mp hx
      obtain rfl := List.mem_singleton.mp hy
      rw [howner]
      exact hnone z hz
  found x hx := by
    have hold : ∀ c (t : Tx (otpService S)) code, (s.entries t.owner).found = true →
        s.pool.threads[t.owner]? = some ⟨c, code⟩ → (s'.entries t.owner).found = true ∧
          ∃ code, s'.pool.threads[t.owner]? = some ⟨c, code⟩ :=
      fun _ _ _ hf ht => ⟨found_step hs hf, hs.stays ht⟩
    obtain hsame | ⟨i, ch, c, code, t, -, -, ht, hf, -, rfl, hnew⟩ := log_step h.noted hs
    · rw [hsame] at hx
      obtain ⟨hf, code, ht⟩ := h.found x hx
      exact hold x.1 x.2 code hf ht
    · rw [hnew] at hx
      obtain hx | hx := List.mem_append.mp hx
      · obtain ⟨hf, code, ht⟩ := h.found x hx
        exact hold x.1 x.2 code hf ht
      · obtain rfl := List.mem_singleton.mp hx
        exact hold c t code hf ht
  resets := by
    have hout : ∀ i token, Found s i token → NoChange s i → NoChange s' i :=
      fun i token hi => NoChange.of_step h.noted hs (lt_of_entry h.noted (.inr hi.2))
    refine h.resets.step hout fun i token hi => ?_
    obtain hold | ⟨ch, password, k, rfl, ht, hget⟩ := found_token_step h.noted hs hi
    · exact .inl hold
    · refine .inr fun j hj hfound => ?_
      obtain ⟨⟨password', code, hthread⟩, hf⟩ := hfound
      rw [hs.entry_of_ne hj] at hf
      obtain ⟨code', hthread'⟩ | hnew := hs.thread hthread
      · exact hout j token ⟨⟨password', code', hthread'⟩, hf⟩
          (ha.2 token password k ht hget j password' code' hj hthread' hf)
      · exact absurd (lt_of_entry h.noted (.inr hf)) (Nat.not_lt.mpr hnew)

/-- The service with its users, before any one-time password. -/
def resetStart (S : OtpSettings) (d : Db) (now : Nat) : (resetJournal S).State :=
  (resetJournal S).start (Pool.init d (.init now))

theorem authorised_start (d : Db) (now : Nat) : Authorised (resetStart S d now) where
  noted := Journal.noted_start rfl
  tokens := List.nodup_nil
  correct := nofun
  guesses := nofun
  changes := List.nodup_nil
  found := nofun
  resets := nofun

/-- In runs in which a one-time password is guessed right, and a reset token found, only after
every other call that has done so has ended without effect, each authorises once. -/
theorem singleAuthorisation_of_soleUse {d : Db} {now : Nat}
    (h : System.Run (resetJournal S).system soleUse (resetStart S d now) s) :
    SingleAuthorisation s := by
  have hauthorised : Authorised s := h.invariant (authorised_start d now)
    fun _ _ _ _ hq ha hstep => hq.step ha (Journal.stepped hstep)
  exact hauthorised.singleAuthorisation

/-- The next `n` statements of call `i`. -/
def nextStatements (i n : Nat) : List (Event (resetMachine sampleOtpSettings)) :=
  List.replicate n (.act (.run i .ok))

def sampleForgot : List (Event (resetMachine sampleOtpSettings)) :=
  .call (.forgotPassword "asha@example.com") :: nextStatements 0 2 ++
    .act (.run 0 (.reply "111111")) :: nextStatements 0 11

def sampleVerify (i n : Nat) : List (Event (resetMachine sampleOtpSettings)) :=
  .call (.verifyPasswordResetOtp 0 "111111") :: nextStatements i n

def sampleReset (i n : Nat) : List (Event (resetMachine sampleOtpSettings)) :=
  .call (.resetPassword 10 "secret") :: nextStatements i n

def sampleResetStart : (resetJournal sampleOtpSettings).State :=
  resetStart sampleOtpSettings ⟨[⟨7, "asha@example.com", "Asha", "Rao", "old", 0⟩]⟩ 0

def guessTest (s : (resetJournal sampleOtpSettings).State) :
    Event (resetMachine sampleOtpSettings) → Bool
  | .act (.run i _) =>
    match s.pool.threads[i]? with
    | some ⟨_, some (.call (.aux (.bcryptCompare _ _)) _)⟩ =>
      (List.range s.pool.threads.length).all (fun j => j = i || !(s.entries j).correct)
    | _ => true
  | _ => true

theorem soleGuess_of_test {s : (resetJournal sampleOtpSettings).State}
    {a : Event (resetMachine sampleOtpSettings)} (h : guessTest s a = true) : soleGuess s a := by
  cases a with
  | call c => trivial
  | act a =>
    cases a with
    | crash i => trivial
    | tick d => trivial
    | run i ch =>
      intro c otp hash k ht _ r _ j c' code hj ht' _ hcorrect
      simp only [guessTest, ht] at h
      have hlt := (List.getElem?_eq_some_iff.mp ht').1
      have hothers := List.all_eq_true.mp h j (List.mem_range.mpr hlt)
      simp [hj, hcorrect] at hothers

def resetTest (s : (resetJournal sampleOtpSettings).State) :
    Event (resetMachine sampleOtpSettings) → Bool
  | .act (.run i _) =>
    match s.pool.threads[i]? with
    | some ⟨.resetPassword .., some (.call (.aux (.auth (.getPasswordResetToken _))) _)⟩ =>
      (List.range s.pool.threads.length).all (fun j => j = i || !(s.entries j).found)
    | _ => true
  | _ => true

theorem soleReset_of_test {s : (resetJournal sampleOtpSettings).State}
    {a : Event (resetMachine sampleOtpSettings)} (h : resetTest s a = true) : soleReset s a := by
  cases a with
  | call c => trivial
  | act a =>
    cases a with
    | crash i => trivial
    | tick d => trivial
    | run i ch =>
      intro token password k ht _ j password' code hj ht' hfound
      simp only [resetTest, ht] at h
      have hlt := (List.getElem?_eq_some_iff.mp ht').1
      have hothers := List.all_eq_true.mp h j (List.mem_range.mpr hlt)
      simp [hj, hfound] at hothers

/-- A reset from the request for a one-time password to the change of the password. -/
theorem singleAuthorisation_reset : ∃ s, System.Run (resetJournal sampleOtpSettings).system soleUse
    sampleResetStart s ∧ (tokensOf s 0).length = 1 ∧ (changesOf s 10).length = 1 ∧
      SingleAuthorisation s := by
  obtain ⟨s, hs, ht⟩ := System.exists_run (T := (resetJournal sampleOtpSettings).system) soleUse
    sampleResetStart (fun s a => guessTest s a && resetTest s a)
    (sampleForgot ++ sampleVerify 1 11 ++ sampleReset 2 7)
    (fun s => decide ((tokensOf s 0).length = 1 ∧ (changesOf s 10).length = 1))
    (fun s a _ h => by
      obtain ⟨h, h'⟩ := Bool.and_eq_true_iff.mp h
      exact ⟨soleGuess_of_test h, soleReset_of_test h'⟩) (by decide +kernel)
  obtain ⟨htokens, hchanges⟩ := of_decide_eq_true ht
  exact ⟨s, hs, htokens, hchanges, singleAuthorisation_of_soleUse hs⟩

theorem not_singleAuthorisation_of_soleReset : ¬ ∀ (S : OtpSettings) (d : Db) (now : Nat)
    (s : (resetJournal S).State),
    System.Run (resetJournal S).system soleReset (resetStart S d now) s →
      SingleAuthorisation s := by
  intro hall
  obtain ⟨s, hs, ht⟩ := System.exists_run (T := (resetJournal sampleOtpSettings).system) soleReset
    sampleResetStart resetTest
    (sampleForgot ++ sampleVerify 1 9 ++ .act (.crash 1) :: sampleVerify 2 9)
    (fun s => decide ((tokensOf s 0).length = 2)) (fun _ _ _ => soleReset_of_test)
    (by decide +kernel)
  have hle := (hall _ _ _ s hs).1 0
  rw [of_decide_eq_true ht] at hle
  revert hle
  decide

theorem not_singleAuthorisation_of_soleGuess : ¬ ∀ (S : OtpSettings) (d : Db) (now : Nat)
    (s : (resetJournal S).State),
    System.Run (resetJournal S).system soleGuess (resetStart S d now) s →
      SingleAuthorisation s := by
  intro hall
  obtain ⟨s, hs, ht⟩ := System.exists_run (T := (resetJournal sampleOtpSettings).system) soleGuess
    sampleResetStart guessTest
    (sampleForgot ++ sampleVerify 1 11 ++ sampleReset 2 4 ++ .act (.crash 2) :: sampleReset 3 4)
    (fun s => decide ((changesOf s 10).length = 2)) (fun _ _ _ => soleGuess_of_test)
    (by decide +kernel)
  have hle := (hall _ _ _ s hs).2 10
  rw [of_decide_eq_true ht] at hle
  revert hle
  decide

theorem not_singleAuthorisation : ¬ ∀ (S : OtpSettings) (d : Db) (now : Nat)
    (s : (resetJournal S).State),
    System.Run (resetJournal S).system (fun _ _ => True) (resetStart S d now) s →
      SingleAuthorisation s := by
  intro hall
  exact not_singleAuthorisation_of_soleReset fun S d now s hs =>
    hall S d now s (hs.mono fun _ _ _ => trivial)

end Runs

end RailwayBooking.UserService.Otp
