import Mathlib.Order.Interval.Finset.Nat
import RailwayBooking.UserService.OtpGuesses

namespace RailwayBooking.UserService.Otp

open Concurrency

section Runs

variable {S : OtpSettings} {s s' : (guessJournal S).State} {a : Event (guessMachine S)}

theorem correct_after {e : GuessEntry} {w : World (otpService S) GuessCall}
    {stmt : Stmt (otpService S)} {r : Except Err stmt.Ans} (h : e.correct = true) :
    (e.after w stmt r).correct = true := by
  cases stmt with
  | aux b =>
    cases b with
    | getOtp id =>
      cases r with
      | error x => exact h
      | ok found => cases found <;> exact h
    | incrAttempts id => cases r <;> exact h
    | bcryptCompare otp hash =>
      cases r with
      | error x => exact h
      | ok correct =>
        cases correct with
        | true => rfl
        | false => exact h
    | _ => exact h
  | _ => exact h

theorem NoCorrectGuess.of_step {id : Id} (hs : Journal.Stepped s a s')
    (h : NoCorrectGuess s' id) : NoCorrectGuess s id := by
  intro i otp code ht
  obtain ⟨code', ht'⟩ := hs.stays ht
  have hfalse := h i otp code' ht'
  by_contra hcorrect
  have htrue : (s'.entries i).correct = true := by
    obtain hsame | ⟨ch, c, stmt, k, r, -, -, -, hentry⟩ := hs.entry i
    · rw [hsame]
      exact eq_true_of_ne_false hcorrect
    · rw [hentry]
      exact correct_after (eq_true_of_ne_false hcorrect)
  rw [hfalse] at htrue
  cases htrue

/-- The guesses at a one-time password that is stored have different numbers, up to that of
the counter. -/
structure Tallied (s : (guessJournal S).State) : Prop where
  counted : ∀ id r, NoCorrectGuess s id → s.pool.world.env.Stored id r → ∀ i n,
    (s.entries i).read = some (id, r) → (s.entries i).attempt = some n →
    ∃ m, s.pool.world.env.attempts id = some m ∧ n ≤ m
  distinct : ∀ id r, NoCorrectGuess s id → s.pool.world.env.Stored id r → ∀ i j n,
    (s.entries i).read = some (id, r) → (s.entries j).read = some (id, r) →
    (s.entries i).attempt = some n → (s.entries j).attempt = some n → i = j
  positive : ∀ i n, (s.entries i).attempt = some n → 0 < n
  wrong : ∀ i, (s.entries i).wrong = true →
    ∃ n, (s.entries i).attempt = some n ∧ n ≤ otpAttemptLimit
  writer : ∀ id r, s.pool.world.env.otpWriter id = some r → (s.entries r).stored = true
  read : ∀ i id r, (s.entries i).read = some (id, r) → (s.entries r).stored = true
  session : ∀ (i : Nat) c code id r, s.pool.threads[i]? = some ⟨c, code⟩ →
    (s.entries i).read = some (id, r) → ∃ otp, c = .verifyOtp id otp

theorem Tallied.length_le (h : Tallied s) {id : Id} {r : Nat} (hno : NoCorrectGuess s id)
    (hs : s.pool.world.env.Stored id r) {calls : List Nat} (hnodup : calls.Nodup)
    (hcalls : ∀ i ∈ calls, WrongGuess s id r i) : calls.length ≤ otpAttemptLimit := by
  have hattempt : ∀ i ∈ calls, ∃ n, (s.entries i).attempt = some n ∧ 0 < n ∧ n ≤ otpAttemptLimit := by
    intro i hi
    obtain ⟨n, hn, hle⟩ := h.wrong i (hcalls i hi).1
    exact ⟨n, hn, h.positive i n hn, hle⟩
  rw [← List.toFinset_card_of_nodup hnodup]
  have hcard : calls.toFinset.card ≤ (Finset.Icc 1 otpAttemptLimit).card := by
    refine Finset.card_le_card_of_injOn (fun i => (s.entries i).attempt.getD 0) ?_ ?_
    · intro i hi
      obtain ⟨n, hn, hpos, hle⟩ := hattempt i (List.mem_toFinset.mp hi)
      simp only [hn, Option.getD_some, Finset.coe_Icc, Set.mem_Icc]
      exact ⟨hpos, hle⟩
    · intro i hi j hj heq
      obtain ⟨n, hn, -⟩ := hattempt i (List.mem_toFinset.mp hi)
      obtain ⟨m, hm, -⟩ := hattempt j (List.mem_toFinset.mp hj)
      simp only [hn, hm, Option.getD_some] at heq
      subst heq
      exact h.distinct id r hno hs i j n (hcalls i (List.mem_toFinset.mp hi)).2
        (hcalls j (List.mem_toFinset.mp hj)).2 hn hm
  rw [Nat.card_Icc] at hcard
  exact hcard

theorem Tallied.session_of_step (h : Tallied s) (hn : GuessesNoted s) (hs : Journal.Stepped s a s')
    {i : Nat} {c : GuessCall} {code : Option (OtpCode S GuessOut)} {id : Id} {r : Nat}
    (ht : s'.pool.threads[i]? = some ⟨c, code⟩) (hread : (s.entries i).read = some (id, r)) :
    ∃ otp, c = .verifyOtp id otp := by
  obtain ⟨code', ht'⟩ | hnew := hs.thread ht
  · exact h.session i c code' id r ht' hread
  · rw [hn.blank i hnew] at hread
    cases hread

theorem entries_update {i : Nat} {e : GuessEntry}
    (h : s'.entries = Function.update s.entries i e) (j : Nat) :
    (j = i ∧ s'.entries j = e) ∨ (j ≠ i ∧ s'.entries j = s.entries j) := by
  rw [h]
  by_cases hj : j = i
  · subst hj
    exact .inl ⟨rfl, Function.update_self _ _ _⟩
  · exact .inr ⟨hj, Function.update_of_ne hj _ _⟩

theorem Tallied.transfer (h : Tallied s) (hn : GuessesNoted s) (hs : Journal.Stepped s a s')
    (same : ∀ j, (s'.entries j).read = (s.entries j).read ∧
      (s'.entries j).attempt = (s.entries j).attempt)
    (wrong : ∀ j, (s'.entries j).wrong = true →
      ∃ n, (s.entries j).attempt = some n ∧ n ≤ otpAttemptLimit)
    (kept : ∀ r, (s.entries r).stored = true → (s'.entries r).stored = true)
    (stored : ∀ j id r, s'.pool.world.env.Stored id r → (s.entries j).read = some (id, r) →
      s.pool.world.env.Stored id r)
    (writer : ∀ id r, s'.pool.world.env.otpWriter id = some r → (s'.entries r).stored = true)
    (attempts : ∀ id r, NoCorrectGuess s id → s'.pool.world.env.Stored id r →
      s.pool.world.env.Grown s'.pool.world.env id ∨
        ∀ j, (s.entries j).read = some (id, r) → (s.entries j).attempt = none) : Tallied s' := by
  refine ⟨fun id r hno hst i n hread hattempt => ?_, fun id r hno hst i j n hi hj hni hnj => ?_,
    fun i n hi => ?_, fun i hi => ?_, writer, fun i id r hread => ?_,
    fun i c code id r ht hread => ?_⟩
  · rw [(same i).1] at hread
    rw [(same i).2] at hattempt
    obtain hgrown | hnone := attempts id r (hno.of_step hs) hst
    · obtain ⟨m, hm, hle⟩ :=
        h.counted id r (hno.of_step hs) (stored i id r hst hread) i n hread hattempt
      obtain ⟨m', hm', hle'⟩ := hgrown m hm
      exact ⟨m', hm', hle.trans hle'⟩
    · cases (hnone i hread).symm.trans hattempt
  · rw [(same i).1] at hi
    rw [(same j).1] at hj
    rw [(same i).2] at hni
    rw [(same j).2] at hnj
    exact h.distinct id r (hno.of_step hs) (stored i id r hst hi) i j n hi hj hni hnj
  · rw [(same i).2] at hi
    exact h.positive i n hi
  · rw [(same i).2]
    exact wrong i hi
  · rw [(same i).1] at hread
    exact kept r (h.read i id r hread)
  · rw [(same i).1] at hread
    exact h.session_of_step hn hs ht hread

theorem Tallied.kept (h : Tallied s) (hn : GuessesNoted s) (hs : Journal.Stepped s a s')
    (entries : s'.entries = s.entries)
    (stored : ∀ id r, s'.pool.world.env.Stored id r → s.pool.world.env.Stored id r)
    (writer : s'.pool.world.env.otpWriter = s.pool.world.env.otpWriter)
    (attempts : ∀ id, s.pool.world.env.Grown s'.pool.world.env id ∨ ¬ NoCorrectGuess s id ∨
      ((∃ r, s'.pool.world.env.Stored id r) → Uncounted s id)) : Tallied s' := by
  refine h.transfer hn hs (fun j => ?_) (fun j hj => ?_) (fun r hr => ?_)
    (fun _ id r hst _ => stored id r hst) (fun id r hr => ?_) (fun id r hno hst => ?_)
  · rw [entries]
    exact ⟨rfl, rfl⟩
  · rw [entries] at hj
    exact h.wrong j hj
  · rw [entries]
    exact hr
  · rw [writer] at hr
    rw [entries]
    exact h.writer id r hr
  · obtain hgrown | hcorrect | hun := attempts id
    · exact .inl hgrown
    · exact absurd hno hcorrect
    · exact .inr (hun ⟨r, hst⟩ r (stored id r hst))

theorem Tallied.readOtp (h : Tallied s) (hn : GuessesNoted s) (hs : Journal.Stepped s a s') {i : Nat}
    {sessionId : Id} {otp : String} {code : Option (OtpCode S GuessOut)}
    (thread : s.pool.threads[i]? = some ⟨.verifyOtp sessionId otp, code⟩)
    (entry : s.entries i = .blank) (entries : s'.entries = Function.update s.entries i
      { GuessEntry.blank with read := (s.pool.world.env.otpWriter sessionId).map (sessionId, ·) })
    (env : s'.pool.world.env = s.pool.world.env) : Tallied s' := by
  have hstored : ∀ r, (s.entries r).stored = true → (s'.entries r).stored = true := by
    intro r hr
    obtain ⟨rfl, -⟩ | ⟨-, hsame⟩ := entries_update entries r
    · rw [entry] at hr
      cases hr
    · rw [hsame]
      exact hr
  have hattempt : ∀ {j n}, (s'.entries j).attempt = some n →
      s'.entries j = s.entries j ∧ (s.entries j).attempt = some n := by
    intro j n hj
    obtain ⟨-, hself⟩ | ⟨-, hsame⟩ := entries_update entries j
    · rw [hself] at hj
      cases hj
    · rw [hsame] at hj
      exact ⟨hsame, hj⟩
  rw [Pool.world] at env
  refine ⟨fun id r hno hst j n hread hj => ?_, fun id r hno hst j k n hj hk hnj hnk => ?_,
    fun j n hj => ?_, fun j hj => ?_, fun id r hr => ?_, fun j id r hread => ?_,
    fun j c code id r ht hread => ?_⟩
  · obtain ⟨hsame, hj⟩ := hattempt hj
    rw [hsame] at hread
    rw [Pool.world, env] at hst ⊢
    exact h.counted id r (hno.of_step hs) hst j n hread hj
  · obtain ⟨hsame, hnj⟩ := hattempt hnj
    obtain ⟨hsame', hnk⟩ := hattempt hnk
    rw [hsame] at hj
    rw [hsame'] at hk
    rw [Pool.world, env] at hst
    exact h.distinct id r (hno.of_step hs) hst j k n hj hk hnj hnk
  · exact h.positive j n (hattempt hj).2
  · obtain ⟨-, hself⟩ | ⟨-, hsame⟩ := entries_update entries j
    · rw [hself] at hj
      cases hj
    · rw [hsame] at hj ⊢
      exact h.wrong j hj
  · rw [Pool.world, env] at hr
    exact hstored r (h.writer id r hr)
  · refine hstored r ?_
    obtain ⟨-, hself⟩ | ⟨-, hsame⟩ := entries_update entries j
    · rw [hself] at hread
      obtain ⟨r', hr', heq⟩ := Option.map_eq_some_iff.mp hread
      cases heq
      exact h.writer _ _ hr'
    · rw [hsame] at hread
      exact h.read j id r hread
  · obtain ⟨rfl, hself⟩ | ⟨-, hsame⟩ := entries_update entries j
    · rw [hself] at hread
      obtain ⟨r', -, heq⟩ := Option.map_eq_some_iff.mp hread
      cases heq
      obtain ⟨code', ht'⟩ := hs.stays thread
      obtain ⟨rfl, -⟩ := Thread.mk.inj (Option.some.inj (ht.symm.trans ht'))
      exact ⟨otp, rfl⟩
    · rw [hsame] at hread
      exact h.session_of_step hn hs ht hread

theorem Tallied.countAttempt (h : Tallied s) (hn : GuessesNoted s) (hs : Journal.Stepped s a s')
    {i n : Nat} {sessionId : Id} {otp : String} {code : Option (OtpCode S GuessOut)}
    (thread : s.pool.threads[i]? = some ⟨.verifyOtp sessionId otp, code⟩)
    (entry : (s.entries i).attempt = none ∧ (s.entries i).wrong = false)
    (entries : s'.entries = Function.update s.entries i { s.entries i with attempt := some n })
    (stored : ∀ id r, s'.pool.world.env.Stored id r → s.pool.world.env.Stored id r)
    (writer : s'.pool.world.env.otpWriter = s.pool.world.env.otpWriter)
    (self : s'.pool.world.env.attempts sessionId = some n ∧ 0 < n ∧
      ∀ m, s.pool.world.env.attempts sessionId = some m → m < n)
    (others : ∀ id, id ≠ sessionId → s.pool.world.env.Grown s'.pool.world.env id) :
    Tallied s' := by
  have hsame : ∀ j, (s'.entries j).read = (s.entries j).read ∧
      (s'.entries j).wrong = (s.entries j).wrong ∧
        (s'.entries j).stored = (s.entries j).stored := by
    intro j
    obtain ⟨rfl, he⟩ | ⟨-, he⟩ := entries_update entries j
    · rw [he]
      exact ⟨rfl, rfl, rfl⟩
    · rw [he]
      exact ⟨rfl, rfl, rfl⟩
  have hsession : ∀ {id r}, (s.entries i).read = some (id, r) → id = sessionId := by
    intro id r hread
    obtain ⟨otp', heq⟩ := h.session i _ _ id r thread hread
    cases heq
    rfl
  -- A guess counted before has a smaller number than the one counted now.
  have hless : ∀ {id r}, NoCorrectGuess s' id → s'.pool.world.env.Stored id r →
      (s.entries i).read = some (id, r) → ∀ j m, (s.entries j).read = some (id, r) →
      (s.entries j).attempt = some m → m < n := by
    intro id r hno hst hread j m hj hm
    obtain rfl := hsession hread
    obtain ⟨m', hm', hle⟩ := h.counted id r (hno.of_step hs) (stored id r hst) j m hj hm
    exact Nat.lt_of_le_of_lt hle (self.2.2 m' hm')
  refine ⟨fun id r hno hst j m hread hj => ?_, fun id r hno hst j k m hj hk hmj hmk => ?_,
    fun j m hj => ?_, fun j hj => ?_, fun id r hr => ?_, fun j id r hread => ?_,
    fun j c code id r ht hread => ?_⟩
  · rw [(hsame j).1] at hread
    obtain ⟨rfl, he⟩ | ⟨-, he⟩ := entries_update entries j
    · rw [he] at hj
      obtain rfl := hsession hread
      exact ⟨n, self.1, (Option.some.inj hj).ge⟩
    · rw [he] at hj
      obtain ⟨m', hm', hle⟩ := h.counted id r (hno.of_step hs) (stored id r hst) j m hread hj
      by_cases hid : id = sessionId
      · subst hid
        exact ⟨n, self.1, hle.trans (Nat.le_of_lt (self.2.2 m' hm'))⟩
      · obtain ⟨m'', hm'', hle'⟩ := others id hid m' hm'
        exact ⟨m'', hm'', hle.trans hle'⟩
  · rw [(hsame j).1] at hj
    rw [(hsame k).1] at hk
    obtain ⟨rfl, he⟩ | ⟨-, he⟩ := entries_update entries j
    · obtain ⟨rfl, he'⟩ | ⟨-, he'⟩ := entries_update entries k
      · rfl
      · rw [he] at hmj
        rw [he'] at hmk
        have hlt := hless hno hst hj k m hk hmk
        exact absurd (Option.some.inj hmj) (Nat.ne_of_gt hlt)
    · obtain ⟨rfl, he'⟩ | ⟨-, he'⟩ := entries_update entries k
      · rw [he] at hmj
        rw [he'] at hmk
        have hlt := hless hno hst hk j m hj hmj
        exact absurd (Option.some.inj hmk) (Nat.ne_of_gt hlt)
      · rw [he] at hmj
        rw [he'] at hmk
        exact h.distinct id r (hno.of_step hs) (stored id r hst) j k m hj hk hmj hmk
  · obtain ⟨-, he⟩ | ⟨-, he⟩ := entries_update entries j
    · rw [he] at hj
      rw [← Option.some.inj hj]
      exact self.2.1
    · rw [he] at hj
      exact h.positive j m hj
  · rw [(hsame j).2.1] at hj
    obtain ⟨m, hm, hle⟩ := h.wrong j hj
    obtain ⟨rfl, -⟩ | ⟨-, he⟩ := entries_update entries j
    · cases hm.symm.trans entry.1
    · rw [he]
      exact ⟨m, hm, hle⟩
  · rw [writer] at hr
    rw [(hsame r).2.2]
    exact h.writer id r hr
  · rw [(hsame j).1] at hread
    rw [(hsame r).2.2]
    exact h.read j id r hread
  · rw [(hsame j).1] at hread
    exact h.session_of_step hn hs ht hread

theorem Tallied.compare (h : Tallied s) (hn : GuessesNoted s) (hs : Journal.Stepped s a s')
    {i n : Nat} {entry : GuessEntry}
    (attempt : (s.entries i).attempt = some n ∧ n ≤ otpAttemptLimit)
    (entries : s'.entries = Function.update s.entries i entry)
    (guess : entry.read = (s.entries i).read ∧ entry.attempt = (s.entries i).attempt ∧
      entry.stored = (s.entries i).stored)
    (env : s'.pool.world.env = s.pool.world.env) : Tallied s' := by
  have hstored : ∀ r, (s'.entries r).stored = (s.entries r).stored := by
    intro r
    obtain ⟨rfl, he⟩ | ⟨-, he⟩ := entries_update entries r
    · rw [he]
      exact guess.2.2
    · rw [he]
  refine h.transfer hn hs (fun j => ?_) (fun j hj => ?_) (fun r hr => (hstored r).trans hr)
    (fun _ id r hst _ => env ▸ hst) (fun id r hr => ?_)
    (fun id r _ _ => .inl fun m hm => ⟨m, env ▸ hm, le_rfl⟩)
  · obtain ⟨rfl, he⟩ | ⟨-, he⟩ := entries_update entries j
    · rw [he]
      exact ⟨guess.1, guess.2.1⟩
    · rw [he]
      exact ⟨rfl, rfl⟩
  · obtain ⟨rfl, -⟩ | ⟨-, he⟩ := entries_update entries j
    · exact ⟨n, attempt⟩
    · rw [he] at hj
      exact h.wrong j hj
  · rw [env] at hr
    exact (hstored r).trans (h.writer id r hr)

theorem Tallied.storeOtp (h : Tallied s) (hn : GuessesNoted s) (hs : Journal.Stepped s a s') {i : Nat}
    (entry : (s.entries i).stored = false)
    (entries : s'.entries = Function.update s.entries i { s.entries i with stored := true })
    (stored : ∀ id r, s'.pool.world.env.Stored id r → r = i ∨ s.pool.world.env.Stored id r)
    (writer : ∀ id r, s'.pool.world.env.otpWriter id = some r →
      r = i ∨ s.pool.world.env.otpWriter id = some r)
    (attempts : ∀ id, s.pool.world.env.Grown s'.pool.world.env id) : Tallied s' := by
  have hstored : ∀ r, r = i ∨ (s.entries r).stored = true → (s'.entries r).stored = true := by
    intro r hr
    obtain ⟨rfl, he⟩ | ⟨hne, he⟩ := entries_update entries r
    · rw [he]
    · rw [he]
      exact hr.resolve_left hne
  refine h.transfer hn hs (fun j => ?_) (fun j hj => ?_) (fun r hr => hstored r (.inr hr))
    (fun j id r hst hread => ?_)
    (fun id r hr => hstored r ((writer id r hr).imp_right (h.writer id r)))
    (fun id _ _ _ => .inl (attempts id))
  · obtain ⟨rfl, he⟩ | ⟨-, he⟩ := entries_update entries j
    · rw [he]
      exact ⟨rfl, rfl⟩
    · rw [he]
      exact ⟨rfl, rfl⟩
  · obtain ⟨rfl, he⟩ | ⟨-, he⟩ := entries_update entries j
    · rw [he] at hj
      exact h.wrong j hj
    · rw [he] at hj
      exact h.wrong j hj
  · -- Nobody has read the one-time password that is stored now.
    obtain rfl | hst := stored id r hst
    · rw [h.read j id r hread] at entry
      cases entry
    · exact hst

theorem Tallied.step (h : Tallied s) (hn : GuessesNoted s) (hs : Journal.Stepped s a s')
    (hp : Progress s s') : Tallied s' := by
  cases hp with
  | kept entries stored writer attempts => exact h.kept hn hs entries stored writer attempts
  | read i thread entry entries env => exact h.readOtp hn hs thread entry entries env
  | counted i thread entry entries stored writer self others =>
    exact h.countAttempt hn hs thread entry entries stored writer self others
  | compared i attempt entries guess env =>
    refine h.compare hn hs attempt entries ?_ env
    obtain rfl | rfl := guess
    · exact ⟨rfl, rfl, rfl⟩
    · exact ⟨rfl, rfl, rfl⟩
  | stored i entry entries stored writer attempts =>
    exact h.storeOtp hn hs entry entries stored writer attempts

theorem Progress.wrongGuess (hp : Progress s s') {id : Id} {r j : Nat}
    (h : WrongGuess s' id r j) : WrongGuess s id r j ∨ s'.pool.world.env.Stored id r := by
  unfold WrongGuess at h ⊢
  cases hp with
  | kept entries =>
    rw [entries] at h
    exact .inl h
  | read i thread entry entries =>
    obtain ⟨-, he⟩ | ⟨-, he⟩ := entries_update entries j
    · rw [he] at h
      cases h.1
    · rw [he] at h
      exact .inl h
  | counted i thread entry entries | stored i entry entries =>
    obtain ⟨rfl, he⟩ | ⟨-, he⟩ := entries_update entries j
    · rw [he] at h
      exact .inl h
    · rw [he] at h
      exact .inl h
  | compared i attempt entries guess env =>
    obtain ⟨rfl, he⟩ | ⟨-, he⟩ := entries_update entries j
    · rw [he] at h
      obtain rfl | rfl := guess
      · exact .inl h
      · obtain ⟨hwrong, hread⟩ := h
        change (s.entries j).read = some (id, r) at hread
        change (s.entries j).read.any _ = true at hwrong
        rw [hread] at hwrong
        rw [env]
        exact .inr (of_decide_eq_true hwrong)
    · rw [he] at h
      exact .inl h

/-- The guesses of a run. -/
structure Guarded (s : (guessJournal S).State) : Prop where
  noted : GuessesNoted s
  tallied : Tallied s
  bounded : BoundedGuesses s

theorem Guarded.step (h : Guarded s) (ha : keepsCount s a)
    (hstep : (guessJournal S).step s a = some s') : Guarded s' := by
  have hs := Journal.stepped hstep
  have hp := progress h.noted ha hs
  have htallied := h.tallied.step h.noted hs hp
  refine ⟨guesses_noted_step hs h.noted, htallied, fun id r hno calls hnodup hcalls => ?_⟩
  by_cases hold : ∀ j ∈ calls, WrongGuess s id r j
  · exact h.bounded id r (hno.of_step hs) calls hnodup hold
  · obtain ⟨j, hj, hnot⟩ : ∃ j ∈ calls, ¬ WrongGuess s id r j := by
      push Not at hold
      exact hold
    have hst := (hp.wrongGuess (hcalls j hj)).resolve_left hnot
    exact htallied.length_le hno hst hnodup hcalls

/-- The service with its users, before any one-time password. -/
def guessStart (S : OtpSettings) (d : Db) (now : Nat) : (guessJournal S).State :=
  (guessJournal S).start (Pool.init d (.init now))

theorem guarded_start (d : Db) (now : Nat) : Guarded (guessStart S d now) where
  noted := Journal.noted_start rfl
  tallied := ⟨fun _ _ _ hst => absurd rfl hst.1, fun _ _ _ hst => absurd rfl hst.1, nofun, nofun,
    nofun, nofun, nofun⟩
  bounded id r _ calls _ hcalls := by
    cases calls with
    | nil => exact Nat.zero_le _
    | cons i calls => cases (hcalls i List.mem_cons_self).1

/-- In runs in which no counter is deleted or expires while guesses at the one-time password
have been counted, each one-time password meets at most `OTP_ATTEMPT_LIMIT` wrong guesses. -/
theorem boundedGuesses_of_keepsCount {d : Db} {now : Nat}
    (h : System.Run (guessJournal S).system keepsCount (guessStart S d now) s) :
    BoundedGuesses s := by
  have hguarded : Guarded s := h.invariant (guarded_start d now) fun _ _ _ _ hq ha hstep =>
    hq.step ha hstep
  exact hguarded.bounded

abbrev sampleGuessMachine := guessMachine sampleOtpSettings

def sampleStore : List (Event (guessMachine sampleOtpSettings)) :=
  .call (.storeOtp "asha@example.com" "111111" ⟨300, Nat.succ_pos 299⟩) ::
    sampleGuessMachine.burst 0 7

def sampleGuess (i n : Nat) : List (Event (guessMachine sampleOtpSettings)) :=
  .call (.verifyOtp 0 "999999") :: sampleGuessMachine.burst i n

/-- The calls that have guessed wrong at the one-time password of call `r`, if nobody has guessed
right. -/
def wrongCalls (s : (guessJournal sampleOtpSettings).State) (r : Nat) : Option (List Nat) :=
  if (List.range s.pool.threads.length).all (fun i => !(s.entries i).correct) then
    some ((List.range s.pool.threads.length).filter (fun i =>
      (s.entries i).wrong && (s.entries i).read = some (0, r)))
  else none

theorem wrongGuess_of_wrongCalls {s : (guessJournal sampleOtpSettings).State} {r : Nat}
    {calls : List Nat} (h : wrongCalls s r = some calls) : NoCorrectGuess s 0 ∧
      calls.Nodup ∧ ∀ i ∈ calls, WrongGuess s 0 r i := by
  unfold wrongCalls at h
  split at h
  · next hall =>
    cases h
    refine ⟨fun i otp code ht => ?_, List.nodup_range.filter _, fun i hi => ?_⟩
    · have hi := (List.getElem?_eq_some_iff.mp ht).1
      have hfalse := List.all_eq_true.mp hall i (List.mem_range.mpr hi)
      exact Bool.not_eq_true' _ ▸ hfalse
    · obtain ⟨hwrong, hread⟩ := Bool.and_eq_true_iff.mp (List.mem_filter.mp hi).2
      exact ⟨hwrong, of_decide_eq_true hread⟩
  · cases h

def clearsTest (s : (guessJournal sampleOtpSettings).State) :
    Event (guessMachine sampleOtpSettings) → Bool
  | .act (.run i _) =>
    match s.pool.threads[i]? with
    | some ⟨.replaceOtp .., some (.call (.aux (.del _)) _)⟩ => false
    | _ => true
  | _ => true

theorem clearsUncounted_of_test {s : (guessJournal sampleOtpSettings).State}
    {a : Event (guessMachine sampleOtpSettings)} (h : clearsTest s a = true) :
    clearsUncounted s a := by
  cases a with
  | call c => trivial
  | act a =>
    cases a with
    | crash i => trivial
    | tick d => trivial
    | run i ch =>
      intro id email otp ttl keys k ht
      simp only [clearsTest, ht] at h
      cases h

def expiresTest (_ : (guessJournal sampleOtpSettings).State) :
    Event (guessMachine sampleOtpSettings) → Bool
  | .act (.tick _) => false
  | _ => true

theorem expiresUncounted_of_test {s : (guessJournal sampleOtpSettings).State}
    {a : Event (guessMachine sampleOtpSettings)} (h : expiresTest s a = true) :
    expiresUncounted s a := by
  cases a with
  | call c => trivial
  | act a =>
    cases a with
    | crash i => trivial
    | tick d => cases h
    | run i ch => trivial

/-- After five wrong guesses the session is locked. -/
theorem boundedGuesses_locked : ∃ s, System.Run (guessJournal sampleOtpSettings).system keepsCount
    (guessStart sampleOtpSettings ⟨[]⟩ 0) s ∧ wrongCalls s 0 = some [1, 2, 3, 4, 5] ∧
      s.pool.world.env.otp.get 0 0 = none ∧ BoundedGuesses s := by
  obtain ⟨s, hs, ht⟩ := System.exists_run (T := (guessJournal sampleOtpSettings).system) keepsCount
    (guessStart sampleOtpSettings ⟨[]⟩ 0) (fun s a => clearsTest s a && expiresTest s a)
    (sampleStore ++ sampleGuess 1 5 ++ sampleGuess 2 3 ++ sampleGuess 3 3 ++ sampleGuess 4 3 ++
      sampleGuess 5 3 ++ sampleGuess 6 3)
    (fun s => decide (wrongCalls s 0 = some [1, 2, 3, 4, 5] ∧ s.pool.world.env.otp.get 0 0 = none))
    (fun s a _ h => by
      obtain ⟨h, h'⟩ := Bool.and_eq_true_iff.mp h
      exact ⟨clearsUncounted_of_test h, expiresUncounted_of_test h'⟩) (by decide +kernel)
  obtain ⟨hcalls, hgone⟩ := of_decide_eq_true ht
  exact ⟨s, hs, hcalls, hgone, boundedGuesses_of_keepsCount hs⟩

theorem not_boundedGuesses_of_expiresUncounted : ¬ ∀ (S : OtpSettings) (d : Db) (now : Nat)
    (s : (guessJournal S).State),
    System.Run (guessJournal S).system expiresUncounted (guessStart S d now) s →
      BoundedGuesses s := by
  intro hall
  obtain ⟨s, hs, ht⟩ := System.exists_run (T := (guessJournal sampleOtpSettings).system)
    expiresUncounted (guessStart sampleOtpSettings ⟨[]⟩ 0) expiresTest
    (sampleStore ++ .call (.replaceOtp 0 "asha@example.com" "222222" 300) :: sampleGuessMachine.burst 1 5 ++
      sampleGuess 2 5 ++ sampleGuess 3 3 ++ sampleGuess 4 3 ++ sampleGuess 5 3 ++ sampleGuess 6 3 ++
        sampleGuessMachine.burst 1 1 ++ sampleGuess 7 5)
    (fun s => decide (wrongCalls s 1 = some [2, 3, 4, 5, 6, 7]))
    (fun _ _ _ => expiresUncounted_of_test) (by decide +kernel)
  obtain ⟨hno, hnodup, hwrong⟩ := wrongGuess_of_wrongCalls (of_decide_eq_true ht)
  have hle := hall _ _ _ s hs 0 1 hno _ hnodup hwrong
  revert hle
  decide

theorem not_boundedGuesses_of_clearsUncounted : ¬ ∀ (S : OtpSettings) (d : Db) (now : Nat)
    (s : (guessJournal S).State),
    System.Run (guessJournal S).system clearsUncounted (guessStart S d now) s →
      BoundedGuesses s := by
  intro hall
  obtain ⟨s, hs, ht⟩ := System.exists_run (T := (guessJournal sampleOtpSettings).system)
    clearsUncounted (guessStart sampleOtpSettings ⟨[]⟩ 0) clearsTest
    (sampleStore ++ .act (.tick 600) :: sampleGuess 1 5 ++ sampleGuess 2 3 ++ sampleGuess 3 3 ++
      sampleGuess 4 3 ++ sampleGuess 5 3 ++ .act (.tick 299000) :: sampleGuess 6 5)
    (fun s => decide (wrongCalls s 0 = some [1, 2, 3, 4, 5, 6]))
    (fun _ _ _ => clearsUncounted_of_test) (by decide +kernel)
  obtain ⟨hno, hnodup, hwrong⟩ := wrongGuess_of_wrongCalls (of_decide_eq_true ht)
  have hle := hall _ _ _ s hs 0 0 hno _ hnodup hwrong
  revert hle
  decide

theorem not_boundedGuesses : ¬ ∀ (S : OtpSettings) (d : Db) (now : Nat) (s : (guessJournal S).State),
    System.Run (guessJournal S).system (fun _ _ => True) (guessStart S d now) s →
      BoundedGuesses s := by
  intro hall
  exact not_boundedGuesses_of_expiresUncounted fun S d now s hs =>
    hall S d now s (hs.mono fun _ _ _ => trivial)

end Runs

end RailwayBooking.UserService.Otp
