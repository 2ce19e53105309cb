import RailwayBooking.ApiGateway.Identity

namespace RailwayBooking.ApiGateway

open Concurrency Resilience

section Counts

/-- The time lies from `a` to `u`. -/
def Granted (a u : ℚ) (grantedAt : Option Nat) : Bool :=
  grantedAt.any (fun time => decide (a ≤ time ∧ (time : ℚ) ≤ u))

def Flight.key (f : Flight) : String := buildKey f.ticket.x.req

/-- How many requests with the key were sent on that Redis had let through from `a` to `u`. -/
def sentOn (key : String) (a u : ℚ) (forwarded : List Flight) : Nat :=
  forwarded.countP (fun f => f.key = key ∧ Granted a u f.grantedAt)

def grantOf : Option (Nat × RateLimitResult) → Option Nat
  | some (time, result) => if result.allowed then some time else none
  | none => none

def waiting (key : String) (a u : ℚ) (limited : List (Ticket × Option (Nat × RateLimitResult))) :
    Nat :=
  limited.countP (fun e => buildKey e.1.x.req = key ∧ Granted a u (grantOf e.2))

end Counts

/-- No key gets more through in a window than there can be and come in; the key of a request is
that of the user in whose name it is sent on, and of the address of the client if there is none.
Each request that is sent on was let through by the script, or Redis has not answered for it. -/
structure Gateway.RateLimited (M R : ℚ) (g : Gateway) : Prop where
  bound : ∀ key (a T : ℚ), 0 ≤ T → (sentOn key a (a + 1000 * T) g.forwarded : ℚ) ≤ M + R * T
  users : ∀ f ∈ g.forwarded, ∀ user, trustGatewayHeaders (Headers.incoming f.headers) = some user →
    f.key = "rl:user:" ++ user.userId
  others : ∀ f ∈ g.forwarded, trustGatewayHeaders (Headers.incoming f.headers) = none →
    f.key = "rl:ip:" ++ f.ticket.incoming.ip.getD "unknown"
  granted : ∀ f ∈ g.forwarded, ∀ time, f.grantedAt = some time → ⟨f.key, time, true⟩ ∈ g.grants
  failedOpen : ∀ f ∈ g.forwarded, f.grantedAt = none → f.ticket.id ∈ g.failedOpen

def Gateway.Counted (g : Gateway) : Prop := ∀ key a u,
  waiting key a u g.limited + sentOn key a u g.forwarded ≤ granted key a u g.grants

def Gateway.Excused (g : Gateway) (key : String) (id : Nat) : Option Nat → Prop
  | none => id ∈ g.failedOpen
  | some time => ⟨key, time, true⟩ ∈ g.grants

structure Gateway.Accounted (g : Gateway) : Prop where
  limited : ∀ e ∈ g.limited, ∀ grantedAt, Gateway.Past e.2 grantedAt →
    g.Excused (buildKey e.1.x.req) e.1.id grantedAt
  forwarded : ∀ f ∈ g.forwarded, g.Excused f.key f.ticket.id f.grantedAt

variable {env : Env} {verify : JwtVerify} {lib : Libraries} {g g' : Gateway} {l : Label}
  {key : String} {a u : ℚ} {M R : ℚ}

section Lists

theorem waiting_eraseIdx_le (key : String) (a u : ℚ) (i : Nat) :
    waiting key a u (g.limited.eraseIdx i) ≤ waiting key a u g.limited :=
  (List.eraseIdx_sublist g.limited i).countP_le

theorem waiting_concat {t : Ticket} {limited : Option (Nat × RateLimitResult)} :
    waiting key a u (g.limited ++ [(t, limited)]) = waiting key a u g.limited +
      if buildKey t.x.req = key ∧ Granted a u (grantOf limited) then 1 else 0 := by
  rw [waiting, List.countP_append, List.countP_singleton]
  simp [waiting]

theorem sentOn_concat {f : Flight} : sentOn key a u (g.forwarded ++ [f]) =
    sentOn key a u g.forwarded + if f.key = key ∧ Granted a u f.grantedAt then 1 else 0 := by
  rw [sentOn, List.countP_append, List.countP_singleton]
  simp [sentOn]

end Lists

section Counting

theorem Gateway.Past.grantOf_eq {limited : Option (Nat × RateLimitResult)} {grantedAt : Option Nat}
    (h : Gateway.Past limited grantedAt) : grantOf limited = grantedAt := by
  cases h with
  | failedOpen => rfl
  | granted time hallowed => exact if_pos hallowed

theorem Gateway.Counted.step (h : g.Counted) (hm : Gateway.Moved env verify lib g l g') :
    g'.Counted := by
  intro key a u
  have hbefore := h key a u
  cases hm with
  | answered | accepted | settled | ticked => exact hbefore
  | @unreached i t _ =>
    have hnone : ¬ (buildKey t.x.req = key ∧ Granted a u (grantOf none)) := fun hx => by
      cases hx.2
    rw [waiting_concat, if_neg hnone]
    exact hbefore
  | @consumed i outcome t _ s limited _ _ hkey _ hanswer =>
    subst hkey
    rw [waiting_concat, granted_concat]
    have hle : (if buildKey t.x.req = key ∧ Granted a u (grantOf limited) then 1 else 0) ≤
        if buildKey t.x.req = key ∧ s.1.allowed ∧ a ≤ g.now ∧ (g.now : ℚ) ≤ u then 1 else 0 := by
      obtain ⟨rfl, -⟩ | ⟨rfl, -⟩ := hanswer
      · simp [grantOf, Granted]
      · by_cases hallowed : s.1.allowed
        · simp [grantOf, Granted, hallowed]
        · simp [grantOf, Granted, hallowed]
    rw [Nat.add_right_comm]
    exact Nat.add_le_add hbefore hle
  | dismissed i =>
    exact (Nat.add_le_add_right (waiting_eraseIdx_le key a u i) _).trans hbefore
  | refused i =>
    exact (Nat.add_le_add_right (waiting_eraseIdx_le key a u i) _).trans hbefore
  | @sent i t limited _ _ grantedAt res hfound hpast _ _ f hflight =>
    have herased : waiting key a u (g.limited.eraseIdx i) +
        (if buildKey t.x.req = key ∧ Granted a u (grantOf limited) then 1 else 0) =
          waiting key a u g.limited := by
      simpa [waiting] using countP_eraseIdx
        (p := fun e => decide (buildKey e.1.x.req = key ∧ Granted a u (grantOf e.2))) hfound
    have hkey : f.key = buildKey t.x.req := by rw [hflight]; rfl
    have hgranted : f.grantedAt = grantOf limited := by rw [hflight, hpast.grantOf_eq]; rfl
    rw [sentOn_concat, hkey, hgranted]
    change waiting key a u (g.limited.eraseIdx i) + (sentOn key a u g.forwarded +
      if buildKey t.x.req = key ∧ Granted a u (grantOf limited) then 1 else 0) ≤ _
    rw [← herased, Nat.add_right_comm] at hbefore
    rw [← Nat.add_assoc]
    exact hbefore

end Counting

section Accounting

theorem Gateway.Excused.mono {id : Nat} {grantedAt : Option Nat} (h : g.Excused key id grantedAt)
    (hgrants : g.grants ⊆ g'.grants) (hopen : g.failedOpen ⊆ g'.failedOpen) :
    g'.Excused key id grantedAt := by
  cases grantedAt with
  | none => exact hopen h
  | some time => exact hgrants h

theorem Gateway.Moved.grows (hm : Gateway.Moved env verify lib g l g') :
    g.grants ⊆ g'.grants ∧ g.failedOpen ⊆ g'.failedOpen := by
  cases hm with
  | answered | accepted | dismissed | refused | sent | settled | ticked =>
    exact ⟨List.Subset.refl _, List.Subset.refl _⟩
  | unreached => exact ⟨List.Subset.refl _, List.subset_append_left _ _⟩
  | consumed i outcome _ _ _ hanswer =>
    refine ⟨List.subset_append_left _ _, ?_⟩
    obtain ⟨-, rfl⟩ | ⟨-, rfl⟩ := hanswer
    · exact List.subset_append_left _ _
    · exact List.Subset.refl _

theorem Gateway.Accounted.step (h : g.Accounted) (hm : Gateway.Moved env verify lib g l g') :
    g'.Accounted := by
  obtain ⟨hgrants, hopen⟩ := hm.grows
  have hlimited : ∀ e ∈ g.limited, ∀ grantedAt, Gateway.Past e.2 grantedAt →
      g'.Excused (buildKey e.1.x.req) e.1.id grantedAt :=
    fun e he grantedAt hpast => (h.limited e he grantedAt hpast).mono hgrants hopen
  have hforwarded : ∀ f ∈ g.forwarded, g'.Excused f.key f.ticket.id f.grantedAt :=
    fun f hf => (h.forwarded f hf).mono hgrants hopen
  cases hm with
  | answered | accepted | settled | ticked => exact ⟨hlimited, hforwarded⟩
  | dismissed | refused => exact ⟨fun e he => hlimited e (List.mem_of_mem_eraseIdx he), hforwarded⟩
  | unreached i hfound =>
    refine ⟨fun e he grantedAt hpast => ?_, hforwarded⟩
    obtain he | he := List.mem_append.mp he
    · exact hlimited e he grantedAt hpast
    · obtain rfl := List.mem_singleton.mp he
      cases hpast
      exact List.mem_append_right _ (List.mem_singleton.mpr rfl)
  | consumed i outcome hfound hkey hscript hanswer =>
    refine ⟨fun e he grantedAt hpast => ?_, hforwarded⟩
    obtain he | he := List.mem_append.mp he
    · exact hlimited e he grantedAt hpast
    · obtain rfl := List.mem_singleton.mp he
      subst hkey
      obtain ⟨rfl, rfl⟩ | ⟨rfl, rfl⟩ := hanswer
      · cases hpast
        exact List.mem_append_right _ (List.mem_singleton.mpr rfl)
      · cases hpast with
        | granted time hallowed =>
          exact List.mem_append_right _ (List.mem_singleton.mpr (by rw [hallowed]))
  | sent i res hfound hpast _ _ hflight =>
    refine ⟨fun e he => hlimited e (List.mem_of_mem_eraseIdx he), fun f hf => ?_⟩
    obtain hf | hf := List.mem_append.mp hf
    · exact hforwarded f hf
    · rw [List.mem_singleton.mp hf, hflight]
      exact hlimited _ (List.mem_of_getElem? hfound) _ hpast

end Accounting

section Metering

/-- Both of the presets are within the bound. -/
def Tempers (M R : ℚ) (env : Env) : Prop :=
  ∀ name, Tempered M R (rateLimitPresets env name).options

theorem Tempers.nonneg (h : Tempers M R env) : 0 ≤ M ∧ 0 ≤ R :=
  ⟨(le_of_lt (rateLimitPresets env .default).options.capacity_pos).trans (h .default).capacity,
    (le_of_lt (rateLimitPresets env .default).options.refillPerSec_pos).trans (h .default).rate⟩

theorem metered_step (hM : Tempers M R env) (h : Metered M R g.buckets key g.grants g.now)
    (hm : Gateway.Moved env verify lib g l g') : Metered M R g'.buckets key g'.grants g'.now := by
  obtain ⟨hM0, hR0⟩ := hM.nonneg
  cases hm with
  | answered | accepted | unreached | dismissed | refused | sent | settled => exact h
  | consumed i outcome _ _ hscript _ =>
    rw [hscript]
    exact h.incrementToken hM0 hR0 (hM _) _
  | ticked d => exact h.wait hR0 (Nat.le_add_right _ _)

end Metering

section Keys

theorem userId_ne {h : Headers} {user : AuthUser} (huser : trustGatewayHeaders h = some user) :
    user.userId ≠ "" := by
  unfold trustGatewayHeaders at huser
  split at huser
  · next userId _ hid _ =>
    obtain rfl := Option.some.inj huser
    exact (truthy_eq_some.mp hid).2
  · cases huser

theorem Ticket.Checked.buildKey_eq {t : Ticket} (h : t.Checked env verify lib) :
    (∀ user, trustGatewayHeaders t.x.req.headers = some user →
      buildKey t.x.req = "rl:user:" ++ user.userId) ∧
    (trustGatewayHeaders t.x.req.headers = none →
      buildKey t.x.req = "rl:ip:" ++ t.incoming.ip.getD "unknown") := by
  obtain ⟨-, randomUUID, hresolved⟩ := h
  have hip : t.x.req.ip = t.incoming.ip := hresolved.ip
  refine ⟨fun user huser => ?_, fun hnone => ?_⟩
  · rw [buildKey, hresolved.user, huser, Option.map_some, truthy_eq_some.mpr ⟨rfl, userId_ne huser⟩]
  · rw [buildKey, hresolved.user, hnone, hip]
    rfl

theorem trustGatewayHeaders_flight (hlib : lib.Passes) (t : Ticket) (grantedAt : Option Nat) :
    trustGatewayHeaders (Headers.incoming (t.flight lib grantedAt).headers) =
      trustGatewayHeaders t.x.req.headers :=
  trustGatewayHeaders_congr fun _ hkey => hlib.trusted t grantedAt hkey

end Keys

section Runs

/-- The requests of one user, or of one address, share a bucket over all routes and both presets.
As long as Redis answers, no more of them are sent on in a window than the larger preset allows. -/
theorem rateLimited_of_reaches (hlib : lib.Passes) (hM : Tempers M R env) {now : Nat}
    (h : Gateway.Reaches env verify lib now g) : g.RateLimited M R := by
  obtain ⟨hM0, hR0⟩ := hM.nonneg
  have hchecked := checked_of_reaches h
  obtain ⟨breakers, -, hrun⟩ := h
  have hcounted : g.Counted :=
    hrun.invariant (fun _ _ _ => Nat.le_refl 0) fun _ _ _ _ hi _ hs => hi.step (Gateway.moved hs)
  have haccounted : g.Accounted := by
    refine hrun.invariant ⟨?_, ?_⟩ fun _ _ _ _ hi _ hs => hi.step (Gateway.moved hs)
    · exact fun e he => absurd he List.not_mem_nil
    · exact fun f hf => absurd hf List.not_mem_nil
  have hmetered : ∀ key, Metered M R g.buckets key g.grants g.now := fun key =>
    hrun.invariant (I := fun g : Gateway => Metered M R g.buckets key g.grants g.now)
      (Metered.new hM0 hR0 rfl) fun _ _ _ _ hi _ hs => metered_step hM hi (Gateway.moved hs)
  refine ⟨fun key a T hT => ?_, fun f hf => ?_, fun f hf => ?_, fun f hf time htime => ?_,
    fun f hf hnone => ?_⟩
  · have hle : (sentOn key a (a + 1000 * T) g.forwarded : ℚ) ≤
        granted key a (a + 1000 * T) g.grants := by
      exact_mod_cast (Nat.le_add_left _ _).trans (hcounted key a (a + 1000 * T))
    refine hle.trans (((hmetered key).within a _ (by linarith)).trans (le_of_eq ?_))
    ring
  · obtain ⟨t, ht, grantedAt, rfl⟩ := hchecked.forwarded f hf
    rw [trustGatewayHeaders_flight hlib]
    exact ht.buildKey_eq.1
  · obtain ⟨t, ht, grantedAt, rfl⟩ := hchecked.forwarded f hf
    rw [trustGatewayHeaders_flight hlib]
    exact ht.buildKey_eq.2
  · have hexcused := haccounted.forwarded f hf
    rw [htime] at hexcused
    exact hexcused
  · have hexcused := haccounted.forwarded f hf
    rw [hnone] at hexcused
    exact hexcused

theorem tempers_sample : Tempers 3 1 sampleEnv := by
  rintro (_ | _)
  · exact ⟨by decide +kernel, by decide +kernel, by decide +kernel⟩
  · exact ⟨by decide +kernel, by decide +kernel, by decide +kernel⟩

def sampleLogin : Incoming := ⟨"POST", "/api/v1/auth/login", [], [], some "10.0.0.2"⟩

def sampleSearch : Incoming := ⟨"GET", "/api/v1/search/trains", [], [], some "10.0.0.2"⟩

/-- A search in between fills the bucket at its own rate, and a second login is let through after
two seconds, for which the preset of the logins alone would take ten. -/
theorem rateLimited_mixed : ∃ g,
    Gateway.Reaches sampleEnv sampleVerify sampleLibraries 0 g ∧ g.RateLimited 3 1 ∧
    (g.forwarded.map (fun f => (f.ticket.route.rateLimit, f.grantedAt))) =
      [(.auth, some 0), (.default, some 2000), (.auth, some 2000)] := by
  obtain ⟨g, hg, ht⟩ := Gateway.exists_reaches sampleEnv sampleVerify sampleLibraries 0
    [.receive sampleLogin "a", .consume 0 .ok, .resume 0, .receive sampleLogin "b", .consume 0 .ok,
      .resume 0, .tick 2000, .receive sampleSearch "c", .receive sampleLogin "d", .consume 0 .ok,
      .consume 0 .ok, .resume 0, .resume 0]
    (fun g => decide ((g.forwarded.map (fun f => (f.ticket.route.rateLimit, f.grantedAt))) =
      [(.auth, some 0), (.default, some 2000), (.auth, some 2000)]))
    (by decide +kernel)
  have hlimited := rateLimited_of_reaches sampleLibraries_passes tempers_sample hg
  exact ⟨g, hg, hlimited, of_decide_eq_true ht⟩

end Runs

end RailwayBooking.ApiGateway
