import RailwayBooking.ApiGateway.Gateway

namespace RailwayBooking.ApiGateway

open Concurrency

section Presented

structure AccessClaims (decoded : Claims) (user : AuthUser) : Prop where
  type : decoded.type = some "access"
  sub : decoded.sub = some user.userId
  email : decoded.email = user.email
  sessionId : decoded.sessionId = some user.sessionId
  userId_ne : user.userId ≠ ""
  email_ne : truthy user.email = user.email ∧ user.email ≠ none
  sessionId_ne : user.sessionId ≠ ""

structure AdminClaims (decoded : Claims) (admin : AuthAdmin) : Prop where
  type : decoded.type = some "admin"
  sub : decoded.sub = some admin.adminId
  adminId_ne : admin.adminId ≠ ""

variable (verify : JwtVerify) (secret : String) (now : Nat)

def UserToken (req : Request) (user : AuthUser) : Prop :=
  secret ≠ "" ∧ ∃ token decoded, accessTokenOf req = some (.text token) ∧
    verify token secret now = .ok decoded ∧ AccessClaims decoded user

def AdminToken (req : Request) (admin : AuthAdmin) : Prop :=
  ∃ token decoded, req.cookies.lookup "admin_access_token" = some (.text token) ∧ token ≠ "" ∧
    (token.toList.filter (· = '.')).length = 2 ∧ verify token secret now = .ok decoded ∧
    AdminClaims decoded admin

/-- A service behind the gateway takes the request to be of whom its token names, as far as the
level of the route asks for the token. -/
structure Vouched (level : AuthLevel) (req : Request) (h : Headers) : Prop where
  user : ∀ user, trustGatewayHeaders h = some user ↔
    (level = .required ∨ level = .optional) ∧ UserToken verify secret now req user
  required : level = .required → ∃ user, UserToken verify secret now req user
  admin : ∀ admin, readAdminFromHeaders h = some admin ↔
    level = .admin ∧ AdminToken verify secret now req admin
  adminRequired : level = .admin → ∃ admin, AdminToken verify secret now req admin

end Presented

variable {verify : JwtVerify} {secret : String} {now : Nat} {x x' : Exchange} {user : AuthUser}
  {admin : AuthAdmin} {level : AuthLevel}

section Tokens

theorem truthy_eq_some {s : Option String} {value : String} :
    truthy s = some value ↔ s = some value ∧ value ≠ "" := by
  simp [truthy, Option.filter_eq_some_iff]

theorem accessTokenOf_congr {req req' : Request} (hcookies : req'.cookies = req.cookies)
    (h : req'.headers.get "authorization" = req.headers.get "authorization") :
    accessTokenOf req' = accessTokenOf req := by
  rw [accessTokenOf, accessTokenOf, h, hcookies]

theorem verifyAccessToken_eq_ok {token : String} :
    verifyAccessToken verify secret now token = .ok user ↔
      secret ≠ "" ∧ ∃ decoded, verify token secret now = .ok decoded ∧ AccessClaims decoded user := by
  constructor
  · intro h
    unfold verifyAccessToken at h
    split at h
    · cases h
    · next hsecret =>
      refine ⟨hsecret, ?_⟩
      split at h
      · cases h
      · next decoded hverify =>
        refine ⟨decoded, hverify, ?_⟩
        split at h
        · cases h
        · next htype =>
          split at h
          · next sub email sessionId hsub hemail hsession =>
            obtain rfl := Except.ok.inj h
            rw [truthy_eq_some] at hsub hemail hsession
            exact {
              type := not_not.mp htype
              sub := hsub.1
              email := hemail.1
              sessionId := hsession.1
              userId_ne := hsub.2
              email_ne := ⟨truthy_eq_some.mpr ⟨rfl, hemail.2⟩, Option.some_ne_none _⟩
              sessionId_ne := hsession.2 }
          · cases h
  · rintro ⟨hsecret, decoded, hverify, hclaims⟩
    obtain ⟨hsame, hsome⟩ := hclaims.email_ne
    obtain ⟨email, hemail⟩ := Option.ne_none_iff_exists'.mp hsome
    have hdecoded : truthy decoded.email = some email := by rw [hclaims.email, hsame, hemail]
    rw [verifyAccessToken, if_neg hsecret, hverify]
    simp only [hclaims.type, ne_eq, not_true_eq_false, if_false, hdecoded,
      truthy_eq_some.mpr ⟨hclaims.sub, hclaims.userId_ne⟩,
      truthy_eq_some.mpr ⟨hclaims.sessionId, hclaims.sessionId_ne⟩]
    rw [← hemail]

theorem userToken_iff {req : Request} : UserToken verify secret now req user ↔
    (accessTokenOf req).bind (verifiedUser verify secret now) = some user := by
  have hverified : ∀ token, verifiedUser verify secret now (.text token) = some user ↔
      verifyAccessToken verify secret now token = .ok user := by
    intro token
    rw [verifiedUser]
    cases verifyAccessToken verify secret now token <;> simp [Except.toOption]
  rw [Option.bind_eq_some_iff]
  constructor
  · rintro ⟨hsecret, token, decoded, htoken, hrest⟩
    exact ⟨_, htoken, (hverified token).mpr (verifyAccessToken_eq_ok.mpr ⟨hsecret, decoded, hrest⟩)⟩
  · rintro ⟨token, htoken, huser⟩
    cases token with
    | json => cases huser
    | text token =>
      obtain ⟨hsecret, decoded, hrest⟩ := verifyAccessToken_eq_ok.mp ((hverified token).mp huser)
      exact ⟨hsecret, token, decoded, htoken, hrest⟩

theorem accessTokenOf_scrub (req : Request) :
    accessTokenOf (scrubTrustedHeaders req) = accessTokenOf req := by
  refine accessTokenOf_congr rfl ?_
  rw [scrubTrustedHeaders, Headers.get_deleteAll, if_neg (by decide)]

end Tokens

section Levels

theorem trustGatewayHeaders_scrub (req : Request) :
    trustGatewayHeaders (scrubTrustedHeaders req).headers = none := by
  have hnone : (scrubTrustedHeaders req).headers.get "x-user-id" = none := by
    rw [scrubTrustedHeaders, Headers.get_deleteAll, if_pos (by decide)]
  rw [trustGatewayHeaders, hnone]
  rfl

theorem readAdminFromHeaders_scrub (req : Request) :
    readAdminFromHeaders (scrubTrustedHeaders req).headers = none := by
  have hnone : (scrubTrustedHeaders req).headers.get "x-admin-id" = none := by
    rw [scrubTrustedHeaders, Headers.get_deleteAll, if_pos (by decide)]
  rw [readAdminFromHeaders, hnone]
  rfl

theorem get_scrub {req : Request} {key : String} (hkey : key ∉ allTrustedHeaders) :
    (scrubTrustedHeaders req).headers.get key = req.headers.get key := by
  rw [scrubTrustedHeaders, Headers.get_deleteAll, if_neg hkey]

theorem trustGatewayHeaders_injectUser (huser : user.userId ≠ "" ∧ truthy user.email = user.email ∧
    user.email ≠ none ∧ user.sessionId ≠ "") :
    trustGatewayHeaders (injectUser user x).req.headers = some user := by
  obtain ⟨hid, hemail, hsome, hsession⟩ := huser
  obtain ⟨userId, _ | email, sessionId⟩ := user
  · exact absurd rfl hsome
  · have hgetId : (injectUser ⟨userId, some email, sessionId⟩ x).req.headers.get "x-user-id" =
        some (.one userId) := by
      simp [injectUser]
    have hgetEmail : (injectUser ⟨userId, some email, sessionId⟩ x).req.headers.get "x-user-email" =
        some (.one email) := by
      simp [injectUser]
    have hgetSession : (injectUser ⟨userId, some email, sessionId⟩ x).req.headers.get
        "x-session-id" = some (.one sessionId) := by
      simp [injectUser]
    rw [trustGatewayHeaders, hgetId, hgetEmail, hgetSession, normalized, normalized, normalized,
      truthy_eq_some.mpr ⟨rfl, hid⟩, truthy_eq_some.mpr ⟨rfl, hsession⟩, hemail]

theorem get_injectUser {key : String} (hkey : key ∉ trustedUserHeaders) :
    (injectUser user x).req.headers.get key = x.req.headers.get key := by
  obtain ⟨hid, hemail, hsession⟩ : key ≠ "x-user-id" ∧ key ≠ "x-user-email" ∧ key ≠ "x-session-id" := by
    simpa [trustedUserHeaders] using hkey
  obtain ⟨userId, _ | email, sessionId⟩ := user
  · simp [injectUser, hid, hsession]
  · simp [injectUser, hid, hemail, hsession]

theorem vouched_scrub {req : Request} (hrequired : level ≠ .required) (hadmin : level ≠ .admin)
    (hno : level = .optional → ∀ user, ¬ UserToken verify secret now req user) :
    Vouched verify secret now level req (scrubTrustedHeaders req).headers where
  user user := by
    rw [trustGatewayHeaders_scrub]
    refine iff_of_false nofun ?_
    rintro ⟨hlevel | hlevel, htoken⟩
    · exact hrequired hlevel
    · exact hno hlevel user htoken
  required hlevel := absurd hlevel hrequired
  admin admin := by
    rw [readAdminFromHeaders_scrub]
    exact iff_of_false nofun fun h => hadmin h.1
  adminRequired hlevel := absurd hlevel hadmin

theorem vouched_injectUser (hlevel : level = .required ∨ level = .optional)
    (h : UserToken verify secret now x.req user) : Vouched verify secret now level x.req
      (injectUser user { x with req := scrubTrustedHeaders x.req }).req.headers where
  user user' := by
    obtain ⟨-, _, decoded, -, -, hclaims⟩ := id h
    rw [trustGatewayHeaders_injectUser ⟨hclaims.userId_ne, hclaims.email_ne.1, hclaims.email_ne.2,
      hclaims.sessionId_ne⟩, and_iff_right hlevel, userToken_iff, userToken_iff.mp h]
  required _ := ⟨user, h⟩
  admin admin := by
    have hsame : readAdminFromHeaders
        (injectUser user { x with req := scrubTrustedHeaders x.req }).req.headers = none := by
      rw [readAdminFromHeaders, get_injectUser (by decide)]
      exact readAdminFromHeaders_scrub x.req
    rw [hsame]
    refine iff_of_false nofun fun hadmin => ?_
    rw [hadmin.1] at hlevel
    obtain hlevel | hlevel := hlevel <;> cases hlevel
  adminRequired hadmin := by
    rw [hadmin] at hlevel
    obtain hlevel | hlevel := hlevel <;> cases hlevel

theorem vouched_admin {req : Request} {h : Headers}
    (hget : h.get "x-admin-id" = some (.one admin.adminId))
    (hothers : ∀ key, key ≠ "x-admin-id" → h.get key = (scrubTrustedHeaders req).headers.get key)
    (htoken : AdminToken verify secret now req admin) : Vouched verify secret now .admin req h where
  user user := by
    have hnone : trustGatewayHeaders h = none := by
      have hscrub := trustGatewayHeaders_scrub req
      rw [trustGatewayHeaders] at hscrub ⊢
      rw [hothers _ (by decide), hothers _ (by decide), hothers _ (by decide)]
      exact hscrub
    rw [hnone]
    refine iff_of_false nofun ?_
    rintro ⟨hlevel | hlevel, -⟩ <;> cases hlevel
  required hlevel := nomatch hlevel
  admin admin' := by
    obtain ⟨token, decoded, hcookie, -, -, hverify, hclaims⟩ := id htoken
    rw [readAdminFromHeaders, hget, normalized, truthy_eq_some.mpr ⟨rfl, hclaims.adminId_ne⟩]
    refine ⟨?_, ?_⟩
    · rintro ⟨⟩
      exact ⟨rfl, htoken⟩
    · rintro ⟨-, token', decoded', hcookie', -, -, hverify', hclaims'⟩
      cases hcookie.symm.trans hcookie'
      cases hverify.symm.trans hverify'
      have hsub : admin.adminId = admin'.adminId :=
        Option.some.inj (hclaims.sub.symm.trans hclaims'.sub)
      cases admin'
      exact congrArg (fun id => some (AuthAdmin.mk id)) hsub
  adminRequired _ := ⟨admin, htoken⟩

end Levels

section Middlewares

theorem gatewayAuthMiddleware_ok (h : gatewayAuthMiddleware verify secret now x = .ok x') :
    ∃ user, UserToken verify secret now x.req user ∧
      x' = injectUser user { x with req := scrubTrustedHeaders x.req } := by
  unfold gatewayAuthMiddleware at h
  dsimp only at h
  rw [accessTokenOf_scrub] at h
  split at h
  · cases h
  · next token htoken =>
    split at h
    · cases h
    · next user huser =>
      refine ⟨user, userToken_iff.mpr ?_, (Except.ok.inj h).symm⟩
      rw [htoken]
      exact huser

theorem optionalGatewayAuthMiddleware_ok (h : optionalGatewayAuthMiddleware verify secret now x = .ok x') :
    (∃ user, UserToken verify secret now x.req user ∧
      x' = injectUser user { x with req := scrubTrustedHeaders x.req }) ∨
    (∀ user, ¬ UserToken verify secret now x.req user) ∧
      x' = { x with req := scrubTrustedHeaders x.req } := by
  unfold optionalGatewayAuthMiddleware at h
  dsimp only at h
  rw [accessTokenOf_scrub] at h
  split at h
  · next htoken =>
    refine .inr ⟨fun user huser => ?_, (Except.ok.inj h).symm⟩
    rw [userToken_iff, htoken] at huser
    cases huser
  · next token htoken =>
    split at h
    · next hnone =>
      refine .inr ⟨fun user huser => ?_, (Except.ok.inj h).symm⟩
      rw [userToken_iff, htoken] at huser
      cases hnone.symm.trans huser
    · next user huser =>
      refine .inl ⟨user, userToken_iff.mpr ?_, (Except.ok.inj h).symm⟩
      rw [htoken]
      exact huser

theorem gatewayAdminAuthMiddleware_ok (h : gatewayAdminAuthMiddleware verify secret now x = .ok x') :
    ∃ admin, AdminToken verify secret now x.req admin ∧
      x'.req = { scrubTrustedHeaders x.req with
        admin := some admin
        headers := (scrubTrustedHeaders x.req).headers.set "x-admin-id" admin.adminId (by decide) } := by
  unfold gatewayAdminAuthMiddleware at h
  dsimp only at h
  split at h
  · cases h
  · cases h
  · cases h
  · next token hne htoken =>
    split at h
    · cases h
    · next hdots =>
      split at h
      · cases h
      · next decoded hverify =>
        split at h
        · cases h
        · next htype =>
          split at h
          · cases h
          · next sub hsub =>
            rw [truthy_eq_some] at hsub
            obtain rfl := Except.ok.inj h
            refine ⟨⟨sub⟩, ⟨token, decoded, htoken, ?_, not_not.mp hdots, hverify, ?_⟩, rfl⟩
            · rintro rfl
              exact hne rfl
            · exact ⟨not_not.mp htype, hsub.1, hsub.2⟩

/-- The request after the auth middleware of a level. -/
structure Resolved (verify : JwtVerify) (secret : String) (now : Nat) (level : AuthLevel)
    (req req' : Request) : Prop where
  vouched : Vouched verify secret now level req req'.headers
  user : req'.user = trustGatewayHeaders req'.headers
  others : ∀ key ∉ allTrustedHeaders, req'.headers.get key = req.headers.get key
  url : req'.originalUrl = req.originalUrl
  ip : req'.ip = req.ip

theorem resolved_injectUser (hlevel : level = .required ∨ level = .optional)
    (h : UserToken verify secret now x.req user) : Resolved verify secret now level x.req
      (injectUser user { x with req := scrubTrustedHeaders x.req }).req where
  vouched := vouched_injectUser hlevel h
  user := (((vouched_injectUser hlevel h).user user).mpr ⟨hlevel, h⟩).symm
  others key hkey := by
    rw [get_injectUser fun hmem => hkey (List.mem_append_left _ hmem)]
    exact get_scrub hkey
  url := rfl
  ip := rfl

theorem resolved_scrub (hnew : x.req.user = none) (hrequired : level ≠ .required)
    (hadmin : level ≠ .admin)
    (hno : level = .optional → ∀ user, ¬ UserToken verify secret now x.req user) :
    Resolved verify secret now level x.req (scrubTrustedHeaders x.req) where
  vouched := vouched_scrub hrequired hadmin hno
  user := by
    rw [trustGatewayHeaders_scrub]
    exact hnew
  others key hkey := get_scrub hkey
  url := rfl
  ip := rfl

theorem resolved (hnew : x.req.user = none)
    (h : resolveAuthMiddleware verify secret now level x = .ok x') :
    Resolved verify secret now level x.req x'.req := by
  cases level with
  | none =>
    obtain rfl := Except.ok.inj h
    exact resolved_scrub hnew nofun nofun nofun
  | required =>
    obtain ⟨user, htoken, rfl⟩ := gatewayAuthMiddleware_ok h
    exact resolved_injectUser (.inl rfl) htoken
  | optional =>
    obtain ⟨user, htoken, rfl⟩ | ⟨hno, rfl⟩ := optionalGatewayAuthMiddleware_ok h
    · exact resolved_injectUser (.inr rfl) htoken
    · exact resolved_scrub hnew nofun nofun fun _ => hno
  | admin =>
    obtain ⟨admin, htoken, hreq⟩ := gatewayAdminAuthMiddleware_ok h
    have hothers : ∀ key, key ≠ "x-admin-id" →
        x'.req.headers.get key = (scrubTrustedHeaders x.req).headers.get key := by
      intro key hkey
      rw [hreq, Headers.get_set_ne hkey]
    have hget : x'.req.headers.get "x-admin-id" = some (.one admin.adminId) := by
      rw [hreq, Headers.get_set_same]
    have hvouched : Vouched verify secret now .admin x.req x'.req.headers :=
      vouched_admin hget hothers htoken
    refine ⟨hvouched, ?_, fun key hkey => ?_, ?_, ?_⟩
    · have hnone : trustGatewayHeaders x'.req.headers = none := by
        cases huser : trustGatewayHeaders x'.req.headers with
        | none => rfl
        | some user =>
          obtain ⟨hlevel | hlevel, -⟩ := (hvouched.user user).mp huser <;> cases hlevel
      rw [hnone, hreq]
      exact hnew
    · have hne : key ≠ "x-admin-id" := by
        rintro rfl
        exact hkey (by decide)
      rw [hothers key hne]
      exact get_scrub hkey
    · rw [hreq]
      rfl
    · rw [hreq]
      rfl

end Middlewares

section Wire

theorem trustGatewayHeaders_congr {h h' : Headers}
    (hsame : ∀ key ∈ allTrustedHeaders, h'.get key = h.get key) :
    trustGatewayHeaders h' = trustGatewayHeaders h := by
  rw [trustGatewayHeaders, trustGatewayHeaders, hsame _ (by decide), hsame _ (by decide),
    hsame _ (by decide)]

theorem readAdminFromHeaders_congr {h h' : Headers}
    (hsame : ∀ key ∈ allTrustedHeaders, h'.get key = h.get key) :
    readAdminFromHeaders h' = readAdminFromHeaders h := by
  rw [readAdminFromHeaders, readAdminFromHeaders, hsame _ (by decide)]

theorem Libraries.Passes.trusted {lib : Libraries} (hlib : lib.Passes) (t : Ticket)
    (grantedAt : Option Nat) {key : String} (hkey : key ∈ allTrustedHeaders) :
    (Headers.incoming (t.flight lib grantedAt).headers).get key = t.x.req.headers.get key := by
  have hdisjoint : ∀ key ∈ allTrustedHeaders, key ∉ rewrittenHeaders := by decide
  exact hlib.headers _ _ _ key (hdisjoint key hkey)

theorem Vouched.congr {req req' : Request} {h h' : Headers}
    (hv : Vouched verify secret now level req h) (hcookies : req'.cookies = req.cookies)
    (hauthorization : req'.headers.get "authorization" = req.headers.get "authorization")
    (hsame : ∀ key ∈ allTrustedHeaders, h'.get key = h.get key) :
    Vouched verify secret now level req' h' := by
  have huser : ∀ user, UserToken verify secret now req' user ↔
      UserToken verify secret now req user := by
    intro user
    rw [UserToken, UserToken, accessTokenOf_congr hcookies hauthorization]
  have hadmin : ∀ admin, AdminToken verify secret now req' admin ↔
      AdminToken verify secret now req admin := by
    intro admin
    rw [AdminToken, AdminToken, hcookies]
  refine ⟨fun user => ?_, fun hlevel => ?_, fun admin => ?_, fun hlevel => ?_⟩
  · rw [trustGatewayHeaders_congr hsame, huser]
    exact hv.user user
  · obtain ⟨user, htoken⟩ := hv.required hlevel
    exact ⟨user, (huser user).mpr htoken⟩
  · rw [readAdminFromHeaders_congr hsame, hadmin]
    exact hv.admin admin
  · obtain ⟨admin, htoken⟩ := hv.adminRequired hlevel
    exact ⟨admin, (hadmin admin).mpr htoken⟩

end Wire

section Runs

variable {env : Env} {lib : Libraries} {g g' : Gateway} {a : Label}

/-- What the upstream is sent: by the longest route for the path, in the name of whom the token
names, and with the headers of the client that neither the gateway nor the proxy sets. -/
structure Flight.Identified (env : Env) (verify : JwtVerify) (lib : Libraries) (f : Flight) :
    Prop where
  route : f.ticket.route ∈ routes env ∧
    mounts lib f.ticket.route.path f.ticket.incoming.originalUrl = true
  longest : ∀ r ∈ routes env, mounts lib r.path f.ticket.incoming.originalUrl = true →
    (lower r.path).toList.length ≤ (lower f.ticket.route.path).toList.length
  vouched : Vouched verify env.jwtSecret f.ticket.receivedAt f.ticket.route.auth
    f.ticket.incoming.request (Headers.incoming f.headers)
  others : ∀ key ∉ allTrustedHeaders ++ "x-request-id" :: rewrittenHeaders,
    (Headers.incoming f.headers).get key = (Headers.incoming f.ticket.incoming.headers).get key
  url : f.url = pathRewrite f.ticket.incoming.originalUrl

/-- The request has passed the auth middleware of its route. -/
def Ticket.Checked (env : Env) (verify : JwtVerify) (lib : Libraries) (t : Ticket) : Prop :=
  routeOf env lib t.incoming.originalUrl = some t.route ∧ ∃ randomUUID,
    Resolved verify env.jwtSecret t.receivedAt t.route.auth
      (requestIdMiddleware randomUUID ⟨t.incoming.request, []⟩).req t.x.req

structure Gateway.Checked (env : Env) (verify : JwtVerify) (lib : Libraries) (g : Gateway) :
    Prop where
  limiting : ∀ t ∈ g.limiting, t.Checked env verify lib
  limited : ∀ e ∈ g.limited, e.1.Checked env verify lib
  forwarded : ∀ f ∈ g.forwarded, ∃ t : Ticket, t.Checked env verify lib ∧
    ∃ grantedAt, f = t.flight lib grantedAt

theorem Gateway.Checked.step (h : g.Checked env verify lib)
    (hm : Gateway.Moved env verify lib g a g') : g'.Checked env verify lib := by
  cases hm with
  | answered | ticked => exact ⟨h.limiting, h.limited, h.forwarded⟩
  | settled => exact ⟨h.limiting, h.limited, h.forwarded⟩
  | accepted r randomUUID hroute hauth =>
    refine ⟨fun t ht => ?_, h.limited, h.forwarded⟩
    obtain ht | ht := List.mem_append.mp ht
    · exact h.limiting t ht
    · rw [List.mem_singleton.mp ht]
      exact ⟨hroute, randomUUID, ApiGateway.resolved rfl hauth⟩
  | unreached i hfound | consumed i _ hfound =>
    refine ⟨fun t ht => h.limiting t (List.mem_of_mem_eraseIdx ht), fun e he => ?_, h.forwarded⟩
    obtain he | he := List.mem_append.mp he
    · exact h.limited e he
    · rw [List.mem_singleton.mp he]
      exact h.limiting _ (List.mem_of_getElem? hfound)
  | dismissed | refused =>
    exact ⟨h.limiting, fun e he => h.limited e (List.mem_of_mem_eraseIdx he), h.forwarded⟩
  | sent i res hfound _ _ _ hflight =>
    refine ⟨h.limiting, fun e he => h.limited e (List.mem_of_mem_eraseIdx he), fun f hf => ?_⟩
    obtain hf | hf := List.mem_append.mp hf
    · exact h.forwarded f hf
    · obtain rfl := List.mem_singleton.mp hf
      obtain ⟨hroute, hresolved⟩ := h.limited _ (List.mem_of_getElem? hfound)
      refine ⟨_, ?_, _, hflight⟩
      exact ⟨hroute, hresolved⟩

theorem Ticket.Checked.identified {t : Ticket} (h : t.Checked env verify lib)
    (hlib : lib.Passes) (grantedAt : Option Nat) :
    (t.flight lib grantedAt).Identified env verify lib := by
  obtain ⟨hroute, randomUUID, hresolved⟩ := h
  obtain ⟨hmem, hmatch, hlongest⟩ := routeOf_longest hroute
  have hreceived : ∀ key ≠ "x-request-id",
      (requestIdMiddleware randomUUID ⟨t.incoming.request, []⟩).req.headers.get key =
        t.incoming.request.headers.get key := by
    intro key hkey
    rw [requestIdMiddleware, Headers.get_set_ne hkey]
  refine ⟨⟨hmem, hmatch⟩, hlongest, hresolved.vouched.congr rfl ?_ ?_, fun key hkey => ?_, ?_⟩
  · exact (hreceived _ (by decide)).symm
  · exact fun key hkey => hlib.trusted t grantedAt hkey
  · simp only [List.mem_append, List.mem_cons, not_or] at hkey
    obtain ⟨htrusted, hrequest, hrewritten⟩ := hkey
    calc (Headers.incoming (t.flight lib grantedAt).headers).get key
        = t.x.req.headers.get key := hlib.headers _ _ _ key hrewritten
      _ = (requestIdMiddleware randomUUID ⟨t.incoming.request, []⟩).req.headers.get key :=
          hresolved.others key htrusted
      _ = (Headers.incoming t.incoming.headers).get key := hreceived key hrequest
  · exact congrArg pathRewrite hresolved.url

theorem checked_of_reaches {now : Nat} (h : Gateway.Reaches env verify lib now g) :
    g.Checked env verify lib := by
  obtain ⟨breakers, -, hrun⟩ := h
  refine hrun.invariant ⟨?_, ?_, ?_⟩ fun _ _ _ _ hi _ hs => hi.step (Gateway.moved hs)
  · exact fun t ht => absurd ht List.not_mem_nil
  · exact fun e he => absurd he List.not_mem_nil
  · exact fun f hf => absurd hf List.not_mem_nil

/-- Whatever a client sends, the services behind the gateway take it for who its token says it is,
and get the other headers of the client. -/
theorem identified_of_reaches (hlib : lib.Passes) {now : Nat}
    (h : Gateway.Reaches env verify lib now g) :
    ∀ f ∈ g.forwarded, f.Identified env verify lib := by
  intro f hf
  obtain ⟨t, ht, grantedAt, rfl⟩ := (checked_of_reaches h).forwarded f hf
  exact ht.identified hlib grantedAt

def sampleEnv : Env where
  userUpstream := "http://localhost:4001"
  adminUpstream := "http://localhost:4002"
  bookingUpstream := "http://localhost:4005"
  searchUpstream := "http://localhost:4004"
  paymentUpstream := "http://localhost:4006"
  jwtSecret := "secret"
  rateLimitDefault := ⟨3, 1, by decide, by norm_num⟩
  rateLimitAuth := ⟨1, 1 / 10, by decide, by norm_num⟩

def sampleLibraries : Libraries where
  pathname url := String.ofList (url.toList.takeWhile (· ≠ '?'))
  send upstream _ req :=
    ((req.headers.set "host" upstream.baseUrl (by decide)).set "connection" "close"
      (by decide)).outgoing

theorem sampleLibraries_passes : sampleLibraries.Passes where
  headers upstream n req key hkey := by
    simp only [rewrittenHeaders, List.mem_cons, not_or] at hkey
    change (Headers.incoming (Headers.outgoing _)).get key = _
    rw [Headers.get_incoming_outgoing, Headers.get_set_ne hkey.2.1, Headers.get_set_ne hkey.1]

def sampleVerify : JwtVerify := fun token secret _ =>
  if token = "a.b.c" ∧ secret = "secret" then
    .ok ⟨some "7", some "seven@example.com", some "70", some "access"⟩
  else .error .invalid

def sampleIncoming : Incoming where
  method := "GET"
  originalUrl := "/api/v1/bookings?page=1"
  headers := [("X-User-Id", "8"), ("x-admin-id", "1"), ("Authorization", "Bearer a.b.c"),
    ("Accept", "application/json")]
  cookies := []
  ip := some "10.0.0.1"

/-- A request that claims to come from another user, and from an administrator, is sent on in the
name of the user whose token it carries. -/
theorem identified_forged : ∃ g,
    Gateway.Reaches sampleEnv sampleVerify sampleLibraries 0 g ∧
    ∃ f ∈ g.forwarded, f.ticket.incoming = sampleIncoming ∧
      f.Identified sampleEnv sampleVerify sampleLibraries ∧
      trustGatewayHeaders (Headers.incoming f.headers) =
        some ⟨"7", some "seven@example.com", "70"⟩ ∧
      readAdminFromHeaders (Headers.incoming f.headers) = none := by
  obtain ⟨g, hg, ht⟩ := Gateway.exists_reaches sampleEnv sampleVerify sampleLibraries 0
    [.receive sampleIncoming "a-b-c", .consume 0 .ok, .resume 0]
    (fun g => g.forwarded.any (fun f => f.ticket.incoming = sampleIncoming ∧
      trustGatewayHeaders (Headers.incoming f.headers) =
        some ⟨"7", some "seven@example.com", "70"⟩ ∧
      readAdminFromHeaders (Headers.incoming f.headers) = none))
    (by decide +kernel)
  obtain ⟨f, hf, htest⟩ := List.any_eq_true.mp ht
  obtain ⟨hincoming, huser, hadmin⟩ := of_decide_eq_true htest
  have hidentified := identified_of_reaches sampleLibraries_passes hg f hf
  exact ⟨g, hg, f, hf, hincoming, hidentified, huser, hadmin⟩

end Runs

end RailwayBooking.ApiGateway
