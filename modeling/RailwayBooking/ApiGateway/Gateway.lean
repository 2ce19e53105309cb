import Mathlib.Data.List.Perm.Basic
import RailwayBooking.ApiGateway.Routes
import RailwayBooking.Concurrency.Transition
import RailwayBooking.Resilience.SharedBuckets

namespace RailwayBooking.ApiGateway

open Concurrency Resilience

section Breakers

/-- A breaker with the options that it was made with. -/
structure Registered where
  options : CircuitBreakerOptions
  breaker : CircuitBreaker

/-- `CircuitBreakerRegistry`, and the names that `getBreaker` has registered. -/
structure Breakers where
  registered : List String
  registry : String → Option Registered

namespace Breakers

def empty : Breakers := ⟨[], fun _ => none⟩

/-- `breakers.set(name, breaker)`, and what a call makes of a breaker. -/
def put (s : Breakers) (name : String) (r : Registered) : Breakers :=
  { s with registry := Function.update s.registry name (some r) }

/-- `DEFAULT_OPTIONS`, for which the breaker stands in itself. -/
def defaultOptions : CircuitBreakerOptions := ⟨none, none, none, none, none, by decide⟩

/-- `CircuitBreakerRegistry.get`. -/
def get (s : Breakers) (now : Nat) (name : String) (options : Option CircuitBreakerOptions) :
    Except String Breakers :=
  match s.registry name, options with
  | none, options =>
    .ok (s.put name ⟨options.getD defaultOptions, .create now⟩)
  | some _, none => .ok s
  | some _, some _ => .error
    ("CircuitBreaker \"" ++ name ++ "\" already exists; options can only be set on first registration")

def getBreaker (s : Breakers) (now : Nat) (circuitName : String) : Except String Breakers :=
  if s.registered.contains circuitName then s.get now circuitName none
  else
    { s with registered := circuitName :: s.registered }.get now circuitName
      (some (breakerOptions circuitName))

end Breakers

/-- Each handler that `mountRoutes` creates looks its breaker up. -/
def mountRoutes (env : Env) (now : Nat) : Except String Breakers :=
  (layers env).foldlM (fun s route => s.getBreaker now route.upstream.circuitName) Breakers.empty

end Breakers

/-- A request as a client sends it, with its cookies and its address. -/
structure Incoming where
  method : String
  originalUrl : String
  headers : RawHeaders
  cookies : List (String × CookieValue)
  ip : Option String
  deriving DecidableEq

/-- A request that has passed the auth middleware of its route. -/
structure Ticket where
  id : Nat
  receivedAt : Nat
  incoming : Incoming
  route : RouteConfig
  x : Exchange

/-- A request that the gateway sends to an upstream, and when Redis has let it through, if it has
answered: the URL that the proxy is to ask for, and the header lines of the request. -/
structure Flight where
  ticket : Ticket
  grantedAt : Option Nat
  url : String
  headers : RawHeaders

inductive Answer
  | notFound
  | error (e : Thrown)
  | upstream (statusCode : Nat)
  | cut
  deriving DecidableEq

structure Reply where
  id : Nat
  answer : Answer
  res : List (String × String)

/-- How `runProxy` ends, or the timeout before it: the response is closed, the proxy fails, or
time is up; the last two after headers have been sent, or before. -/
inductive ProxyOutcome
  | closed (statusCode : Nat)
  | proxyError (headersSent : Bool)
  | timeout (headersSent : Bool)
  deriving DecidableEq

/-- The gateway with its requests, by what they wait for; and, of the past, which runs of the
script there were, for which requests none has answered, what was sent on, and by which
circuits calls have succeeded or failed. -/
structure Gateway where
  now : Nat
  received : Nat
  buckets : Redis.Store String Bucket
  breakers : Breakers
  limiting : List Ticket
  limited : List (Ticket × Option (Nat × RateLimitResult))
  proxied : List Flight
  grants : List (Grant String)
  failedOpen : List Nat
  forwarded : List Flight
  ended : List (String × Bool)
  replies : List Reply

inductive Label
  | receive (r : Incoming) (randomUUID : String)
  | consume (i : Nat) (outcome : Redis.Outcome)
  | resume (i : Nat)
  | settle (i : Nat) (outcome : ProxyOutcome)
  | tick (d : Nat)

section Requests

/-- The request as it comes to the first middleware. -/
def Incoming.request (r : Incoming) : Request where
  method := r.method
  originalUrl := r.originalUrl
  headers := Headers.incoming r.headers
  cookies := r.cookies
  ip := r.ip
  user := none
  admin := none

/-- `rl:user:<id>`, or `rl:ip:<ip>` for who is not known. -/
def buildKey (req : Request) : String :=
  match truthy (req.user.map AuthUser.userId) with
  | some userId => "rl:user:" ++ userId
  | none => "rl:ip:" ++ req.ip.getD "unknown"

def Ticket.flight (lib : Libraries) (t : Ticket) (grantedAt : Option Nat) : Flight where
  ticket := t
  grantedAt
  url := pathRewrite t.x.req.originalUrl
  headers := lib.send t.route.upstream t.id t.x.req

def Answer.api (statusCode : Nat) (code : ErrorCode) (message : String) : Answer :=
  .error (.api statusCode code message)

/-- The answer to a call that the breaker, or the proxy, has ended. -/
def failure (circuitName : String) : Option CircuitBreakerError → Answer
  | some .opened => .api 503 .gatewayUpstreamCircuitOpen
    ("Service is temporarily unavailable (circuit breaker \"" ++ circuitName ++ "\" is OPEN)")
  | some .timeout => .api 504 .gatewayUpstreamError "Upstream request timed out"
  | some .halfOpen | none => .api 502 .gatewayUpstreamError "Upstream service is unavailable"

end Requests

namespace Gateway

variable (env : Env) (verify : JwtVerify) (lib : Libraries)

def reply (g : Gateway) (id : Nat) (res : List (String × String)) (answer : Answer) : Gateway :=
  { g with replies := g.replies ++ [⟨id, answer, res⟩] }

/-- The layers up to the rate limit. -/
def receive (g : Gateway) (r : Incoming) (randomUUID : String) : Gateway :=
  let id := g.received
  let g := { g with received := id + 1 }
  let x := requestIdMiddleware randomUUID ⟨r.request, []⟩
  match routeOf env lib r.originalUrl with
  | none => g.reply id x.res .notFound
  | some route =>
    match resolveAuthMiddleware verify env.jwtSecret g.now route.auth x with
    | .error e => g.reply id x.res (.error e)
    | .ok x => { g with limiting := g.limiting ++ [⟨id, g.now, r, route, x⟩] }

/-- `limiter.consume`: where it fails the script may have run. -/
def consume (g : Gateway) (i : Nat) (outcome : Redis.Outcome) : Option Gateway :=
  (g.limiting[i]?).map (fun t =>
    let key := buildKey t.x.req
    let (result, buckets) :=
      incrementToken (rateLimitPresets env t.route.rateLimit).options g.buckets g.now key
    let grants := g.grants ++ [⟨key, g.now, result.allowed⟩]
    let g := { g with limiting := g.limiting.eraseIdx i }
    match outcome with
    | .ok => { g with buckets, grants, limited := g.limited ++ [(t, some (g.now, result))] }
    | .fault =>
      { g with failedOpen := g.failedOpen ++ [t.id], limited := g.limited ++ [(t, none)] }
    | .lost =>
      { g with
        buckets, grants
        failedOpen := g.failedOpen ++ [t.id]
        limited := g.limited ++ [(t, none)] })

/-- `proxyHandler` as far as it runs before it waits for the proxy. -/
def proxyHandler (g : Gateway) (t : Ticket) (grantedAt : Option Nat) : Option Gateway :=
  let method := String.ofList (t.x.req.method.toList.map Char.toUpper)
  if t.route.methods ≠ [] ∧ method ∉ t.route.methods then
    some (g.reply t.id t.x.res (.api 405 .methodNotAllowed
      ("Method " ++ t.x.req.method ++ " not allowed for " ++ t.route.path)))
  else
    let name := t.route.upstream.circuitName
    (g.breakers.registry name).map (fun r =>
      let (e, breaker) := r.breaker.execute r.options g.now
      let g := { g with breakers := g.breakers.put name { r with breaker } }
      match e with
      | some e => g.reply t.id t.x.res (failure name (some e))
      | none =>
        let flight := t.flight lib grantedAt
        { g with proxied := g.proxied ++ [flight], forwarded := g.forwarded ++ [flight] })

/-- The rest of `rateLimitMiddleware`, which fails open. -/
def resume (g : Gateway) (i : Nat) : Option Gateway :=
  (g.limited[i]?).bind (fun (t, result) =>
    let g := { g with limited := g.limited.eraseIdx i }
    match result with
    | none => g.proxyHandler lib t none
    | some (time, result) =>
      let preset := rateLimitPresets env t.route.rateLimit
      let res := t.x.res ++ [("X-RateLimit-Limit", toString preset.capacity),
        ("X-RateLimit-Remaining", toString result.remaining)]
      let t := { t with x := { t.x with res } }
      if result.allowed then g.proxyHandler lib t (some time)
      else
        let retryAfterSec := max 1 ((result.resetMs + 999) / 1000)
        some (g.reply t.id (res ++ [("Retry-After", toString retryAfterSec)])
          (.api 429 .rateLimitExceeded "Too many requests. Please try again later.")))

def settle (g : Gateway) (i : Nat) (outcome : ProxyOutcome) : Option Gateway :=
  (g.proxied[i]?).bind (fun f =>
    let name := f.ticket.route.upstream.circuitName
    (g.breakers.registry name).map (fun r =>
      let success :=
        match outcome with
        | .closed _ => true
        | _ => false
      let breaker :=
        if success then r.breaker.handleSuccess r.options g.now
        else r.breaker.handleFailure r.options g.now
      let answer :=
        match outcome with
        | .closed statusCode => .upstream statusCode
        | .proxyError true | .timeout true => .cut
        | .proxyError false => failure name none
        | .timeout false => failure name (some .timeout)
      let g := { g with
        breakers := g.breakers.put name { r with breaker }
        proxied := g.proxied.eraseIdx i
        ended := g.ended ++ [(name, success)] }
      g.reply f.ticket.id f.ticket.x.res answer))

def step (g : Gateway) : Label → Option Gateway
  | .receive r randomUUID => some (g.receive env verify lib r randomUUID)
  | .consume i outcome => g.consume env i outcome
  | .resume i => g.resume env lib i
  | .settle i outcome => g.settle i outcome
  | .tick d => some { g with now := g.now + d }

@[reducible] def system : System := ⟨Gateway, Label, step env verify lib⟩

/-- The gateway after its start. -/
def init (now : Nat) (breakers : Breakers) : Gateway :=
  ⟨now, 0, .empty, breakers, [], [], [], [], [], [], [], []⟩

/-- What the gateway reaches after it has mounted its routes. -/
def Reaches (now : Nat) (g : Gateway) : Prop :=
  ∃ breakers, mountRoutes env now = .ok breakers ∧
    System.Run (system env verify lib) (fun _ _ => True) (init now breakers) g

section Steps

/-- A request that is let past the rate limit, and since when. -/
inductive Past : Option (Nat × RateLimitResult) → Option Nat → Prop
  | failedOpen : Past none none
  | granted (time : Nat) {result : RateLimitResult} (h : result.allowed = true) :
      Past (some (time, result)) (some time)

/-- What a step does. Of the answers to the clients nothing is said. -/
inductive Moved (g : Gateway) : Label → Gateway → Prop
  | answered (r : Incoming) (randomUUID : String) (received : Nat) (replies : List Reply) :
      Moved g (.receive r randomUUID) { g with received, replies }
  | accepted (r : Incoming) (randomUUID : String) {route : RouteConfig} {x : Exchange}
      (route_eq : routeOf env lib r.originalUrl = some route)
      (auth : resolveAuthMiddleware verify env.jwtSecret g.now route.auth
        (requestIdMiddleware randomUUID ⟨r.request, []⟩) = .ok x) :
      Moved g (.receive r randomUUID) { g with
        received := g.received + 1
        limiting := g.limiting ++ [⟨g.received, g.now, r, route, x⟩] }
  | unreached (i : Nat) {t : Ticket} (found : g.limiting[i]? = some t) :
      Moved g (.consume i .fault) { g with
        limiting := g.limiting.eraseIdx i
        failedOpen := g.failedOpen ++ [t.id]
        limited := g.limited ++ [(t, none)] }
  | consumed (i : Nat) (outcome : Redis.Outcome) {t : Ticket} {key : String}
      {s : RateLimitResult × Redis.Store String Bucket} {limited : Option (Nat × RateLimitResult)}
      {failedOpen : List Nat} (found : g.limiting[i]? = some t) (key_eq : key = buildKey t.x.req)
      (script : s =
        incrementToken (rateLimitPresets env t.route.rateLimit).options g.buckets g.now key)
      (answer : limited = none ∧ failedOpen = g.failedOpen ++ [t.id] ∨
        limited = some (g.now, s.1) ∧ failedOpen = g.failedOpen) :
      Moved g (.consume i outcome) { g with
        limiting := g.limiting.eraseIdx i
        buckets := s.2
        grants := g.grants ++ [⟨key, g.now, s.1.allowed⟩]
        failedOpen
        limited := g.limited ++ [(t, limited)] }
  | dismissed (i : Nat) (replies : List Reply) :
      Moved g (.resume i) { g with limited := g.limited.eraseIdx i, replies }
  | refused (i : Nat) {t : Ticket} {limited : Option (Nat × RateLimitResult)} {r : Registered}
      {e : CircuitBreakerError} {breaker : CircuitBreaker} (replies : List Reply)
      (found : g.limited[i]? = some (t, limited))
      (registered : g.breakers.registry t.route.upstream.circuitName = some r)
      (execute : r.breaker.execute r.options g.now = (some e, breaker)) :
      Moved g (.resume i) { g with
        limited := g.limited.eraseIdx i
        breakers := g.breakers.put t.route.upstream.circuitName { r with breaker }
        replies }
  | sent (i : Nat) {t : Ticket} {limited : Option (Nat × RateLimitResult)} {r : Registered}
      {breaker : CircuitBreaker} {grantedAt : Option Nat} (res : List (String × String))
      (found : g.limited[i]? = some (t, limited)) (past : Past limited grantedAt)
      (registered : g.breakers.registry t.route.upstream.circuitName = some r)
      (execute : r.breaker.execute r.options g.now = (none, breaker)) {f : Flight}
      (flight : f = ({ t with x := { t.x with res } } : Ticket).flight lib grantedAt) :
      Moved g (.resume i) { g with
        limited := g.limited.eraseIdx i
        breakers := g.breakers.put t.route.upstream.circuitName { r with breaker }
        proxied := g.proxied ++ [f]
        forwarded := g.forwarded ++ [f] }
  | settled (i : Nat) (outcome : ProxyOutcome) (success : Bool) {f : Flight} {r : Registered}
      (replies : List Reply) (found : g.proxied[i]? = some f)
      (registered : g.breakers.registry f.ticket.route.upstream.circuitName = some r) :
      Moved g (.settle i outcome) { g with
        breakers := g.breakers.put f.ticket.route.upstream.circuitName { r with
          breaker := if success then r.breaker.handleSuccess r.options g.now
            else r.breaker.handleFailure r.options g.now }
        proxied := g.proxied.eraseIdx i
        ended := g.ended ++ [(f.ticket.route.upstream.circuitName, success)]
        replies }
  | ticked (d : Nat) : Moved g (.tick d) { g with now := g.now + d }

variable {env verify lib} {g g' : Gateway} {a : Label}

theorem moved_receive (r : Incoming) (randomUUID : String) :
    Moved env verify lib g (.receive r randomUUID) (g.receive env verify lib r randomUUID) := by
  unfold receive
  dsimp only
  split
  · exact .answered r randomUUID _ _
  · next route hroute =>
    split
    · exact .answered r randomUUID _ _
    · next x hx => exact .accepted r randomUUID hroute hx

theorem moved_consume {i : Nat} {outcome : Redis.Outcome} (h : g.consume env i outcome = some g') :
    Moved env verify lib g (.consume i outcome) g' := by
  obtain ⟨t, ht, rfl⟩ := Option.map_eq_some_iff.mp h
  cases outcome with
  | ok => exact .consumed i .ok ht rfl rfl (.inr ⟨rfl, rfl⟩)
  | fault => exact .unreached i ht
  | lost => exact .consumed i .lost ht rfl rfl (.inl ⟨rfl, rfl⟩)

theorem moved_proxyHandler {i : Nat} {t : Ticket} {limited : Option (Nat × RateLimitResult)}
    {grantedAt : Option Nat} (res : List (String × String))
    (hfound : g.limited[i]? = some (t, limited)) (hpast : Past limited grantedAt)
    (h : Gateway.proxyHandler lib { g with limited := g.limited.eraseIdx i }
      { t with x := { t.x with res } } grantedAt = some g') :
    Moved env verify lib g (.resume i) g' := by
  unfold proxyHandler at h
  dsimp only at h
  split at h
  · obtain rfl := Option.some.inj h
    exact .dismissed i _
  · obtain ⟨r, hr, rfl⟩ := Option.map_eq_some_iff.mp h
    generalize hexecute : r.breaker.execute r.options g.now = x
    obtain ⟨_ | e, breaker⟩ := x
    · exact .sent i res hfound hpast hr hexecute rfl
    · exact .refused i _ hfound hr hexecute

theorem moved_resume {i : Nat} (h : g.resume env lib i = some g') :
    Moved env verify lib g (.resume i) g' := by
  obtain ⟨⟨t, limited⟩, hfound, h⟩ := Option.bind_eq_some_iff.mp h
  cases limited with
  | none => exact moved_proxyHandler t.x.res hfound .failedOpen h
  | some limited =>
    obtain ⟨time, result⟩ := limited
    dsimp only at h
    split at h
    · next hallowed => exact moved_proxyHandler _ hfound (.granted time hallowed) h
    · obtain rfl := Option.some.inj h
      exact .dismissed i _

theorem moved_settle {i : Nat} {outcome : ProxyOutcome} (h : g.settle i outcome = some g') :
    Moved env verify lib g (.settle i outcome) g' := by
  obtain ⟨f, hfound, h⟩ := Option.bind_eq_some_iff.mp h
  obtain ⟨r, hr, rfl⟩ := Option.map_eq_some_iff.mp h
  cases outcome with
  | closed statusCode => exact .settled i (.closed statusCode) true _ hfound hr
  | proxyError sent => exact .settled i (.proxyError sent) false _ hfound hr
  | timeout sent => exact .settled i (.timeout sent) false _ hfound hr

theorem moved (h : step env verify lib g a = some g') : Moved env verify lib g a g' := by
  cases a with
  | receive r randomUUID =>
    obtain rfl := Option.some.inj h
    exact moved_receive r randomUUID
  | consume i outcome => exact moved_consume h
  | resume i => exact moved_resume h
  | settle i outcome => exact moved_settle h
  | tick d =>
    obtain rfl := Option.some.inj h
    exact .ticked d

end Steps

end Gateway

section Lists

variable {α : Type} {xs : List α} {p : α → Bool} {i : Nat} {x : α}

theorem countP_eraseIdx (h : xs[i]? = some x) :
    (xs.eraseIdx i).countP p + (if p x then 1 else 0) = xs.countP p := by
  obtain ⟨hi, rfl⟩ := List.getElem?_eq_some_iff.mp h
  rw [← (List.getElem_cons_eraseIdx_perm hi).countP_eq p, List.countP_cons]

theorem countP_take_lt (h : xs[i]? = some x) (hp : p x = true) :
    (xs.take i).countP p < xs.countP p := by
  obtain ⟨hi, rfl⟩ := List.getElem?_eq_some_iff.mp h
  have hsplit : xs.countP p = (xs.take i).countP p + (xs.drop i).countP p := by
    rw [← List.countP_append, List.take_append_drop]
  rw [hsplit, List.drop_eq_getElem_cons hi, List.countP_cons_of_pos hp]
  omega

end Lists

section Mounting

variable {env : Env} {now : Nat} {s : Breakers}

def Breakers.Mounted (now : Nat) (s : Breakers) : Prop := ∀ name, s.registry name =
  if name ∈ s.registered then some ⟨breakerOptions name, .create now⟩ else none

theorem Breakers.Mounted.getBreaker (h : s.Mounted now) (circuitName : String) :
    ∃ s', s.getBreaker now circuitName = .ok s' ∧ s'.Mounted now ∧
      ∀ name, name ∈ s'.registered ↔ name = circuitName ∨ name ∈ s.registered := by
  have hfound := h circuitName
  by_cases hmem : circuitName ∈ s.registered
  · rw [if_pos hmem] at hfound
    refine ⟨s, ?_, h, fun name => ⟨.inr, ?_⟩⟩
    · rw [Breakers.getBreaker, if_pos (by simpa using hmem)]
      simp only [Breakers.get, hfound]
    · rintro (rfl | hname)
      · exact hmem
      · exact hname
  · rw [if_neg hmem] at hfound
    refine ⟨Breakers.put { s with registered := circuitName :: s.registered } circuitName
      ⟨breakerOptions circuitName, .create now⟩, ?_, fun name => ?_, fun name => List.mem_cons⟩
    · rw [Breakers.getBreaker, if_neg (by simpa using hmem)]
      simp only [Breakers.get, hfound, Option.getD_some]
    · change Function.update s.registry circuitName _ name =
        if name ∈ circuitName :: s.registered then _ else _
      by_cases hname : name = circuitName
      · subst hname
        simp
      · rw [Function.update_of_ne hname, h name]
        simp [hname]

theorem Breakers.Mounted.foldlM (h : s.Mounted now) (rs : List RouteConfig) :
    ∃ s', rs.foldlM (fun s route => s.getBreaker now route.upstream.circuitName) s = .ok s' ∧
      s'.Mounted now ∧ ∀ r ∈ rs, r.upstream.circuitName ∈ s'.registered := by
  have hgrows : ∃ s', rs.foldlM (fun s route => s.getBreaker now route.upstream.circuitName) s =
      .ok s' ∧ s'.Mounted now ∧ (∀ name ∈ s.registered, name ∈ s'.registered) ∧
        ∀ r ∈ rs, r.upstream.circuitName ∈ s'.registered := by
    induction rs generalizing s with
    | nil => exact ⟨s, rfl, h, fun _ hname => hname, fun r hr => absurd hr List.not_mem_nil⟩
    | cons route rs ih =>
      obtain ⟨s₁, hget, hmounted, hnames⟩ := h.getBreaker route.upstream.circuitName
      obtain ⟨s', hrest, hmounted', hkept, hall⟩ := ih hmounted
      refine ⟨s', ?_, hmounted', fun name hname => hkept name ((hnames name).mpr (.inr hname)), ?_⟩
      · rw [List.foldlM_cons, hget]
        exact hrest
      · intro r hr
        obtain rfl | hr := List.mem_cons.mp hr
        · exact hkept _ ((hnames _).mpr (.inl rfl))
        · exact hall r hr
  obtain ⟨s', hfold, hmounted, -, hall⟩ := hgrows
  exact ⟨s', hfold, hmounted, hall⟩

/-- The routes are mounted without an error, although most of the circuits are looked up more
than once, and each upstream has a breaker. -/
theorem mountRoutes_ok (env : Env) (now : Nat) : ∃ s, mountRoutes env now = .ok s ∧
    s.Mounted now ∧ ∀ r ∈ routes env, r.upstream.circuitName ∈ s.registered := by
  have hempty : Breakers.empty.Mounted now := fun _ => rfl
  obtain ⟨s, hfold, hmounted, hall⟩ := hempty.foldlM (layers env)
  exact ⟨s, hfold, hmounted, fun r hr => hall r (List.mem_append_left _ hr)⟩

theorem Gateway.exists_reaches (env : Env) (verify : JwtVerify) (lib : Libraries) (now : Nat)
    (as : List Label) (test : Gateway → Bool)
    (h : ((mountRoutes env now).toOption.bind (fun breakers => (Gateway.system env verify lib).play
      (fun _ _ => true) (Gateway.init now breakers) as)).any test = true) :
    ∃ g, Gateway.Reaches env verify lib now g ∧ test g = true := by
  obtain ⟨breakers, hmount, -⟩ := mountRoutes_ok env now
  rw [hmount] at h
  obtain ⟨g, hrun, htest⟩ := System.exists_run (T := Gateway.system env verify lib)
    (fun _ _ => True) (Gateway.init now breakers) (fun _ _ => true) as test (fun _ _ _ _ => trivial) h
  exact ⟨g, ⟨breakers, hmount, hrun⟩, htest⟩

end Mounting

end RailwayBooking.ApiGateway
