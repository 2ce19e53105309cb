import RailwayBooking.ApiGateway.Auth
import RailwayBooking.Resilience.CircuitBreaker
import RailwayBooking.Resilience.TokenBucket

namespace RailwayBooking.ApiGateway

open Resilience

/-- A service that the gateway can proxy to. -/
structure Upstream where
  name : String
  baseUrl : String
  circuitName : String
  deriving DecidableEq

/-- What is left to Express and to `http-proxy-middleware`: the path of a request target as
`parseurl` gives it to the router, and the header lines with which the `n`th request, with
its body, is sent to a target. -/
structure Libraries where
  pathname : String → String
  send : Upstream → Nat → Request → RawHeaders

/-- The headers that the proxy sets itself for the connection, `changeOrigin`, `fixRequestBody`
and the telemetry. -/
def rewrittenHeaders : List String :=
  ["host", "connection", "content-length", "transfer-encoding", "traceparent", "tracestate",
    "baggage"]

/-- Of the other headers the target receives what stands in `req.headers`. -/
structure Libraries.Passes (lib : Libraries) : Prop where
  headers : ∀ upstream n req, ∀ key ∉ rewrittenHeaders,
    (Headers.incoming (lib.send upstream n req)).get key = req.headers.get key

structure RateLimitPreset where
  capacity : Nat
  refillPerSec : ℚ
  capacity_pos : 0 < capacity
  refillPerSec_pos : 0 < refillPerSec

def RateLimitPreset.options (preset : RateLimitPreset) : TokenBucketOptions :=
  ⟨preset.capacity, preset.refillPerSec, by exact_mod_cast preset.capacity_pos,
    preset.refillPerSec_pos⟩

/-- What of the environment the gateway is configured with. -/
structure Env where
  userUpstream : String
  adminUpstream : String
  bookingUpstream : String
  searchUpstream : String
  paymentUpstream : String
  jwtSecret : String
  rateLimitDefault : RateLimitPreset
  rateLimitAuth : RateLimitPreset

inductive RateLimitPresetName
  | default
  | auth
  deriving DecidableEq, Repr

/-- Of no method at all any method is allowed. -/
structure RouteConfig where
  path : String
  upstream : Upstream
  auth : AuthLevel
  rateLimit : RateLimitPresetName
  methods : List String
  deriving DecidableEq

variable (env : Env)

/-- `RATELIMIT_PRESETS`. -/
def rateLimitPresets : RateLimitPresetName → RateLimitPreset
  | .default => env.rateLimitDefault
  | .auth => env.rateLimitAuth

namespace Upstreams

def user : Upstream := ⟨"user", env.userUpstream, "user-service"⟩

def admin : Upstream := ⟨"admin", env.adminUpstream, "admin-service"⟩

def booking : Upstream := ⟨"booking", env.bookingUpstream, "booking-service"⟩

def search : Upstream := ⟨"search", env.searchUpstream, "search-service"⟩

def payment : Upstream := ⟨"payment", env.paymentUpstream, "payment-service"⟩

end Upstreams

/-- The route table. -/
def routes : List RouteConfig :=
  [⟨"/api/v1/auth/sessions", Upstreams.user env, .required, .default, []⟩,
    ⟨"/api/v1/auth/logout-all", Upstreams.user env, .optional, .default, []⟩,
    ⟨"/api/v1/auth/logout", Upstreams.user env, .optional, .default, []⟩,
    ⟨"/api/v1/auth", Upstreams.user env, .none, .auth, []⟩,
    ⟨"/api/v1/users", Upstreams.user env, .required, .default, []⟩,
    ⟨"/api/v1/admin/auth/login", Upstreams.admin env, .none, .auth, []⟩,
    ⟨"/api/v1/admin", Upstreams.admin env, .admin, .default, []⟩,
    ⟨"/api/v1/bookings", Upstreams.booking env, .required, .default, []⟩,
    ⟨"/api/v1/search", Upstreams.search env, .none, .default, []⟩,
    ⟨"/api/v1/payments/webhook", Upstreams.payment env, .none, .default, []⟩,
    ⟨"/api/v1/payments", Upstreams.payment env, .required, .default, []⟩]

section Matching

def Under (start given : List Char) : Prop :=
  start <+: given ∧ (given.drop start.length).head?.getD '/' = '/'

instance (start given : List Char) : Decidable (Under start given) :=
  inferInstanceAs (Decidable (_ ∧ _))

/-- `router.use(path, ..)`, in whatever case. -/
def mounts (lib : Libraries) (path url : String) : Bool :=
  decide (Under (lower path).toList (lower (lib.pathname url)).toList)

/-- The layers of the application: `mountRoutes` is called for the router and for the
application. -/
def layers : List RouteConfig := routes env ++ routes env

def routeOf (lib : Libraries) (url : String) : Option RouteConfig :=
  (layers env).find? (fun r => mounts lib r.path url)

/-- `pathRewrite`. -/
def pathRewrite (originalUrl : String) : String :=
  (afterStart "/api/v1" originalUrl).getD originalUrl

end Matching

section Timeouts

/-- `TIMEOUTS[circuitName] ?? DEFAULT_TIMEOUT_MS`. -/
def timeoutMs (circuitName : String) : Nat :=
  if circuitName = "booking-service" then 10000 else 5000

/-- What `getBreaker` registers a breaker with. -/
def breakerOptions (circuitName : String) : CircuitBreakerOptions where
  failureThreshold := some 5
  successThreshold := some 3
  recoveryTimeout := some 30000
  halfOpenMaxTrials := none
  timeoutMs := some (timeoutMs circuitName)
  positive := by
    have hpos : timeoutMs circuitName ≠ 0 := by
      unfold timeoutMs
      split <;> decide
    simpa using hpos

end Timeouts

section Prefixes

variable {env} {lib : Libraries} {path path' url : String}

theorem Under.of_le {start start' given : List Char} (h : Under start given) (h' : Under start' given)
    (hle : start.length ≤ start'.length) : Under start start' := by
  have hstart : start <+: start' := List.prefix_of_prefix_length_le h.1 h'.1 hle
  refine ⟨hstart, ?_⟩
  obtain ⟨more, rfl⟩ := hstart
  obtain ⟨⟨rest, rfl⟩, -⟩ := h'
  have hhead := h.2
  rw [List.append_assoc, List.drop_left] at hhead
  rw [List.drop_left]
  cases more with
  | nil => rfl
  | cons c more => exact hhead

theorem routes_ordered (env : Env) : (routes env).Pairwise (fun r r' =>
    ¬ Under (lower r.path).toList (lower r'.path).toList) := by
  have hpaths : ["/api/v1/auth/sessions", "/api/v1/auth/logout-all", "/api/v1/auth/logout",
      "/api/v1/auth", "/api/v1/users", "/api/v1/admin/auth/login", "/api/v1/admin",
      "/api/v1/bookings", "/api/v1/search", "/api/v1/payments/webhook",
      "/api/v1/payments"].Pairwise (fun path path' =>
        ¬ Under (lower path).toList (lower path').toList) := by
    decide +kernel
  exact (List.pairwise_map (l := routes env) (f := RouteConfig.path)).mp hpaths

theorem routeOf_eq : routeOf env lib url = (routes env).find? (fun r => mounts lib r.path url) := by
  rw [routeOf, layers, List.find?_append, Option.or_self]

theorem routeOf_longest {r : RouteConfig} (h : routeOf env lib url = some r) :
    r ∈ routes env ∧ mounts lib r.path url = true ∧
      ∀ r' ∈ routes env, mounts lib r'.path url = true →
        (lower r'.path).toList.length ≤ (lower r.path).toList.length := by
  rw [routeOf_eq] at h
  obtain ⟨hmatch, before, after, heq, hbefore⟩ := List.find?_eq_some_iff_append.mp h
  have hordered := routes_ordered env
  rw [heq] at hordered ⊢
  refine ⟨List.mem_append_right _ List.mem_cons_self, hmatch, fun r' hr' hmatch' => ?_⟩
  obtain hr' | hr' := List.mem_append.mp hr'
  · exact absurd hmatch' (by simpa using hbefore r' hr')
  · obtain rfl | hr' := List.mem_cons.mp hr'
    · exact le_refl _
    · by_contra hlt
      have hunder := (of_decide_eq_true hmatch).of_le (of_decide_eq_true hmatch') (Nat.le_of_not_le hlt)
      have hrest := (List.pairwise_append.mp hordered).2.1
      exact (List.pairwise_cons.mp hrest).1 r' hr' hunder

end Prefixes

end RailwayBooking.ApiGateway
