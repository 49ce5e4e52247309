import IPProxyPool.Lib.Population
import IPProxyPool.Lib.Table
import IPProxyPool.Model.Breaker
import IPProxyPool.Model.Selection

/-!
# Tenants

The accounts of `tenant.rs`, the namespace that `gateway.rs` puts on the session of an
authenticated request, and the gate on concurrent requests as the atomic steps it is made of.
Balances and prices are finite `f64` values, hence rationals; the answer of the rate limiter is an
input.
-/

namespace IPProxyPool
open RustText AssocTable

def priceDcPerGb : ℚ := 1 / 5
def priceResidentialPerGb : ℚ := 3
def priceMobilePerGb : ℚ := 15
def priceFreePerGb : ℚ := 0
def bytesPerGb : ℚ := 1024 * 1024 * 1024

def pricePerGb (tier : String) : ℚ :=
  match toAsciiLowercase tier with
  | "residential" => priceResidentialPerGb
  | "res" => priceResidentialPerGb
  | "mobile" => priceMobilePerGb
  | "free" => priceFreePerGb
  | _ => priceDcPerGb

structure TenantAccount where
  tenantId : String
  qps : Nat
  isActive : Bool
  inFlight : Nat
  maxConcurrency : Nat
  totalBytes : Nat
  balanceUsd : ℚ

/-- The account that `register_tenant` makes for any strings. -/
def newTenantAccount (tenantId : String) (qps maxConcurrency : Nat) : TenantAccount where
  tenantId := tenantId
  qps := qps
  isActive := true
  inFlight := 0
  maxConcurrency := maxConcurrency
  totalBytes := 0
  balanceUsd := 100

/-! ### The session namespace -/

/-- The session key `{tenant}:{session}`; a session that starts so is left as it is. -/
def namespacedSession (tenant session : String) : String :=
  if startsWith session (tenant ++ ":") then session else tenant ++ ":" ++ session

def applyTenantNamespace (spec : RoutingSpec) (tenantId : Option String) : RoutingSpec :=
  match spec.sessionId with
  | none => spec
  | some session =>
    match tenantId with
    | some tenant =>
      if tenant = "" then spec
      else { spec with sessionId := some (namespacedSession tenant session) }
    | none => spec

/-- What a request does to the router: its selections, for whatever nodes it has to avoid, and the
breaker's reaction to the event that `logging` emits for it. -/
inductive RequestEffect where
  | select (excluded : List String) (now : Instant) (draw : Nat)
  | report (event : TelemetryEvent) (now : Instant)

def RouterEngine.requestStep (spec : RoutingSpec) (r : RouterEngine) : RequestEffect → RouterEngine
  | .select excluded now draw => (r.selectNodeExcluding spec excluded now draw).2
  | .report event now => r.processEntry event now

/-! ### The concurrency gate -/

/-- The number of values of a 64-bit word, such as `usize` and `u64` are here. -/
def wordSize : Nat := 2 ^ 64

def wrappingAdd (a b : Nat) : Nat := (a + b) % wordSize

def wrappingSub (a b : Nat) : Nat := (a + wordSize - b) % wordSize

/-- A request in progress is known by the address of its context, a pointer that is not null. -/
abbrev ContextAddr := { a : Fin wordSize // a.val ≠ 0 }

/-- The checks of `authenticate_and_throttle` before the concurrency gate. -/
def tenantChecks (tenant : TenantAccount) (limiterOk : Bool) : Except String Unit :=
  if !tenant.isActive then .error "Tenant is disabled"
  else if tenant.balanceUsd ≤ 0 then .error "Insufficient balance"
  else if !limiterOk then .error "Rate limit exceeded (QPS)"
  else .ok ()

/-- Where a request stands in `authenticate_and_throttle` or `release_and_meter`. `held` says
whether the request that calls the release owns a slot; the code does not know it. -/
inductive SlotPhase where
  | idle
  | checked
  | added (current : Nat)
  | overLimit
  | granted
  | releasing (held : Bool) (cur bytes : Nat) (tier : String)
  | metering (bytes : Nat) (tier : String)
  | deducting (bytes : Nat) (tier : String)
  deriving DecidableEq

/-- The shared account, the requests in progress, and the bytes of the releases that gave a slot
back, in order. -/
structure GateState where
  account : TenantAccount
  phase : ContextAddr → SlotPhase
  effective : List Nat

/-- One atomic step of a request, or a change of the account by the admin interface. -/
inductive GateEvent where
  | check (i : ContextAddr) (limiterOk : Bool)
  | fetchAdd (i : ContextAddr)
  | compare (i : ContextAddr)
  | fetchSub (i : ContextAddr)
  | release (i : ContextAddr) (bytes : Nat) (tier : String)
  | compareExchange (i : ContextAddr) (spurious : Bool)
  | meter (i : ContextAddr)
  | deduct (i : ContextAddr)
  | setActive (active : Bool)
  | setBalance (balanceUsd : ℚ)

namespace GateState

def initial (account : TenantAccount) : GateState where
  account := account
  phase := fun _ => .idle
  effective := []

def move (s : GateState) (i : ContextAddr) (p : SlotPhase) : GateState :=
  { s with phase := Function.update s.phase i p }

def setInFlight (s : GateState) (n : Nat) : GateState :=
  { s with account := { s.account with inFlight := n } }

/-- A step of a request that is not there leaves the state as it is. -/
def step (s : GateState) : GateEvent → GateState
  | .check i limiterOk =>
    match s.phase i with
    | .idle =>
      match tenantChecks s.account limiterOk with
      | .ok _ => s.move i .checked
      | .error _ => s
    | _ => s
  | .fetchAdd i =>
    match s.phase i with
    | .checked =>
      (s.move i (.added s.account.inFlight)).setInFlight (wrappingAdd s.account.inFlight 1)
    | _ => s
  | .compare i =>
    match s.phase i with
    | .added current =>
      if s.account.maxConcurrency ≤ current then s.move i .overLimit else s.move i .granted
    | _ => s
  | .fetchSub i =>
    match s.phase i with
    -- answered with "Max concurrency limit reached"
    | .overLimit => (s.move i .idle).setInFlight (wrappingSub s.account.inFlight 1)
    | _ => s
  | .release i bytes tier =>
    match s.phase i with
    | .granted => s.move i (.releasing true s.account.inFlight bytes tier)
    -- a release without a slot, made while the counter is zero
    | .idle =>
      if s.account.inFlight = 0 then s.move i (.releasing false s.account.inFlight bytes tier)
      else s
    | _ => s
  | .compareExchange i spurious =>
    match s.phase i with
    | .releasing held cur bytes tier =>
      if cur = 0 then s.move i .idle
      else if s.account.inFlight = cur ∧ spurious = false then
        let s' := (s.move i (.metering bytes tier)).setInFlight (cur - 1)
        { s' with effective := s'.effective ++ [bytes] }
      else s.move i (.releasing held s.account.inFlight bytes tier)
    | _ => s
  | .meter i =>
    match s.phase i with
    | .metering bytes tier =>
      { s.move i (.deducting bytes tier) with
        account := { s.account with totalBytes := wrappingAdd s.account.totalBytes bytes } }
    | _ => s
  | .deduct i =>
    match s.phase i with
    | .deducting bytes tier =>
      { s.move i .idle with
        account := { s.account with
          balanceUsd := s.account.balanceUsd - bytes / bytesPerGb * pricePerGb tier } }
    | _ => s
  | .setActive active => { s with account := { s.account with isActive := active } }
  | .setBalance balanceUsd => { s with account := { s.account with balanceUsd := balanceUsd } }

end GateState

end IPProxyPool
