import IPProxyPool.Model.Headers
import IPProxyPool.Model.NodeRegistry

/-!
# Admin API

The authentication middleware and the handlers of `admin.rs` that change nodes, quarantines and
weights. A handler is split where it takes the registry lock: what precedes the lock is its
`admit` function. A request body that does not parse arrives as the message of the rejection.
-/

namespace IPProxyPool
open RustText

/-! ### Responses -/

structure ErrorResponse where
  error : String
  code : Nat
  deriving DecidableEq, Repr

structure ApiError where
  status : Nat
  body : ErrorResponse
  deriving DecidableEq, Repr

def errorResponse (status : Nat) (msg : String) : ApiError := ⟨status, ⟨msg, status⟩⟩

def RegistryError.status : RegistryError → Nat
  | .validation _ => 400
  | .duplicate _ => 409
  | .notFound _ => 404
  | .persist _ => 500
  | .apply _ => 500

def registryErrorResponse (debug : String → String) (e : RegistryError) : ApiError :=
  errorResponse e.status (e.text debug)

structure NodeView where
  addr : String
  ip : String
  port : UInt16
  tier : String
  country : String
  provider : String
  weight : Nat
  proto : String
  exitIp : Option String
  deriving DecidableEq

def EgressProto.debug : EgressProto → String
  | .http => "Http"
  | .socks5 => "Socks5"
  | .socks4 => "Socks4"

def nodeView (n : ProxyNode) : NodeView where
  addr := n.addr
  ip := n.ip
  port := n.port
  tier := n.tier
  country := n.country
  provider := n.provider
  weight := n.weight
  proto := n.proto.debug
  exitIp := n.exitIp

/-! ### Authentication -/

/-- The configured key; an unset variable is the empty key. -/
def adminApiKeyOf (env : Option String) : String := env.getD ""

/-- The key a request carries: `Authorization: Admin <key>`, else `X-Admin-Key`. -/
def providedKey (headers : HeaderMap) : Option String :=
  match (headers.getStr "Authorization").bind (stripPrefix "Admin ") with
  | some key => some key
  | none => headers.getStr "X-Admin-Key"

/-- `auth_middleware`; `next` is what the handler behind it answers. -/
def authMiddleware {α : Type} (adminApiKey : String) (headers : HeaderMap) (next : α) :
    Except ApiError α :=
  match providedKey headers with
  | none => .error (errorResponse 401 "missing or invalid admin key")
  | some provided =>
    if provided ≠ adminApiKey then .error (errorResponse 401 "missing or invalid admin key")
    else .ok next

/-! ### What the registry applies to the router -/

namespace RouterEngine

def getNodeByAddr (r : RouterEngine) (addr : String) : Option ProxyNode :=
  r.pools.find? (fun n => n.addr = addr)

def applyAdd (r : RouterEngine) (n : ProxyNode) : Except String Unit × RouterEngine :=
  match r.addNode n with
  | .ok r' => (.ok (), r')
  | .error e => (.error e, r)

def applyRemove (r : RouterEngine) (addr : String) : Bool × RouterEngine :=
  let p := r.removeNode addr
  (p.1.isSome, p.2)

def applyWeight (r : RouterEngine) (provider country : String) (weight : Nat) :
    Except String Unit × RouterEngine :=
  (.ok (), r.adjustVendorWeight provider country weight)

end RouterEngine

/-- The registry operations as the handlers call them, with the router as the world. -/
inductive RouterCall where
  | add (raw : ProxyNode)
  | remove (addr : String)
  | setGroupWeight (provider country : String) (weight : Nat)

def RouterCall.toCall (calls : CallIo) : RouterCall → RegistryCall RouterEngine
  | .add raw => .add raw RouterEngine.applyAdd calls
  | .remove addr => .remove addr RouterEngine.applyRemove calls
  | .setGroupWeight provider country weight =>
      .setGroupWeight provider country weight RouterEngine.applyWeight calls

/-! ### Node handlers -/

structure AddNodeRequest where
  ip : String
  port : UInt16
  country : String
  tier : String
  provider : String
  weight : Nat
  proto : Option String
  username : Option String
  password : Option String

section Handlers

variable (cfg : RegistryConfig) (debug : String → String)

def notFoundResponse (addr : String) : ApiError :=
  errorResponse 404 ("node " ++ addr ++ " not found")

/-- The node a request describes. -/
def AddNodeRequest.toNode (req : AddNodeRequest) : Except ApiError ProxyNode :=
  let proto : Except ApiError EgressProto := match req.proto with
    | none => .ok .http
    | some tok =>
      match EgressProto.fromToken tok with
      | some proto => .ok proto
      | none => .error (errorResponse 400
          ("proto " ++ debug tok ++ " must be one of http/socks5/socks4"))
  proto.map (fun proto => (ProxyNode.new req.ip req.port req.username req.password req.country
    req.tier req.provider req.weight).withProto proto)

/-- Before the lock of `add_node_handler`: the address must be free in the live pool. -/
def admitAdd (r : RouterEngine) (payload : Except String AddNodeRequest) :
    Except ApiError ProxyNode :=
  match payload with
  | .error e => .error (errorResponse 400 ("invalid JSON body: " ++ e))
  | .ok req =>
    match req.toNode debug with
    | .error e => .error e
    | .ok node =>
      if (r.getNodeByAddr node.addr).isSome then
        .error (errorResponse 409 ("node " ++ node.addr ++ " already exists"))
      else .ok node

/-- Whether `delete_node_handler` takes the provider for one of the free pool. -/
def refusesDelete (provider : String) : Bool :=
  startsWith (toAsciiLowercase provider) "free-" || eqIgnoreAsciiCase provider "free"

/-- Before the lock of `delete_node_handler`. -/
def admitDelete (r : RouterEngine) (addr : String) : Except ApiError Unit :=
  match r.getNodeByAddr addr with
  | none => .error (notFoundResponse addr)
  | some existing =>
    if refusesDelete existing.provider then
      .error (errorResponse 409 ("node " ++ addr ++
        " is managed by FreePool and will be re-added on the next merge; use PATCH /api/v1/nodes/" ++
        addr ++ "/weight with weight=0 instead"))
    else .ok ()

/-- Before the lock of `patch_node_weight_handler`: the node whose group is adjusted. -/
def admitWeight (r : RouterEngine) (addr : String) (body : Except String Nat) :
    Except ApiError (ProxyNode × Nat) :=
  match body with
  | .error rej => .error (errorResponse 400 ("invalid request body: " ++ rej))
  | .ok weight =>
    if maxWeight < weight then
      .error (errorResponse 400 ("weight must be 0..=" ++ toString maxWeight))
    else
      match r.getNodeByAddr addr with
      | none => .error (notFoundResponse addr)
      | some target => .ok (target, weight)

/-- `delete_node_handler` reports an address outside the registry as a conflict. -/
def deleteErrorResponse (addr : String) : RegistryError → ApiError
  | .notFound _ => errorResponse 409 ("node " ++ addr ++
      " is not operator-managed (e.g. injected via TEST_POOL_NODES); " ++
      "it is not persisted and will disappear on restart")
  | e => registryErrorResponse debug e

def addNodeHandler (s : NodeRegistry RouterEngine) (payload : Except String AddNodeRequest)
    (calls : CallIo) : Except ApiError (Nat × NodeView) × NodeRegistry RouterEngine :=
  match admitAdd debug s.world payload with
  | .error e => (.error e, s)
  | .ok node =>
    let o := s.add cfg node RouterEngine.applyAdd calls
    match o.result with
    | .error e => (.error (registryErrorResponse debug e), o.next)
    | .ok added => (.ok (201, nodeView added), o.next)

/-- The address of the removed node, reported as removed. -/
def deleteNodeHandler (s : NodeRegistry RouterEngine) (addr : String) (calls : CallIo) :
    Except ApiError (String × Bool) × NodeRegistry RouterEngine :=
  match admitDelete s.world addr with
  | .error e => (.error e, s)
  | .ok () =>
    let o := s.remove cfg addr RouterEngine.applyRemove calls
    match o.result with
    | .error e => (.error (deleteErrorResponse debug addr e), o.next)
    | .ok removed => (.ok (removed.addr, true), o.next)

def patchNodeWeightHandler (s : NodeRegistry RouterEngine) (addr : String)
    (body : Except String Nat) (calls : CallIo) :
    Except ApiError NodeView × NodeRegistry RouterEngine :=
  match admitWeight s.world addr body with
  | .error e => (.error e, s)
  | .ok (target, weight) =>
    let o := s.setGroupWeight cfg target.provider target.country weight RouterEngine.applyWeight calls
    match o.result with
    | .error e => (.error (registryErrorResponse debug e), o.next)
    | .ok _ =>
      match o.next.world.getNodeByAddr addr with
      | some n => (.ok (nodeView n), o.next)
      | none => (.error (notFoundResponse addr), o.next)

end Handlers

/-! ### Quarantine and autotune handlers -/

/-- `post_node_quarantine_handler`: the node's country stands in for the domain. -/
def postNodeQuarantineHandler (r : RouterEngine) (addr : String) (body : Except String Nat)
    (now : Instant) : Except ApiError NodeView × RouterEngine :=
  match body with
  | .error rej => (.error (errorResponse 400 ("invalid request body: " ++ rej)), r)
  | .ok ttlSecs =>
    match r.getNodeByAddr addr with
    | none => (.error (notFoundResponse addr), r)
    | some target => (.ok (nodeView target), r.setQuarantine target.country target.ip ttlSecs now)

def deleteNodeQuarantineHandler (r : RouterEngine) (addr : String) :
    Except ApiError NodeView × RouterEngine :=
  match r.getNodeByAddr addr with
  | none => (.error (notFoundResponse addr), r)
  | some target => (.ok (nodeView target), (r.removeQuarantine target.country target.ip).2)

structure AutotuneConfig where
  enabled : Bool := false
  boost : Nat := 100

structure AutotuneRequest where
  enabled : Option Bool
  boostPercent : Option Nat

/-- `post_free_pool_autotune_handler`: the switch and the factor are stored, then applied. -/
def postFreePoolAutotuneHandler (autotune : AutotuneConfig) (r : RouterEngine)
    (payload : AutotuneRequest) : AutotuneConfig × RouterEngine :=
  let enabled := payload.enabled.getD autotune.enabled
  let boost := match payload.boostPercent with
    | some boost => max 1 (min boost 500)
    | none => autotune.boost
  (⟨enabled, boost⟩, r.setPaidWeightBoost (if enabled then boost else 100))

end IPProxyPool
