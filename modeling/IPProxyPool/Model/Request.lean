import IPProxyPool.Lib.Retry
import IPProxyPool.Model.Breaker
import IPProxyPool.Model.Headers

/-!
# The life of one request

The two egress paths of `gateway.rs` from the first selection to `logging`. What the selections
find, how long things take and what the upstreams answer are inputs; each path is a retry loop
over them. The state of a loop records, beside the request context, the nodes selected and the
attempts made so far.
-/

namespace IPProxyPool
open RustText RetryLoop

/-- The fields of the request context that the retry paths read and write. -/
structure ProxyContext where
  routingSpec : RoutingSpec
  currentNode : Option ProxyNode := none
  retryCount : Nat := 0
  maxRetries : Nat := 3
  transferredBytes : Nat := 0
  failedAddrs : List String := []

def failedAddrsCap : Nat := 16

def recordFailedAddr (ctx : ProxyContext) : ProxyContext :=
  match ctx.currentNode with
  | some node =>
    if node.addr ∉ ctx.failedAddrs ∧ ctx.failedAddrs.length < failedAddrsCap then
      { ctx with failedAddrs := ctx.failedAddrs ++ [node.addr] }
    else ctx
  | none => ctx

def noteRetry (ctx : ProxyContext) : ProxyContext :=
  if ctx.retryCount < ctx.maxRetries then { ctx with retryCount := ctx.retryCount + 1 } else ctx

/-- `free_tier_with_credentials`, on the tier that the request declares. -/
def freeTierWithCredentials (tier : Option String) (hasAuthorization hasCookie : Bool) : Bool :=
  tier = some "free" && (hasAuthorization || hasCookie)

/-- `free_node_exits_with_credentials`, on the tier of the selected node. -/
def freeNodeExitsWithCredentials (nodeTier : String) (hasAuthorization hasCookie : Bool) : Bool :=
  eqIgnoreAsciiCase nodeTier "free" && (hasAuthorization || hasCookie)

def credentialGuard (header : HeaderMap) (node : ProxyNode) : Bool :=
  freeNodeExitsWithCredentials node.tier (hasAuthorization header) (hasCookie header)

/-- A node that was handed the request, with the status that its outcome gives the client. -/
structure Attempt where
  node : ProxyNode
  status : Nat
  deriving DecidableEq

inductive Ending where
  | early
  | noNode
  | guarded
  | socksInHttp
  | upstream
  deriving DecidableEq, Repr

/-- The final selection found nothing that the gateway would use. -/
def Ending.gatewayMade : Ending → Bool
  | .noNode => true
  | .guarded => true
  | .socksInHttp => true
  | .early => false
  | .upstream => false

/-- A request between two rounds. -/
structure RequestState where
  ctx : ProxyContext
  selected : List ProxyNode := []
  attempts : List Attempt := []

/-- A request when `logging` runs. -/
structure RequestRecord extends RequestState where
  status : Nat
  ending : Ending

def RequestState.finish (s : RequestState) (status : Nat) (ending : Ending) : RequestRecord :=
  { s with status := status, ending := ending }

def RequestState.select (s : RequestState) (node : ProxyNode) : RequestState :=
  { s with selected := s.selected ++ [node] }

def RequestState.attempt (s : RequestState) (node : ProxyNode) (status : Nat) : RequestState :=
  { s with attempts := s.attempts ++ [⟨node, status⟩] }

def RequestState.withCtx (s : RequestState) (ctx : ProxyContext) : RequestState :=
  { s with ctx := ctx }

/-! ### The HTTP path -/

/-- `upstream_peer` after its selection: the status it fails with, or the node of the peer. The
node is stored in the context only when all checks are passed. -/
def upstreamPeer (header : HeaderMap) (picked : Option ProxyNode) (ctx : ProxyContext) :
    Except (Nat × Ending) ProxyNode × ProxyContext :=
  match picked with
  | none => (.error (503, .noNode), ctx)
  | some node =>
    if credentialGuard header node then (.error (403, .guarded), ctx)
    else if node.proto ≠ .http then (.error (503, .socksInHttp), ctx)
    else (.ok node, { ctx with currentNode := some node })

/-- `fail_to_connect`: the context, and whether another round is asked for. -/
def failToConnect (ctx : ProxyContext) : ProxyContext × Bool :=
  let ctx' := recordFailedAddr { ctx with transferredBytes := 0 }
  (noteRetry ctx', ctx'.retryCount < ctx'.maxRetries)

/-- What becomes of a peer. An error on an open connection may be retried by the proxy server; its
`status` is what the client is sent if it is not. -/
inductive UpstreamResult where
  | connectError
  | proxyError (retry : Bool) (status bytes : Nat)
  | response (status bytes : Nat)

structure HttpRound where
  picked : Option ProxyNode
  result : UpstreamResult

/-- A connect error that is not retried is answered with 502. -/
def httpRound (header : HeaderMap) (s : RequestState) (round : HttpRound) :
    RequestRecord ⊕ RequestState :=
  let s := match round.picked with
    | some node => s.select node
    | none => s
  match upstreamPeer header round.picked s.ctx with
  | (.error (status, ending), ctx) => .inl ((s.withCtx ctx).finish status ending)
  | (.ok node, ctx) =>
    match round.result with
    | .connectError =>
      let (ctx, retry) := failToConnect ctx
      let s := (s.attempt node 502).withCtx ctx
      if retry then .inr s else .inl (s.finish 502 .upstream)
    | .proxyError retry status bytes =>
      let s := (s.attempt node status).withCtx
        { ctx with transferredBytes := ctx.transferredBytes + bytes }
      if retry then .inr s else .inl (s.finish status .upstream)
    | .response status bytes =>
      let s := (s.attempt node status).withCtx
        { ctx with transferredBytes := ctx.transferredBytes + bytes }
      .inl (s.finish status .upstream)

/-- The proxy server allows no further round: the last error stands. -/
def httpStop (s : RequestState) : RequestRecord :=
  s.finish ((s.attempts.getLast?.map Attempt.status).getD 0) .upstream

def serveHttp (header : HeaderMap) (ctx : ProxyContext) (rounds : List HttpRound) : RequestRecord :=
  loop (httpRound header) httpStop { ctx := ctx } rounds

/-! ### The SOCKS path -/

/-- `should_skip_bridge_node`: a node of the HTTP protocol is passed over, and the node of an
earlier attempt is cleared. -/
def shouldSkipBridgeNode (ctx : ProxyContext) (node : ProxyNode) : Bool × ProxyContext :=
  if node.proto = .http then (true, { ctx with currentNode := none }) else (false, ctx)

/-- What `bridge.fetch` comes to. The status of a response is the one the client is sent. -/
inductive FetchResult where
  | response (status bytes : Nat)
  | failed
  | timedOut

/-- One iteration: whether the deadline has passed at its start, what the selection finds, whether
time is left before the fetch, and the fetch itself. -/
structure SocksHop where
  overBudget : Bool
  picked : Option ProxyNode
  timeLeft : Bool
  result : FetchResult

def socksStop (s : RequestState) : RequestRecord := s.finish 503 .upstream

def socksFailed (ctx : ProxyContext) : ProxyContext := noteRetry (recordFailedAddr ctx)

def socksHop (header : HeaderMap) (s : RequestState) (hop : SocksHop) :
    RequestRecord ⊕ RequestState :=
  if hop.overBudget then .inl (socksStop s)
  else
    match hop.picked with
    | none => .inl (s.finish 503 .noNode)
    | some node =>
      let s := s.select node
      let (skip, ctx) := shouldSkipBridgeNode s.ctx node
      if skip then .inr (s.withCtx ctx)
      else if credentialGuard header node then .inl (s.finish 403 .guarded)
      else
        let ctx := { s.ctx with currentNode := some node, transferredBytes := 0 }
        if !hop.timeLeft then .inl (socksStop (s.withCtx ctx))
        else
          match hop.result with
          | .response status bytes =>
            .inl (((s.attempt node status).withCtx
              { ctx with transferredBytes := bytes }).finish status .upstream)
          | .failed => .inr ((s.attempt node 503).withCtx (socksFailed ctx))
          | .timedOut => .inl (socksStop ((s.attempt node 503).withCtx (socksFailed ctx)))

/-- `serve_via_socks`. A missing bridge, target or body ends the request before its loop with
`setupError`. -/
def serveViaSocks (header : HeaderMap) (ctx : ProxyContext) (setupError : Option Nat)
    (hops : Nat → SocksHop) : RequestRecord :=
  match setupError with
  | some status => RequestState.finish { ctx := ctx } status .early
  | none => loop (socksHop header) socksStop { ctx := ctx }
      ((List.range (ctx.maxRetries + 1)).map hops)

/-- A request from the guard of `request_filter`, which looks at the declared tier, on: the choice
of the path by `proxy_upstream_filter`, and the path. -/
def serve (header : HeaderMap) (ctx : ProxyContext) (rounds : List HttpRound)
    (setupError : Option Nat) (hops : Nat → SocksHop) : RequestRecord :=
  if freeTierWithCredentials ctx.routingSpec.tier (hasAuthorization header) (hasCookie header) then
    RequestState.finish { ctx := ctx } 403 .early
  else if ctx.routingSpec.proto.getD .http = .http then serveHttp header ctx rounds
  else serveViaSocks header ctx setupError hops

/-! ### After the request -/

/-- What `logging` does with the node and the status: the reward it books, as the arm's address
with the status, and the telemetry event it emits. -/
structure LoggingEffects where
  reward : Option (String × Nat)
  event : TelemetryEvent

def outIpOf (node : Option ProxyNode) : String :=
  match node with
  | some n => n.exitIp.getD n.ip
  | none => "none"

def logging (rec : RequestRecord) : LoggingEffects where
  reward := rec.ctx.currentNode.map (fun n => (n.addr, rec.status))
  event := ⟨rec.ctx.routingSpec.targetDomain, outIpOf rec.ctx.currentNode, rec.status⟩

end IPProxyPool
