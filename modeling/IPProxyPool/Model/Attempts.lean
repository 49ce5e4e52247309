import IPProxyPool.Model.LiveSelection
import IPProxyPool.Model.Request

/-!
# The attempts of one request

The two retry loops with their selections. A round selects on whatever the router has become by
then, and hands the failed addresses of the request context to the selection. Between the passes
of a selection the router may change as well.
-/

namespace IPProxyPool
open RustText RetryLoop

/-- What one selection reads: the router in each of its passes and in the scoring pass, the bandit
state of the gateway, the context vector, the clock and the random draw. -/
structure SelectionView where
  view : Nat → RouterEngine
  scoring : RouterEngine
  gateway : SmartProxyGateway
  context : VectorD
  now : Instant
  draw : Nat

section Selection

variable (ucb : BanditArm → VectorD → Nat → ℚ)

/-- `pick_socks_candidate`. The selection of `upstream_peer` is the same. -/
def pickSocksCandidate (input : SelectionView) (spec : RoutingSpec) (excluded : List String) :
    Option ProxyNode :=
  if spec.sessionId.isSome then
    RouterEngine.selectNodeExcludingOver input.view spec excluded input.now input.draw
  else
    input.gateway.selectBanditLive ucb input.view input.scoring spec excluded input.context
      input.now

end Selection

/-! ### The HTTP path -/

/-- `response_body_filter` on the length of a chunk, if there is one. -/
def responseBodyFilter (ctx : ProxyContext) (body : Option Nat) : ProxyContext :=
  match body with
  | some len => { ctx with transferredBytes := ctx.transferredBytes + len }
  | none => ctx

def bodyBytes (chunks : List (Option Nat)) : Nat := (chunks.map (Option.getD · 0)).sum

/-- What becomes of a peer when `fail_to_connect` alone asks for retries. An error on an open
connection comes after some chunks of the body. -/
inductive PeerOutcome where
  | connectError
  | proxyError (status : Nat) (chunks : List (Option Nat))
  | response (status : Nat) (chunks : List (Option Nat))

def PeerOutcome.result : PeerOutcome → UpstreamResult
  | .connectError => .connectError
  | .proxyError status chunks => .proxyError false status (bodyBytes chunks)
  | .response status chunks => .response status (bodyBytes chunks)

/-- The bytes of the body that the peer sends. -/
def PeerOutcome.bytes : PeerOutcome → Nat
  | .connectError => 0
  | .proxyError _ chunks => bodyBytes chunks
  | .response _ chunks => bodyBytes chunks

structure HttpTry where
  selection : SelectionView
  outcome : PeerOutcome

def HttpTry.round (ucb : BanditArm → VectorD → Nat → ℚ) (x : HttpTry) (s : RequestState) :
    HttpRound where
  picked := pickSocksCandidate ucb x.selection s.ctx.routingSpec s.ctx.failedAddrs
  result := x.outcome.result

/-- A round of the HTTP path: `upstream_peer` with its selection, then the peer. -/
def httpTry (ucb : BanditArm → VectorD → Nat → ℚ) (header : HeaderMap) (s : RequestState)
    (x : HttpTry) : RequestRecord ⊕ RequestState :=
  httpRound header s (x.round ucb s)

/-! ### The SOCKS path -/

structure SocksTry where
  overBudget : Bool
  selection : SelectionView
  timeLeft : Bool
  result : FetchResult

/-- The length of the body that a fetch yields. -/
def FetchResult.bytes : FetchResult → Nat
  | .response _ bytes => bytes
  | .failed => 0
  | .timedOut => 0

def SocksTry.hop (ucb : BanditArm → VectorD → Nat → ℚ) (x : SocksTry) (s : RequestState) :
    SocksHop where
  overBudget := x.overBudget
  picked := pickSocksCandidate ucb x.selection s.ctx.routingSpec s.ctx.failedAddrs
  timeLeft := x.timeLeft
  result := x.result

/-- An iteration of `serve_via_socks` with its selection. -/
def socksTry (ucb : BanditArm → VectorD → Nat → ℚ) (header : HeaderMap) (s : RequestState)
    (x : SocksTry) : RequestRecord ⊕ RequestState :=
  socksHop header s (x.hop ucb s)

/-! ### Whole requests -/

/-- The context that `new_ctx` and `request_filter` leave to the two paths. -/
def freshContext (spec : RoutingSpec) (maxRetries : Nat) : ProxyContext where
  routingSpec := spec
  maxRetries := maxRetries

def tryHttp (ucb : BanditArm → VectorD → Nat → ℚ) (header : HeaderMap) (ctx : ProxyContext)
    (tries : List HttpTry) : RequestRecord :=
  loop (httpTry ucb header) httpStop { ctx := ctx } tries

/-- The iterations that `serve_via_socks` is given; there are none when a missing bridge, target
or body ends the request before the loop. -/
def socksTries (maxRetries : Nat) (setupError : Option Nat) (tries : Nat → SocksTry) :
    List SocksTry :=
  match setupError with
  | some _ => []
  | none => (List.range (maxRetries + 1)).map tries

def trySocks (ucb : BanditArm → VectorD → Nat → ℚ) (header : HeaderMap) (ctx : ProxyContext)
    (setupError : Option Nat) (tries : Nat → SocksTry) : RequestRecord :=
  match setupError with
  | some status => RequestState.finish { ctx := ctx } status .early
  | none => loop (socksTry ucb header) socksStop { ctx := ctx }
      (socksTries ctx.maxRetries none tries)

/-- A request whose rounds select is a request of the path. -/
theorem exists_serveHttp_eq (ucb : BanditArm → VectorD → Nat → ℚ) (header : HeaderMap)
    (ctx : ProxyContext) (tries : List HttpTry) :
    ∃ rounds, tryHttp ucb header ctx tries = serveHttp header ctx rounds := by
  obtain ⟨rounds, -, heq⟩ := exists_loop_eq (f := fun s (x : HttpTry) => x.round ucb s)
    (fun s x => (rfl : httpTry ucb header s x = httpRound header s (x.round ucb s)))
    { ctx := ctx } tries
  exact ⟨rounds, heq⟩

theorem exists_serveViaSocks_eq (ucb : BanditArm → VectorD → Nat → ℚ) (header : HeaderMap)
    (ctx : ProxyContext) (setupError : Option Nat) (tries : Nat → SocksTry) :
    ∃ hops, trySocks ucb header ctx setupError tries =
      serveViaSocks header ctx setupError hops := by
  obtain ⟨list, hlen, heq⟩ := exists_loop_eq (f := fun s (x : SocksTry) => x.hop ucb s)
    (fun s x => (rfl : socksTry ucb header s x = socksHop header s (x.hop ucb s)))
    { ctx := ctx } (socksTries ctx.maxRetries none tries)
  have hlen' : list.length = ctx.maxRetries + 1 := by
    rw [hlen]
    simp [socksTries]
  have hpos : 0 < list.length := by omega
  refine ⟨fun k => list.getD k list[0], ?_⟩
  cases setupError with
  | some status => rfl
  | none =>
    have hlist : (List.range (ctx.maxRetries + 1)).map (fun k => list.getD k list[0]) = list := by
      apply List.ext_getElem
      · rw [List.length_map, List.length_range, hlen']
      · intro k _ hk
        simp [hk]
    unfold trySocks serveViaSocks
    dsimp only
    rw [hlist]
    exact heq

/-! ### Accounting of the body -/

lemma foldl_responseBodyFilter (chunks : List (Option Nat)) (ctx : ProxyContext) :
    chunks.foldl responseBodyFilter ctx =
      { ctx with transferredBytes := ctx.transferredBytes + bodyBytes chunks } := by
  induction chunks generalizing ctx with
  | nil => rfl
  | cons body chunks ih =>
    rw [List.foldl_cons, ih]
    cases body with
    | none => simp [responseBodyFilter, bodyBytes]
    | some len => simp [responseBodyFilter, bodyBytes, Nat.add_assoc]

end IPProxyPool
