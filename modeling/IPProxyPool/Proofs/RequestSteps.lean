import IPProxyPool.Model.Request

/-!
# What a round of a request can do

One lemma for each egress path lists the ways a round can go, with everything the later proofs
use about the context, the selections and the attempts.
-/

namespace IPProxyPool
open RustText RetryLoop

/-- Booking a failed address changes the exclusion list only. -/
lemma recordFailedAddr_frame (ctx : ProxyContext) :
    ∃ addrs, recordFailedAddr ctx = { ctx with failedAddrs := addrs } := by
  unfold recordFailedAddr
  split
  · split
    · exact ⟨_, rfl⟩
    · exact ⟨ctx.failedAddrs, rfl⟩
  · exact ⟨ctx.failedAddrs, rfl⟩

@[simp] lemma currentNode_recordFailedAddr (ctx : ProxyContext) :
    (recordFailedAddr ctx).currentNode = ctx.currentNode := by
  obtain ⟨addrs, h⟩ := recordFailedAddr_frame ctx
  rw [h]

@[simp] lemma retryCount_recordFailedAddr (ctx : ProxyContext) :
    (recordFailedAddr ctx).retryCount = ctx.retryCount := by
  obtain ⟨addrs, h⟩ := recordFailedAddr_frame ctx
  rw [h]

@[simp] lemma maxRetries_recordFailedAddr (ctx : ProxyContext) :
    (recordFailedAddr ctx).maxRetries = ctx.maxRetries := by
  obtain ⟨addrs, h⟩ := recordFailedAddr_frame ctx
  rw [h]

@[simp] lemma currentNode_noteRetry (ctx : ProxyContext) :
    (noteRetry ctx).currentNode = ctx.currentNode := by
  unfold noteRetry
  split <;> rfl

@[simp] lemma currentNode_failToConnect (ctx : ProxyContext) :
    (failToConnect ctx).1.currentNode = ctx.currentNode := by
  unfold failToConnect
  simp

/-- A node that the HTTP path hands out: the guard lets it pass and it speaks HTTP. -/
def HttpUsable (header : HeaderMap) (node : ProxyNode) : Prop :=
  credentialGuard header node = false ∧ node.proto = .http

/-- The state of a request after an attempt on a node that stays in the context. -/
structure AfterAttempt (s s' : RequestState) (node : ProxyNode) (status : Nat) : Prop where
  currentNode : s'.ctx.currentNode = some node
  attempts : s'.attempts = s.attempts ++ [⟨node, status⟩]
  selected : s'.selected = s.selected ++ [node]

/-- The ways an HTTP round goes: no node; a node the guard rejects; a SOCKS node; an attempt, after
which the request ends or goes on. -/
lemma httpRound_cases (header : HeaderMap) (s : RequestState) (round : HttpRound) :
    (round.picked = none ∧ httpRound header s round = .inl (s.finish 503 .noNode)) ∨
    (∃ node, round.picked = some node ∧ credentialGuard header node = true ∧
      httpRound header s round = .inl ((s.select node).finish 403 .guarded)) ∨
    (∃ node, round.picked = some node ∧ credentialGuard header node = false ∧ node.proto ≠ .http ∧
      httpRound header s round = .inl ((s.select node).finish 503 .socksInHttp)) ∨
    ∃ node status s', round.picked = some node ∧ HttpUsable header node ∧
      AfterAttempt s s' node status ∧
      (httpRound header s round = .inl (s'.finish status .upstream) ∨
        httpRound header s round = .inr s') := by
  obtain ⟨picked, result⟩ := round
  cases picked with
  | none => exact .inl ⟨rfl, rfl⟩
  | some node =>
    right
    by_cases hguard : credentialGuard header node = true
    · left
      exact ⟨node, rfl, hguard, by simp [httpRound, upstreamPeer, hguard, RequestState.withCtx,
        RequestState.select]⟩
    · rw [Bool.not_eq_true] at hguard
      right
      by_cases hproto : node.proto = .http
      · right
        cases result with
        | connectError =>
          refine ⟨node, 502, ((s.select node).attempt node 502).withCtx
            (failToConnect { s.ctx with currentNode := some node }).1, rfl, ⟨hguard, hproto⟩,
            ⟨by simp [RequestState.withCtx], rfl, rfl⟩, ?_⟩
          by_cases hretry :
              (failToConnect { s.ctx with currentNode := some node }).2 = true
          · right
            simp [httpRound, upstreamPeer, hguard, hproto, RequestState.select, hretry]
          · left
            simp [httpRound, upstreamPeer, hguard, hproto, RequestState.select, hretry]
        | proxyError retry status bytes =>
          refine ⟨node, status, ((s.select node).attempt node status).withCtx
            { s.ctx with
              currentNode := some node
              transferredBytes := s.ctx.transferredBytes + bytes }, rfl, ⟨hguard, hproto⟩,
            ⟨rfl, rfl, rfl⟩, ?_⟩
          cases retry with
          | true =>
            right
            simp [httpRound, upstreamPeer, hguard, hproto, RequestState.select]
          | false =>
            left
            simp [httpRound, upstreamPeer, hguard, hproto, RequestState.select]
        | response status bytes =>
          refine ⟨node, status, ((s.select node).attempt node status).withCtx
            { s.ctx with
              currentNode := some node
              transferredBytes := s.ctx.transferredBytes + bytes }, rfl, ⟨hguard, hproto⟩,
            ⟨rfl, rfl, rfl⟩, .inl ?_⟩
          simp [httpRound, upstreamPeer, hguard, hproto, RequestState.select]
      · left
        exact ⟨node, rfl, hguard, hproto, by simp [httpRound, upstreamPeer, hguard, hproto,
          RequestState.withCtx, RequestState.select]⟩

/-- The ways a SOCKS iteration goes: the deadline has passed; no node; an HTTP node, skipped; a
node the guard rejects; no time left for the fetch; an attempt, after which the request ends or,
if it failed, goes on. -/
lemma socksHop_cases (header : HeaderMap) (s : RequestState) (hop : SocksHop) :
    (hop.overBudget = true ∧ socksHop header s hop = .inl (socksStop s)) ∨
    (hop.overBudget = false ∧ hop.picked = none ∧
      socksHop header s hop = .inl (s.finish 503 .noNode)) ∨
    (∃ node, hop.overBudget = false ∧ hop.picked = some node ∧ node.proto = .http ∧
      socksHop header s hop = .inr ((s.select node).withCtx { s.ctx with currentNode := none })) ∨
    (∃ node, hop.overBudget = false ∧ hop.picked = some node ∧ node.proto ≠ .http ∧
      credentialGuard header node = true ∧
      socksHop header s hop = .inl ((s.select node).finish 403 .guarded)) ∨
    (∃ node, hop.overBudget = false ∧ hop.picked = some node ∧ node.proto ≠ .http ∧
      credentialGuard header node = false ∧ hop.timeLeft = false ∧
      socksHop header s hop = .inl (socksStop ((s.select node).withCtx
        { s.ctx with currentNode := some node, transferredBytes := 0 }))) ∨
    ∃ node status s', hop.overBudget = false ∧ hop.picked = some node ∧ node.proto ≠ .http ∧
      credentialGuard header node = false ∧ hop.timeLeft = true ∧ AfterAttempt s s' node status ∧
      (socksHop header s hop = .inl (s'.finish status .upstream) ∨
        status = 503 ∧ socksHop header s hop = .inr s') := by
  obtain ⟨overBudget, picked, timeLeft, result⟩ := hop
  cases overBudget with
  | true => exact .inl ⟨rfl, rfl⟩
  | false =>
    right
    cases picked with
    | none => exact .inl ⟨rfl, rfl, rfl⟩
    | some node =>
      right
      by_cases hproto : node.proto = .http
      · left
        exact ⟨node, rfl, rfl, hproto, by simp [socksHop, shouldSkipBridgeNode, hproto,
          RequestState.select]⟩
      · right
        by_cases hguard : credentialGuard header node = true
        · left
          exact ⟨node, rfl, rfl, hproto, hguard, by simp [socksHop, shouldSkipBridgeNode, hproto,
            hguard]⟩
        · rw [Bool.not_eq_true] at hguard
          right
          cases timeLeft with
          | false =>
            left
            exact ⟨node, rfl, rfl, hproto, hguard, rfl, by simp [socksHop, shouldSkipBridgeNode,
              hproto, hguard, RequestState.select]⟩
          | true =>
            right
            cases result with
            | response status bytes =>
              refine ⟨node, status, ((s.select node).attempt node status).withCtx
                { s.ctx with currentNode := some node, transferredBytes := bytes }, rfl, rfl,
                hproto, hguard, rfl, ⟨rfl, rfl, rfl⟩, .inl ?_⟩
              simp [socksHop, shouldSkipBridgeNode, hproto, hguard, RequestState.select]
            | failed =>
              refine ⟨node, 503, ((s.select node).attempt node 503).withCtx (socksFailed
                { s.ctx with currentNode := some node, transferredBytes := 0 }), rfl, rfl,
                hproto, hguard, rfl, ⟨by simp [RequestState.withCtx, socksFailed], rfl, rfl⟩,
                .inr ⟨rfl, ?_⟩⟩
              simp [socksHop, shouldSkipBridgeNode, hproto, hguard, RequestState.select]
            | timedOut =>
              refine ⟨node, 503, ((s.select node).attempt node 503).withCtx (socksFailed
                { s.ctx with currentNode := some node, transferredBytes := 0 }), rfl, rfl,
                hproto, hguard, rfl, ⟨by simp [RequestState.withCtx, socksFailed], rfl, rfl⟩,
                .inl ?_⟩
              simp [socksHop, shouldSkipBridgeNode, hproto, hguard, RequestState.select, socksStop]

end IPProxyPool
