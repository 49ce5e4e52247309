import IPProxyPool.Model.Attempts
import IPProxyPool.Proofs.RequestSteps
import IPProxyPool.Proofs.Sticky

/-!
# Retries move on

The three selections never return an excluded address, and a failed attempt puts its address on
the exclusion list. With fewer than `failedAddrsCap` retries the list has room for every failed
address, so the attempts of a request are on different nodes.
-/

namespace IPProxyPool
open RustText RetryLoop

/-! ### Selections honour the exclusions -/

namespace RouterEngine

variable {r : RouterEngine} {spec : RoutingSpec} {excluded : List String} {now : Instant}
  {n : ProxyNode}

lemma stickyNode_notMem (h : r.stickyNode spec excluded now = some n) : n.addr ∉ excluded := by
  unfold stickyNode at h
  split at h
  · split at h
    · next hacc =>
      cases h
      exact (stickyAccepts_spec hacc).1
    · cases h
  · cases h

lemma livePass_notMem {snapshot : RouterEngine}
    (h : n ∈ snapshot.livePass r spec excluded now) : n.addr ∉ excluded := by
  unfold livePass at h
  split at h
  · have hn := (List.mem_filter.mp h).2
    rw [Bool.and_eq_true, decide_eq_true_eq] at hn
    exact hn.1
  · simpa using (List.mem_filter.mp (List.mem_filter.mp h).1).2

lemma selectNodeExcludingOver_notMem {view : Nat → RouterEngine} {draw : Nat}
    (h : selectNodeExcludingOver view spec excluded now draw = some n) : n.addr ∉ excluded := by
  unfold selectNodeExcludingOver at h
  split at h
  · next m hsticky =>
    cases h
    exact stickyNode_notMem hsticky
  · unfold selectFreshOver at h
    have hmem := pickWeightedStreaming_mem_second h
    exact livePass_notMem hmem

end RouterEngine

lemma SmartProxyGateway.selectBanditLive_notMem {g : SmartProxyGateway}
    {ucb : BanditArm → VectorD → Nat → ℚ} {view : Nat → RouterEngine} {scoring : RouterEngine}
    {spec : RoutingSpec} {excluded : List String} {context : VectorD} {now : Instant}
    {n : ProxyNode}
    (h : g.selectBanditLive ucb view scoring spec excluded context now = some n) :
    n.addr ∉ excluded := by
  have hpass := scorePass_mem h
  have hscan : n ∈ scoring.scan spec excluded now := quotaFilter_subset _ _ hpass
  exact ((scoring.mem_scan_iff spec excluded now n).mp hscan).2.1

/-- A selection never returns a node whose address is excluded, whatever the router does between
its passes. -/
theorem pickSocksCandidate_notMem {ucb : BanditArm → VectorD → Nat → ℚ} {input : SelectionView}
    {spec : RoutingSpec} {excluded : List String} {n : ProxyNode}
    (h : pickSocksCandidate ucb input spec excluded = some n) : n.addr ∉ excluded := by
  unfold pickSocksCandidate at h
  split at h
  · exact RouterEngine.selectNodeExcludingOver_notMem h
  · exact SmartProxyGateway.selectBanditLive_notMem h

/-! ### Booking a failure -/

lemma recordFailedAddr_eq {ctx : ProxyContext} {node : ProxyNode}
    (hnode : ctx.currentNode = some node) (hfresh : node.addr ∉ ctx.failedAddrs)
    (hroom : ctx.failedAddrs.length < failedAddrsCap) :
    recordFailedAddr ctx = { ctx with failedAddrs := ctx.failedAddrs ++ [node.addr] } := by
  unfold recordFailedAddr
  rw [hnode]
  exact if_pos ⟨hfresh, hroom⟩

lemma noteRetry_eq {ctx : ProxyContext} (h : ctx.retryCount ≤ ctx.maxRetries) :
    noteRetry ctx = { ctx with retryCount := min (ctx.retryCount + 1) ctx.maxRetries } := by
  unfold noteRetry
  split
  · next hlt => rw [Nat.min_eq_left hlt]
  · next hge =>
    have hmax : min (ctx.retryCount + 1) ctx.maxRetries = ctx.retryCount := by omega
    rw [hmax]

/-- While the exclusion list has room, a failure on a fresh node is booked in full. -/
lemma socksFailed_eq {ctx : ProxyContext} {node : ProxyNode} (hnode : ctx.currentNode = some node)
    (hfresh : node.addr ∉ ctx.failedAddrs) (hroom : ctx.failedAddrs.length < failedAddrsCap)
    (hretry : ctx.retryCount ≤ ctx.maxRetries) :
    socksFailed ctx =
      { ctx with
        failedAddrs := ctx.failedAddrs ++ [node.addr]
        retryCount := min (ctx.retryCount + 1) ctx.maxRetries } := by
  unfold socksFailed
  rw [recordFailedAddr_eq hnode hfresh hroom]
  exact noteRetry_eq hretry

/-! ### What a round comes to -/

/-- The state after a failed attempt. -/
def RequestState.failedOn (s : RequestState) (node : ProxyNode) (status : Nat) : RequestState :=
  ((s.select node).attempt node status).withCtx
    (socksFailed { s.ctx with currentNode := some node, transferredBytes := 0 })

/-- What a round of either path makes of a state, when its selection found `picked` and the outcome
it meets carries `bytes` bytes. -/
inductive RoundEffect (picked : Option ProxyNode) (bytes : Nat) (s : RequestState) :
    RequestRecord ⊕ RequestState → Prop
  | ended (r : RequestRecord) (attempts_eq : r.attempts = s.attempts)
      (retryCount_eq : r.ctx.retryCount = s.ctx.retryCount)
      (bytes_eq : s.ctx.transferredBytes = 0 → r.ctx.transferredBytes = 0) :
      RoundEffect picked bytes s (.inl r)
  | skipped (s' : RequestState) (attempts_eq : s'.attempts = s.attempts)
      (ctx_eq : s'.ctx = { s.ctx with currentNode := none }) :
      RoundEffect picked bytes s (.inr s')
  | answered (r : RequestRecord) (node : ProxyNode) (status : Nat) (hpicked : picked = some node)
      (attempts_eq : r.attempts = s.attempts ++ [⟨node, status⟩])
      (retryCount_eq : r.ctx.retryCount = s.ctx.retryCount)
      (bytes_eq : s.ctx.transferredBytes = 0 → r.ctx.transferredBytes = bytes) :
      RoundEffect picked bytes s (.inl r)
  | failed (node : ProxyNode) (status : Nat) (hpicked : picked = some node) (hbytes : bytes = 0)
      (after : RequestRecord ⊕ RequestState)
      (hafter : after = .inr (s.failedOn node status) ∨
        ∃ st ending, after = .inl ((s.failedOn node status).finish st ending)) :
      RoundEffect picked bytes s after

section Effects

variable (header : HeaderMap) (s : RequestState)

/-- A peer that could be reached leaves the context that the body filter makes of its chunks,
whether its answer is complete or not. -/
lemma httpRound_reached {node : ProxyNode} (h : HttpUsable header node) {outcome : PeerOutcome}
    {status : Nat} {chunks : List (Option Nat)}
    (hout : outcome = .proxyError status chunks ∨ outcome = .response status chunks) :
    httpRound header s ⟨some node, outcome.result⟩ =
      .inl ((((s.select node).attempt node status).withCtx
        (chunks.foldl responseBodyFilter { s.ctx with currentNode := some node })).finish
          status .upstream) := by
  rw [foldl_responseBodyFilter]
  rcases hout with rfl | rfl
  · simp [httpRound, upstreamPeer, h.1, h.2, RequestState.select, PeerOutcome.result]
  · simp [httpRound, upstreamPeer, h.1, h.2, RequestState.select, PeerOutcome.result]

lemma httpRound_reached_effect {node : ProxyNode} (h : HttpUsable header node)
    {outcome : PeerOutcome} {status : Nat} {chunks : List (Option Nat)}
    (hout : outcome = .proxyError status chunks ∨ outcome = .response status chunks) :
    RoundEffect (some node) outcome.bytes s (httpRound header s ⟨some node, outcome.result⟩) := by
  have hbytes : outcome.bytes = bodyBytes chunks := by
    rcases hout with rfl | rfl <;> rfl
  rw [httpRound_reached header s h hout, foldl_responseBodyFilter, hbytes]
  refine .answered _ node status rfl rfl rfl (fun hzero => ?_)
  change s.ctx.transferredBytes + bodyBytes chunks = bodyBytes chunks
  rw [hzero, Nat.zero_add]

lemma httpRound_connectError {node : ProxyNode} (h : HttpUsable header node) :
    httpRound header s ⟨some node, PeerOutcome.connectError.result⟩ =
      if s.ctx.retryCount < s.ctx.maxRetries then .inr (s.failedOn node 502)
      else .inl ((s.failedOn node 502).finish 502 .upstream) := by
  simp [httpRound, upstreamPeer, h.1, h.2, RequestState.select, PeerOutcome.result, failToConnect,
    socksFailed, RequestState.failedOn]

lemma httpRound_effect (picked : Option ProxyNode) (outcome : PeerOutcome) :
    RoundEffect picked outcome.bytes s (httpRound header s ⟨picked, outcome.result⟩) := by
  rcases httpRound_cases header s ⟨picked, outcome.result⟩ with
    ⟨-, h⟩ | ⟨node, -, -, h⟩ | ⟨node, -, -, -, h⟩ | ⟨node, -, -, hpicked, husable, -, -⟩
  · rw [h]
    exact .ended _ rfl rfl (fun hzero => hzero)
  · rw [h]
    exact .ended _ rfl rfl (fun hzero => hzero)
  · rw [h]
    exact .ended _ rfl rfl (fun hzero => hzero)
  · obtain rfl : picked = some node := hpicked
    cases outcome with
    | connectError =>
      rw [httpRound_connectError header s husable]
      refine .failed node 502 rfl rfl _ ?_
      split
      · exact .inl rfl
      · exact .inr ⟨502, .upstream, rfl⟩
    | proxyError status chunks => exact httpRound_reached_effect header s husable (.inl rfl)
    | response status chunks => exact httpRound_reached_effect header s husable (.inr rfl)

lemma socksHop_effect (hop : SocksHop) :
    RoundEffect hop.picked hop.result.bytes s (socksHop header s hop) := by
  rcases socksHop_cases header s hop with
    ⟨-, h⟩ | ⟨-, -, h⟩ | ⟨node, -, -, -, h⟩ | ⟨node, -, -, -, -, h⟩ | ⟨node, -, -, -, -, -, h⟩ |
      ⟨node, -, -, hbudget, hpicked, hproto, hguard, htime, -, -⟩
  · rw [h]
    exact .ended _ rfl rfl (fun hzero => hzero)
  · rw [h]
    exact .ended _ rfl rfl (fun hzero => hzero)
  · rw [h]
    exact .skipped _ rfl rfl
  · rw [h]
    exact .ended _ rfl rfl (fun hzero => hzero)
  · rw [h]
    exact .ended _ rfl rfl (fun _ => rfl)
  · obtain ⟨overBudget, picked, timeLeft, result⟩ := hop
    obtain rfl : overBudget = false := hbudget
    obtain rfl : picked = some node := hpicked
    obtain rfl : timeLeft = true := htime
    cases result with
    | response status bytes =>
      have hhop : socksHop header s ⟨false, some node, true, .response status bytes⟩ =
          .inl ((((s.select node).attempt node status).withCtx
            { s.ctx with currentNode := some node, transferredBytes := bytes }).finish status
              .upstream) := by
        simp [socksHop, shouldSkipBridgeNode, hproto, hguard, RequestState.select]
      rw [hhop]
      exact .answered _ node status rfl rfl rfl (fun _ => rfl)
    | failed =>
      refine .failed node 503 rfl rfl _ (.inl ?_)
      simp [socksHop, shouldSkipBridgeNode, hproto, hguard, RequestState.select,
        RequestState.failedOn]
    | timedOut =>
      refine .failed node 503 rfl rfl _ (.inr ⟨503, .upstream, ?_⟩)
      simp [socksHop, shouldSkipBridgeNode, hproto, hguard, RequestState.select,
        RequestState.failedOn, socksStop]

/-- The HTTP path goes on only after a connect error, and with a retry to spare. -/
lemma httpRound_next {picked : Option ProxyNode} {outcome : PeerOutcome} {s' : RequestState}
    (h : httpRound header s ⟨picked, outcome.result⟩ = .inr s') :
    s.ctx.retryCount < s.ctx.maxRetries ∧ ∃ node, picked = some node ∧ s' = s.failedOn node 502 := by
  rcases httpRound_cases header s ⟨picked, outcome.result⟩ with
    ⟨-, hend⟩ | ⟨node, -, -, hend⟩ | ⟨node, -, -, -, hend⟩ | ⟨node, -, -, hpicked, husable, -, -⟩
  · cases hend.symm.trans h
  · cases hend.symm.trans h
  · cases hend.symm.trans h
  · obtain rfl : picked = some node := hpicked
    cases outcome with
    | connectError =>
      rw [httpRound_connectError header s husable] at h
      split at h
      · next hlt =>
        cases h
        exact ⟨hlt, node, rfl, rfl⟩
      · cases h
    | proxyError status chunks =>
      rw [httpRound_reached header s husable (.inl rfl)] at h
      cases h
    | response status chunks =>
      rw [httpRound_reached header s husable (.inr rfl)] at h
      cases h

/-- A round makes at most one attempt. -/
lemma RoundEffect.length_attempts_next {picked : Option ProxyNode} {bytes : Nat}
    {s s' : RequestState} (h : RoundEffect picked bytes s (.inr s')) :
    s'.attempts.length ≤ s.attempts.length + 1 := by
  cases h with
  | skipped _ attempts_eq _ =>
    rw [attempts_eq]
    exact Nat.le_succ _
  | failed node status _ _ _ hstate =>
    rcases hstate with hnext | ⟨st, ending, hend⟩
    · cases hnext
      change (s.attempts ++ [(⟨node, status⟩ : Attempt)]).length ≤ s.attempts.length + 1
      rw [List.length_append, List.length_singleton]
    · cases hend

end Effects

/-! ### The account of a request -/

section Account

variable {ι : Type*} (step : RequestState → ι → RequestRecord ⊕ RequestState) (bytesOf : ι → Nat)

def attemptsAfter (after : RequestRecord ⊕ RequestState) : List Attempt :=
  after.elim (fun r => r.attempts) (fun s => s.attempts)

/-- The bytes of the attempts that the executed rounds make, one entry an attempt. -/
def attemptBytes (rounds : List (RequestState × ι)) : List Nat :=
  (rounds.filter (fun p => p.1.attempts.length < (attemptsAfter (step p.1 p.2)).length)).map
    (fun p => bytesOf p.2)

/-- What retries promise for the executed rounds, the context and the attempts they lead to. -/
structure MovesOn (maxRetries : Nat) (rounds : List (RequestState × ι)) (ctx : ProxyContext)
    (attempts : List Attempt) : Prop where
  distinct : (attempts.map (fun a => a.node.addr)).Nodup
  attempts_le : attempts.length ≤ maxRetries + 1
  retryCount_le : ctx.retryCount ≤ maxRetries
  retryCount_before : ∀ p ∈ rounds, p.1.ctx.retryCount ≤ maxRetries
  bytes_counted : (attemptBytes step bytesOf rounds).length = attempts.length
  bytes_last : ctx.transferredBytes = (attemptBytes step bytesOf rounds).getLast?.getD 0

/-- Between two rounds every attempt has failed: its address is excluded, and no bytes are left in
the account. -/
structure BetweenRounds (maxRetries : Nat) (rounds : List (RequestState × ι)) (s : RequestState) :
    Prop extends MovesOn step bytesOf maxRetries rounds s.ctx s.attempts where
  failedAddrs_eq : s.ctx.failedAddrs = s.attempts.map (fun a => a.node.addr)
  maxRetries_eq : s.ctx.maxRetries = maxRetries
  bytes_zero : s.ctx.transferredBytes = 0

variable {step bytesOf} {maxRetries : Nat} {past : List (RequestState × ι)} {s : RequestState}
  {i : ι}

lemma attemptBytes_idle (h : attemptsAfter (step s i) = s.attempts) :
    attemptBytes step bytesOf (past ++ [(s, i)]) = attemptBytes step bytesOf past := by
  simp [attemptBytes, List.filter_append, h]

lemma attemptBytes_attempt {a : Attempt} (h : attemptsAfter (step s i) = s.attempts ++ [a]) :
    attemptBytes step bytesOf (past ++ [(s, i)]) =
      attemptBytes step bytesOf past ++ [bytesOf i] := by
  simp [attemptBytes, List.filter_append, h]

lemma BetweenRounds.retryCount_append (h : BetweenRounds step bytesOf maxRetries past s) :
    ∀ p ∈ past ++ [(s, i)], p.1.ctx.retryCount ≤ maxRetries := by
  intro p hp
  rcases List.mem_append.mp hp with hpast | hlast
  · exact h.retryCount_before p hpast
  · rw [List.mem_singleton.mp hlast]
    exact h.retryCount_le

/-- A round without an attempt. -/
lemma BetweenRounds.idle (h : BetweenRounds step bytesOf maxRetries past s) {ctx : ProxyContext}
    (hafter : attemptsAfter (step s i) = s.attempts) (hretry : ctx.retryCount = s.ctx.retryCount)
    (hbytes : ctx.transferredBytes = 0) :
    MovesOn step bytesOf maxRetries (past ++ [(s, i)]) ctx s.attempts where
  distinct := h.distinct
  attempts_le := h.attempts_le
  retryCount_le := hretry ▸ h.retryCount_le
  retryCount_before := h.retryCount_append
  bytes_counted := by
    rw [attemptBytes_idle hafter]
    exact h.bytes_counted
  bytes_last := by
    rw [attemptBytes_idle hafter, ← h.bytes_last, h.bytes_zero]
    exact hbytes

/-- A round with an attempt on a node that is not excluded. -/
lemma BetweenRounds.attempt (h : BetweenRounds step bytesOf maxRetries past s) {ctx : ProxyContext}
    {a : Attempt} (hafter : attemptsAfter (step s i) = s.attempts ++ [a])
    (hfresh : a.node.addr ∉ s.ctx.failedAddrs) (hroom : s.attempts.length ≤ maxRetries)
    (hretry : ctx.retryCount ≤ maxRetries) (hbytes : ctx.transferredBytes = bytesOf i) :
    MovesOn step bytesOf maxRetries (past ++ [(s, i)]) ctx (s.attempts ++ [a]) where
  distinct := by
    rw [h.failedAddrs_eq] at hfresh
    rw [List.map_append]
    exact h.distinct.append (List.nodup_singleton _) (List.disjoint_singleton.mpr hfresh)
  attempts_le := by
    rw [List.length_append, List.length_singleton]
    omega
  retryCount_le := hretry
  retryCount_before := h.retryCount_append
  bytes_counted := by
    rw [attemptBytes_attempt hafter, List.length_append, List.length_append, h.bytes_counted]
    rfl
  bytes_last := by
    rw [attemptBytes_attempt hafter, List.getLast?_concat, hbytes]
    rfl

/-- The state after a failed attempt on a node that is not excluded. -/
lemma BetweenRounds.failedOn_ctx (h : BetweenRounds step bytesOf maxRetries past s)
    {node : ProxyNode} (hfresh : node.addr ∉ s.ctx.failedAddrs)
    (hmax : maxRetries < failedAddrsCap) (hroom : s.attempts.length ≤ maxRetries) (status : Nat) :
    (s.failedOn node status).ctx =
      { s.ctx with
        currentNode := some node
        transferredBytes := 0
        failedAddrs := s.ctx.failedAddrs ++ [node.addr]
        retryCount := min (s.ctx.retryCount + 1) s.ctx.maxRetries } := by
  have hlen : s.ctx.failedAddrs.length < failedAddrsCap := by
    rw [h.failedAddrs_eq, List.length_map]
    omega
  have hretry : s.ctx.retryCount ≤ s.ctx.maxRetries := by
    rw [h.maxRetries_eq]
    exact h.retryCount_le
  exact socksFailed_eq rfl hfresh hlen hretry

/-- A round whose selection honours the exclusions keeps the account, while fewer than
`maxRetries + 1` attempts have been made. -/
theorem BetweenRounds.round (h : BetweenRounds step bytesOf maxRetries past s)
    {picked : Option ProxyNode} (heffect : RoundEffect picked (bytesOf i) s (step s i))
    (hfresh : ∀ node, picked = some node → node.addr ∉ s.ctx.failedAddrs)
    (hmax : maxRetries < failedAddrsCap) (hroom : s.attempts.length ≤ maxRetries) :
    Sum.elim (fun r => MovesOn step bytesOf maxRetries (past ++ [(s, i)]) r.ctx r.attempts)
      (fun s' => BetweenRounds step bytesOf maxRetries (past ++ [(s, i)]) s') (step s i) := by
  generalize hafter : step s i = after at heffect
  cases heffect with
  | ended r attempts_eq retryCount_eq bytes_eq =>
    have hsame : attemptsAfter (step s i) = s.attempts := by
      rw [hafter]
      exact attempts_eq
    have hmoves := h.idle hsame retryCount_eq (bytes_eq h.bytes_zero)
    rw [← attempts_eq] at hmoves
    exact hmoves
  | skipped s' attempts_eq ctx_eq =>
    have hsame : attemptsAfter (step s i) = s.attempts := by
      rw [hafter]
      exact attempts_eq
    have hmoves : MovesOn step bytesOf maxRetries (past ++ [(s, i)]) s'.ctx s'.attempts := by
      rw [attempts_eq, ctx_eq]
      exact h.idle hsame rfl h.bytes_zero
    refine ⟨hmoves, ?_, ?_, ?_⟩
    · rw [attempts_eq, ctx_eq]
      exact h.failedAddrs_eq
    · rw [ctx_eq]
      exact h.maxRetries_eq
    · rw [ctx_eq]
      exact h.bytes_zero
  | answered r node status hpicked attempts_eq retryCount_eq bytes_eq =>
    have hnew : attemptsAfter (step s i) = s.attempts ++ [⟨node, status⟩] := by
      rw [hafter]
      exact attempts_eq
    have hmoves := h.attempt hnew (hfresh node hpicked) hroom
      (retryCount_eq ▸ h.retryCount_le) (bytes_eq h.bytes_zero)
    rw [← attempts_eq] at hmoves
    exact hmoves
  | failed node status hpicked hbytes _ hstate =>
    have hctx := h.failedOn_ctx (hfresh node hpicked) hmax hroom status
    have hnew : attemptsAfter (step s i) = s.attempts ++ [⟨node, status⟩] := by
      rw [hafter]
      rcases hstate with rfl | ⟨st, ending, rfl⟩ <;> rfl
    have hretry : (s.failedOn node status).ctx.retryCount ≤ maxRetries := by
      rw [hctx, ← h.maxRetries_eq]
      exact Nat.min_le_right _ _
    have hmoves := h.attempt hnew (hfresh node hpicked) hroom hretry
      (show (s.failedOn node status).ctx.transferredBytes = bytesOf i by rw [hctx, hbytes])
    rcases hstate with rfl | ⟨st, ending, rfl⟩
    · refine ⟨hmoves, ?_, ?_, ?_⟩
      · rw [hctx]
        change s.ctx.failedAddrs ++ [node.addr] =
          List.map (fun a : Attempt => a.node.addr) (s.attempts ++ [⟨node, status⟩])
        rw [List.map_append, h.failedAddrs_eq]
        rfl
      · rw [hctx]
        exact h.maxRetries_eq
      · rw [hctx]
    · exact hmoves

end Account

/-! ### Runs of the two paths -/

section Runs

variable (ucb : BanditArm → VectorD → Nat → ℚ) (header : HeaderMap) (spec : RoutingSpec)
  (maxRetries : Nat)

lemma betweenRounds_fresh {ι : Type*} (step : RequestState → ι → RequestRecord ⊕ RequestState)
    (bytesOf : ι → Nat) :
    BetweenRounds step bytesOf maxRetries [] { ctx := freshContext spec maxRetries } where
  distinct := List.nodup_nil
  attempts_le := Nat.zero_le _
  retryCount_le := Nat.zero_le _
  retryCount_before := fun _ hp => absurd hp List.not_mem_nil
  bytes_counted := rfl
  bytes_last := rfl
  failedAddrs_eq := rfl
  maxRetries_eq := rfl
  bytes_zero := rfl

abbrev HttpMovesOn (r : RequestRecord) (rounds : List (RequestState × HttpTry)) : Prop :=
  MovesOn (httpTry ucb header) (fun x => x.outcome.bytes) maxRetries rounds r.ctx r.attempts

/-- On the HTTP path every attempt that another round follows is counted as a retry. -/
def HttpBetween (s : RequestState) (past : List (RequestState × HttpTry)) : Prop :=
  BetweenRounds (httpTry ucb header) (fun x => x.outcome.bytes) maxRetries past s ∧
    s.ctx.retryCount = s.attempts.length

abbrev SocksMovesOn (r : RequestRecord) (rounds : List (RequestState × SocksTry)) : Prop :=
  MovesOn (socksTry ucb header) (fun x => x.result.bytes) maxRetries rounds r.ctx r.attempts

/-- On the SOCKS path the iterations bound the attempts. -/
def SocksBetween (s : RequestState) (past : List (RequestState × SocksTry)) : Prop :=
  BetweenRounds (socksTry ucb header) (fun x => x.result.bytes) maxRetries past s ∧
    s.attempts.length ≤ past.length

variable {maxRetries}

lemma httpTry_movesOn (hmax : maxRetries < failedAddrsCap) {s : RequestState}
    {past : List (RequestState × HttpTry)} (x : HttpTry) (h : HttpBetween ucb header maxRetries s past) :
    Sum.elim (fun r => HttpMovesOn ucb header maxRetries r (past ++ [(s, x)]))
      (fun s' => HttpBetween ucb header maxRetries s' (past ++ [(s, x)]))
      (httpTry ucb header s x) := by
  obtain ⟨hs, hcount⟩ := h
  have hroom : s.attempts.length ≤ maxRetries := hcount ▸ hs.retryCount_le
  have hfresh : ∀ node, pickSocksCandidate ucb x.selection s.ctx.routingSpec s.ctx.failedAddrs =
      some node → node.addr ∉ s.ctx.failedAddrs := fun node hnode => pickSocksCandidate_notMem hnode
  have hround := hs.round (httpRound_effect header s _ x.outcome) hfresh hmax hroom
  cases hstep : httpTry ucb header s x with
  | inl r =>
    rw [hstep] at hround
    exact hround
  | inr s' =>
    rw [hstep] at hround
    refine ⟨hround, ?_⟩
    obtain ⟨hlt, node, hpicked, rfl⟩ := httpRound_next header s hstep
    rw [hs.failedOn_ctx (hfresh node hpicked) hmax hroom 502]
    change min (s.ctx.retryCount + 1) s.ctx.maxRetries =
      (s.attempts ++ [(⟨node, 502⟩ : Attempt)]).length
    rw [Nat.min_eq_left hlt, hcount, List.length_append, List.length_singleton]

theorem tryHttp_movesOn (hmax : maxRetries < failedAddrsCap) (tries : List HttpTry) :
    HttpMovesOn ucb header maxRetries (tryHttp ucb header (freshContext spec maxRetries) tries)
      (executed (httpTry ucb header) { ctx := freshContext spec maxRetries } tries) := by
  have hstop : ∀ s past, HttpBetween ucb header maxRetries s past →
      HttpMovesOn ucb header maxRetries (httpStop s) past := fun s past hs => hs.1.toMovesOn
  exact loop_executed_induct hstop (fun s past x _ hs => httpTry_movesOn ucb header hmax x hs)
    ⟨betweenRounds_fresh spec maxRetries _ _, rfl⟩ tries le_rfl

lemma socksTry_movesOn (hmax : maxRetries < failedAddrsCap) {s : RequestState}
    {past : List (RequestState × SocksTry)} (x : SocksTry) (hlen : past.length < maxRetries + 1)
    (h : SocksBetween ucb header maxRetries s past) :
    Sum.elim (fun r => SocksMovesOn ucb header maxRetries r (past ++ [(s, x)]))
      (fun s' => SocksBetween ucb header maxRetries s' (past ++ [(s, x)]))
      (socksTry ucb header s x) := by
  obtain ⟨hs, hcount⟩ := h
  have heffect : RoundEffect
      (pickSocksCandidate ucb x.selection s.ctx.routingSpec s.ctx.failedAddrs) x.result.bytes s
      (socksTry ucb header s x) := socksHop_effect header s (x.hop ucb s)
  have hround := hs.round heffect (fun node hnode => pickSocksCandidate_notMem hnode) hmax
    (by omega)
  cases hstep : socksTry ucb header s x with
  | inl r =>
    rw [hstep] at hround
    exact hround
  | inr s' =>
    rw [hstep] at hround
    refine ⟨hround, ?_⟩
    have hnext : s'.attempts.length ≤ s.attempts.length + 1 :=
      RoundEffect.length_attempts_next (hstep ▸ heffect)
    rw [List.length_append, List.length_singleton]
    omega

theorem trySocks_movesOn (hmax : maxRetries < failedAddrsCap) (setupError : Option Nat)
    (tries : Nat → SocksTry) :
    SocksMovesOn ucb header maxRetries
      (trySocks ucb header (freshContext spec maxRetries) setupError tries)
      (executed (socksTry ucb header) { ctx := freshContext spec maxRetries }
        (socksTries maxRetries setupError tries)) := by
  cases setupError with
  | some status => exact (betweenRounds_fresh spec maxRetries _ _).toMovesOn
  | none =>
    have hstop : ∀ s past, SocksBetween ucb header maxRetries s past →
        SocksMovesOn ucb header maxRetries (socksStop s) past := fun s past hs => hs.1.toMovesOn
    have hlength : (socksTries maxRetries none tries).length ≤ maxRetries + 1 := by
      simp [socksTries]
    exact loop_executed_induct hstop
      (fun s past x hlen hs => socksTry_movesOn ucb header hmax x hlen hs)
      ⟨betweenRounds_fresh spec maxRetries _ _, le_rfl⟩ _
      ((Nat.zero_add _).trans_le hlength)

/-- Retries always move on. Whatever the selections of a request see and whatever becomes of its
attempts, on either path the attempts are on different addresses, they are at most
`maxRetries + 1`, the retry counter stays within its bound in every round, and the account holds
the bytes of the last attempt. -/
theorem retries_move_on (hmax : maxRetries < 16) (httpTries : List HttpTry)
    (setupError : Option Nat) (hops : Nat → SocksTry) :
    HttpMovesOn ucb header maxRetries (tryHttp ucb header (freshContext spec maxRetries) httpTries)
        (executed (httpTry ucb header) { ctx := freshContext spec maxRetries } httpTries) ∧
      SocksMovesOn ucb header maxRetries
        (trySocks ucb header (freshContext spec maxRetries) setupError hops)
        (executed (socksTry ucb header) { ctx := freshContext spec maxRetries }
          (socksTries maxRetries setupError hops)) :=
  ⟨tryHttp_movesOn ucb header spec hmax httpTries,
    trySocks_movesOn ucb header spec hmax setupError hops⟩

end Runs

/-- A router at rest with two HTTP nodes and a SOCKS node. -/
def retryInput : SelectionView :=
  let router : RouterEngine := .new [.new "10.0.0.1" 8080 none none "US" "datacenter" "p" 1,
    .new "10.0.0.2" 8080 none none "US" "datacenter" "p" 1,
    (ProxyNode.new "10.0.0.3" 1080 none none "US" "datacenter" "p" 1).withProto .socks5]
  { view := fun _ => router, scoring := router, gateway := ⟨router, ∅, .empty, 0⟩, context := 0,
    now := 0, draw := 0 }

/-- The peer of the first round cannot be reached, the second one answers in two chunks. -/
def retryTries : List HttpTry :=
  [⟨retryInput, .connectError⟩, ⟨retryInput, .response 200 [some 5, none, some 7]⟩]

def retryContext : ProxyContext := freshContext { targetDomain := "a.com" } 3

def retryRecord : RequestRecord := tryHttp (fun _ _ _ => 0) [] retryContext retryTries

theorem retries_move_on_sample :
    (retryRecord.attempts.map (fun a => a.node.addr) = ["10.0.0.1:8080", "10.0.0.2:8080"] ∧
      retryRecord.ctx.transferredBytes = 12) ∧
    HttpMovesOn (fun _ _ _ => 0) [] 3 retryRecord
        (executed (httpTry (fun _ _ _ => 0) []) { ctx := retryContext } retryTries) ∧
      SocksMovesOn (fun _ _ _ => 0) [] 3
        (trySocks (fun _ _ _ => 0) [] retryContext none
          (fun _ => ⟨false, retryInput, true, .failed⟩))
        (executed (socksTry (fun _ _ _ => 0) []) { ctx := retryContext }
          (socksTries 3 none (fun _ => ⟨false, retryInput, true, .failed⟩))) :=
  ⟨by decide, retries_move_on _ _ _ (by decide) _ _ _⟩

end IPProxyPool
