import IPProxyPool.Model.Selection
import IPProxyPool.Proofs.RequestSteps

/-!
# Attribution of outcomes

`logging` credits or blames the node in the context. On both paths that node stays in place when
a later selection of the same request fails, so the record is exact only when every selection
after a failed attempt finds a node to hand out.
-/

namespace IPProxyPool
open RustText AssocTable RetryLoop

/-- The node in the context is that of the last attempt and the status is its outcome; when the
gateway itself refused the final selection, no node is in the context, no reward is booked, the
event names no address and the breaker does nothing about it. -/
structure ExactAttribution (rec : RequestRecord) : Prop where
  last : ∀ n, rec.ctx.currentNode = some n →
    ∃ a, rec.attempts.getLast? = some a ∧ a.node = n ∧ a.status = rec.status
  cleared : rec.ending.gatewayMade = true → rec.ctx.currentNode = none
  no_reward : rec.ending.gatewayMade = true → (logging rec).reward = none
  no_address : rec.ending.gatewayMade = true → (logging rec).event.outIp = "none"
  no_quarantine : rec.ending.gatewayMade = true →
    ∀ (r : RouterEngine) (now : Instant), r.processEntry (logging rec).event now = r

/-- An HTTP round that follows an attempt selects a node that can be handed out. -/
def HttpRefinds (header : HeaderMap) (s : RequestState) (round : HttpRound) : Prop :=
  s.ctx.currentNode ≠ none → ∃ node, round.picked = some node ∧ HttpUsable header node

/-- A SOCKS iteration within the deadline that follows an attempt selects a node, and not one the
guard rejects; and whenever it selects a node to fetch through, time is left for the fetch, unless
that node made the last attempt as well. -/
def SocksRefinds (header : HeaderMap) (s : RequestState) (hop : SocksHop) : Prop :=
  hop.overBudget = false →
    (s.ctx.currentNode ≠ none → hop.picked ≠ none) ∧
      ∀ node, hop.picked = some node → node.proto ≠ .http →
        (credentialGuard header node = true → s.ctx.currentNode = none) ∧
        (credentialGuard header node = false →
          hop.timeLeft = true ∨ s.attempts.getLast? = some ⟨node, 503⟩)

lemma exactAttribution_iff (rec : RequestRecord) :
    ExactAttribution rec ↔
      (∀ n, rec.ctx.currentNode = some n →
        ∃ a, rec.attempts.getLast? = some a ∧ a.node = n ∧ a.status = rec.status) ∧
      (rec.ending.gatewayMade = true → rec.ctx.currentNode = none) := by
  constructor
  · exact fun h => ⟨h.last, h.cleared⟩
  · rintro ⟨hlast, hcleared⟩
    refine ⟨hlast, hcleared, fun hend => ?_, fun hend => ?_, fun hend r now => ?_⟩
    · simp [logging, hcleared hend]
    · simp [logging, outIpOf, hcleared hend]
    · have hevent : (logging rec).event =
          ⟨rec.ctx.routingSpec.targetDomain, "none", rec.status⟩ := by
        simp [logging, outIpOf, hcleared hend]
      rw [hevent]
      exact RouterEngine.processEntry_none r _ _ now

lemma exact_of_gateway_iff {s : RequestState} {status : Nat} {ending : Ending}
    (hend : ending.gatewayMade = true) :
    ExactAttribution (s.finish status ending) ↔ s.ctx.currentNode = none := by
  rw [exactAttribution_iff]
  constructor
  · exact fun h => h.2 hend
  · intro hnone
    refine ⟨fun n hn => ?_, fun _ => hnone⟩
    have hsome : s.ctx.currentNode = some n := hn
    rw [hnone] at hsome
    cases hsome

lemma exact_of_attempt {s s' : RequestState} {node : ProxyNode} {status : Nat}
    (h : AfterAttempt s s' node status) : ExactAttribution (s'.finish status .upstream) := by
  rw [exactAttribution_iff]
  refine ⟨fun n hn => ?_, by simp [RequestState.finish, Ending.gatewayMade]⟩
  have hnode : node = n := Option.some.inj (h.currentNode.symm.trans hn)
  refine ⟨⟨node, status⟩, ?_, hnode, rfl⟩
  have hlast : (s'.finish status .upstream).attempts = s.attempts ++ [⟨node, status⟩] := h.attempts
  rw [hlast, List.getLast?_append]
  rfl

lemma AfterAttempt.getLast {s s' : RequestState} {node : ProxyNode} {status : Nat}
    (h : AfterAttempt s s' node status) : s'.attempts.getLast? = some ⟨node, status⟩ := by
  rw [h.attempts, List.getLast?_append]
  rfl

/-! ### The HTTP path -/

/-- Between rounds, the node in the context made the last attempt. -/
def HttpInv (s : RequestState) : Prop :=
  ∀ n, s.ctx.currentNode = some n → ∃ status, s.attempts.getLast? = some ⟨n, status⟩

lemma httpInv_after {s s' : RequestState} {node : ProxyNode} {status : Nat}
    (h : AfterAttempt s s' node status) : HttpInv s' := by
  intro n hn
  have hnode : node = n := Option.some.inj (h.currentNode.symm.trans hn)
  rw [← hnode]
  exact ⟨status, h.getLast⟩

lemma exact_httpStop (s : RequestState) (h : HttpInv s) : ExactAttribution (httpStop s) := by
  rw [exactAttribution_iff]
  refine ⟨fun n hn => ?_, by simp [httpStop, RequestState.finish, Ending.gatewayMade]⟩
  obtain ⟨status, hlast⟩ := h n hn
  refine ⟨⟨n, status⟩, hlast, rfl, ?_⟩
  simp [httpStop, RequestState.finish, hlast]

lemma httpRefinds_iff_none {header : HeaderMap} {s : RequestState} {round : HttpRound}
    (h : ∀ node, round.picked = some node → ¬HttpUsable header node) :
    HttpRefinds header s round ↔ s.ctx.currentNode = none := by
  constructor
  · intro hfind
    by_contra hsome
    obtain ⟨node, hpicked, husable⟩ := hfind hsome
    exact h node hpicked husable
  · intro hnone hsome
    exact absurd hnone hsome

lemma http_exact_iff (header : HeaderMap) (ctx : ProxyContext) (hctx : ctx.currentNode = none)
    (rounds : List HttpRound) :
    ExactAttribution (serveHttp header ctx rounds) ↔
      Rounds (httpRound header) (HttpRefinds header) { ctx := ctx } rounds := by
  refine loop_iff (I := HttpInv) exact_httpStop (fun s round _ => ?_) ?_ rounds
  · rcases httpRound_cases header s round with ⟨hnone, h⟩ | ⟨node, hpicked, hguard, h⟩ |
      ⟨node, hpicked, hguard, hproto, h⟩ | ⟨node, status, s', hpicked, husable, hafter, h | h⟩
    · rw [h]
      refine (exact_of_gateway_iff rfl).trans (httpRefinds_iff_none ?_).symm
      intro n hn
      rw [hnone] at hn
      cases hn
    · rw [h]
      refine (exact_of_gateway_iff rfl).trans (httpRefinds_iff_none ?_).symm
      intro n hn husable
      cases hpicked.symm.trans hn
      exact absurd (hguard.symm.trans husable.1) (by simp)
    · rw [h]
      refine (exact_of_gateway_iff rfl).trans (httpRefinds_iff_none ?_).symm
      intro n hn husable
      cases hpicked.symm.trans hn
      exact hproto husable.2
    · rw [h]
      exact iff_of_true (exact_of_attempt hafter) (fun _ => ⟨node, hpicked, husable⟩)
    · rw [h]
      exact ⟨httpInv_after hafter, fun _ => ⟨node, hpicked, husable⟩⟩
  · intro n hn
    exact absurd hn (by simp [hctx])

/-! ### The SOCKS path -/

/-- Between iterations, the node in the context made the last attempt, and it failed. -/
def SocksInv (s : RequestState) : Prop :=
  ∀ n, s.ctx.currentNode = some n → s.attempts.getLast? = some ⟨n, 503⟩

lemma exact_socksStop_iff (s : RequestState) : ExactAttribution (socksStop s) ↔ SocksInv s := by
  rw [exactAttribution_iff]
  constructor
  · rintro ⟨hlast, -⟩ n hn
    obtain ⟨⟨node, status⟩, ha, rfl, hstatus⟩ := hlast n hn
    have h503 : status = 503 := hstatus
    rw [← h503]
    exact ha
  · intro h
    refine ⟨fun n hn => ⟨⟨n, 503⟩, h n hn, rfl, rfl⟩, ?_⟩
    simp [socksStop, RequestState.finish, Ending.gatewayMade]

lemma socksRefinds_of_time {header : HeaderMap} {s : RequestState} {hop : SocksHop}
    {node : ProxyNode} (hpicked : hop.picked = some node)
    (hguard : credentialGuard header node = false) (htime : hop.timeLeft = true) :
    SocksRefinds header s hop := by
  refine fun _ => ⟨fun _ => by simp [hpicked], fun n hn _ => ⟨fun hreject => ?_, fun _ => .inl htime⟩⟩
  cases hpicked.symm.trans hn
  exact absurd (hguard.symm.trans hreject) (by simp)

lemma socks_exact_iff (header : HeaderMap) (ctx : ProxyContext) (hctx : ctx.currentNode = none)
    (hops : List SocksHop) :
    ExactAttribution (loop (socksHop header) socksStop { ctx := ctx } hops) ↔
      Rounds (socksHop header) (SocksRefinds header) { ctx := ctx } hops := by
  refine loop_iff (I := SocksInv) (fun s hs => (exact_socksStop_iff s).mpr hs)
    (fun s hop hinv => ?_) ?_ hops
  · rcases socksHop_cases header s hop with ⟨hover, h⟩ | ⟨hover, hnone, h⟩ |
      ⟨node, hover, hpicked, hproto, h⟩ | ⟨node, hover, hpicked, hproto, hguard, h⟩ |
      ⟨node, hover, hpicked, hproto, hguard, htime, h⟩ |
      ⟨node, status, s', hover, hpicked, hproto, hguard, htime, hafter, h | ⟨rfl, h⟩⟩
    · -- the deadline: the last attempt stands
      rw [h]
      refine iff_of_true ((exact_socksStop_iff s).mpr hinv) (fun hnot => ?_)
      rw [hover] at hnot
      cases hnot
    · rw [h]
      refine (exact_of_gateway_iff rfl).trans ⟨fun hclear _ => ?_, fun hfind => ?_⟩
      · refine ⟨fun hsome => absurd hclear hsome, fun node hn => ?_⟩
        rw [hnone] at hn
        cases hn
      · by_contra hsome
        exact (hfind hover).1 hsome hnone
    · rw [h]
      refine ⟨fun n hn => ?_, fun _ => ⟨fun _ => by simp [hpicked], fun n hn hnot => ?_⟩⟩
      · cases hn
      · cases hpicked.symm.trans hn
        exact absurd hproto hnot
    · rw [h]
      refine (exact_of_gateway_iff rfl).trans ⟨fun hclear _ => ?_, fun hfind => ?_⟩
      · refine ⟨fun _ => by simp [hpicked], fun n hn _ => ⟨fun _ => hclear, fun hpass => ?_⟩⟩
        cases hpicked.symm.trans hn
        exact absurd (hguard.symm.trans hpass) (by simp)
      · exact ((hfind hover).2 node hpicked hproto).1 hguard
    · -- no time left: the node in the context was handed nothing
      rw [h]
      refine (exact_socksStop_iff _).trans ⟨fun hlast _ => ?_, fun hfind => ?_⟩
      · refine ⟨fun _ => by simp [hpicked], fun n hn _ => ⟨fun hreject => ?_, fun _ => .inr ?_⟩⟩
        · cases hpicked.symm.trans hn
          exact absurd (hguard.symm.trans hreject) (by simp)
        · cases hpicked.symm.trans hn
          exact hlast node rfl
      · intro n hn
        have hnode : node = n := Option.some.inj hn
        rcases ((hfind hover).2 node hpicked hproto).2 hguard with hleft | hlast
        · rw [htime] at hleft
          cases hleft
        · exact hnode ▸ hlast
    · rw [h]
      exact iff_of_true (exact_of_attempt hafter) (socksRefinds_of_time hpicked hguard htime)
    · rw [h]
      refine ⟨fun n hn => ?_, socksRefinds_of_time hpicked hguard htime⟩
      have hnode : node = n := Option.some.inj (hafter.currentNode.symm.trans hn)
      rw [hafter.getLast, hnode]
  · intro n hn
    exact absurd hn (by simp [hctx])

/-- For every request and every sequence of rounds on either path, the outcome is attributed
exactly if and only if each executed selection that follows an attempt finds a node to hand out
(and, on the SOCKS path, with time left for the fetch). -/
theorem attribution_exact_iff (header : HeaderMap) (spec : RoutingSpec) (maxRetries : Nat) :
    (∀ rounds, ExactAttribution
        (serveHttp header { routingSpec := spec, maxRetries := maxRetries } rounds) ↔
      Rounds (httpRound header) (HttpRefinds header)
        { ctx := { routingSpec := spec, maxRetries := maxRetries } } rounds) ∧
    ∀ hops, ExactAttribution
        (serveViaSocks header { routingSpec := spec, maxRetries := maxRetries } none hops) ↔
      Rounds (socksHop header) (SocksRefinds header)
        { ctx := { routingSpec := spec, maxRetries := maxRetries } }
        ((List.range (maxRetries + 1)).map hops) :=
  ⟨fun rounds => http_exact_iff header _ rfl rounds, fun _ => socks_exact_iff header _ rfl _⟩

/-! ### An innocent node -/

def attributionRouter : RouterEngine :=
  .new [.new "203.0.113.1" 8080 none none "us" "res" "mock-a" 100,
    .new "203.0.113.2" 8080 none none "us" "free" "free-a" 10]

/-- The first selection finds the paid node, which does not accept the connection; the second,
with it excluded, finds the free node. -/
def refusedRounds : List HttpRound :=
  [⟨(attributionRouter.selectNodeExcluding { targetDomain := "example.com" } [] 0 0).1,
      .connectError⟩,
    ⟨(attributionRouter.selectNodeExcluding { targetDomain := "example.com" }
      ["203.0.113.1:8080"] 0 0).1, .connectError⟩]

/-- The guard's 403 is recorded against the paid node. -/
theorem refused_request_blames_paid_node :
    ¬ExactAttribution (serveHttp [("Cookie", [97])]
      { routingSpec := { targetDomain := "example.com" } } refusedRounds) := by
  intro h
  have hcleared := h.cleared (by decide)
  revert hcleared
  decide

end IPProxyPool
