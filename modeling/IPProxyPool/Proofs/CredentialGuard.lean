import IPProxyPool.Proofs.RequestSteps
import IPProxyPool.Model.Writers

/-!
# Credentials and free nodes

The guard sits between every selection and the wire, on the first and on every later round, so
a request with credentials is never handed to a free node.
-/

namespace IPProxyPool
open RustText AssocTable Transition RetryLoop

def Credentialed (header : HeaderMap) : Prop := hasAuthorization header ∨ hasCookie header

instance (header : HeaderMap) : Decidable (Credentialed header) :=
  inferInstanceAs (Decidable (_ ∨ _))

def IsFree (node : ProxyNode) : Prop := eqIgnoreAsciiCase node.tier "free" = true

instance (node : ProxyNode) : Decidable (IsFree node) :=
  inferInstanceAs (Decidable (_ = true))

/-- No free node was handed the request or is its target, and a free node that was selected, other
than those the path passes over, was selected last and ended the request with 403. -/
structure CredentialsContained (passedOver : ProxyNode → Prop) (rec : RequestRecord) : Prop where
  attempts : ∀ a ∈ rec.attempts, ¬IsFree a.node
  target : ∀ n, rec.ctx.currentNode = some n → ¬IsFree n
  rejected : ∀ n ∈ rec.selected, IsFree n → ¬passedOver n →
    rec.selected.getLast? = some n ∧ rec.status = 403 ∧ rec.ending = .guarded

/-- Between rounds, every free node selected so far was passed over. -/
structure GuardInv (passedOver : ProxyNode → Prop) (s : RequestState) : Prop where
  attempts : ∀ a ∈ s.attempts, ¬IsFree a.node
  target : ∀ n, s.ctx.currentNode = some n → ¬IsFree n
  selected : ∀ n ∈ s.selected, IsFree n → passedOver n

lemma credentialGuard_iff {header : HeaderMap} (h : Credentialed header) (node : ProxyNode) :
    credentialGuard header node = true ↔ IsFree node := by
  have hcred : (hasAuthorization header || hasCookie header) = true := by
    rw [Bool.or_eq_true]
    exact h
  simp only [credentialGuard, freeNodeExitsWithCredentials, hcred, Bool.and_true, IsFree]

lemma not_isFree_of_passed {header : HeaderMap} (h : Credentialed header) {node : ProxyNode}
    (hguard : credentialGuard header node = false) : ¬IsFree node := by
  rw [← credentialGuard_iff h, hguard]
  simp

section Rounds

variable {passedOver : ProxyNode → Prop} {s s' : RequestState} {node : ProxyNode} {status : Nat}
  {ending : Ending}

lemma GuardInv.contained (h : GuardInv passedOver s) :
    CredentialsContained passedOver (s.finish status ending) :=
  ⟨h.attempts, h.target, fun n hn hfree hnot => absurd (h.selected n hn hfree) hnot⟩

lemma GuardInv.select (h : GuardInv passedOver s) (hnode : IsFree node → passedOver node) :
    GuardInv passedOver (s.select node) := by
  refine ⟨h.attempts, h.target, fun n hn hfree => ?_⟩
  rcases List.mem_append.mp hn with hold | hnew
  · exact h.selected n hold hfree
  · rw [List.mem_singleton.mp hnew] at hfree ⊢
    exact hnode hfree

lemma GuardInv.reject (h : GuardInv passedOver s) :
    CredentialsContained passedOver ((s.select node).finish 403 .guarded) := by
  refine ⟨h.attempts, h.target, fun n hn hfree hnot => ?_⟩
  rcases List.mem_append.mp hn with hold | hnew
  · exact absurd (h.selected n hold hfree) hnot
  · have hselected : ((s.select node).finish 403 .guarded).selected.getLast? = some node := by
      change (s.selected ++ [node]).getLast? = some node
      rw [List.getLast?_append]
      rfl
    rw [List.mem_singleton.mp hnew]
    exact ⟨hselected, rfl, rfl⟩

lemma GuardInv.after (h : GuardInv passedOver s) (hnode : ¬IsFree node)
    (hafter : AfterAttempt s s' node status) : GuardInv passedOver s' := by
  constructor
  · intro a ha
    rw [hafter.attempts] at ha
    rcases List.mem_append.mp ha with hold | hnew
    · exact h.attempts a hold
    · rw [List.mem_singleton.mp hnew]
      exact hnode
  · intro n hn
    have hsame : node = n := Option.some.inj (hafter.currentNode.symm.trans hn)
    rwa [← hsame]
  · intro n hn hfree
    rw [hafter.selected] at hn
    rcases List.mem_append.mp hn with hold | hnew
    · exact h.selected n hold hfree
    · rw [List.mem_singleton.mp hnew] at hfree
      exact absurd hfree hnode

lemma guardInv_start (ctx : ProxyContext) (hctx : ctx.currentNode = none) :
    GuardInv passedOver { ctx := ctx } := by
  refine ⟨by simp, fun n hn => ?_, by simp⟩
  rw [hctx] at hn
  cases hn

end Rounds

lemma http_contained {header : HeaderMap} (h : Credentialed header) (ctx : ProxyContext)
    (hctx : ctx.currentNode = none) (rounds : List HttpRound) :
    CredentialsContained (fun _ => False) (serveHttp header ctx rounds) := by
  refine loop_induct (I := GuardInv (fun _ => False)) (fun s hs => hs.contained)
    (fun s round hinv => ?_) (guardInv_start ctx hctx) rounds
  rcases httpRound_cases header s round with ⟨-, heq⟩ | ⟨node, -, -, heq⟩ |
    ⟨node, -, hguard, -, heq⟩ | ⟨node, status, s', -, husable, hafter, heq | heq⟩
  · rw [heq]
    exact hinv.contained
  · rw [heq]
    exact hinv.reject
  · rw [heq]
    exact (hinv.select (not_isFree_of_passed h hguard)).contained
  · rw [heq]
    exact (hinv.after (not_isFree_of_passed h husable.1) hafter).contained
  · rw [heq]
    exact hinv.after (not_isFree_of_passed h husable.1) hafter

lemma socks_contained {header : HeaderMap} (h : Credentialed header) (ctx : ProxyContext)
    (hctx : ctx.currentNode = none) (setupError : Option Nat) (hops : Nat → SocksHop) :
    CredentialsContained (fun n => n.proto = .http) (serveViaSocks header ctx setupError hops) := by
  unfold serveViaSocks
  cases setupError with
  | some status => exact (guardInv_start ctx hctx).contained
  | none =>
    refine loop_induct (I := GuardInv (fun n => n.proto = .http)) (fun s hs => hs.contained)
      (fun s hop hinv => ?_) (guardInv_start ctx hctx) _
    rcases socksHop_cases header s hop with ⟨-, heq⟩ | ⟨-, -, heq⟩ | ⟨node, -, -, hproto, heq⟩ |
      ⟨node, -, -, -, -, heq⟩ | ⟨node, -, -, -, hguard, -, heq⟩ |
      ⟨node, status, s', -, -, -, hguard, -, hafter, heq | ⟨-, heq⟩⟩
    · rw [heq]
      exact hinv.contained
    · rw [heq]
      exact hinv.contained
    · -- the skipped node leaves the context without a target
      rw [heq]
      have hskip : GuardInv (fun n => n.proto = .http) (s.select node) :=
        hinv.select (fun _ => hproto)
      exact ⟨hskip.attempts, fun n hn => (by cases hn), hskip.selected⟩
    · rw [heq]
      exact hinv.reject
    · rw [heq]
      have hfree := not_isFree_of_passed h hguard
      have hselect : GuardInv (fun n => n.proto = .http) (s.select node) :=
        hinv.select (fun hf => absurd hf hfree)
      refine GuardInv.contained ⟨hselect.attempts, fun n hn => ?_, hselect.selected⟩
      have hsame : node = n := Option.some.inj hn
      rwa [← hsame]
    · rw [heq]
      exact (hinv.after (not_isFree_of_passed h hguard) hafter).contained
    · rw [heq]
      exact hinv.after (not_isFree_of_passed h hguard) hafter

/-- The nodes that a request passes over: on the SOCKS path, those of the HTTP protocol. -/
def PassedOver (spec : RoutingSpec) (node : ProxyNode) : Prop :=
  spec.proto.getD .http ≠ .http ∧ node.proto = .http

/-- For every request with credentials, every routing spec, all selection outcomes and retries on
both paths, no free node is a target or is handed the request, and the selection of a free node
that is not passed over ends the request with 403. -/
theorem credentials_contained (header : HeaderMap) (h : Credentialed header) (spec : RoutingSpec)
    (maxRetries : Nat) (rounds : List HttpRound) (setupError : Option Nat)
    (hops : Nat → SocksHop) :
    CredentialsContained (PassedOver spec)
      (serve header { routingSpec := spec, maxRetries := maxRetries } rounds setupError hops) := by
  unfold serve
  split
  · exact (guardInv_start _ rfl).contained
  · split
    · have hhttp := http_contained h { routingSpec := spec, maxRetries := maxRetries } rfl rounds
      exact ⟨hhttp.attempts, hhttp.target, fun n hn hfree _ => hhttp.rejected n hn hfree not_false⟩
    · rename_i hsocks
      have hbridge := socks_contained h { routingSpec := spec, maxRetries := maxRetries } rfl
        setupError hops
      exact ⟨hbridge.attempts, hbridge.target,
        fun n hn hfree hnot => hbridge.rejected n hn hfree (fun hproto => hnot ⟨hsocks, hproto⟩)⟩

/-- With a cookie and one free node of the HTTP protocol to select, the request ends with 403. -/
theorem credentials_contained_cookie :
    CredentialsContained (PassedOver {}) (serve [("Cookie", [97])] { routingSpec := {} }
      [⟨some (.new "10.0.0.1" 8080 none none "ZZ" "free" "free-a" 10), .connectError⟩] none
      (fun _ => ⟨true, none, true, .failed⟩)) :=
  credentials_contained [("Cookie", [97])] (by decide) {} 3 _ none _

/-! ### A free node that is passed over -/

def freeHttpNode : ProxyNode := .new "10.0.0.1" 8080 none none "ZZ" "free" "free-a" 10

/-- A session is bound to a free HTTP node; then its address is merged again as a SOCKS node. -/
def rebornRouter : RouterEngine :=
  run RouterEngine.step (.new [])
    [.replaceVendorNodes "free-" [freeHttpNode],
     .select { sessionId := some "t:s", targetDomain := "example.com" } [] 0 0,
     .replaceVendorNodes "free-" [freeHttpNode.withProto .socks5]]

/-- A SOCKS request of that session: the fast path returns the bound HTTP node. -/
def rebornSpec : RoutingSpec :=
  { sessionId := some "t:s", targetDomain := "example.com", proto := some .socks5 }

def rebornHop : SocksHop :=
  ⟨false, (rebornRouter.selectNodeExcluding rebornSpec [] 0 0).1, true, .failed⟩

/-- The free node is selected in every iteration, never handed out, and the request ends with 503
instead of 403. -/
theorem skipped_free_node_ends_503 :
    ¬CredentialsContained (fun _ => False)
      (serve [("Cookie", [97])] { routingSpec := rebornSpec } [] none (fun _ => rebornHop)) := by
  intro h
  have hstatus := (h.rejected freeHttpNode (by decide) (by decide) not_false).2.1
  revert hstatus
  decide

end IPProxyPool
