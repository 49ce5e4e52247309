import IPProxyPool.Proofs.ReputationExpiry

/-!
# One address under two protocols

`fetch_all` tells the candidates of one address apart by their protocols; the registry and the
failure marks know the address only. A result for one protocol stays with it only where it finds an
entry of its own protocol or none, and does not fail.
-/

namespace IPProxyPool
open AssocTable Transition

namespace RegistryOp

lemma proto_change (op : RegistryOp) (ttl : Nat) (e : Entry) :
    (op.change ttl e).node.proto = e.node.proto := by
  cases op with
  | reverify addr passed now => cases passed <;> rfl
  | _ => rfl

end RegistryOp

namespace Registry

variable {reg : Registry}

/-- The entry of the address, if it is of the protocol `q`. -/
def candidate (reg : Registry) (addr : String) (q : EgressProto) : Option Entry :=
  (reg.entries.lookup addr).filter (fun e => e.node.proto = q)

/-- `Q` holds of the address and the protocol of each entry. -/
def Protos (reg : Registry) (Q : String → EgressProto → Prop) : Prop :=
  ∀ addr e, reg.entries.lookup addr = some e → Q addr e.node.proto

lemma protos_step {Q : String → EgressProto → Prop} {op : RegistryOp} (h : reg.Protos Q)
    (hcreate : ∀ e, op.create reg.ttl = some e → Q op.addr e.node.proto) :
    (reg.step op).Protos Q := by
  intro addr e' he'
  rcases step_leftBy op he' with ⟨-, hold⟩ | ⟨-, e, he, rfl⟩ | ⟨haddr, -, hnew⟩
  · exact h addr e' hold
  · rw [RegistryOp.proto_change]
    exact h addr e he
  · rw [haddr]
    exact hcreate e' hnew

lemma protos_run {Q : String → EgressProto → Prop} {ops : List RegistryOp} (h : reg.Protos Q)
    (hcreate : ∀ op ∈ ops, ∀ ttl e, op.create ttl = some e → Q op.addr e.node.proto) :
    (run step reg ops).Protos Q := by
  induction ops generalizing reg with
  | nil => exact h
  | cons op ops ih =>
    exact ih (protos_step h (hcreate op List.mem_cons_self reg.ttl))
      (fun o ho => hcreate o (List.mem_cons_of_mem op ho))

/-- Only failures leave marks. -/
lemma failMarks_step {op : RegistryOp} (h : op.extendsTtl = true) :
    (reg.step op).failMarks = reg.failMarks := by
  have hrenew : ∀ addr now, (reg.renewTtl addr now).failMarks = reg.failMarks := by
    intro addr now
    unfold renewTtl
    split <;> rfl
  cases op with
  | upsertFull raw fwdLatencyMs anon exitIp now clock =>
    unfold step upsertFull upsertFullBy
    dsimp only
    split
    · rfl
    · exact evictLoop_keeps (J := fun r => r.failMarks = reg.failMarks) (fun _ _ h => h) rfl
  | renewTtl addr now => exact hrenew addr now
  | noteVerifyFailed addr now => cases h
  | reverify addr passed now =>
    obtain rfl : passed = true := h
    exact hrenew addr now

lemma failMarks_run {ops : List RegistryOp} (h : ∀ op ∈ ops, op.extendsTtl = true) :
    (run step reg ops).failMarks = reg.failMarks := by
  induction ops generalizing reg with
  | nil => rfl
  | cons op ops ih =>
    exact (ih (fun o ho => h o (List.mem_cons_of_mem op ho))).trans
      (failMarks_step (h op List.mem_cons_self))

end Registry

namespace TickEvent

/-- What the sources list in the tick. -/
def listed : TickEvent → List RawNode
  | begin outcomes _ _ _ => outcomes.flatten
  | _ => []

/-- The candidate whose check ends. -/
def result : TickEvent → Option RawNode
  | tcpDone raw _ => some raw
  | fullPassed raw _ _ _ _ _ _ => some raw
  | fullFailed raw => some raw
  | _ => none

/-- The address and the protocol of a full check that passed. -/
def passed : TickEvent → List (String × EgressProto)
  | fullPassed raw _ _ _ _ _ _ => [(raw.addr, egressOf raw.proto)]
  | _ => []

/-- The check counts as failed, by itself or by the country of its exit. -/
def fails (c : FreePoolConfig) : TickEvent → Bool
  | tcpDone _ passed => !passed
  | fullPassed _ _ _ _ _ geoMismatch _ => geoMismatch && c.geoEnforce
  | fullFailed _ => true
  | _ => false

end TickEvent

/-- Some source lists the address under the egress protocol `q` in the history. -/
def Offered (events : List TickEvent) (addr : String) (q : EgressProto) : Prop :=
  ∃ raw ∈ events.flatMap TickEvent.listed, raw.addr = addr ∧ egressOf raw.proto = q

namespace FreePoolWorker

variable {c : FreePoolConfig} {w : FreePoolWorker} {e : TickEvent} {raw : RawNode}

/-- The result changes nothing of the candidates that its address has under other protocols. -/
def ResultKept (events : List TickEvent) (c : FreePoolConfig) (w : FreePoolWorker)
    (e : TickEvent) : Prop :=
  ∀ raw ∈ e.result, ∀ q, q ≠ egressOf raw.proto → Offered events raw.addr q →
    (w.step c e).registry.candidate raw.addr q = w.registry.candidate raw.addr q ∧
      ∀ now window, (w.step c e).registry.failedRecently raw.addr now window =
        w.registry.failedRecently raw.addr now window

/-- The result finds no entry of another protocol, and it does not fail if the address is offered
under another protocol. -/
def OwnResult (events : List TickEvent) (c : FreePoolConfig) (w : FreePoolWorker)
    (e : TickEvent) : Prop :=
  ∀ raw ∈ e.result,
    (∀ entry ∈ w.registry.entries.lookup raw.addr, entry.node.proto = egressOf raw.proto) ∧
      (e.fails c = true → ∀ q, q ≠ egressOf raw.proto → ¬Offered events raw.addr q)

/-- Each node of a snapshot passed a full check under its protocol. -/
def SnapshotVerified (w : FreePoolWorker) : Prop :=
  ∀ now requireElite, ∀ n ∈ w.registry.snapshot now requireElite, (n.addr, n.proto) ∈ w.verified

end FreePoolWorker

/-- The results of one protocol leave the other alone, nodes were verified under their protocols,
and candidates are the same for `fetch_all` and for the registry. -/
structure KeptPerProtocol (c : FreePoolConfig) (events : List TickEvent) : Prop where
  results : Along (FreePoolWorker.step c) (FreePoolWorker.ResultKept events c) (.new c) events
  verified : ∀ pre, pre <+: events →
    (run (FreePoolWorker.step c) (.new c) pre).SnapshotVerified
  identity : ∀ raw ∈ events.flatMap TickEvent.listed, ∀ raw' ∈ events.flatMap TickEvent.listed,
    raw.fetchKey = raw'.fetchKey ↔ raw.addr = raw'.addr

namespace FreePoolWorker

variable {c : FreePoolConfig} {w : FreePoolWorker} {e : TickEvent} {raw : RawNode}

/-! ### Results -/

/-- A step applies the result of the check that ended, or leaves the registry alone. -/
lemma step_cases (w : FreePoolWorker) (e : TickEvent) :
    (w.step c e).registry = w.registry ∧ (w.step c e).verified = w.verified ∨
      (w.step c e).registry = run Registry.step w.registry (w.resultOps c e) ∧
        (w.step c e).verified = w.verified ++ e.passed := by
  unfold step
  cases e with
  | begin =>
    dsimp only
    split
    · exact .inl ⟨rfl, rfl⟩
    · exact .inl ⟨rfl, rfl⟩
  | joinFailed =>
    dsimp only
    split
    · exact .inl ⟨rfl, rfl⟩
    · split
      · exact .inl ⟨rfl, rfl⟩
      · exact .inl ⟨rfl, rfl⟩
  | fullPassed =>
    dsimp only
    split
    · exact .inr ⟨rfl, rfl⟩
    · exact .inl ⟨rfl, rfl⟩
  | tcpDone | fullFailed =>
    dsimp only
    split
    · exact .inr ⟨rfl, (List.append_nil _).symm⟩
    · exact .inl ⟨rfl, rfl⟩

/-- A result renews the entry of its address, notes a failure of it, or inserts it after a full
check that passed. -/
lemma resultOps_cases {op : RegistryOp} (h : op ∈ w.resultOps c e) :
    (∃ raw now, e.result = some raw ∧ op = .renewTtl raw.addr now) ∨
      (∃ raw now, e.result = some raw ∧ e.fails c = true ∧ op = .noteVerifyFailed raw.addr now) ∨
      ∃ raw fwdLatencyMs anon exitIp now clock, e.result = some raw ∧
        e.passed = [(raw.addr, egressOf raw.proto)] ∧
        op = .upsertFull raw fwdLatencyMs anon exitIp now clock := by
  cases e with
  | begin => cases h
  | joinFailed => cases h
  | tcpDone raw passed =>
    cases passed with
    | true =>
      unfold resultOps at h
      dsimp only at h
      split at h
      · cases h
      · exact .inl ⟨raw, _, rfl, List.mem_singleton.mp h⟩
    | false => exact .inr (.inl ⟨raw, _, rfl, rfl, List.mem_singleton.mp h⟩)
  | fullPassed raw fwdLatencyMs anon exitIp clock geoMismatch geoClock =>
    rcases List.mem_cons.mp h with rfl | h
    · exact .inr (.inr ⟨raw, _, _, _, _, _, rfl, rfl, rfl⟩)
    · split at h
      · rename_i hgeo
        exact .inr (.inl ⟨raw, _, rfl, hgeo, List.mem_singleton.mp h⟩)
      · cases h
  | fullFailed raw => exact .inr (.inl ⟨raw, _, rfl, rfl, List.mem_singleton.mp h⟩)

lemma result_of_mem {op : RegistryOp} (h : op ∈ w.resultOps c e) : ∃ raw, e.result = some raw := by
  rcases resultOps_cases h with ⟨raw, _, hr, -⟩ | ⟨raw, _, hr, -⟩ | ⟨raw, _, _, _, _, _, hr, -⟩
  · exact ⟨raw, hr⟩
  · exact ⟨raw, hr⟩
  · exact ⟨raw, hr⟩

lemma mem_resultOps {op : RegistryOp} (hresult : e.result = some raw)
    (h : op ∈ w.resultOps c e) :
    op.addr = raw.addr ∧ (∀ ttl entry, op.create ttl = some entry →
      entry.node.proto = egressOf raw.proto ∧ (op.addr, entry.node.proto) ∈ e.passed) ∧
      (e.fails c = false → op.extendsTtl = true) := by
  rcases resultOps_cases h with ⟨raw', now, hr, rfl⟩ | ⟨raw', now, hr, hfails, rfl⟩ |
    ⟨raw', fwdLatencyMs, anon, exitIp, now, clock, hr, hpassed, rfl⟩
  · obtain rfl := Option.some.inj (hr.symm.trans hresult)
    exact ⟨rfl, (fun _ _ hc => by cases hc), fun _ => rfl⟩
  · obtain rfl := Option.some.inj (hr.symm.trans hresult)
    refine ⟨rfl, (fun _ _ hc => by cases hc), fun hf => ?_⟩
    rw [hfails] at hf
    cases hf
  · obtain rfl := Option.some.inj (hr.symm.trans hresult)
    refine ⟨rfl, fun _ _ hc => ?_, fun _ => rfl⟩
    rw [hpassed]
    cases hc
    exact ⟨rfl, List.mem_singleton_self _⟩

lemma candidate_eq_none {reg : Registry} {addr : String} {p q : EgressProto}
    (h : ∀ entry, reg.entries.lookup addr = some entry → entry.node.proto = p) (hne : q ≠ p) :
    reg.candidate addr q = none := by
  unfold Registry.candidate
  rcases hlook : reg.entries.lookup addr with _ | entry
  · rfl
  · have hproto := h entry hlook
    have hq : ¬entry.node.proto = q := fun hq => hne (hq.symm.trans hproto)
    simp [hq]

theorem resultKept_of_own {events : List TickEvent} (w : FreePoolWorker) (e : TickEvent)
    (h : w.OwnResult events c e) : w.ResultKept events c e := by
  intro raw hraw q hq hoffered
  obtain ⟨hown, hfails⟩ := h raw hraw
  have hpass : e.fails c = false := by
    rcases hf : e.fails c with _ | _
    · rfl
    · exact absurd hoffered (hfails hf q hq)
  rcases step_cases (c := c) w e with ⟨hreg, -⟩ | ⟨hreg, -⟩
  · rw [hreg]
    exact ⟨rfl, fun _ _ => rfl⟩
  · have hprotos : (run Registry.step w.registry (w.resultOps c e)).Protos
        (fun addr p => addr = raw.addr → p = egressOf raw.proto) :=
      Registry.protos_run (fun addr entry hlook haddr => hown entry (haddr ▸ hlook))
        (fun op hop ttl entry hcreate _ => ((mem_resultOps hraw hop).2.1 ttl entry hcreate).1)
    have hmarks : (run Registry.step w.registry (w.resultOps c e)).failMarks =
        w.registry.failMarks :=
      Registry.failMarks_run (fun op hop => (mem_resultOps hraw hop).2.2 hpass)
    rw [hreg]
    constructor
    · rw [candidate_eq_none (fun entry hlook => hprotos raw.addr entry hlook rfl) hq,
        candidate_eq_none hown hq]
    · intro now window
      unfold Registry.failedRecently
      rw [hmarks]

/-! ### Verified protocols -/

def ProtosVerified (w : FreePoolWorker) : Prop :=
  w.registry.Protos (fun addr p => (addr, p) ∈ w.verified)

lemma protosVerified_step (w : FreePoolWorker) (e : TickEvent) (h : w.ProtosVerified) :
    (w.step c e).ProtosVerified := by
  unfold ProtosVerified
  rcases step_cases (c := c) w e with ⟨hreg, hverified⟩ | ⟨hreg, hverified⟩
  · rw [hreg, hverified]
    exact h
  · rw [hreg, hverified]
    refine Registry.protos_run (fun addr entry hlook => List.mem_append_left _ (h addr entry hlook))
      (fun op hop ttl entry hcreate => List.mem_append_right _ ?_)
    obtain ⟨raw, hresult⟩ := result_of_mem hop
    exact ((mem_resultOps hresult hop).2.1 ttl entry hcreate).2

/-- In every history, each node of each snapshot passed a full check under its own protocol. -/
theorem snapshotVerified_run (c : FreePoolConfig) (events : List TickEvent) :
    (run (step c) (.new c) events).SnapshotVerified := by
  have hinit : (new c).ProtosVerified := by
    intro addr entry hlook
    cases hlook
  intro now requireElite n hn
  have hprotos := run_invariant (fun w e => protosVerified_step (c := c) w e) hinit events
  obtain ⟨entry, hlook, rfl, -⟩ := Registry.mem_snapshot hn
  exact hprotos _ entry hlook

end FreePoolWorker

/-! ### Identities -/

lemma FreeProto.debug_injective : Function.Injective FreeProto.debug := by
  intro p q h
  cases p <;> cases q <;> first | rfl | exact absurd h (by decide)

lemma RawNode.proto_eq_of_fetchKey {raw raw' : RawNode} (haddr : raw.addr = raw'.addr)
    (h : raw.fetchKey = raw'.fetchKey) : raw.proto = raw'.proto := by
  unfold fetchKey at h
  rw [haddr] at h
  exact FreeProto.debug_injective ((String.append_right_inj _).mp h)

/-- Where an address is listed under two egress protocols, `fetch_all` and the registry do not agree
on what a candidate is. Results stay with their own protocols if each finds an entry of its own
protocol or none and does not fail; the nodes that snapshots offer were always verified under their
protocols. -/
theorem protocols_mixed (c : FreePoolConfig) (events : List TickEvent) (addr : String)
    (p q : EgressProto) (hpq : p ≠ q) (hp : Offered events addr p) (hq : Offered events addr q) :
    ¬KeptPerProtocol c events ∧
      (Along (FreePoolWorker.step c) (FreePoolWorker.OwnResult events c) (.new c) events →
        Along (FreePoolWorker.step c) (FreePoolWorker.ResultKept events c) (.new c) events) ∧
      ∀ pre, pre <+: events → (run (FreePoolWorker.step c) (.new c) pre).SnapshotVerified := by
  refine ⟨?_, fun hown => ?_, fun pre _ => FreePoolWorker.snapshotVerified_run c pre⟩
  · rintro ⟨-, -, hidentity⟩
    obtain ⟨raw, hraw, rfl, rfl⟩ := hp
    obtain ⟨raw', hraw', haddr, rfl⟩ := hq
    have hkey := (hidentity raw hraw raw' hraw').mpr haddr.symm
    exact hpq (congrArg egressOf (RawNode.proto_eq_of_fetchKey haddr.symm hkey))
  · exact along_imp (fun w e => FreePoolWorker.resultKept_of_own w e) hown

def mixConfig : FreePoolConfig := ⟨fromSecs 600, 2000, 5, fromSecs 300, false⟩

def listedSocks : RawNode := ⟨"203.0.113.1", 8080, .socks5, none, "b"⟩

/-- Two sources list one address, as HTTP and as SOCKS5; both candidates pass the first check. -/
def mixTick : List TickEvent :=
  [.begin [[listedNode], [listedSocks]] 0 true 0, .tcpDone listedNode true,
    .tcpDone listedSocks true]

lemma mixTick_offered (events : List TickEvent) :
    Offered (mixTick ++ events) listedNode.addr .http ∧
      Offered (mixTick ++ events) listedNode.addr .socks5 :=
  ⟨⟨listedNode, by simp [mixTick, TickEvent.listed], rfl, rfl⟩,
    ⟨listedSocks, by simp [mixTick, TickEvent.listed], rfl, rfl⟩⟩

theorem protocols_mixed_one_tick :
    ¬KeptPerProtocol mixConfig mixTick ∧
      (Along (FreePoolWorker.step mixConfig) (FreePoolWorker.OwnResult mixTick mixConfig)
          (.new mixConfig) mixTick →
        Along (FreePoolWorker.step mixConfig) (FreePoolWorker.ResultKept mixTick mixConfig)
          (.new mixConfig) mixTick) ∧
      ∀ pre, pre <+: mixTick →
        (run (FreePoolWorker.step mixConfig) (.new mixConfig) pre).SnapshotVerified :=
  protocols_mixed mixConfig mixTick listedNode.addr .http .socks5 (by decide)
    (mixTick_offered []).1 (mixTick_offered []).2

/-- The SOCKS5 check fails after the HTTP check passed: the HTTP entry goes into back-off. -/
theorem failed_socks_backs_off_http :
    ¬KeptPerProtocol mixConfig
      (mixTick ++ [.fullPassed listedNode 100 .elite none 0 false 0, .fullFailed listedSocks]) := by
  intro h
  have hkept := h.results.2.2.2.2.1 listedSocks rfl .http (by decide) (mixTick_offered _).1
  have hstreak := congrArg (Option.map (fun e => e.health.failStreak)) hkept.1
  revert hstreak
  decide

end IPProxyPool
