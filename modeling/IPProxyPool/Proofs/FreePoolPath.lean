import IPProxyPool.Lib.KeyedLife
import IPProxyPool.Model.FreePoolPath
import IPProxyPool.Proofs.Membership
import IPProxyPool.Proofs.Readmission
import IPProxyPool.Proofs.Sticky

/-!
# Where served nodes come from

Every node that a selection returns was handed to the pool, or was in the snapshot of a merge. What
is in a snapshot was listed by a source and passed both checks in one tick; its latest passed check
is not older than the TTL, and its latest failures have been waited out.
-/

namespace IPProxyPool
open AssocTable Transition KeyedLife

/-! ### The life of an entry -/

/-- What a check that passed in full reports of the exit. -/
def RegistryOp.reported : RegistryOp → Option (Option String × AnonLevel)
  | upsertFull _ _ anon exitIp _ _ => some (exitIp, anon)
  | _ => none

namespace Registry

variable {reg : Registry} {ttl : Nat} {applied : List RegistryOp}

lemma ttl_step (reg : Registry) (op : RegistryOp) : (reg.step op).ttl = reg.ttl := by
  have hrenew : ∀ addr now, (reg.renewTtl addr now).ttl = reg.ttl := by
    intro addr now
    unfold renewTtl
    split <;> rfl
  have hfail : ∀ addr now, (reg.noteVerifyFailed addr now).ttl = reg.ttl := by
    intro addr now
    unfold noteVerifyFailed
    dsimp only
    split <;> rfl
  cases op with
  | upsertFull raw fwdLatencyMs anon exitIp now clock =>
    unfold step upsertFull upsertFullBy
    dsimp only
    split
    · rfl
    · exact evictLoop_keeps (J := fun r => r.ttl = reg.ttl) (fun _ _ h => h) rfl
  | renewTtl addr now => exact hrenew addr now
  | noteVerifyFailed addr now => exact hfail addr now
  | reverify addr passed now =>
    cases passed with
    | true => exact hrenew addr now
    | false => exact hfail addr now

/-- The entries of the registry have their lives in the operations. -/
structure Lived (ttl : Nat) (reg : Registry) (applied : List RegistryOp) : Prop where
  ttl_eq : reg.ttl = ttl
  lives : Lives (fun reg addr => reg.entries.lookup addr) RegistryOp.addr (RegistryOp.create ttl)
    (fun op e => op.change ttl e) reg applied

lemma lived_withCapacity (ttl maxNodes : Nat) : Lived ttl (withCapacity ttl maxNodes) [] :=
  ⟨rfl, fun addr e h => by cases h⟩

lemma lived_run (h : Lived ttl reg applied) (ops : List RegistryOp) :
    Lived ttl (run step reg ops) (ops.reverse ++ applied) := by
  induction ops generalizing reg applied with
  | nil => exact h
  | cons op ops ih =>
    rw [List.reverse_cons, List.append_assoc, List.singleton_append]
    refine ih ⟨(ttl_step reg op).trans h.ttl_eq, lives_step (fun addr e he => ?_) h.lives⟩
    have hleft := step_leftBy op he
    unfold Registry.LeftBy at hleft
    rw [h.ttl_eq] at hleft
    exact hleft

section Life

variable {addr : String} {e : Entry}

/-- The node of an entry is that of the candidate whose full check created the entry, but for its
exit and its weight. -/
lemma made_of_life (h : Life RegistryOp.addr (RegistryOp.create ttl) (fun op e => op.change ttl e)
    addr applied e) : ∃ raw fwdLatencyMs anon exitIp now clock,
      RegistryOp.upsertFull raw fwdLatencyMs anon exitIp now clock ∈ applied ∧ raw.addr = addr ∧
        e.node = { freeNode raw .fresh e.node.exitIp with weight := e.node.weight } := by
  let bare (e : Entry) : ProxyNode := { e.node with weight := 0, exitIp := none }
  have hchange : ∀ (op : RegistryOp) (e : Entry), bare (op.change ttl e) = bare e := by
    intro op e
    cases op with
    | reverify addr passed now => cases passed <;> rfl
    | _ => rfl
  obtain ⟨op, hop, haddr, first, hfirst, hnode⟩ := h.kept bare hchange
  cases op with
  | upsertFull raw fwdLatencyMs anon exitIp now clock =>
    refine ⟨raw, fwdLatencyMs, anon, exitIp, now, clock, hop, haddr, ?_⟩
    cases hfirst
    rcases e with ⟨⟨ip, port, nodeAddr, username, password, country, tier, provider, weight, proto,
      exit⟩, health, expiresAt⟩
    cases hnode
    rfl
  | _ => cases hfirst

lemma reported_of_life (h : Life RegistryOp.addr (RegistryOp.create ttl)
    (fun op e => op.change ttl e) addr applied e) :
    ∃ op, latest (fun op => op.reported.isSome) applied addr = some op ∧
      op.reported = some (e.node.exitIp, e.health.anon) := by
  refine h.latest_set (fun e => (e.node.exitIp, e.health.anon)) _ (fun op e he => ?_)
    (fun op e => ?_)
  · cases op <;> cases he
    rfl
  · cases op with
    | reverify addr passed now => cases passed <;> rfl
    | _ => rfl

lemma extended_of_life (h : Life RegistryOp.addr (RegistryOp.create ttl)
    (fun op e => op.change ttl e) addr applied e) :
    ∃ op, latest RegistryOp.extendsTtl applied addr = some op ∧ e.expiresAt = op.now + ttl := by
  have hcreate : ∀ (op : RegistryOp) (e : Entry), op.create ttl = some e →
      (if op.extendsTtl then some (op.now + ttl) else none) = some e.expiresAt := by
    intro op e he
    cases op <;> cases he
    rfl
  have hchange : ∀ (op : RegistryOp) (e : Entry), (op.change ttl e).expiresAt =
      (if op.extendsTtl then some (op.now + ttl) else none).getD e.expiresAt := by
    intro op e
    cases op with
    | reverify addr passed now => cases passed <;> rfl
    | _ => rfl
  obtain ⟨op, hfind, hset⟩ := h.latest_set Entry.expiresAt _ hcreate hchange
  have hsame : (fun op : RegistryOp => op.addr == addr &&
      (if op.extendsTtl then some (op.now + ttl) else none).isSome) =
        fun op => op.addr == addr && op.extendsTtl := by
    funext op
    cases op.extendsTtl <;> rfl
  rw [hsame] at hfind
  refine ⟨op, hfind, ?_⟩
  split at hset
  · exact (Option.some.inj hset).symm
  · cases hset

end Life

end Registry

/-! ### The two checks -/

/-- A source listed the candidate when the current tick began, and `tick` is what came since. -/
def Listed (events : List TickEvent) (baseline : Bool) (raw : RawNode) (tick : List TickEvent) :
    Prop :=
  ∃ pre outcomes skipClock now, events = pre ++ .begin outcomes skipClock baseline now :: tick ∧
    (∀ e ∈ tick, e.begins = false) ∧ raw ∈ outcomes.flatten

/-- In one tick, with a reachable baseline, a source listed the candidate and it passed the first
check and then the full one. -/
def PassedBoth (events : List TickEvent) (raw : RawNode) : Prop :=
  ∃ seen rest tick full, events = seen ++ rest ∧ Listed seen true raw tick ∧
    [.tcpDone raw true, full].Sublist tick ∧ full.result = some raw ∧
      full.passed = [(raw.addr, egressOf raw.proto)]

lemma Listed.snoc {events tick : List TickEvent} {baseline : Bool} {raw : RawNode}
    (h : Listed events baseline raw tick) {e : TickEvent} (he : e.begins = false) :
    Listed (events ++ [e]) baseline raw (tick ++ [e]) := by
  obtain ⟨pre, outcomes, skipClock, now, rfl, htick, hraw⟩ := h
  refine ⟨pre, outcomes, skipClock, now, by simp, fun e' he' => ?_, hraw⟩
  rcases List.mem_append.mp he' with hold | hnew
  · exact htick e' hold
  · rw [List.mem_singleton.mp hnew]
    exact he

lemma PassedBoth.snoc {events : List TickEvent} {raw : RawNode} (h : PassedBoth events raw)
    (e : TickEvent) : PassedBoth (events ++ [e]) raw := by
  obtain ⟨seen, rest, tick, full, rfl, hseen⟩ := h
  exact ⟨seen, rest ++ [e], tick, full, List.append_assoc _ _ _, hseen⟩

/-- What is being checked was listed in the current tick, and the full checks are those of
candidates that passed the first one. -/
structure Checking (w : FreePoolWorker) (events : List TickEvent) : Prop where
  tcp : ∀ raw ∈ w.tcp, ∃ tick, Listed events w.baseline raw tick
  full : ∀ raw ∈ w.full, ∃ tick, Listed events true raw tick ∧ .tcpDone raw true ∈ tick

namespace FreePoolWorker

variable {c : FreePoolConfig} {w : FreePoolWorker} {events : List TickEvent} {e : TickEvent}

lemma retainUnseen_subset (seen : List String) (raws : List RawNode) :
    retainUnseen seen raws ⊆ raws := by
  induction raws generalizing seen with
  | nil => exact List.Subset.refl _
  | cons raw raws ih =>
    unfold retainUnseen
    split
    · exact List.subset_cons_of_subset raw (ih seen)
    · exact List.cons_subset_cons raw (ih _)

lemma screened_subset (c : FreePoolConfig) (w : FreePoolWorker) (outcomes : List (List RawNode))
    (skipClock : Instant) : w.screened c outcomes skipClock ⊆ outcomes.flatten := by
  intro raw hraw
  have hcapped := List.mem_of_mem_filter hraw
  have hfetched : raw ∈ fetchAll outcomes := by
    unfold capIntake at hcapped
    split at hcapped
    · exact hcapped
    · exact (List.mem_insertionSort _).mp (List.mem_of_mem_take hcapped)
  exact retainUnseen_subset [] _ hfetched

lemma checking_step (h : Checking w events) (he : w.awaits e = true) :
    Checking (w.step c e) (events ++ [e]) := by
  have htcp : ∀ {b}, e.begins = false → ∀ raw ∈ w.tcp, w.baseline = b →
      ∃ tick, Listed (events ++ [e]) b raw tick := by
    rintro _ hbegins raw hraw rfl
    obtain ⟨tick, hlisted⟩ := h.tcp raw hraw
    exact ⟨tick ++ [e], hlisted.snoc hbegins⟩
  have hfull : e.begins = false → ∀ raw ∈ w.full,
      ∃ tick, Listed (events ++ [e]) true raw tick ∧ .tcpDone raw true ∈ tick := by
    intro hbegins raw hraw
    obtain ⟨tick, hlisted, hdone⟩ := h.full raw hraw
    exact ⟨tick ++ [e], hlisted.snoc hbegins, List.mem_append_left _ hdone⟩
  cases e with
  | begin outcomes skipClock baseline now =>
    have hidle : w.tcp = [] ∧ w.full = [] := of_decide_eq_true he
    unfold step
    dsimp only
    rw [if_pos hidle]
    refine ⟨fun raw hraw => ⟨[], events, outcomes, skipClock, now, rfl, by simp,
      screened_subset c w outcomes skipClock hraw⟩, fun raw hraw => ?_⟩
    dsimp only at hraw
    rw [hidle.2] at hraw
    cases hraw
  | tcpDone raw passed =>
    have hin : raw ∈ w.tcp := of_decide_eq_true he
    unfold step
    dsimp only
    rw [if_pos hin]
    refine ⟨fun r hr => htcp rfl r (List.mem_of_mem_erase hr) rfl, fun r hr => ?_⟩
    dsimp only at hr
    split at hr
    · rename_i hgoes
      rw [Bool.and_eq_true] at hgoes
      obtain ⟨rfl, hbaseline⟩ := hgoes
      rcases List.mem_append.mp hr with hold | hnew
      · exact hfull rfl r hold
      · obtain rfl := List.mem_singleton.mp hnew
        obtain ⟨tick, hlisted⟩ := h.tcp r hin
        rw [hbaseline] at hlisted
        exact ⟨tick ++ [.tcpDone r true], hlisted.snoc rfl, by simp⟩
    · exact hfull rfl r hr
  | fullPassed raw fwdLatencyMs anon exitIp clock geoMismatch geoClock =>
    have hin : w.tcp = [] ∧ raw ∈ w.full := of_decide_eq_true he
    unfold step
    dsimp only
    rw [if_pos hin]
    exact ⟨fun r hr => htcp rfl r hr rfl, fun r hr => hfull rfl r (List.mem_of_mem_erase hr)⟩
  | fullFailed raw =>
    have hin : w.tcp = [] ∧ raw ∈ w.full := of_decide_eq_true he
    unfold step
    dsimp only
    rw [if_pos hin]
    exact ⟨fun r hr => htcp rfl r hr rfl, fun r hr => hfull rfl r (List.mem_of_mem_erase hr)⟩
  | joinFailed raw =>
    unfold step
    dsimp only
    split
    · exact ⟨fun r hr => htcp rfl r (List.mem_of_mem_erase hr) rfl, hfull rfl⟩
    · split
      · exact ⟨fun r hr => htcp rfl r hr rfl, fun r hr => hfull rfl r (List.mem_of_mem_erase hr)⟩
      · exact ⟨fun r hr => htcp rfl r hr rfl, hfull rfl⟩

/-- An entry is created for a candidate that passed both checks. -/
lemma passedBoth_of_applies (h : Checking w events) {raw : RawNode} {fwdLatencyMs : Nat}
    {anon : AnonLevel} {exitIp : Option String} {now clock : Instant}
    (hop : .upsertFull raw fwdLatencyMs anon exitIp now clock ∈ w.applies c e) :
    PassedBoth (events ++ [e]) raw := by
  unfold applies at hop
  split at hop
  · rename_i harrives
    rcases resultOps_cases hop with ⟨_, _, -, heq⟩ | ⟨_, _, -, -, heq⟩ |
      ⟨raw', _, _, _, _, _, hresult, hpassed, heq⟩
    · cases heq
    · cases heq
    · cases heq
      cases e with
      | fullPassed raw' =>
        cases hresult
        obtain ⟨-, hin⟩ : w.tcp = [] ∧ raw ∈ w.full := of_decide_eq_true harrives
        obtain ⟨tick, hlisted, hdone⟩ := h.full raw hin
        exact ⟨_, [], _, _, (List.append_nil _).symm, hlisted.snoc rfl,
          (List.singleton_sublist.mpr hdone).append (List.Sublist.refl _), rfl, hpassed⟩
      | begin | tcpDone | fullFailed | joinFailed => cases hpassed
  · cases hop

end FreePoolWorker

/-! ### Snapshots -/

/-- What the results of the worker have done to its registry until the merge, from the latest
operation back. -/
def FreeMerge.applied (c : FreePoolConfig) (merge : FreeMerge) : List RegistryOp :=
  (run (FreePoolLog.step c) (.new c) merge.events).applied

/-- A node of the merge is that of a candidate which passed both checks in one tick, with the exit
that the latest full check at its address reported. The latest passed check at its address is
within the TTL, and if its latest check failed, the back-off after that failure is over. -/
structure Vetted (c : FreePoolConfig) (requireElite : Bool) (merge : FreeMerge) (n : ProxyNode) :
    Prop where
  made : ∃ raw, PassedBoth merge.events raw ∧
    n = { Registry.freeNode raw .fresh n.exitIp with weight := n.weight }
  reported : ∃ op anon, latest (fun op => op.reported.isSome) (merge.applied c) n.addr = some op ∧
    op.reported = some (n.exitIp, anon) ∧ (requireElite = true → anon = .elite)
  unexpired : ∃ op, latest RegistryOp.extendsTtl (merge.applied c) n.addr = some op ∧
    merge.now < op.now + c.ttl
  rested : ∀ op, latest RegistryOp.decides (merge.applied c) n.addr = some op → op.fails = true →
    op.now + fromSecs (backoffSecs (strikes (merge.applied c) n.addr)) ≤ merge.now
  weight : 1 ≤ n.weight ∧ n.weight ≤ freePoolWeightTrustedMax

lemma Vetted.provider {c : FreePoolConfig} {requireElite : Bool} {merge : FreeMerge}
    {n : ProxyNode} (h : Vetted c requireElite merge n) :
    RustText.startsWith n.provider "free-" = true := by
  obtain ⟨⟨raw, -, heq⟩, -⟩ := h
  rw [heq]
  simp [Registry.freeNode, ProxyNode.withProto, ProxyNode.withExitIp, ProxyNode.new,
    RustText.startsWith]

/-- What is known of a worker after its events. -/
structure Informed (c : FreePoolConfig) (events : List TickEvent) (s : FreePoolLog) : Prop where
  checking : Checking s.worker events
  lived : Registry.Lived c.ttl s.worker.registry s.applied
  recalls : s.Recalls
  passed : ∀ raw fwdLatencyMs anon exitIp now clock,
    .upsertFull raw fwdLatencyMs anon exitIp now clock ∈ s.applied → PassedBoth events raw

namespace Informed

variable {c : FreePoolConfig} {events : List TickEvent} {s : FreePoolLog} {e : TickEvent}

lemma new (c : FreePoolConfig) : Informed c [] (.new c) where
  checking := ⟨fun raw h => (by cases h), fun raw h => (by cases h)⟩
  lived := Registry.lived_withCapacity _ _
  recalls := FreePoolLog.recalls_new c
  passed := fun raw fwdLatencyMs anon exitIp now clock h => by cases h

lemma step (h : Informed c events s) (he : s.worker.awaits e = true) :
    Informed c (events ++ [e]) (s.step c e) where
  checking := FreePoolWorker.checking_step h.checking he
  lived := by
    unfold FreePoolLog.step
    rw [FreePoolWorker.registry_step]
    exact Registry.lived_run h.lived _
  recalls := FreePoolLog.recalls_step s e h.recalls
  passed := by
    intro raw fwdLatencyMs anon exitIp now clock hop
    rcases List.mem_append.mp hop with hnew | hold
    · exact FreePoolWorker.passedBoth_of_applies h.checking (List.mem_reverse.mp hnew)
    · exact (h.passed raw fwdLatencyMs anon exitIp now clock hold).snoc e

/-- The nodes that a snapshot shows are vetted. -/
lemma vetted {requireElite : Bool} {merge : FreeMerge} {n : ProxyNode}
    (h : Informed c merge.events (run (FreePoolLog.step c) (.new c) merge.events))
    (hn : n ∈ (run (FreePoolLog.step c) (.new c) merge.events).worker.registry.snapshot merge.now
      requireElite) : Vetted c requireElite merge n := by
  obtain ⟨e, hlook, rfl, hlive, hrested, helite⟩ := Registry.mem_snapshot_iff.mp hn
  have hlife := h.lived.lives _ e hlook
  have htold := h.recalls.entries _ e hlook
  obtain ⟨raw, fwdLatencyMs, anon, exitIp, now, clock, hop, -, hnode⟩ := Registry.made_of_life hlife
  obtain ⟨op, hop', hreported⟩ := Registry.reported_of_life hlife
  obtain ⟨op', hextends, hexpires⟩ := Registry.extended_of_life hlife
  refine ⟨⟨raw, h.passed _ _ _ _ _ _ hop, hnode⟩, ⟨op, _, hop', hreported, helite⟩,
    ⟨op', hextends, hexpires ▸ hlive⟩, fun last hlast hfails => ?_, ?_⟩
  · have hbackoff := htold.backoff last hlast hfails
    rw [htold.strikes] at hbackoff
    unfold Health.backedOff at hrested
    rw [hbackoff] at hrested
    exact Nat.not_lt.mp (of_decide_eq_false hrested)
  · rw [((run (FreePoolLog.step c) (.new c) merge.events).worker.registry.entries_ok _ e
      hlook).weight_eq]
    exact ⟨e.health.one_le_weight, e.health.weight_le⟩

end Informed

/-! ### What the router holds -/

lemma Reweighted.exists_mem {l l' : List ProxyNode} (h : Reweighted l l') {n : ProxyNode}
    (hn : n ∈ l') : ∃ m ∈ l, ∃ w, n = { m with weight := w } := by
  induction h with
  | nil => cases hn
  | @cons a b l l' hab _ ih =>
    rcases List.mem_cons.mp hn with rfl | hrest
    · exact ⟨a, List.mem_cons_self, hab⟩
    · obtain ⟨m, hm, hw⟩ := ih hrest
      exact ⟨m, List.mem_cons_of_mem a hm, hw⟩

namespace RouterEngine

/-- The node is in the pool, in one of its indexes or bound to a session. -/
def Holds (r : RouterEngine) (n : ProxyNode) : Prop :=
  n ∈ r.pools ∨ (∃ key nodes, r.buckets.lookup key = some nodes ∧ n ∈ nodes) ∨ n ∈ r.hotNodes ∨
    ∃ sessionId createdAt, r.sessionStore.lookup sessionId = some (n, createdAt)

/-- The nodes of the pool have `P`, those of the sessions `Q`. -/
structure HeldBy (P Q : ProxyNode → Prop) (r : RouterEngine) : Prop where
  indexed : r.WellIndexed
  pools : ∀ n ∈ r.pools, P n
  sessions : ∀ sessionId b, r.sessionStore.lookup sessionId = some b → Q b.1

variable {P Q : ProxyNode → Prop} {r : RouterEngine}

lemma mem_pools_of_index (h : r.WellIndexed) {n : ProxyNode}
    (hn : (∃ key nodes, r.buckets.lookup key = some nodes ∧ n ∈ nodes) ∨ n ∈ r.hotNodes) :
    n ∈ r.pools := by
  rcases hn with ⟨key, nodes, hlook, hmem⟩ | hhot
  · rw [h.1, lookup_buildBuckets] at hlook
    split at hlook
    · cases hlook
    · cases hlook
      exact List.mem_of_mem_filter hmem
  · rw [h.2] at hhot
    exact List.mem_of_mem_filter ((List.mem_insertionSort _).mp (List.mem_of_mem_take hhot))

lemma HeldBy.holds (h : r.HeldBy P Q) (hPQ : ∀ n, P n → Q n) {n : ProxyNode} (hn : r.Holds n) :
    Q n := by
  rcases hn with hpool | hbucket | hhot | ⟨sessionId, createdAt, hlook⟩
  · exact hPQ n (h.pools n hpool)
  · exact hPQ n (h.pools n (mem_pools_of_index h.indexed (.inl hbucket)))
  · exact hPQ n (h.pools n (mem_pools_of_index h.indexed (.inr hhot)))
  · exact h.sessions sessionId (n, createdAt) hlook

/-- A pool writer hands its own nodes to the pool and changes weights. -/
lemma pools_writer (hP : ∀ n w, P n → P { n with weight := w }) (hpools : ∀ n ∈ r.pools, P n)
    {op : RouterOp} (hgiven : ∀ n ∈ op.given, P n) : ∀ n ∈ (r.step op).pools, P n := by
  have hreweighted : ∀ l, Reweighted r.pools l → ∀ n ∈ l, P n := by
    intro l hl n hn
    obtain ⟨m, hm, w, rfl⟩ := hl.exists_mem hn
    exact hP m w (hpools m hm)
  by_cases hw : op.writesPool = false
  · rw [(samePool_step r op hw).pools]
    exact hpools
  · cases op with
    | reloadNodes nodes => exact hgiven
    | replaceVendorNodes pre nodes =>
      intro n hn
      rcases List.mem_append.mp hn with hold | hnew
      · exact hpools n (List.mem_of_mem_filter hold)
      · exact hgiven n hnew
    | addNode node =>
      intro n hn
      rw [pools_addNode] at hn
      split at hn
      · exact hpools n hn
      · rcases List.mem_append.mp hn with hold | hnew
        · exact hpools n hold
        · exact hgiven n hnew
    | removeNode addr =>
      intro n hn
      rw [pools_removeNode] at hn
      exact hpools n (List.mem_of_mem_filter hn)
    | adjustVendorWeight vendor country weight => exact hreweighted _ (reweighted_map _ _ _)
    | setPaidWeightBoost boostPercent => exact hreweighted _ (reweighted_boostNodes _ _ _)
    | scaleVendorWeights vendor country factor => exact hreweighted _ (reweighted_map _ _ _)
    | setQuarantine | removeQuarantine | sweepExpired | select => exact absurd rfl hw

lemma sessions_bind (hsessions : ∀ sessionId b, r.sessionStore.lookup sessionId = some b → Q b.1)
    (spec : RoutingSpec) {selected : Option ProxyNode} (now : Instant)
    (hsel : ∀ n ∈ selected, Q n) :
    ∀ sessionId b, (r.bindSession spec selected now).sessionStore.lookup sessionId = some b →
      Q b.1 := by
  intro sessionId b hb
  unfold bindSession at hb
  split at hb
  · rename_i key node hkey
    split at hb
    · dsimp only at hb
      rw [lookup_insert_eq] at hb
      split at hb
      · cases hb
        exact hsel _ rfl
      · exact hsessions sessionId b hb
    · exact hsessions sessionId b hb
  · exact hsessions sessionId b hb

/-- What is true of the nodes that are handed over, whatever their weights, stays true of all nodes
that the router holds. -/
lemma heldBy_step (hP : ∀ n w, P n → P { n with weight := w }) (hPQ : ∀ n, P n → Q n)
    (h : r.HeldBy P Q) {op : RouterOp} (hgiven : ∀ n ∈ op.given, P n) :
    (r.step op).HeldBy P Q := by
  refine ⟨wellIndexed_step r op h.indexed, pools_writer hP h.pools hgiven, ?_⟩
  by_cases hw : op.writesPool = true
  · rw [(tables_writer r op hw).1]
    exact h.sessions
  · cases op with
    | setQuarantine domain ip ttlSecs now =>
      change ∀ sessionId b, (r.setQuarantine domain ip ttlSecs now).sessionStore.lookup sessionId =
        some b → Q b.1
      rw [sessionStore_setQuarantine]
      exact h.sessions
    | removeQuarantine domain ip =>
      change ∀ sessionId b, (r.removeQuarantine domain ip).2.sessionStore.lookup sessionId =
        some b → Q b.1
      rw [sessionStore_removeQuarantine]
      exact h.sessions
    | sweepExpired now =>
      intro sessionId b hb
      change (r.sweepExpiredAt now).2.sessionStore.lookup sessionId = some b at hb
      rw [sessionStore_sweep, lookup_retain, Option.filter_eq_some_iff] at hb
      exact h.sessions sessionId b hb.1
    | select spec excluded now draw =>
      unfold step selectNodeExcluding
      dsimp only
      split
      · exact h.sessions
      · refine sessions_bind h.sessions _ now (fun n hn => ?_)
        have hscan := selectFresh_mem_scan h.indexed hn
        exact hPQ n (h.pools n ((mem_scan_iff _ _ _ _ n).mp hscan).1)
    | reloadNodes | replaceVendorNodes | addNode | removeNode | adjustVendorWeight
    | setPaidWeightBoost | scaleVendorWeights => exact absurd rfl hw

/-- A selection returns a node that the router holds, and then the pool has a node of positive
weight at its address. -/
lemma selected_holds (h : r.WellIndexed) {spec : RoutingSpec} {excluded : List String}
    {now : Instant} {draw : Nat} {n : ProxyNode}
    (hn : (r.selectNodeExcluding spec excluded now draw).1 = some n) :
    r.Holds n ∧ ∃ m ∈ r.pools, m.addr = n.addr ∧ 0 < m.weight := by
  rcases selectNodeExcluding_cases h hn with hsticky | ⟨-, hscan⟩
  · obtain ⟨createdAt, hbind, hacc⟩ := (stickyNode_eq_some_iff n).mp hsticky
    constructor
    · unfold sessionBinding at hbind
      split at hbind
      · cases hbind
      · split at hbind
        · exact .inr (.inr (.inr ⟨_, createdAt, hbind⟩))
        · cases hbind
    · unfold stickyAccepts at hacc
      simp only [Bool.and_eq_true] at hacc
      have hlive := hacc.1.1.1.2
      cases hfind : r.pools.find? (fun m => m.addr = n.addr) with
      | none =>
        rw [hfind] at hlive
        cases hlive
      | some m =>
        rw [hfind] at hlive
        simp only [Bool.and_eq_true, decide_eq_true_eq] at hlive
        exact ⟨m, List.mem_of_find?_eq_some hfind, by simpa using List.find?_some hfind, hlive.1⟩
  · obtain ⟨hmem, -, hmatch⟩ := (mem_scan_iff r _ excluded now n).mp hscan
    exact ⟨.inl hmem, n, hmem, rfl, ((matchesNode_iff r n _ now).mp hmatch).weight_pos⟩

lemma HeldBy.mono {P' Q' : ProxyNode → Prop} (h : r.HeldBy P Q) (hP : ∀ n, P n → P' n)
    (hQ : ∀ n, Q n → Q' n) : r.HeldBy P' Q' :=
  ⟨h.indexed, fun n hn => hP n (h.pools n hn),
    fun sessionId b hb => hQ b.1 (h.sessions sessionId b hb)⟩

end RouterEngine

/-- The stateless path binds no session. What else a step of the gateway does to the router is an
operation of the router that hands over the same nodes. -/
lemma SmartProxyGateway.router_op (ucb : BanditArm → VectorD → Nat → ℚ) (g : SmartProxyGateway)
    (op : GatewayOp) : op.given = [] ∧ (g.step ucb op).router = g.router ∨
      ∃ op' : RouterOp, op'.given = op.given ∧ (g.step ucb op).router = g.router.step op' := by
  cases op with
  | addNode node => exact .inr ⟨.addNode node, rfl, rfl⟩
  | removeNode addr => exact .inr ⟨.removeNode addr, rfl, rfl⟩
  | replaceVendorNodes pre nodes => exact .inr ⟨.replaceVendorNodes pre nodes, rfl, rfl⟩
  | select | logUpdate | pruneStaleArms => exact .inl ⟨rfl, rfl⟩

/-! ### Whole runs -/

/-- The node is one of the list, with whatever weight. -/
def WeighedFrom (nodes : List ProxyNode) (n : ProxyNode) : Prop :=
  ∃ m ∈ nodes, ∃ w, n = { m with weight := w }

lemma WeighedFrom.of_mem {nodes : List ProxyNode} {n : ProxyNode} (h : n ∈ nodes) :
    WeighedFrom nodes n :=
  ⟨n, h, n.weight, rfl⟩

lemma WeighedFrom.weigh {nodes : List ProxyNode} {n : ProxyNode} (h : WeighedFrom nodes n)
    (w : Nat) : WeighedFrom nodes { n with weight := w } := by
  obtain ⟨m, hm, w', rfl⟩ := h
  exact ⟨m, hm, w, rfl⟩

/-- The call of `run` is what its events have made of a new worker, and a merge reads the factors of
the nodes that its snapshot shows. -/
structure FreeRun.Sound (c : FreePoolConfig) (requireElite : Bool) (l : FreeRun) : Prop where
  worker_eq : l.worker = (run (FreePoolLog.step c) (.new c) l.events).worker
  informed : Informed c l.events (run (FreePoolLog.step c) (.new c) l.events)
  snapshot : ∀ now read rest, l.phase = .merging now read rest →
    (read.map Prod.fst ++ rest).Perm (l.worker.registry.snapshot now requireElite)

namespace FreeRun

variable {c : FreePoolConfig} {requireElite : Bool} {w : FreePoolWorker} {p : FreeRunPhase}
  {events : List TickEvent}

lemma sound_new : (new c).Sound c requireElite :=
  ⟨rfl, .new c, fun now read rest h => by cases h⟩

lemma Sound.tick (h : (FreeRun.mk w p events).Sound c requireElite) {e : TickEvent}
    (he : (FreeRun.mk w p events).awaits e = true) :
    (FreeRun.mk (w.step c e) .checking (events ++ [e])).Sound c requireElite := by
  obtain ⟨hworker, hinformed, -⟩ := h
  dsimp only at hworker hinformed
  subst hworker
  have hawaits : (run (FreePoolLog.step c) (.new c) events).worker.awaits e = true :=
    (Bool.and_eq_true_iff.mp he).1
  have hrun : run (FreePoolLog.step c) (.new c) (events ++ [e]) =
      (run (FreePoolLog.step c) (.new c) events).step c e := run_append _ _ _ _
  refine ⟨?_, ?_, fun now read rest h => by cases h⟩
  · dsimp only
    rw [hrun]
    rfl
  · dsimp only
    rw [hrun]
    exact hinformed.step hawaits

/-- The worker stays as it is while `merge_once` and the sleep after it go on. -/
lemma Sound.moves (h : (FreeRun.mk w p events).Sound c requireElite) {p' : FreeRunPhase}
    (hsnapshot : ∀ now read rest, p' = .merging now read rest →
      (read.map Prod.fst ++ rest).Perm (w.registry.snapshot now requireElite)) :
    (FreeRun.mk w p' events).Sound c requireElite :=
  ⟨h.worker_eq, h.informed, hsnapshot⟩

lemma Sound.vetted {now : Instant} {read : List (ProxyNode × ℚ)}
    (h : (FreeRun.mk w (.merging now read []) events).Sound c requireElite) :
    ∀ n ∈ read.map Prod.fst, Vetted c requireElite ⟨events, now, read.map Prod.fst⟩ n := by
  obtain ⟨hworker, hinformed, hsnapshot⟩ := h
  dsimp only at hworker hinformed hsnapshot
  subst hworker
  intro n hn
  have hperm := hsnapshot now read [] rfl
  rw [List.append_nil] at hperm
  exact hinformed.vetted (hperm.mem_iff.mp hn)

end FreeRun

namespace FreePoolPath

variable {c : FreePoolConfig} {requireElite : Bool} {ucb : BanditArm → VectorD → Nat → ℚ}
  {s : FreePoolPath}

/-- The node was handed over otherwise than by a merge, or is one of the latest merge. -/
def InPool (s : FreePoolPath) (n : ProxyNode) : Prop :=
  WeighedFrom s.given n ∨ ∃ merge ∈ s.merges.getLast?, WeighedFrom merge.nodes n

/-- The node was handed over otherwise than by a merge, or is one of some merge. -/
def Known (s : FreePoolPath) (n : ProxyNode) : Prop :=
  WeighedFrom s.given n ∨ ∃ merge ∈ s.merges, WeighedFrom merge.nodes n

structure Sound (c : FreePoolConfig) (requireElite : Bool) (s : FreePoolPath) : Prop where
  freeRun : ∀ l ∈ s.freeRun, l.Sound c requireElite
  vetted : ∀ merge ∈ s.merges, ∀ n ∈ merge.nodes, Vetted c requireElite merge n
  held : s.gateway.router.HeldBy s.InPool s.Known

lemma InPool.known {n : ProxyNode} (h : s.InPool n) : s.Known n := by
  rcases h with hgiven | ⟨merge, hmerge, hn⟩
  · exact .inl hgiven
  · exact .inr ⟨merge, List.mem_of_getLast? hmerge, hn⟩

lemma InPool.weigh {n : ProxyNode} (w : Nat) (h : s.InPool n) :
    s.InPool { n with weight := w } := by
  rcases h with hgiven | ⟨merge, hmerge, hn⟩
  · exact .inl (hgiven.weigh w)
  · exact .inr ⟨merge, hmerge, hn.weigh w⟩

lemma InPool.given {s' : FreePoolPath} {nodes : List ProxyNode} {n : ProxyNode} (h : s.InPool n)
    (hgiven : s'.given = s.given ++ nodes) (hmerges : s'.merges = s.merges) : s'.InPool n := by
  unfold InPool
  rw [hgiven, hmerges]
  rcases h with ⟨m, hm, hw⟩ | hmerged
  · exact .inl ⟨m, List.mem_append_left nodes hm, hw⟩
  · exact .inr hmerged

lemma Known.given {s' : FreePoolPath} {nodes : List ProxyNode} {n : ProxyNode} (h : s.Known n)
    (hgiven : s'.given = s.given ++ nodes) (hmerges : s'.merges = s.merges) : s'.Known n := by
  unfold Known
  rw [hgiven, hmerges]
  rcases h with ⟨m, hm, hw⟩ | hmerged
  · exact .inl ⟨m, List.mem_append_left nodes hm, hw⟩
  · exact .inr hmerged

lemma sound_initial (nodes : List ProxyNode) : (initial nodes).Sound c requireElite where
  freeRun := fun l hl => by cases hl
  vetted := fun merge hmerge => by cases hmerge
  held := ⟨RouterEngine.wellIndexed_new nodes, fun n hn => .inl (.of_mem hn),
    fun sessionId b hb => by cases hb⟩

/-- An operation beside the merges. -/
lemma Sound.operates (h : s.Sound c requireElite) (op : RouterOp) {g : SmartProxyGateway}
    (hg : g.router = s.gateway.router.step op) :
    ({ s with gateway := g, given := s.given ++ op.given } : FreePoolPath).Sound c
      requireElite := by
  let s' : FreePoolPath := { s with gateway := g, given := s.given ++ op.given }
  have hbefore : s.gateway.router.HeldBy s'.InPool s'.Known :=
    h.held.mono (fun n hn => hn.given rfl rfl) (fun n hn => hn.given rfl rfl)
  have hgiven : ∀ n ∈ op.given, s'.InPool n :=
    fun n hn => .inl (.of_mem (List.mem_append_right s.given hn))
  refine ⟨h.freeRun, h.vetted, ?_⟩
  change g.router.HeldBy s'.InPool s'.Known
  rw [hg]
  exact RouterEngine.heldBy_step (fun n w => InPool.weigh w) (fun n => InPool.known) hbefore hgiven

/-- The running call of `run` moves on. -/
lemma Sound.runs (h : s.Sound c requireElite) {o : Option FreeRun}
    (ho : ∀ l ∈ o, l.Sound c requireElite) :
    ({ s with freeRun := o } : FreePoolPath).Sound c requireElite :=
  ⟨ho, h.vetted, h.held⟩

/-- The nodes of an earlier merge leave the pool at the next one; sessions keep them. -/
lemma Sound.merges (h : s.Sound c requireElite) {w : FreePoolWorker} {now : Instant}
    {read : List (ProxyNode × ℚ)} {events : List TickEvent}
    (hl : s.freeRun = some ⟨w, .merging now read [], events⟩) :
    (s.step c requireElite ucb .replaceVendorNodes).Sound c requireElite := by
  have hrun : (FreeRun.mk w (.merging now read []) events).Sound c requireElite :=
    h.freeRun _ (by rw [hl]; rfl)
  unfold step
  rw [hl]
  refine ⟨?_, ?_, RouterEngine.wellIndexed_step _ (.replaceVendorNodes "free-" _) h.held.indexed,
    ?_, ?_⟩
  · rintro l ⟨⟩
    exact hrun.moves (fun now read rest hp => by cases hp)
  · intro merge hmerge
    rcases List.mem_append.mp hmerge with hold | hnew
    · exact h.vetted merge hold
    · rw [List.mem_singleton.mp hnew]
      exact hrun.vetted
  · intro n hn
    rcases List.mem_append.mp hn with hold | hnew
    · obtain ⟨hin, hpaid⟩ := List.mem_filter.mp hold
      rcases h.held.pools n hin with hgiven | ⟨merge, hmerge, m, hm, weight, rfl⟩
      · exact .inl hgiven
      · have hfree := (h.vetted merge (List.mem_of_getLast? hmerge) m hm).provider
        simp [hfree] at hpaid
    · obtain ⟨p, hp, rfl⟩ := List.mem_map.mp hnew
      refine .inr ⟨⟨events, now, read.map Prod.fst⟩, ?_, p.1, List.mem_map_of_mem hp, _, rfl⟩
      dsimp only
      rw [List.getLast?_concat]
      rfl
  · intro sessionId b hb
    rw [show (RouterEngine.replaceVendorNodes s.gateway.router "free-" _).sessionStore = _ from
      (RouterEngine.tables_writer _ (.replaceVendorNodes "free-" _) rfl).1] at hb
    rcases h.held.sessions sessionId b hb with hgiven | ⟨merge, hmerge, hn⟩
    · exact .inl hgiven
    · exact .inr ⟨merge, List.mem_append_left _ hmerge, hn⟩

lemma sound_step (s : FreePoolPath) (e : FreePathEvent) (h : s.Sound c requireElite) :
    (s.step c requireElite ucb e).Sound c requireElite := by
  cases e with
  | start =>
    unfold step
    dsimp only
    split
    · refine h.runs ?_
      rintro l ⟨⟩
      exact FreeRun.sound_new
    · exact h
  | die => exact h.runs (fun l hl => by cases hl)
  | tick e =>
    unfold step
    dsimp only
    split
    · rename_i l hl
      split
      · rename_i hawaits
        refine h.runs ?_
        rintro l' ⟨⟩
        exact (h.freeRun l (by rw [hl]; rfl)).tick hawaits
      · exact h
    · exact h
  | takeSnapshot now order =>
    unfold step
    dsimp only
    split
    · rename_i w events hl
      split
      · rename_i hidle
        refine h.runs ?_
        rintro l ⟨⟩
        refine (h.freeRun _ (by rw [hl]; rfl)).moves (fun now' read rest hp => ?_)
        cases hp
        exact hidle.2.2
      · exact h
    · exact h
  | readFactor =>
    unfold step
    dsimp only
    split
    · rename_i w now read n rest events hl
      have hrun := h.freeRun _ (by rw [hl]; rfl)
      refine h.runs ?_
      rintro l ⟨⟩
      refine hrun.moves (fun now' read' rest' hp => ?_)
      cases hp
      rw [List.map_append, List.append_assoc]
      exact hrun.snapshot now read (n :: rest) rfl
    · exact h
  | replaceVendorNodes =>
    by_cases hmerging : ∃ w now read events, s.freeRun = some ⟨w, .merging now read [], events⟩
    · obtain ⟨w, now, read, events, hl⟩ := hmerging
      exact h.merges hl
    · unfold step
      dsimp only
      split
      · rename_i w now read events hl
        exact absurd ⟨w, now, read, events, hl⟩ hmerging
      · exact h
  | router op => exact h.operates op rfl
  | gateway op =>
    rcases SmartProxyGateway.router_op ucb s.gateway op with ⟨hgiven, hsame⟩ | ⟨op', hgiven, hop⟩
    · unfold step
      dsimp only
      rw [hgiven, List.append_nil]
      refine ⟨h.freeRun, h.vetted, ?_⟩
      dsimp only
      rw [hsame]
      exact h.held
    · unfold step
      dsimp only
      rw [← hgiven]
      exact h.operates op' hop

/-- What a client can be served. A node that a selection returns is held, and the pool has a node of
positive weight at its address; whatever the router holds was handed over or is one of a merge, and
in the pool one of the latest merge; and the nodes of every merge were vetted. -/
structure ServesVetted (c : FreePoolConfig) (requireElite : Bool) (s : FreePoolPath) : Prop where
  selected : ∀ spec excluded now draw n,
    (s.gateway.router.selectNodeExcluding spec excluded now draw).1 = some n →
      s.gateway.router.Holds n ∧ ∃ m ∈ s.gateway.router.pools, m.addr = n.addr ∧ 0 < m.weight
  picked : ∀ ucb spec excluded context now n,
    (s.gateway.selectBanditNodeExcluding ucb spec excluded context now).1 = some n →
      n ∈ s.gateway.router.pools ∧ 0 < n.weight
  held : ∀ n, s.gateway.router.Holds n → s.Known n
  pools : ∀ n ∈ s.gateway.router.pools, s.InPool n
  vetted : ∀ merge ∈ s.merges, ∀ n ∈ merge.nodes, Vetted c requireElite merge n

lemma Sound.servesVetted (h : s.Sound c requireElite) : s.ServesVetted c requireElite where
  selected := fun _ _ _ _ _ hn => RouterEngine.selected_holds h.held.indexed hn
  picked := by
    intro ucb spec excluded context now n hn
    have hscan := SmartProxyGateway.selectBandit_mem hn
    obtain ⟨hmem, -, hmatch⟩ := (RouterEngine.mem_scan_iff _ _ excluded now n).mp hscan
    exact ⟨hmem, ((RouterEngine.matchesNode_iff _ n _ now).mp hmatch).weight_pos⟩
  held := fun n hn => h.held.holds (fun n => InPool.known) hn
  pools := h.held.pools
  vetted := h.vetted

/-- In every run, whatever the sources list, however the checks end and whatever the gateway and its
operators do meanwhile, the free nodes that are served have been vetted. -/
theorem free_nodes_vetted (c : FreePoolConfig) (requireElite : Bool)
    (ucb : BanditArm → VectorD → Nat → ℚ) (nodes : List ProxyNode) (events : List FreePathEvent) :
    (run (FreePoolPath.step c requireElite ucb) (.initial nodes) events).ServesVetted c
      requireElite :=
  (run_invariant sound_step (sound_initial nodes) events).servesVetted

/-- A listed proxy passes both checks in the first tick, and the merge at its end brings it. -/
def listedOnce : List FreePathEvent :=
  let raw : RawNode := ⟨"198.51.100.7", 80, .http, some "US", "geonode"⟩
  let exitIp := some "198.51.100.7"
  [.start, .tick (.begin [[raw]] 0 true 0), .tick (.tcpDone raw true),
    .tick (.fullPassed raw 120 .elite exitIp 1 false 1),
    .takeSnapshot 2 [{ Registry.freeNode raw .fresh exitIp with weight := 4 }],
    .readFactor, .replaceVendorNodes]

example : (run (FreePoolPath.step ⟨600, 10, 2, 60, false⟩ true (fun _ _ _ => 0)) (.initial [])
    listedOnce).gateway.router.pools.map (fun n => (n.addr, n.weight)) =
      [("198.51.100.7:80", 4)] := by
  decide +kernel

end FreePoolPath

end IPProxyPool
