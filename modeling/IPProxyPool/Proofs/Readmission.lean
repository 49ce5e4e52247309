import IPProxyPool.Proofs.FailurePrefilter

/-!
# The way back into the pool

A node that failed is left out of the merges while its back-off lasts. If no tick checks it again in
this time, because its failure mark hides it or no source lists it, the next merge takes it back.
-/

namespace IPProxyPool
open RustText AssocTable Transition

/-! ### Free nodes after a merge -/

namespace Registry

lemma mem_snapshot_iff {reg : Registry} {now : Instant} {requireElite : Bool} {n : ProxyNode} :
    n ∈ reg.snapshot now requireElite ↔
      ∃ e, reg.entries.lookup n.addr = some e ∧ e.node = n ∧ now < e.expiresAt ∧
        e.health.backedOff now = false ∧ (requireElite = true → e.health.anon = .elite) := by
  have hshown : ∀ e : Entry, (now < e.expiresAt && !e.health.backedOff now &&
      (!requireElite || e.health.anon = .elite)) = true ↔ now < e.expiresAt ∧
        e.health.backedOff now = false ∧ (requireElite = true → e.health.anon = .elite) := by
    intro e
    cases requireElite <;> simp [and_assoc]
  constructor
  · intro h
    obtain ⟨e, he, rfl⟩ := List.mem_map.mp h
    obtain ⟨hval, hgates⟩ := List.mem_filter.mp he
    obtain ⟨addr, haddr⟩ := (mem_values_iff _ e).mp hval
    have heq : e.node.addr = addr := (reg.entries_ok addr e haddr).addr_eq
    exact ⟨e, heq ▸ haddr, rfl, (hshown e).mp hgates⟩
  · rintro ⟨e, hlook, rfl, hgates⟩
    exact List.mem_map.mpr ⟨e, List.mem_filter.mpr
      ⟨(mem_values_iff _ e).mpr ⟨_, hlook⟩, (hshown e).mpr hgates⟩, rfl⟩

end Registry

/-- The free nodes of the pool after a merge are those of the snapshot. -/
lemma RouterEngine.mem_mergeOnce_free (r : RouterEngine) (snap : RegistrySnapshot)
    (n : ProxyNode) :
    n ∈ (r.mergeOnce snap).pools ∧ startsWith n.provider "free-" = true ↔
      ∃ m ∈ snap.nodes, n = applyFactor (r.freeFactor m.provider m.country) m := by
  unfold mergeOnce replaceVendorNodes
  rw [pruneFreeScales_pools, storeNodes_pools, List.mem_append, List.mem_filter, List.mem_map]
  constructor
  · rintro ⟨⟨-, hstay⟩ | ⟨m, hm, rfl⟩, hfree⟩
    · rw [hfree] at hstay
      cases hstay
    · exact ⟨m, hm, rfl⟩
  · rintro ⟨m, hm, rfl⟩
    have hfree : startsWith m.provider "free-" = true := snap.provider_free hm
    exact ⟨.inr ⟨m, hm, rfl⟩, hfree⟩

/-! ### Ticks and merges -/

/-- An event of a tick, or the merge at its end, with the router that the merge finds and the order
in which the hash map yields the snapshot. -/
inductive PoolEvent where
  | tick (e : TickEvent)
  | mergeOnce (router : RouterEngine) (now : Instant) (order : List ProxyNode → List ProxyNode)
      (perm : ∀ l, (order l).Perm l)

namespace FreePoolLog

variable (c : FreePoolConfig) (requireElite : Bool) (s : FreePoolLog)

/-- A merge reads the registry only. -/
def poolStep (s : FreePoolLog) : PoolEvent → FreePoolLog
  | .tick e => s.step c e
  | .mergeOnce _ _ _ _ => s

def snapshot (now : Instant) (order : List ProxyNode → List ProxyNode)
    (perm : ∀ l, (order l).Perm l) : RegistrySnapshot where
  registry := s.worker.registry
  now := now
  requireElite := requireElite
  nodes := order (s.worker.registry.snapshot now requireElite)
  perm := perm _

/-- The address failed a check, and no `upsert_full` for it has succeeded since. -/
def FailedLast (addr : String) (op : RegistryOp) : Prop :=
  latest RegistryOp.decides s.applied addr = some op ∧ op.fails = true

/-- A merge puts no address into the pool that failed last. -/
def AdmitsChecked (e : PoolEvent) : Prop :=
  ∀ router now order perm, e = .mergeOnce router now order perm → s.worker.idle →
    ∀ n ∈ (router.mergeOnce (s.snapshot requireElite now order perm)).pools,
      startsWith n.provider "free-" = true → ∀ op, ¬s.FailedLast n.addr op

/-- A merge finds each entry that failed last within the back-off of its failures in a row, or
expired, or barred by its grade. -/
def HeldBack (e : PoolEvent) : Prop :=
  ∀ router now order perm, e = .mergeOnce router now order perm → s.worker.idle →
    ∀ addr op entry, s.FailedLast addr op → s.worker.registry.entries.lookup addr = some entry →
      now < op.now + fromSecs (backoffSecs (strikes s.applied addr)) ∨ entry.expiresAt ≤ now ∨
        requireElite = true ∧ entry.health.anon ≠ .elite

variable {c requireElite s}

/-- The snapshot shows an entry that failed last exactly if nothing holds it back. -/
lemma shown_iff_of_failedLast (h : s.Recalls) {addr : String} {op : RegistryOp} {entry : Entry}
    (hfailed : s.FailedLast addr op)
    (hlook : s.worker.registry.entries.lookup addr = some entry) {now : Instant} :
    entry.node ∈ s.worker.registry.snapshot now requireElite ↔
      ¬(now < op.now + fromSecs (backoffSecs (strikes s.applied addr)) ∨ entry.expiresAt ≤ now ∨
        requireElite = true ∧ entry.health.anon ≠ .elite) := by
  have haddr : entry.node.addr = addr := (s.worker.registry.entries_ok addr entry hlook).addr_eq
  have htold := h.entries addr entry hlook
  have hback : entry.health.backedOff now =
      decide (now < op.now + fromSecs (backoffSecs (strikes s.applied addr))) := by
    unfold Health.backedOff
    rw [htold.backoff op hfailed.1 hfailed.2, ← htold.strikes]
  rw [Registry.mem_snapshot_iff, haddr]
  constructor
  · rintro ⟨e, he, -, hlive, hoff, helite⟩
    obtain rfl := Option.some.inj (hlook.symm.trans he)
    rw [hback, decide_eq_false_iff_not] at hoff
    rintro (hin | hexpired | ⟨hgate, hanon⟩)
    · exact hoff hin
    · exact absurd hlive (Nat.not_lt.mpr hexpired)
    · exact hanon (helite hgate)
  · intro hfree
    rw [not_or, not_or] at hfree
    obtain ⟨hoff, hlive, hgate⟩ := hfree
    refine ⟨entry, hlook, rfl, Nat.lt_of_not_le hlive, ?_, fun helite => ?_⟩
    · rw [hback, decide_eq_false_iff_not]
      exact hoff
    · by_contra hanon
      exact hgate ⟨helite, hanon⟩

lemma admitsChecked_iff (e : PoolEvent) (h : s.Recalls) :
    s.AdmitsChecked requireElite e ↔ s.HeldBack requireElite e := by
  constructor
  · rintro hadmits router now order perm rfl hidle addr op entry hfailed hlook
    by_contra hfree
    have hshown := (shown_iff_of_failedLast h hfailed hlook).mpr hfree
    have hnode : entry.node ∈ (s.snapshot requireElite now order perm).nodes :=
      (perm _).mem_iff.mpr hshown
    obtain ⟨hpool, hprovider⟩ := (router.mem_mergeOnce_free _ _).mpr ⟨entry.node, hnode, rfl⟩
    have haddr : entry.node.addr = addr := (s.worker.registry.entries_ok addr entry hlook).addr_eq
    exact hadmits router now order perm rfl hidle _ hpool hprovider op (haddr ▸ hfailed)
  · rintro hheld router now order perm rfl hidle n hn hfree op hfailed
    obtain ⟨m, hm, rfl⟩ := (router.mem_mergeOnce_free _ n).mp ⟨hn, hfree⟩
    have hshown : m ∈ s.worker.registry.snapshot now requireElite := (perm _).mem_iff.mp hm
    obtain ⟨entry, hlook, rfl, -⟩ := Registry.mem_snapshot_iff.mp hshown
    exact (shown_iff_of_failedLast h hfailed hlook).mp hshown
      (hheld router now order perm rfl hidle _ op entry hfailed hlook)

lemma recalls_poolStep (s : FreePoolLog) (e : PoolEvent) (h : s.Recalls) :
    (s.poolStep c e).Recalls := by
  cases e with
  | tick e => exact recalls_step s e h
  | mergeOnce => exact h

/-- In every run the merges admit no node that failed last exactly if each of them comes while the
back-off of such a node lasts, or after its entry has expired, or bars it by its grade. -/
theorem readmitted_checked_iff (c : FreePoolConfig) (requireElite : Bool)
    (events : List PoolEvent) :
    Along (poolStep c) (AdmitsChecked requireElite) (new c) events ↔
      Along (poolStep c) (HeldBack requireElite) (new c) events := by
  exact along_congr (J := Recalls) recalls_poolStep (fun s e h => admitsChecked_iff e h)
    (recalls_new c) events

/-- The run of `downOnce` with its merges, and a tick that skips the node. -/
def downOnceMerged : List PoolEvent :=
  (downOnce.take 3).map .tick ++ .mergeOnce (.new []) 0 id (fun _ => .refl _) ::
    (downOnce.drop 3).map .tick ++
      [.mergeOnce (.new []) (fromSecs 300) id (fun _ => .refl _),
        .tick (.begin [[listedNode]] (fromSecs 600) true (fromSecs 600))]

/-- The node that was found down is in the pool again, without a check. -/
theorem readmitted_unchecked : ¬Along (poolStep fiveMinuteTicks) (AdmitsChecked false)
    (new fiveMinuteTicks)
    (downOnceMerged ++ [.mergeOnce (.new []) (fromSecs 600) id (fun _ => .refl _)]) := by
  intro h
  have hlast := ((along_append _ _ _).mp h).2.1
  have hrecalls := run_invariant (recalls_poolStep (c := fiveMinuteTicks))
    (recalls_new fiveMinuteTicks) downOnceMerged
  generalize hs : run (poolStep fiveMinuteTicks) (new fiveMinuteTicks) downOnceMerged = s
    at hlast hrecalls
  have hidle : s.worker.idle := by
    rw [← hs]
    decide +kernel
  obtain ⟨op, hop, hover⟩ : ∃ op, latest RegistryOp.decides s.applied listedNode.addr = some op ∧
      (op.fails && decide (op.now + fromSecs (backoffSecs (strikes s.applied listedNode.addr)) ≤
        fromSecs 600)) = true := by
    rw [← Option.any_eq_true, ← hs]
    decide +kernel
  obtain ⟨entry, hlook, hlive⟩ : ∃ entry,
      s.worker.registry.entries.lookup listedNode.addr = some entry ∧
        decide (fromSecs 600 < entry.expiresAt) = true := by
    rw [← Option.any_eq_true, ← hs]
    decide +kernel
  rw [Bool.and_eq_true, decide_eq_true_eq] at hover
  rw [decide_eq_true_eq] at hlive
  rcases (admitsChecked_iff _ hrecalls).mp hlast _ _ _ _ rfl hidle listedNode.addr op entry
    ⟨hop, hover.1⟩ hlook with hin | hexpired | ⟨hgate, -⟩
  · exact absurd hin (Nat.not_lt.mpr hover.2)
  · exact absurd hlive (Nat.not_lt.mpr hexpired)
  · cases hgate

end FreePoolLog

end IPProxyPool
