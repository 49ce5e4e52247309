import IPProxyPool.Proofs.QuarantineMerge
import IPProxyPool.Proofs.SessionIsolation
import IPProxyPool.Proofs.SweepUnobservable

/-!
# Bounds of the session and quarantine tables

Both tables are filled from what clients send. Admission keeps the number and the length of their
keys within bounds in every run, and a full table turns new keys away without touching the entries
it has.
-/

namespace IPProxyPool
open RustText AssocTable Transition

namespace RouterEngine

structure BoundedTables (r : RouterEngine) : Prop where
  sessions : len r.sessionStore ≤ sessionMaxEntries
  session_ids : ∀ key ∈ r.sessionStore, byteLen key ≤ sessionIdMaxBytes
  domains : len r.quarantineMap ≤ quarantineMaxDomains
  domain_names : ∀ key ∈ r.quarantineMap, byteLen key ≤ quarantineDomainMaxBytes
  nonempty : ∀ key inner, r.quarantineMap.lookup key = some inner → inner.entries ≠ []

end RouterEngine

/-- An operation that writes keys leaves the entries under other keys alone, and where the table is
full it writes no new key. -/
def RouterOp.KeepsEntries (r : RouterEngine) : RouterOp → Prop
  | .select spec excluded now draw =>
    let r' := (r.selectNodeExcluding spec excluded now draw).2
    (∀ key, spec.sessionId ≠ some key → r'.sessionStore.lookup key = r.sessionStore.lookup key) ∧
      (sessionMaxEntries ≤ len r.sessionStore → (∀ key ∈ spec.sessionId, key ∉ r.sessionStore) →
        r'.sessionStore = r.sessionStore) ∧
      r'.quarantineMap = r.quarantineMap
  | .setQuarantine domain ip ttlSecs now =>
    let r' := r.setQuarantine domain ip ttlSecs now
    (∀ key ip', ¬(normalizeDomain domain = key ∧ ip = ip') →
        r'.quarantineEntry key ip' = r.quarantineEntry key ip') ∧
      (quarantineMaxDomains ≤ len r.quarantineMap → normalizeDomain domain ∉ r.quarantineMap →
        r'.quarantineMap = r.quarantineMap) ∧
      r'.sessionStore = r.sessionStore
  | _ => True

namespace RouterEngine

variable {r : RouterEngine}

/-! ### What the operations write -/

lemma sessionStickyAllowed_iff (store : Table String (ProxyNode × Instant)) (key : String) :
    sessionStickyAllowed store key = true ↔
      byteLen key ≤ sessionIdMaxBytes ∧ (len store < sessionMaxEntries ∨ key ∈ store) := by
  unfold sessionStickyAllowed
  by_cases hlong : sessionIdMaxBytes < byteLen key
  · rw [if_pos hlong]
    simp [Nat.not_le.mpr hlong]
  · by_cases hfull : sessionMaxEntries ≤ len store ∧ key ∉ store
    · rw [if_neg hlong, if_pos hfull]
      simp [hfull.2, Nat.not_lt.mpr hfull.1]
    · rw [if_neg hlong, if_neg hfull]
      simp only [true_iff]
      refine ⟨Nat.not_lt.mp hlong, ?_⟩
      by_cases hkey : key ∈ store
      · exact .inr hkey
      · exact .inl (Nat.not_le.mp (fun hle => hfull ⟨hle, hkey⟩))

/-- A selection leaves the router as it is or binds the admitted key of its request. -/
lemma selectNodeExcluding_writes (r : RouterEngine) (spec : RoutingSpec) (excluded : List String)
    (now : Instant) (draw : Nat) :
    (r.selectNodeExcluding spec excluded now draw).2 = r ∨
      ∃ key node, spec.sessionId = some key ∧ sessionStickyAllowed r.sessionStore key = true ∧
        (r.selectNodeExcluding spec excluded now draw).2 =
          { r with sessionStore := r.sessionStore.insert key (node, now) } := by
  have hsession : (canonicalSpec spec).sessionId = spec.sessionId := rfl
  unfold selectNodeExcluding
  dsimp only
  split
  · exact .inl rfl
  · unfold bindSession
    rw [hsession]
    split
    · rename_i key node hkey _
      split
      · rename_i hallowed
        exact .inr ⟨key, node, hkey, hallowed, rfl⟩
      · exact .inl rfl
    · exact .inl rfl

/-! ### One step -/

lemma boundedTables_new (nodes : List ProxyNode) : (new nodes).BoundedTables :=
  ⟨Nat.zero_le _, fun key hkey => absurd hkey (AList.notMem_empty key), Nat.zero_le _,
    fun key hkey => absurd hkey (AList.notMem_empty key),
    fun key inner hlook => by simp [new] at hlook⟩

lemma BoundedTables.of_eq {r' : RouterEngine} (h : r.BoundedTables)
    (hs : r'.sessionStore = r.sessionStore) (hq : r'.quarantineMap = r.quarantineMap) :
    r'.BoundedTables := by
  rcases h with ⟨hsessions, hids, hdomains, hnames, hnonempty⟩
  constructor
  · rwa [hs]
  · rwa [hs]
  · rwa [hq]
  · rwa [hq]
  · rwa [hq]

lemma boundedTables_select (h : r.BoundedTables) (spec : RoutingSpec) (excluded : List String)
    (now : Instant) (draw : Nat) :
    (r.selectNodeExcluding spec excluded now draw).2.BoundedTables := by
  rcases selectNodeExcluding_writes r spec excluded now draw with
    heq | ⟨key, node, -, hallowed, heq⟩
  · rw [heq]
    exact h
  · rw [heq]
    obtain ⟨hlong, hroom⟩ := (sessionStickyAllowed_iff r.sessionStore key).mp hallowed
    refine ⟨len_insert_le h.sessions hroom _, fun key' hkey' => ?_, h.domains, h.domain_names,
      h.nonempty⟩
    rcases (AList.mem_insert _).mp hkey' with rfl | hold
    · exact hlong
    · exact h.session_ids key' hold

lemma boundedTables_setQuarantine (h : r.BoundedTables) (domain ip : String) (ttlSecs : Nat)
    (now : Instant) : (r.setQuarantine domain ip ttlSecs now).BoundedTables := by
  by_cases hacc : r.Accepts domain
  · have hstore := sessionStore_setQuarantine r domain ip ttlSecs now
    have hmap : (r.setQuarantine domain ip ttlSecs now).quarantineMap = _ :=
      quarantineMap_setQuarantine hacc ttlSecs now
    refine ⟨?_, ?_, ?_, boundedDomains_setQuarantine h.domain_names domain ip ttlSecs now,
      fun key inner hlook => ?_⟩
    · rw [hstore]
      exact h.sessions
    · rw [hstore]
      exact h.session_ids
    · rw [hmap]
      exact len_insert_le h.domains hacc.2 _
    · rw [hmap, lookup_insert_eq] at hlook
      split at hlook
      · cases hlook
        exact List.cons_ne_nil _ _
      · exact h.nonempty key inner hlook
  · rw [setQuarantine_of_not_accepts hacc]
    exact h

lemma boundedTables_removeQuarantine (h : r.BoundedTables) (domain ip : String) :
    (r.removeQuarantine domain ip).2.BoundedTables := by
  have hnames : (r.removeQuarantine domain ip).2.BoundedDomains :=
    BoundedDomains.mono h.domain_names (fun _ => mem_quarantineMap_remove)
  rcases removeQuarantine_cases r domain ip with
    ⟨heq, -⟩ | ⟨inner, -, -, -, heq⟩ | ⟨inner, hinner, -, hrest, heq⟩
  · rw [heq]
    exact h
  · rw [heq] at hnames ⊢
    refine ⟨h.sessions, h.session_ids, (len_erase_le _ _).trans h.domains, hnames,
      fun key rest hlook => ?_⟩
    dsimp only at hlook
    rw [lookup_erase_eq] at hlook
    split at hlook
    · cases hlook
    · exact h.nonempty key rest hlook
  · rw [heq] at hnames ⊢
    refine ⟨h.sessions, h.session_ids, len_insert_le h.domains (.inr (mem_of_lookup hinner)) _,
      hnames, fun key rest hlook => ?_⟩
    dsimp only at hlook
    rw [lookup_insert_eq] at hlook
    split at hlook
    · cases hlook
      exact hrest
    · exact h.nonempty key rest hlook

lemma boundedTables_sweep (h : r.BoundedTables) (now : Instant) :
    (r.sweepExpiredAt now).2.BoundedTables := by
  refine ⟨(len_retain_le _ _).trans h.sessions, fun key hkey => ?_, ?_,
    BoundedDomains.mono h.domain_names (fun _ => mem_quarantineMap_sweep),
    fun _ _ hlook => entries_ne_nil_of_sweep hlook⟩
  · rw [sessionStore_sweep] at hkey
    exact h.session_ids key (mem_of_mem_retain hkey)
  · rw [quarantineMap_sweep]
    refine (len_retain_le _ _).trans ?_
    rw [len_mapVal]
    exact h.domains

lemma boundedTables_step (r : RouterEngine) (op : RouterOp) (h : r.BoundedTables) :
    (r.step op).BoundedTables := by
  by_cases hwrite : op.writesPool = true
  · exact h.of_eq (tables_writer r op hwrite).1 (tables_writer r op hwrite).2
  · cases op with
    | setQuarantine domain ip ttlSecs now => exact boundedTables_setQuarantine h domain ip ttlSecs now
    | removeQuarantine domain ip => exact boundedTables_removeQuarantine h domain ip
    | sweepExpired now => exact boundedTables_sweep h now
    | select spec excluded now draw => exact boundedTables_select h spec excluded now draw
    | reloadNodes | replaceVendorNodes | addNode | removeNode | adjustVendorWeight
    | setPaidWeightBoost | scaleVendorWeights => exact absurd rfl hwrite

lemma keepsEntries (r : RouterEngine) (op : RouterOp) : op.KeepsEntries r := by
  cases op with
  | select spec excluded now draw =>
    refine ⟨fun key hkey => lookup_selectNodeExcluding_ne hkey, fun hfull hnew => ?_,
      quarantineMap_selectNodeExcluding spec excluded now draw⟩
    rcases selectNodeExcluding_writes r spec excluded now draw with
      heq | ⟨key, node, hkey, hallowed, -⟩
    · rw [heq]
    · rcases ((sessionStickyAllowed_iff _ _).mp hallowed).2 with hroom | hold
      · omega
      · exact absurd hold (hnew key hkey)
  | setQuarantine domain ip ttlSecs now =>
    refine ⟨fun key ip' hne => quarantineEntry_setQuarantine_ne hne ttlSecs now,
      fun hfull hnew => ?_, sessionStore_setQuarantine r domain ip ttlSecs now⟩
    rw [setQuarantine_of_not_accepts]
    rintro ⟨-, hroom | hold⟩
    · omega
    · exact hnew hold
  | _ => trivial

end RouterEngine

lemma RouterEngine.boundedTables_run (initial : List ProxyNode) (ops : List RouterOp) :
    (run RouterEngine.step (.new initial) ops).BoundedTables :=
  run_invariant RouterEngine.boundedTables_step (RouterEngine.boundedTables_new initial) ops

/-- In every run from `RouterEngine::new`, both tables are within their bounds and hold no empty
domain, and no selection or quarantine touches an entry under another key, or any entry when its
own key is new to a full table. -/
theorem tables_bounded (initial : List ProxyNode) (ops : List RouterOp) :
    (run RouterEngine.step (.new initial) ops).BoundedTables ∧
      Along RouterEngine.step RouterOp.KeepsEntries (.new initial) ops :=
  ⟨RouterEngine.boundedTables_run initial ops,
    along_of_invariant (J := fun _ => True) (fun _ _ _ => trivial)
      (fun r op _ => RouterEngine.keepsEntries r op) trivial ops⟩

end IPProxyPool
