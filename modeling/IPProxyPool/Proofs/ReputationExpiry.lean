import IPProxyPool.Lib.Run
import IPProxyPool.Model.FreeTick

/-!
# Reputation and the TTL

An expired entry is hidden by `snapshot` and stays in the registry, so whatever next extends its
TTL brings it back with its health. Reputation ends with the TTL exactly as long as the operations
that extend a TTL find no expired entry.
-/

namespace IPProxyPool
open AssocTable Transition

/-- The health after the one check that made an address known. -/
def Health.firstSeen (fwdLatencyMs : Nat) (anon : AnonLevel) (exitIp : Option String) : Health :=
  { Health.fresh.noteSuccess fwdLatencyMs with anon := anon, exitIp := exitIp }

def Entry.renewed (e : Entry) (expiresAt : Instant) : Entry := { e with expiresAt := expiresAt }

def Entry.failed (e : Entry) (now : Instant) : Entry :=
  let health := e.health.noteFailure now
  { e with health := health, node := { e.node with weight := health.weight } }

namespace RegistryOp

/-- The operation extends the TTL of the entry of its address. -/
def extendsTtl : RegistryOp → Bool
  | upsertFull _ _ _ _ _ _ => true
  | renewTtl _ _ => true
  | noteVerifyFailed _ _ => false
  | reverify _ passed _ => passed

/-- The health that an `upsert_full` gives to an address that it sees for the first time. -/
def firstHealth : RegistryOp → Option Health
  | upsertFull _ fwdLatencyMs anon exitIp _ _ => some (.firstSeen fwdLatencyMs anon exitIp)
  | _ => none

/-- What becomes of the entry of the address. -/
def change (ttl : Nat) (e : Entry) : RegistryOp → Entry
  | upsertFull _ fwdLatencyMs anon exitIp now _ =>
    let health := { e.health.noteSuccess fwdLatencyMs with anon := anon, exitIp := exitIp }
    ⟨{ e.node with exitIp := exitIp, weight := health.weight }, health, now + ttl⟩
  | renewTtl _ now => e.renewed (now + ttl)
  | noteVerifyFailed _ now => e.failed now
  | reverify _ passed now => if passed then e.renewed (now + ttl) else e.failed now

/-- The entry of an address without one. -/
def create (ttl : Nat) : RegistryOp → Option Entry
  | upsertFull raw fwdLatencyMs anon exitIp now _ =>
    let health := Health.firstSeen fwdLatencyMs anon exitIp
    some ⟨Registry.freeNode raw health exitIp, health, now + ttl⟩
  | _ => none

lemma expiresAt_change {op : RegistryOp} (h : op.extendsTtl = false) (ttl : Nat) (e : Entry) :
    (op.change ttl e).expiresAt = e.expiresAt := by
  cases op with
  | upsertFull => cases h
  | renewTtl => cases h
  | noteVerifyFailed => rfl
  | reverify addr passed now =>
    obtain rfl : passed = false := h
    rfl

end RegistryOp

/-! ### One operation -/

namespace Registry

variable {reg : Registry} {k : String} {e' : Entry}

lemma lookup_put (addr : String) (e : Entry) (he : EntryOk addr e) :
    (reg.put addr e he).entries.lookup k = if k = addr then some e else reg.entries.lookup k :=
  lookup_insert_eq _ _ _ _

section Eviction

variable {κ : Type*} [LinearOrder κ] {composite : String → Entry → κ} {now : Instant}
  {fuel removed : Nat}

/-- What each removal keeps, the eviction keeps. -/
lemma evictLoop_keeps {J : Registry → Prop} (hremove : ∀ reg addr, J reg → J (reg.remove addr))
    (h : J reg) : J (evictLoop composite now fuel removed reg).2 := by
  induction fuel generalizing reg removed with
  | zero => exact h
  | succ fuel ih =>
    unfold evictLoop
    split
    · split
      · exact ih (hremove reg _ h)
      · exact h
    · exact h

lemma lookup_evictLoop
    (h : (evictLoop composite now fuel removed reg).2.entries.lookup k = some e') :
    reg.entries.lookup k = some e' := by
  refine evictLoop_keeps (J := fun r => r.entries.lookup k = some e' →
    reg.entries.lookup k = some e') (fun r addr hr hleft => ?_) id h
  change (r.entries.erase addr).lookup k = some e' at hleft
  rw [lookup_erase_eq] at hleft
  split at hleft
  · cases hleft
  · exact hr hleft

end Eviction

/-- What the operation leaves under the address `k`: another entry is not changed. -/
def LeftBy (reg : Registry) (op : RegistryOp) (k : String) (e' : Entry) : Prop :=
  k ≠ op.addr ∧ reg.entries.lookup k = some e' ∨
    k = op.addr ∧ (∃ e, reg.entries.lookup k = some e ∧ e' = op.change reg.ttl e) ∨
    k = op.addr ∧ reg.entries.lookup k = none ∧ op.create reg.ttl = some e'

lemma leftBy_of_put {op : RegistryOp} {addr : String} {e e₁ : Entry} (haddr : op.addr = addr)
    {he : EntryOk addr e₁} (hlook : reg.entries.lookup addr = some e)
    (hchange : e₁ = op.change reg.ttl e)
    (h : (reg.put addr e₁ he).entries.lookup k = some e') : reg.LeftBy op k e' := by
  rw [lookup_put] at h
  split at h
  · rename_i hk
    obtain rfl := Option.some.inj h
    exact .inr (.inl ⟨hk.trans haddr.symm, e, hk ▸ hlook, hchange⟩)
  · rename_i hk
    exact .inl ⟨fun hk' => hk (hk'.trans haddr), h⟩

lemma leftBy_of_same {op : RegistryOp} (hlook : reg.entries.lookup op.addr = none)
    (h : reg.entries.lookup k = some e') : reg.LeftBy op k e' := by
  refine .inl ⟨fun hk => ?_, h⟩
  rw [hk, hlook] at h
  cases h

lemma renewTtl_leftBy {op : RegistryOp} {addr : String} {now : Instant} (haddr : op.addr = addr)
    (hchange : ∀ e, e.renewed (now + reg.ttl) = op.change reg.ttl e)
    (h : (reg.renewTtl addr now).entries.lookup k = some e') : reg.LeftBy op k e' := by
  unfold renewTtl at h
  split at h
  · rename_i e he
    exact leftBy_of_put haddr he (hchange e) h
  · rename_i hnone
    exact leftBy_of_same (haddr.symm ▸ hnone) h

lemma noteVerifyFailed_leftBy {op : RegistryOp} {addr : String} {now : Instant}
    (haddr : op.addr = addr) (hchange : ∀ e, e.failed now = op.change reg.ttl e)
    (h : (reg.noteVerifyFailed addr now).entries.lookup k = some e') : reg.LeftBy op k e' := by
  unfold noteVerifyFailed at h
  dsimp only at h
  split at h
  · rename_i e he
    exact leftBy_of_put haddr he (hchange e) h
  · rename_i hnone
    exact leftBy_of_same (haddr.symm ▸ hnone) h

/-- Evictions apart, an operation changes or creates the entry of its own address. -/
theorem step_leftBy (op : RegistryOp) (h : (reg.step op).entries.lookup k = some e') :
    reg.LeftBy op k e' := by
  cases op with
  | upsertFull raw fwdLatencyMs anon exitIp now clock =>
    unfold step upsertFull upsertFullBy at h
    dsimp only at h
    split at h
    · rename_i e he
      dsimp only at h
      exact leftBy_of_put rfl he rfl h
    · rename_i hnone
      have hput := lookup_evictLoop h
      rw [lookup_put] at hput
      split at hput
      · rename_i hk
        exact .inr (.inr ⟨hk, hk ▸ hnone, hput⟩)
      · rename_i hk
        exact .inl ⟨hk, hput⟩
  | renewTtl addr now => exact renewTtl_leftBy rfl (fun _ => rfl) h
  | noteVerifyFailed addr now => exact noteVerifyFailed_leftBy rfl (fun _ => rfl) h
  | reverify addr passed now =>
    cases passed with
    | true => exact renewTtl_leftBy rfl (fun _ => rfl) h
    | false => exact noteVerifyFailed_leftBy rfl (fun _ => rfl) h

lemma mem_snapshot {now : Instant} {requireElite : Bool} {n : ProxyNode}
    (h : n ∈ reg.snapshot now requireElite) :
    ∃ e, reg.entries.lookup n.addr = some e ∧ e.node = n ∧ now < e.expiresAt := by
  obtain ⟨e, he, rfl⟩ := List.mem_map.mp h
  obtain ⟨hval, hshown⟩ := List.mem_filter.mp he
  obtain ⟨addr, haddr⟩ := (mem_values_iff _ e).mp hval
  have heq : e.node.addr = addr := (reg.entries_ok addr e haddr).addr_eq
  refine ⟨e, heq ▸ haddr, rfl, ?_⟩
  simp only [Bool.and_eq_true, decide_eq_true_eq] at hshown
  exact hshown.1.1

/-! ### Lapsed addresses -/

/-- The address has no entry, or one that has expired at `t`. -/
def Lapsed (reg : Registry) (addr : String) (t : Instant) : Prop :=
  ∀ e ∈ reg.entries.lookup addr, e.expiresAt ≤ t

instance (reg : Registry) (addr : String) (t : Instant) : Decidable (reg.Lapsed addr t) :=
  inferInstanceAs (Decidable (∀ e ∈ reg.entries.lookup addr, e.expiresAt ≤ t))

/-- The calls from `t` on that do not insert the address. -/
def Passes (addr : String) (t : Instant) (op : RegistryOp) : Prop :=
  t ≤ op.now ∧ (op.addr = addr → op.firstHealth = none)

/-- After an address has lapsed it is not offered before the next `upsert_full` of it, and this one
leaves it with the health of an address seen for the first time. -/
structure ReputationExpires (reg : Registry) (ops : List RegistryOp) : Prop where
  hidden : ∀ pre post addr t, pre ++ post <+: ops → (run step reg pre).Lapsed addr t →
    (∀ op ∈ post, Passes addr t op) → ∀ now requireElite, t ≤ now →
      ∀ n ∈ (run step reg (pre ++ post)).snapshot now requireElite, n.addr ≠ addr
  fresh : ∀ pre post op addr t, pre ++ post ++ [op] <+: ops → (run step reg pre).Lapsed addr t →
    (∀ o ∈ post, Passes addr t o) → t ≤ op.now → op.addr = addr → ∀ health,
      op.firstHealth = some health →
        ∀ e, (run step reg (pre ++ post ++ [op])).entries.lookup addr = some e → e.health = health

/-- A call that extends the TTL of an entry finds it in force. -/
def ExtendsInForce (reg : Registry) (op : RegistryOp) : Prop :=
  op.extendsTtl = true → ∀ e ∈ reg.entries.lookup op.addr, op.now < e.expiresAt

instance (reg : Registry) (op : RegistryOp) : Decidable (reg.ExtendsInForce op) :=
  inferInstanceAs (Decidable (op.extendsTtl = true → ∀ e ∈ reg.entries.lookup op.addr,
    op.now < e.expiresAt))

variable {addr : String} {t : Instant}

lemma lapsed_step {op : RegistryOp} (h : reg.Lapsed addr t) (hforce : reg.ExtendsInForce op)
    (hpass : Passes addr t op) : (reg.step op).Lapsed addr t := by
  intro e' he'
  rcases step_leftBy op he' with ⟨-, hold⟩ | ⟨haddr, e, he, rfl⟩ | ⟨haddr, -, hcreate⟩
  · exact h e' hold
  · have hexpired := h e he
    rcases hext : op.extendsTtl with _ | _
    · rw [RegistryOp.expiresAt_change hext]
      exact hexpired
    · have hlive := hforce hext e (haddr ▸ he)
      exact absurd hlive (Nat.not_lt.mpr (hexpired.trans hpass.1))
  · have hnone := hpass.2 haddr.symm
    cases op <;> cases hcreate
    cases hnone

lemma lapsed_run {ops : List RegistryOp} (h : reg.Lapsed addr t)
    (hforce : Along step ExtendsInForce reg ops) (hpass : ∀ op ∈ ops, Passes addr t op) :
    (run step reg ops).Lapsed addr t :=
  run_of_along (J := fun reg => reg.Lapsed addr t) (fun _ _ h hop => lapsed_step h hop.1 hop.2) h
    (along_and_forall hforce hpass)

lemma fresh_step {op : RegistryOp} (h : reg.Lapsed addr t) (hforce : reg.ExtendsInForce op)
    (ht : t ≤ op.now) (haddr : op.addr = addr) {health : Health}
    (hhealth : op.firstHealth = some health) {e' : Entry}
    (he' : (reg.step op).entries.lookup addr = some e') : e'.health = health := by
  have hext : op.extendsTtl = true := by
    cases op <;> first | rfl | cases hhealth
  rcases step_leftBy op he' with ⟨hne, -⟩ | ⟨-, e, he, -⟩ | ⟨-, -, hcreate⟩
  · exact absurd haddr.symm hne
  · have hexpired := h e he
    have hlive := hforce hext e (haddr ▸ he)
    exact absurd hlive (Nat.not_lt.mpr (hexpired.trans ht))
  · cases op <;> cases hhealth
    cases hcreate
    rfl

end Registry

/-- In every history of calls in which each call that extends a TTL finds the entry in force,
reputation ends with the TTL. -/
theorem reputation_expires_of_in_force (reg : Registry) (ops : List RegistryOp)
    (hforce : Along Registry.step Registry.ExtendsInForce reg ops) :
    reg.ReputationExpires ops := by
  have hpre : ∀ pre post rest, pre ++ post ++ rest = ops →
      Along Registry.step Registry.ExtendsInForce (run Registry.step reg pre) post := by
    rintro pre post rest rfl
    rw [List.append_assoc, along_append] at hforce
    exact ((along_append _ _ _).mp hforce.2).1
  constructor
  · rintro pre post addr t ⟨rest, hops⟩ hlapsed hpass now requireElite hnow n hn rfl
    obtain ⟨e, he, -, hlive⟩ := Registry.mem_snapshot hn
    rw [run_append] at he
    have hexpired := Registry.lapsed_run hlapsed (hpre pre post rest hops) hpass e he
    exact absurd hlive (Nat.not_lt.mpr (hexpired.trans hnow))
  · rintro pre post op addr t ⟨rest, hops⟩ hlapsed hpass ht haddr health hhealth e he
    have hops' : pre ++ (post ++ [op]) ++ rest = ops := by simpa using hops
    obtain ⟨hpost, hop⟩ := (along_append _ _ _).mp (hpre pre (post ++ [op]) rest hops')
    rw [run_append, run_append, run_cons, run_nil] at he
    exact Registry.fresh_step (Registry.lapsed_run hlapsed hpost hpass) hop.1 ht haddr hhealth he

def listedNode : RawNode := ⟨"203.0.113.1", 8080, .http, none, "a"⟩

/-- Checks and renewals before the TTL of 600 s ends. -/
theorem reputation_expires_checked_in_time :
    (Registry.withCapacity (fromSecs 600) 2000).ReputationExpires
      [.upsertFull listedNode 100 .elite none 0 0, .renewTtl listedNode.addr (fromSecs 300),
        .noteVerifyFailed listedNode.addr (fromSecs 500),
        .reverify listedNode.addr true (fromSecs 800),
        .upsertFull listedNode 100 .elite none (fromSecs 1399) (fromSecs 1399)] :=
  reputation_expires_of_in_force _ _ (by decide)

/-- A check after the TTL adds to the old health, and a renewal after it brings the address back. -/
theorem expired_entry_keeps_reputation :
    ¬(Registry.withCapacity (fromSecs 600) 2000).ReputationExpires
      [.upsertFull listedNode 100 .elite none 0 0,
        .upsertFull listedNode 100 .elite none (fromSecs 700) (fromSecs 700)] ∧
    ¬(Registry.withCapacity (fromSecs 600) 2000).ReputationExpires
      [.upsertFull listedNode 100 .elite none 0 0, .renewTtl listedNode.addr (fromSecs 700)] := by
  constructor
  · intro h
    have hhealth := h.fresh [_] [] _ listedNode.addr (fromSecs 700) (List.prefix_refl _)
      (by decide) (by simp) le_rfl rfl _ rfl _ rfl
    have hstreak := congrArg Health.streak hhealth
    revert hstreak
    decide
  · intro h
    have hhidden := h.hidden [_] [_] listedNode.addr (fromSecs 700) (List.prefix_refl _)
      (by decide) (by simp [Registry.Passes, RegistryOp.now, RegistryOp.firstHealth])
      (fromSecs 701) false (by decide) _ (List.mem_singleton_self _)
    exact hhidden rfl

end IPProxyPool
