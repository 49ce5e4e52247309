import IPProxyPool.Lib.Eviction
import IPProxyPool.Proofs.ReputationExpiry

/-!
# Who is evicted

Above its capacity the registry drops entries in back-off, those of the least composite score
first, and then entries of the least composite score; equal scores are settled by the address.
When an entry expires plays no part. The scores are doubles, and nothing here depends on how they
were rounded: each call may rank the entries in an order of its own.
-/

namespace IPProxyPool
open AssocTable Transition Eviction

universe u

variable {κ : Type u} [LinearOrder κ]

/-- The order in which entries are evicted at `clock`: in back-off first, then by the composite
score, then by the address. -/
def evictionOrder (composite : String → Entry → κ) (clock : Instant) (addr : String) (e : Entry) :
    Bool ×ₗ κ ×ₗ String :=
  toLex (!e.health.backedOff clock, toLex (composite addr e, addr))

variable {composite : String → Entry → κ}

omit [LinearOrder κ] in
lemma separates_evictionOrder (clock : Instant) : Separates (evictionOrder composite clock) := by
  intro k a k' a' h
  have hinner := congrArg (fun x => (ofLex x).2) h
  exact congrArg (fun x => (ofLex x).2) hinner

namespace Registry

variable {reg reg' : Registry} {clock : Instant} {addr : String}

/-! ### One victim -/

lemma victim_eq_none {p : Entry → Bool} (h : reg.victim composite p = none) :
    ∀ k e, reg.entries.lookup k = some e → p e = false := by
  intro k e he
  unfold victim at h
  rw [Option.map_eq_none_iff, List.argmin_eq_none, List.filter_eq_nil_iff] at h
  simpa using h ⟨k, e⟩ ((mem_entries_iff _ k e).mpr he)

lemma victim_eq_some {p : Entry → Bool} (h : reg.victim composite p = some addr) :
    ∃ e, reg.entries.lookup addr = some e ∧ p e = true ∧
      ∀ k' e', reg.entries.lookup k' = some e' → p e' = true →
        (toLex (composite addr e, addr) : κ ×ₗ String) ≤ toLex (composite k' e', k') := by
  unfold victim at h
  obtain ⟨⟨k, e⟩, hmin, rfl⟩ := Option.map_eq_some_iff.mp h
  obtain ⟨hmem, hp⟩ := List.mem_filter.mp (List.argmin_mem hmin)
  refine ⟨e, (mem_entries_iff _ k e).mp hmem, hp, fun k' e' he' hp' => ?_⟩
  have hmem' : (⟨k', e'⟩ : (_ : String) × Entry) ∈
      reg.entries.entries.filter (fun e => p e.2) :=
    List.mem_filter.mpr ⟨(mem_entries_iff _ k' e').mpr he', hp'⟩
  have hle := List.le_of_mem_argmin hmem' hmin
  exact hle

/-- What the eviction loop picks is the least entry. -/
lemma leastEntry_of_victim
    (h : (reg.victim composite (fun e => e.health.backedOff clock)).or
      (reg.victim composite (fun _ => true)) = some addr) : LeastEntry (evictionOrder composite clock) reg.entries addr := by
  rcases hback : reg.victim composite (fun e => e.health.backedOff clock) with _ | k
  · -- no entry is in back-off, so all of them compare by score and address
    rw [hback, Option.none_or] at h
    have hnone := victim_eq_none hback
    obtain ⟨e, he, -, hle⟩ := victim_eq_some h
    refine ⟨e, he, fun k' e' he' => ?_⟩
    unfold evictionOrder
    rw [hnone addr e he, hnone k' e' he', Prod.Lex.toLex_le_toLex]
    exact .inr ⟨rfl, hle k' e' he' rfl⟩
  · rw [hback, Option.some_or] at h
    obtain rfl := Option.some.inj h
    obtain ⟨e, he, hoff, hle⟩ := victim_eq_some hback
    refine ⟨e, he, fun k' e' he' => ?_⟩
    unfold evictionOrder
    rw [hoff, Prod.Lex.toLex_le_toLex]
    rcases hoff' : e'.health.backedOff clock with _ | _
    · exact .inl Bool.false_lt_true
    · exact .inr ⟨rfl, hle k' e' he' hoff'⟩

lemma exists_victim (composite : String → Entry → κ) (reg : Registry) (clock : Instant)
    (h : 0 < len reg.entries) :
    ∃ k, (reg.victim composite (fun e => e.health.backedOff clock)).or
      (reg.victim composite (fun _ => true)) = some k := by
  rcases hall : reg.victim composite (fun _ => true) with _ | k
  · obtain ⟨⟨k, e⟩, hmem⟩ := List.exists_mem_of_length_pos h
    have hfalse := victim_eq_none hall k e ((mem_entries_iff _ k e).mp hmem)
    cases hfalse
  · rcases reg.victim composite (fun e => e.health.backedOff clock) with _ | k'
    · exact ⟨k, rfl⟩
    · exact ⟨k', rfl⟩

/-! ### The loop -/

/-- The loop removes the least entries, counts them and ends within the capacity. -/
lemma evictLoop_evicts (composite : String → Entry → κ) (reg : Registry) (clock : Instant)
    (fuel removed : Nat)
    (hfuel : len reg.entries ≤ fuel) :
    ∃ victims, Evicts (evictionOrder composite clock) reg.entries victims
        (evictLoop composite clock fuel removed reg).2.entries ∧
      (evictLoop composite clock fuel removed reg).1 = removed + victims.length ∧
      len (evictLoop composite clock fuel removed reg).2.entries =
        min (len reg.entries) reg.maxNodes := by
  induction fuel generalizing reg removed with
  | zero => exact ⟨[], .done _, rfl, by change len reg.entries = _; omega⟩
  | succ fuel ih =>
    unfold evictLoop
    split
    · rename_i hover
      obtain ⟨k, hk⟩ := exists_victim composite reg clock (by omega)
      rw [hk]
      have hleast := leastEntry_of_victim hk
      have hlen : len (reg.remove k).entries + 1 = len reg.entries := by
        obtain ⟨e, he, -⟩ := hleast
        exact len_erase_of_mem (mem_of_lookup he)
      have hmax : (reg.remove k).maxNodes = reg.maxNodes := rfl
      obtain ⟨victims, hevicts, hcount, hleft⟩ := ih (reg.remove k) (removed + 1) (by omega)
      refine ⟨k :: victims, .next hleast hevicts, ?_, ?_⟩
      · change (evictLoop composite clock fuel (removed + 1) (reg.remove k)).1 = _
        rw [hcount, List.length_cons]
        omega
      · change len (evictLoop composite clock fuel (removed + 1) (reg.remove k)).2.entries = _
        rw [hleft, hmax]
        omega
    · exact ⟨[], .done _, rfl, by change len reg.entries = _; omega⟩

lemma evictIfOverCapacity_evicts (composite : String → Entry → κ) (reg : Registry)
    (clock : Instant) :
    ∃ victims, Evicts (evictionOrder composite clock) reg.entries victims
        (reg.evictIfOverCapacity composite clock).2.entries ∧
      (reg.evictIfOverCapacity composite clock).1 = victims.length ∧
      len (reg.evictIfOverCapacity composite clock).2.entries =
        min (len reg.entries) reg.maxNodes := by
  obtain ⟨victims, hevicts, hcount, hleft⟩ := evictLoop_evicts composite reg clock
    (len reg.entries) 0 le_rfl
  exact ⟨victims, hevicts, hcount.trans (Nat.zero_add _), hleft⟩

lemma maxNodes_evictLoop (fuel removed : Nat) (reg : Registry) :
    (evictLoop composite clock fuel removed reg).2.maxNodes = reg.maxNodes :=
  evictLoop_keeps (J := fun r => r.maxNodes = reg.maxNodes) (fun _ _ h => h) rfl

/-! ### `upsert_full` -/

/-- The entry that the operation leaves under its address, before anything is evicted. -/
def upsertedEntry (reg : Registry) (op : RegistryOp) : Option Entry :=
  match reg.entries.lookup op.addr with
  | some e => some (op.change reg.ttl e)
  | none => op.create reg.ttl

/-- The victims are the least entries in the order of eviction, and they are counted. -/
structure EvictsLeast (composite : String → Entry → κ) (clock : Instant)
    (before : Table String Entry) (removed : Nat) (after : Table String Entry) : Prop where
  leastOut : ∃ victims, LeastOut (evictionOrder composite clock) before victims after ∧
    removed = victims.length
  removed_eq : len after + removed = len before
  backed_off_first : ∀ k e, before.lookup k = some e → after.lookup k = none →
    e.health.backedOff clock = false →
    ∀ k' e', after.lookup k' = some e' → e'.health.backedOff clock = false

lemma evictsLeast_of_evicts {before after : Table String Entry} {victims : List String}
    (h : Evicts (evictionOrder composite clock) before victims after) :
    EvictsLeast composite clock before victims.length after := by
  have hout := h.leastOut (separates_evictionOrder clock)
  refine ⟨⟨victims, hout, rfl⟩, h.len_eq, fun k e he hgone hlive k' e' he' => ?_⟩
  have hk : k ∈ victims := by
    by_contra hk
    rw [hout.lookup_eq, if_neg hk, he] at hgone
    cases hgone
  have hk' : k' ∉ victims := by
    intro hk'
    rw [hout.lookup_eq, if_pos hk'] at he'
    cases he'
  rw [hout.lookup_eq, if_neg hk'] at he'
  have hlt := hout.least k hk k' hk' e e' he he'
  unfold evictionOrder at hlt
  rw [hlive, Prod.Lex.toLex_lt_toLex] at hlt
  rcases hoff' : e'.health.backedOff clock with _ | _
  · rfl
  · rw [hoff'] at hlt
    rcases hlt with hlt | ⟨heq, -⟩
    · exact absurd hlt (by simp)
    · cases heq

section UpsertFull

variable (composite : String → Entry → κ) (raw : RawNode) (fwdLatencyMs : Nat) (anon : AnonLevel)
  (exitIp : Option String) (now clock : Instant)

/-- A known address is refreshed. -/
lemma upsertFull_known {e : Entry} (he : reg.entries.lookup raw.addr = some e) :
    ∃ refreshed : Registry,
      reg.upsertFullBy composite raw fwdLatencyMs anon exitIp now clock = (0, refreshed) ∧
      refreshed.entries = reg.entries.insert raw.addr
        (RegistryOp.change reg.ttl e (.upsertFull raw fwdLatencyMs anon exitIp now clock)) := by
  unfold upsertFullBy
  dsimp only
  split
  · rename_i e' he'
    obtain rfl := Option.some.inj (he.symm.trans he')
    exact ⟨_, rfl, rfl⟩
  · rename_i hnone
    exact absurd (he.symm.trans hnone) (Option.some_ne_none e)

/-- A new address is inserted, and the least entries go. -/
lemma upsertFull_new (hnone : reg.entries.lookup raw.addr = none) :
    ∃ (e : Entry) (inserted : Registry),
      reg.upsertFullBy composite raw fwdLatencyMs anon exitIp now clock =
        inserted.evictIfOverCapacity composite clock ∧
      RegistryOp.create reg.ttl (.upsertFull raw fwdLatencyMs anon exitIp now clock) = some e ∧
      inserted.entries = reg.entries.insert raw.addr e ∧ inserted.maxNodes = reg.maxNodes := by
  unfold upsertFullBy
  dsimp only
  split
  · rename_i e' he'
    exact absurd (he'.symm.trans hnone) (Option.some_ne_none e')
  · exact ⟨_, _, rfl, rfl, rfl, rfl⟩

/-- What an `upsert_full` comes to: the table before any eviction, and the victims. -/
lemma upsertFull_evicts :
    ∃ e victims,
      reg.upsertedEntry (.upsertFull raw fwdLatencyMs anon exitIp now clock) = some e ∧
      Evicts (evictionOrder composite clock) (reg.entries.insert raw.addr e) victims
        (reg.upsertFullBy composite raw fwdLatencyMs anon exitIp now clock).2.entries ∧
      (reg.upsertFullBy composite raw fwdLatencyMs anon exitIp now clock).1 = victims.length ∧
      len (reg.upsertFullBy composite raw fwdLatencyMs anon exitIp now clock).2.entries =
        if raw.addr ∈ reg.entries then len reg.entries
        else min (len reg.entries + 1) reg.maxNodes := by
  rcases hlook : reg.entries.lookup raw.addr with _ | e
  · obtain ⟨e, inserted, heq, hcreate, hentries, hmax⟩ :=
      upsertFull_new composite raw fwdLatencyMs anon exitIp now clock hlook
    obtain ⟨victims, hevicts, hcount, hlen⟩ := evictIfOverCapacity_evicts composite inserted clock
    have hnew : raw.addr ∉ reg.entries := AList.lookup_eq_none.mp hlook
    rw [heq, if_neg hnew]
    refine ⟨e, victims, ?_, hentries ▸ hevicts, hcount, ?_⟩
    · rw [upsertedEntry, show (RegistryOp.upsertFull raw _ _ _ _ _).addr = raw.addr from rfl, hlook]
      exact hcreate
    · rw [hlen, hentries, hmax, len_insert_of_notMem hnew]
  · obtain ⟨refreshed, heq, hentries⟩ :=
      upsertFull_known composite raw fwdLatencyMs anon exitIp now clock hlook
    have hknown : raw.addr ∈ reg.entries := mem_of_lookup hlook
    rw [heq, if_pos hknown]
    refine ⟨RegistryOp.change reg.ttl e (.upsertFull raw fwdLatencyMs anon exitIp now clock), [],
      ?_, ?_, rfl, ?_⟩
    · rw [upsertedEntry, show (RegistryOp.upsertFull raw _ _ _ _ _).addr = raw.addr from rfl, hlook]
    · rw [← hentries]
      exact .done _
    · rw [hentries, len_insert_of_mem hknown]

/-- The order of the entries has no part in what an `upsert_full` removes. -/
lemma upsertFull_congr (httl : reg'.ttl = reg.ttl) (hmax : reg'.maxNodes = reg.maxNodes)
    (hlook : ∀ k, reg'.entries.lookup k = reg.entries.lookup k) :
    (reg'.upsertFullBy composite raw fwdLatencyMs anon exitIp now clock).1 =
        (reg.upsertFullBy composite raw fwdLatencyMs anon exitIp now clock).1 ∧
      ∀ k, (reg'.upsertFullBy composite raw fwdLatencyMs anon exitIp now clock).2.entries.lookup k =
        (reg.upsertFullBy composite raw fwdLatencyMs anon exitIp now clock).2.entries.lookup k := by
  obtain ⟨e, victims, hentry, hevicts, hcount, hlen⟩ :=
    reg.upsertFull_evicts composite raw fwdLatencyMs anon exitIp now clock
  obtain ⟨e', victims', hentry', hevicts', hcount', hlen'⟩ :=
    reg'.upsertFull_evicts composite raw fwdLatencyMs anon exitIp now clock
  obtain rfl : e' = e := by
    unfold upsertedEntry at hentry hentry'
    rw [hlook, httl, hentry] at hentry'
    exact (Option.some.inj hentry').symm
  have hmem : raw.addr ∈ reg'.entries ↔ raw.addr ∈ reg.entries := by
    rw [mem_iff_lookup, mem_iff_lookup, hlook]
  have hinsert : ∀ k, (reg'.entries.insert raw.addr e').lookup k =
      (reg.entries.insert raw.addr e').lookup k := by
    intro k
    rw [lookup_insert_eq, lookup_insert_eq, hlook]
  have hleft : len (reg'.upsertFullBy composite raw fwdLatencyMs anon exitIp now clock).2.entries =
      len (reg.upsertFullBy composite raw fwdLatencyMs anon exitIp now clock).2.entries := by
    rw [hlen', hlen, hmax, len_eq_of_lookup hlook]
    simp only [hmem]
  obtain ⟨hvictims, hsurvivors⟩ :=
    hevicts'.unique (separates_evictionOrder clock) hevicts hinsert hleft
  rw [hcount', hcount, hvictims]
  exact ⟨rfl, hsurvivors⟩

end UpsertFull

/-! ### Every history -/

/-- An operation with the scores by which it evicts, if it does. -/
structure ScoredOp (κ : Type u) where
  composite : String → Entry → κ
  op : RegistryOp

def stepBy (reg : Registry) (x : ScoredOp κ) : Registry :=
  match x.op with
  | .upsertFull raw fwdLatencyMs anon exitIp now clock =>
    (reg.upsertFullBy x.composite raw fwdLatencyMs anon exitIp now clock).2
  | op => reg.step op

lemma len_renewTtl (reg : Registry) (addr : String) (now : Instant) :
    len (reg.renewTtl addr now).entries = len reg.entries := by
  unfold renewTtl
  split
  · rename_i e he
    exact len_insert_of_mem (mem_of_lookup he) _
  · rfl

lemma len_noteVerifyFailed (reg : Registry) (addr : String) (now : Instant) :
    len (reg.noteVerifyFailed addr now).entries = len reg.entries := by
  unfold noteVerifyFailed
  dsimp only
  split
  · rename_i e he
    exact len_insert_of_mem (mem_of_lookup he) _
  · rfl

lemma maxNodes_renewTtl (reg : Registry) (addr : String) (now : Instant) :
    (reg.renewTtl addr now).maxNodes = reg.maxNodes := by
  unfold renewTtl
  split <;> rfl

lemma maxNodes_noteVerifyFailed (reg : Registry) (addr : String) (now : Instant) :
    (reg.noteVerifyFailed addr now).maxNodes = reg.maxNodes := by
  unfold noteVerifyFailed
  dsimp only
  split <;> rfl

lemma maxNodes_stepBy (reg : Registry) (x : ScoredOp κ) :
    (reg.stepBy x).maxNodes = reg.maxNodes := by
  obtain ⟨composite, op⟩ := x
  cases op with
  | upsertFull raw fwdLatencyMs anon exitIp now clock =>
    unfold stepBy upsertFullBy
    dsimp only
    split
    · rfl
    · exact maxNodes_evictLoop _ _ _
  | renewTtl addr now => exact reg.maxNodes_renewTtl addr now
  | noteVerifyFailed addr now => exact reg.maxNodes_noteVerifyFailed addr now
  | reverify addr passed now =>
    cases passed with
    | true => exact reg.maxNodes_renewTtl addr now
    | false => exact reg.maxNodes_noteVerifyFailed addr now

def WithinCapacity (reg : Registry) : Prop := len reg.entries ≤ reg.maxNodes

lemma withinCapacity_stepBy (reg : Registry) (x : ScoredOp κ) (h : reg.WithinCapacity) :
    (reg.stepBy x).WithinCapacity := by
  unfold WithinCapacity at h ⊢
  rw [maxNodes_stepBy]
  obtain ⟨composite, op⟩ := x
  cases op with
  | upsertFull raw fwdLatencyMs anon exitIp now clock =>
    obtain ⟨e, victims, -, -, -, hlen⟩ :=
      reg.upsertFull_evicts composite raw fwdLatencyMs anon exitIp now clock
    change len (reg.upsertFullBy composite raw fwdLatencyMs anon exitIp now clock).2.entries ≤ _
    rw [hlen]
    split
    · exact h
    · exact min_le_right _ _
  | renewTtl addr now => exact (reg.len_renewTtl addr now).trans_le h
  | noteVerifyFailed addr now => exact (reg.len_noteVerifyFailed addr now).trans_le h
  | reverify addr passed now =>
    cases passed with
    | true => exact (reg.len_renewTtl addr now).trans_le h
    | false => exact (reg.len_noteVerifyFailed addr now).trans_le h

theorem withinCapacity_run (ttl maxNodes : Nat) (xs : List (ScoredOp κ)) :
    (run stepBy (withCapacity ttl maxNodes) xs).WithinCapacity :=
  run_invariant withinCapacity_stepBy (Nat.zero_le _) xs

end Registry

/-- What `upsert_full` comes to on a registry, whatever the order in which its hash map yields the
entries: `reg'` stands for the same registry with its entries in another order. -/
structure UpsertEvicts (composite : String → Entry → κ) (reg : Registry) (raw : RawNode)
    (fwdLatencyMs : Nat) (anon : AnonLevel) (exitIp : Option String) (now clock : Instant) :
    Prop where
  victims : ∃ e,
    reg.upsertedEntry (.upsertFull raw fwdLatencyMs anon exitIp now clock) = some e ∧
      Registry.EvictsLeast composite clock (reg.entries.insert raw.addr e)
        (reg.upsertFullBy composite raw fwdLatencyMs anon exitIp now clock).1
        (reg.upsertFullBy composite raw fwdLatencyMs anon exitIp now clock).2.entries
  bounded : reg.WithinCapacity ∨ raw.addr ∉ reg.entries →
    len (reg.upsertFullBy composite raw fwdLatencyMs anon exitIp now clock).2.entries ≤ reg.maxNodes
  unordered : ∀ reg' : Registry, reg'.ttl = reg.ttl → reg'.maxNodes = reg.maxNodes →
    (∀ k, reg'.entries.lookup k = reg.entries.lookup k) →
      (reg'.upsertFullBy composite raw fwdLatencyMs anon exitIp now clock).1 =
          (reg.upsertFullBy composite raw fwdLatencyMs anon exitIp now clock).1 ∧
        ∀ k, (reg'.upsertFullBy composite raw fwdLatencyMs anon exitIp now clock).2.entries.lookup k =
          (reg.upsertFullBy composite raw fwdLatencyMs anon exitIp now clock).2.entries.lookup k

/-- For every registry and every `upsert_full`, whatever the composite scores of the entries are;
and a registry stays within its capacity in every history, in which each operation may find other
scores. -/
theorem upsertFull_evicts_least (composite : String → Entry → κ) (reg : Registry) (raw : RawNode)
    (fwdLatencyMs : Nat) (anon : AnonLevel) (exitIp : Option String) (now clock : Instant) :
    UpsertEvicts composite reg raw fwdLatencyMs anon exitIp now clock ∧
      ∀ ttl maxNodes (xs : List (Registry.ScoredOp κ)),
        (run Registry.stepBy (Registry.withCapacity ttl maxNodes) xs).WithinCapacity := by
  refine ⟨?_, Registry.withinCapacity_run⟩
  obtain ⟨e, victims, hentry, hevicts, hcount, hlen⟩ :=
    reg.upsertFull_evicts composite raw fwdLatencyMs anon exitIp now clock
  constructor
  · refine ⟨e, hentry, ?_⟩
    rw [hcount]
    exact Registry.evictsLeast_of_evicts hevicts
  · intro h
    rw [hlen]
    split
    · rename_i hknown
      exact h.resolve_right (fun hnew => hnew hknown)
    · exact min_le_right _ _
  · exact fun reg' => Registry.upsertFull_congr composite raw fwdLatencyMs anon exitIp now clock

/-- An entry that is neither expired nor in back-off goes only when no other kind is left. -/
def SparesLive (clock : Instant) (before after : Table String Entry) : Prop :=
  ∀ k e, before.lookup k = some e → after.lookup k = none → clock < e.expiresAt →
    e.health.backedOff clock = false → ∀ k' e', after.lookup k' = some e' →
      clock < e'.expiresAt ∧ e'.health.backedOff clock = false

/-- Room for one node: an entry that expired 100 s ago outranks a new one by its address. -/
theorem live_evicted_before_expired :
    ¬∀ (reg : Registry) (raw : RawNode) (fwdLatencyMs : Nat) (anon : AnonLevel)
      (exitIp : Option String) (now clock : Instant) (e : Entry),
      reg.upsertedEntry (.upsertFull raw fwdLatencyMs anon exitIp now clock) = some e →
        SparesLive clock (reg.entries.insert raw.addr e)
          (reg.upsertFull raw fwdLatencyMs anon exitIp now clock).2.entries := by
  intro h
  let reg := (Registry.withCapacity (fromSecs 600) 1).step
    (.upsertFull ⟨"203.0.113.9", 8080, .http, none, "a"⟩ 100 .elite none 0 0)
  let added : RawNode := ⟨"203.0.113.1", 8080, .http, none, "a"⟩
  let after := (reg.upsertFull added 100 .elite none (fromSecs 700) (fromSecs 700)).2.entries
  have hspares := h reg added 100 .elite none (fromSecs 700) (fromSecs 700) _ rfl
  have hgone : after.lookup added.addr = none := by
    rw [← Option.isNone_iff_eq_none]
    decide +kernel
  have hstays : (after.lookup "203.0.113.9:8080").map Entry.expiresAt = some (fromSecs 600) := by
    decide +kernel
  obtain ⟨e', he', hexpiry⟩ := Option.map_eq_some_iff.mp hstays
  refine absurd (hspares _ _ (AList.lookup_insert reg.entries) hgone ?_ rfl _ e' he').1 ?_
  · decide
  · rw [hexpiry]
    decide

end IPProxyPool
