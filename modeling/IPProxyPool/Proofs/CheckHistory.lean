import IPProxyPool.Proofs.HealthRange
import IPProxyPool.Proofs.ProtocolMix

/-!
# What the registry remembers of the checks

The operations that the results of checks have caused, from the latest one back, beside the worker.
A failure mark dates the latest failure of its address, and an entry knows the failures since the
latest check that passed in full.
-/

namespace IPProxyPool
open AssocTable Transition

namespace RegistryOp

def fails (op : RegistryOp) : Bool := !op.extendsTtl

/-- More than a renewal of the TTL: a check that passed in full, or one that failed. -/
def decides : RegistryOp → Bool
  | upsertFull _ _ _ _ _ _ => true
  | op => op.fails

lemma decides_of_fails {op : RegistryOp} (h : op.fails = true) : op.decides = true := by
  cases op with
  | upsertFull => rfl
  | renewTtl => exact h
  | noteVerifyFailed => exact h
  | reverify => exact h

end RegistryOp

/-- The latest operation of the address with the property `p`, in a history that runs back. -/
def latest (p : RegistryOp → Bool) (applied : List RegistryOp) (addr : String) :
    Option RegistryOp :=
  applied.find? (fun op => op.addr == addr && p op)

/-- The number of failures of the address since it last passed in full. -/
def strikes (applied : List RegistryOp) (addr : String) : Nat :=
  ((applied.filter (fun op => op.addr == addr && op.decides)).takeWhile RegistryOp.fails).length

section History
variable {p : RegistryOp → Bool} {op : RegistryOp} {applied : List RegistryOp} {addr : String}

lemma latest_cons_self (h : p op = true) : latest p (op :: applied) op.addr = some op := by
  rw [latest, List.find?_cons_of_pos (by simp [h])]

lemma latest_cons_of_ne (h : addr ≠ op.addr) : latest p (op :: applied) addr =
    latest p applied addr := by
  rw [latest, List.find?_cons_of_neg (by simp [h.symm]), latest]

lemma latest_cons_of_not (h : p op = false) : latest p (op :: applied) addr =
    latest p applied addr := by
  rw [latest, List.find?_cons_of_neg (by simp [h]), latest]

lemma strikes_cons_of_ne (h : addr ≠ op.addr) : strikes (op :: applied) addr =
    strikes applied addr := by
  rw [strikes, List.filter_cons_of_neg (by simp [h.symm]), strikes]

lemma strikes_cons_of_not (h : op.decides = false) : strikes (op :: applied) addr =
    strikes applied addr := by
  rw [strikes, List.filter_cons_of_neg (by simp [h]), strikes]

lemma strikes_cons_fails (h : op.fails = true) : strikes (op :: applied) op.addr =
    strikes applied op.addr + 1 := by
  rw [strikes, List.filter_cons_of_pos (by simp [RegistryOp.decides_of_fails h]),
    List.takeWhile_cons_of_pos h, List.length_cons, strikes]

lemma strikes_cons_passes (hd : op.decides = true) (h : op.fails = false) :
    strikes (op :: applied) op.addr = 0 := by
  rw [strikes, List.filter_cons_of_pos (by simp [hd]), List.takeWhile_cons_of_neg (by simp [h]),
    List.length_nil]

end History

namespace Registry

variable {reg : Registry} {applied : List RegistryOp} {op : RegistryOp}

/-- What the health of the address keeps of the history. -/
structure Told (applied : List RegistryOp) (addr : String) (health : Health) : Prop where
  strikes : health.failStreak = IPProxyPool.strikes applied addr
  backoff : ∀ op, latest RegistryOp.decides applied addr = some op → op.fails = true →
    health.backoffUntil = some (op.now + fromSecs (backoffSecs health.failStreak))

/-- The registry agrees with the operations that made it. -/
structure Recalls (reg : Registry) (applied : List RegistryOp) : Prop where
  marks : ∀ addr t, reg.failMarks.lookup addr = some t →
    ∃ op, latest RegistryOp.fails applied addr = some op ∧ op.now = t
  entries : ∀ addr e, reg.entries.lookup addr = some e → Told applied addr e.health

lemma recalls_withCapacity (ttl maxNodes : Nat) : (withCapacity ttl maxNodes).Recalls [] := by
  refine ⟨fun addr t h => ?_, fun addr e h => ?_⟩
  · cases h
  · cases h

/-- A failure is marked; the other marks stay, or all of them are cleared. -/
lemma failMarks_failed (h : op.fails = true) {addr : String} {t : Instant}
    (hlook : (reg.step op).failMarks.lookup addr = some t) :
    addr = op.addr ∧ t = op.now ∨ addr ≠ op.addr ∧ reg.failMarks.lookup addr = some t := by
  have hnoted : ∀ a now, ((reg.noteVerifyFailed a now).failMarks).lookup addr = some t →
      addr = a ∧ t = now ∨ addr ≠ a ∧ reg.failMarks.lookup addr = some t := by
    intro a now hl
    have hmarks : (reg.noteVerifyFailed a now).failMarks =
        (if failMarksCap ≤ len reg.failMarks then ∅ else reg.failMarks).insert a now := by
      unfold noteVerifyFailed
      split <;> rfl
    rw [hmarks, lookup_insert_eq] at hl
    split at hl
    · rename_i ha
      exact .inl ⟨ha, (Option.some.inj hl).symm⟩
    · rename_i ha
      split at hl
      · cases hl
      · exact .inr ⟨ha, hl⟩
  cases op with
  | upsertFull => cases h
  | renewTtl => cases h
  | noteVerifyFailed a now => exact hnoted a now hlook
  | reverify a passed now =>
    obtain rfl : passed = false := by simpa [RegistryOp.fails, RegistryOp.extendsTtl] using h
    exact hnoted a now hlook

lemma marks_step (h : reg.Recalls applied) {addr : String} {t : Instant}
    (hlook : (reg.step op).failMarks.lookup addr = some t) :
    ∃ op', latest RegistryOp.fails (op :: applied) addr = some op' ∧ op'.now = t := by
  cases hf : op.fails with
  | true =>
    rcases failMarks_failed hf hlook with ⟨rfl, rfl⟩ | ⟨hne, hold⟩
    · exact ⟨op, latest_cons_self hf, rfl⟩
    · rw [latest_cons_of_ne hne]
      exact h.marks addr t hold
  | false =>
    rw [failMarks_step (by simpa [RegistryOp.fails] using hf)] at hlook
    rw [latest_cons_of_not hf]
    exact h.marks addr t hlook

lemma told_failed {health : Health} (hf : op.fails = true) (h : Told applied op.addr health) :
    Told (op :: applied) op.addr (health.noteFailure op.now) := by
  refine ⟨?_, fun op' hop' _ => ?_⟩
  · rw [strikes_cons_fails hf, ← h.strikes]
    rfl
  · rw [latest_cons_self (RegistryOp.decides_of_fails hf)] at hop'
    cases hop'
    rfl

lemma told_renewed {health : Health} {addr : String} (hd : op.decides = false)
    (h : Told applied addr health) : Told (op :: applied) addr health := by
  refine ⟨?_, ?_⟩
  · rw [strikes_cons_of_not hd]
    exact h.strikes
  · rw [latest_cons_of_not hd]
    exact h.backoff

lemma told_passed {health : Health} (hd : op.decides = true) (hf : op.fails = false)
    (hzero : health.failStreak = 0) : Told (op :: applied) op.addr health := by
  refine ⟨?_, fun op' hop' hf' => ?_⟩
  · rw [strikes_cons_passes hd hf, hzero]
  · rw [latest_cons_self hd] at hop'
    cases hop'
    rw [hf] at hf'
    cases hf'

lemma told_change {e : Entry} (h : Told applied op.addr e.health) :
    Told (op :: applied) op.addr (op.change reg.ttl e).health := by
  cases op with
  | upsertFull => exact told_passed rfl rfl rfl
  | renewTtl => exact told_renewed rfl h
  | noteVerifyFailed => exact told_failed rfl h
  | reverify addr passed now =>
    cases passed with
    | true => exact told_renewed rfl h
    | false => exact told_failed rfl h

lemma told_create {e : Entry} (h : op.create reg.ttl = some e) :
    Told (op :: applied) op.addr e.health := by
  cases op with
  | upsertFull =>
    cases h
    exact told_passed rfl rfl rfl
  | renewTtl => cases h
  | noteVerifyFailed => cases h
  | reverify => cases h

/-- One operation on the registry is one operation more to recall. -/
theorem recalls_step (h : reg.Recalls applied) (op : RegistryOp) :
    (reg.step op).Recalls (op :: applied) := by
  refine ⟨fun addr t hlook => marks_step h hlook, fun addr e hlook => ?_⟩
  rcases step_leftBy op hlook with ⟨hne, hold⟩ | ⟨rfl, e₀, hold, rfl⟩ | ⟨rfl, -, hnew⟩
  · refine ⟨?_, ?_⟩
    · rw [strikes_cons_of_ne hne]
      exact (h.entries addr e hold).strikes
    · rw [latest_cons_of_ne hne]
      exact (h.entries addr e hold).backoff
  · exact told_change (h.entries op.addr e₀ hold)
  · exact told_create hnew

lemma recalls_run (h : reg.Recalls applied) (ops : List RegistryOp) :
    (run step reg ops).Recalls (ops.reverse ++ applied) := by
  induction ops generalizing reg applied with
  | nil => exact h
  | cons op ops ih =>
    rw [List.reverse_cons, List.append_assoc, List.singleton_append]
    exact ih (recalls_step h op)

end Registry

/-! ### The worker with its history -/

namespace FreePoolWorker

/-- No check is running. -/
def idle (w : FreePoolWorker) : Prop := w.tcp = [] ∧ w.full = []

instance (w : FreePoolWorker) : Decidable w.idle := inferInstanceAs (Decidable (_ ∧ _))

/-- The event is the result of a running check. -/
def arrives (w : FreePoolWorker) : TickEvent → Bool
  | .tcpDone raw _ => raw ∈ w.tcp
  | .fullPassed raw _ _ _ _ _ _ => w.tcp = [] ∧ raw ∈ w.full
  | .fullFailed raw => w.tcp = [] ∧ raw ∈ w.full
  | _ => false

/-- What the event does to the registry. -/
def applies (c : FreePoolConfig) (w : FreePoolWorker) (e : TickEvent) : List RegistryOp :=
  if w.arrives e then w.resultOps c e else []

lemma registry_step (c : FreePoolConfig) (w : FreePoolWorker) (e : TickEvent) :
    (w.step c e).registry = run Registry.step w.registry (w.applies c e) := by
  cases e with
  | begin =>
    unfold step
    dsimp only
    split <;> rfl
  | joinFailed =>
    unfold step
    dsimp only
    split
    · rfl
    · split <;> rfl
  | tcpDone | fullPassed | fullFailed =>
    unfold step applies arrives
    simp only [decide_eq_true_eq]
    split <;> rfl

end FreePoolWorker

/-- The worker and the operations that its results have caused, from the latest one back. -/
structure FreePoolLog where
  worker : FreePoolWorker
  applied : List RegistryOp

namespace FreePoolLog

def new (c : FreePoolConfig) : FreePoolLog := ⟨.new c, []⟩

def step (c : FreePoolConfig) (s : FreePoolLog) (e : TickEvent) : FreePoolLog where
  worker := s.worker.step c e
  applied := (s.worker.applies c e).reverse ++ s.applied

def Recalls (s : FreePoolLog) : Prop := s.worker.registry.Recalls s.applied

lemma recalls_new (c : FreePoolConfig) : (new c).Recalls := Registry.recalls_withCapacity _ _

lemma recalls_step {c : FreePoolConfig} (s : FreePoolLog) (e : TickEvent) (h : s.Recalls) :
    (s.step c e).Recalls := by
  unfold Recalls step
  rw [FreePoolWorker.registry_step]
  exact Registry.recalls_run h _

end FreePoolLog

end IPProxyPool
