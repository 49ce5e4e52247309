import IPProxyPool.Lib.Run
import IPProxyPool.Model.Tenant

/-!
# Concurrency slots of a tenant

The counter `in_flight` against the requests that hold a slot and the attempts that are about to
undo their increment, for any interleaving of the atomic steps of any requests. The counter never
wraps because the requests in progress are fewer than the values of a word.
-/

namespace IPProxyPool
open Population Transition

/-- A grant counts from the `fetch_add` that found a free slot until the exchange that gives the
slot back. -/
def grantWeight (maxConcurrency : Nat) : SlotPhase → Nat
  | .added current => if maxConcurrency ≤ current then 0 else 1
  | .granted => 1
  | .releasing true _ _ _ => 1
  | _ => 0

/-- An attempt between its `fetch_add`, which found no free slot, and its `fetch_sub`. -/
def attemptWeight (maxConcurrency : Nat) : SlotPhase → Nat
  | .added current => if maxConcurrency ≤ current then 1 else 0
  | .overLimit => 1
  | _ => 0

/-- Bytes of a release that gave its slot back and has not reached the byte counter. -/
def unmeteredBytes : SlotPhase → Nat
  | .metering bytes _ => bytes
  | _ => 0

/-- What a release has read from the counter: the owner of a slot never reads zero, and a release
without a slot reads nothing else. -/
def SlotPhase.Sound : SlotPhase → Prop
  | .releasing true cur _ _ => 0 < cur
  | .releasing false cur _ _ => cur = 0
  | _ => True

namespace GateState

def grants (s : GateState) : Nat := total (grantWeight s.account.maxConcurrency) s.phase

def attempts (s : GateState) : Nat := total (attemptWeight s.account.maxConcurrency) s.phase

def unmetered (s : GateState) : Nat := total unmeteredBytes s.phase

structure SlotsInv (s : GateState) : Prop where
  inFlight_eq : s.account.inFlight = s.grants + s.attempts
  grants_le : s.grants ≤ s.account.maxConcurrency
  sound : ∀ i, (s.phase i).Sound
  bytes_lt : s.account.totalBytes < wordSize
  bytes_eq : (s.account.totalBytes + s.unmetered) % wordSize = s.effective.sum % wordSize

/-- The counter moves by one at most, so that it passes neither zero nor the largest value. -/
def Steady (s s' : GateState) : Prop :=
  s'.account.inFlight ≤ s.account.inFlight + 1 ∧ s.account.inFlight ≤ s'.account.inFlight + 1

lemma weights_le_one (maxConcurrency : Nat) (p : SlotPhase) :
    grantWeight maxConcurrency p + attemptWeight maxConcurrency p ≤ 1 := by
  cases p with
  | added current =>
    unfold grantWeight attemptWeight
    dsimp only
    split <;> omega
  | releasing held => cases held <;> simp [grantWeight, attemptWeight]
  | _ => simp [grantWeight, attemptWeight]

/-- The requests counted are fewer than the values of a word. -/
lemma counted_lt (maxConcurrency : Nat) (f : ContextAddr → SlotPhase) :
    total (grantWeight maxConcurrency) f + total (attemptWeight maxConcurrency) f < wordSize := by
  rw [total_add]
  have hcard : Fintype.card ContextAddr < Fintype.card (Fin wordSize) :=
    Fintype.card_subtype_lt (x := ⟨0, by decide⟩) (by simp)
  rw [Fintype.card_fin] at hcard
  exact lt_of_le_of_lt (total_le_card (fun i => weights_le_one maxConcurrency (f i))) hcard

variable {s s' : GateState} {i : ContextAddr} {p : SlotPhase}

/-- One request moves to `p`. The counter has to change by the weights of its two phases, and a new
grant needs a free slot. -/
lemma SlotsInv.of_move (h : s.SlotsInv) (hphase : s'.phase = Function.update s.phase i p)
    (hmax : s'.account.maxConcurrency = s.account.maxConcurrency)
    (hcount : s'.account.inFlight + (grantWeight s.account.maxConcurrency (s.phase i) +
        attemptWeight s.account.maxConcurrency (s.phase i)) =
      s.account.inFlight + (grantWeight s.account.maxConcurrency p +
        attemptWeight s.account.maxConcurrency p))
    (hgrant : grantWeight s.account.maxConcurrency p ≤
        grantWeight s.account.maxConcurrency (s.phase i) ∨
      s.account.inFlight < s.account.maxConcurrency)
    (hsound : p.Sound) (hlt : s'.account.totalBytes < wordSize)
    (hbytes : (s'.account.totalBytes + unmeteredBytes p + s.effective.sum) % wordSize =
      (s.account.totalBytes + unmeteredBytes (s.phase i) + s'.effective.sum) % wordSize) :
    s'.SlotsInv ∧ Steady s s' := by
  have hg : s'.grants + grantWeight s.account.maxConcurrency (s.phase i) =
      s.grants + grantWeight s.account.maxConcurrency p := by
    unfold grants
    rw [hphase, hmax]
    exact total_update _ _ _ _
  have ha : s'.attempts + attemptWeight s.account.maxConcurrency (s.phase i) =
      s.attempts + attemptWeight s.account.maxConcurrency p := by
    unfold attempts
    rw [hphase, hmax]
    exact total_update _ _ _ _
  have hu : s'.unmetered + unmeteredBytes (s.phase i) = s.unmetered + unmeteredBytes p := by
    unfold unmetered
    rw [hphase]
    exact total_update _ _ _ _
  have heq := h.inFlight_eq
  have hle := h.grants_le
  have hone := weights_le_one s.account.maxConcurrency p
  have hone' := weights_le_one s.account.maxConcurrency (s.phase i)
  refine ⟨⟨by omega, ?_, ?_, hlt, ?_⟩, by omega, by omega⟩
  · rw [hmax]
    omega
  · intro j
    rw [hphase]
    by_cases hj : j = i
    · subst hj
      rwa [Function.update_self]
    · rw [Function.update_of_ne hj]
      exact h.sound j
  · have hold := h.bytes_eq
    unfold wordSize at *
    omega

lemma owner_counted (h : s.SlotsInv)
    (hi : grantWeight s.account.maxConcurrency (s.phase i) = 1) : 0 < s.account.inFlight := by
  have hle := weight_le_total (grantWeight s.account.maxConcurrency) s.phase i
  have heq := h.inFlight_eq
  unfold grants at heq
  omega

lemma wrappingAdd_inFlight (h : s.SlotsInv) (hi : s.phase i = .checked) :
    wrappingAdd s.account.inFlight 1 = s.account.inFlight + 1 := by
  have hlt := counted_lt s.account.maxConcurrency
    (Function.update s.phase i .overLimit)
  have hg := total_update (grantWeight s.account.maxConcurrency) s.phase i .overLimit
  have ha := total_update (attemptWeight s.account.maxConcurrency) s.phase i .overLimit
  have heq := h.inFlight_eq
  rw [hi] at hg ha
  simp only [grantWeight, attemptWeight] at hg ha
  unfold grants attempts at heq
  exact Nat.mod_eq_of_lt (by omega)

lemma wrappingSub_inFlight (h : s.SlotsInv) (hi : s.phase i = .overLimit) :
    0 < s.account.inFlight ∧ wrappingSub s.account.inFlight 1 = s.account.inFlight - 1 := by
  have hle := weight_le_total (attemptWeight s.account.maxConcurrency) s.phase i
  have hlt := counted_lt s.account.maxConcurrency s.phase
  have heq := h.inFlight_eq
  rw [hi] at hle
  simp only [attemptWeight] at hle
  unfold grants attempts at heq
  unfold wrappingSub
  unfold wordSize at *
  omega

/-- A release that has read something else than zero owns a slot. -/
lemma SlotsInv.held_of_read (h : s.SlotsInv) {held : Bool} {cur bytes : Nat} {tier : String}
    (hi : s.phase i = .releasing held cur bytes tier) (hcur : cur ≠ 0) : held = true := by
  have hsound := h.sound i
  rw [hi] at hsound
  cases held with
  | true => rfl
  | false => exact absurd hsound hcur

/-! ### What a step can do -/

/-- The steps of the gate. A step out of turn, and a check that fails, leave the state as it is. -/
inductive Steps (s : GateState) : GateEvent → GateState → Prop where
  | rest (e : GateEvent) : Steps s e s
  | checked (i : ContextAddr) (limiterOk : Bool) (hi : s.phase i = .idle) :
    Steps s (.check i limiterOk) (s.move i .checked)
  | added (i : ContextAddr) (hi : s.phase i = .checked) :
    Steps s (.fetchAdd i)
      ((s.move i (.added s.account.inFlight)).setInFlight (wrappingAdd s.account.inFlight 1))
  | full (i : ContextAddr) (current : Nat) (hi : s.phase i = .added current)
    (hfull : s.account.maxConcurrency ≤ current) : Steps s (.compare i) (s.move i .overLimit)
  | granted (i : ContextAddr) (current : Nat) (hi : s.phase i = .added current)
    (hfree : ¬s.account.maxConcurrency ≤ current) : Steps s (.compare i) (s.move i .granted)
  | undone (i : ContextAddr) (hi : s.phase i = .overLimit) :
    Steps s (.fetchSub i) ((s.move i .idle).setInFlight (wrappingSub s.account.inFlight 1))
  | released (i : ContextAddr) (bytes : Nat) (tier : String) (hi : s.phase i = .granted) :
    Steps s (.release i bytes tier) (s.move i (.releasing true s.account.inFlight bytes tier))
  | extra (i : ContextAddr) (bytes : Nat) (tier : String) (hi : s.phase i = .idle)
    (hzero : s.account.inFlight = 0) :
    Steps s (.release i bytes tier) (s.move i (.releasing false s.account.inFlight bytes tier))
  | dropped (i : ContextAddr) (spurious held : Bool) (bytes : Nat) (tier : String)
    (hi : s.phase i = .releasing held 0 bytes tier) :
    Steps s (.compareExchange i spurious) (s.move i .idle)
  | exchanged (i : ContextAddr) (spurious held : Bool) (cur bytes : Nat) (tier : String)
    (hi : s.phase i = .releasing held cur bytes tier) (hcur : cur ≠ 0)
    (hread : s.account.inFlight = cur) :
    Steps s (.compareExchange i spurious)
      { (s.move i (.metering bytes tier)).setInFlight (cur - 1) with
        effective := s.effective ++ [bytes] }
  | reread (i : ContextAddr) (spurious held : Bool) (cur bytes : Nat) (tier : String)
    (hi : s.phase i = .releasing held cur bytes tier) (hcur : cur ≠ 0) :
    Steps s (.compareExchange i spurious)
      (s.move i (.releasing held s.account.inFlight bytes tier))
  | metered (i : ContextAddr) (bytes : Nat) (tier : String)
    (hi : s.phase i = .metering bytes tier) :
    Steps s (.meter i) { s.move i (.deducting bytes tier) with
      account := { s.account with totalBytes := wrappingAdd s.account.totalBytes bytes } }
  | deducted (i : ContextAddr) (bytes : Nat) (tier : String) (balanceUsd : ℚ)
    (hi : s.phase i = .deducting bytes tier) :
    Steps s (.deduct i) { s.move i .idle with
      account := { s.account with balanceUsd := balanceUsd } }
  | setActive (active : Bool) :
    Steps s (.setActive active) { s with account := { s.account with isActive := active } }
  | setBalance (balanceUsd : ℚ) :
    Steps s (.setBalance balanceUsd) { s with account := { s.account with balanceUsd := balanceUsd } }

lemma steps_step (s : GateState) (e : GateEvent) : Steps s e (s.step e) := by
  cases e with
  | check i limiterOk =>
    simp only [step]
    split
    · rename_i hi
      split
      · exact .checked i limiterOk hi
      · exact .rest _
    · exact .rest _
  | fetchAdd i =>
    simp only [step]
    split
    · rename_i hi
      exact .added i hi
    · exact .rest _
  | compare i =>
    simp only [step]
    split
    · rename_i current hi
      split
      · rename_i hfull
        exact .full i current hi hfull
      · rename_i hfree
        exact .granted i current hi hfree
    · exact .rest _
  | fetchSub i =>
    simp only [step]
    split
    · rename_i hi
      exact .undone i hi
    · exact .rest _
  | release i bytes tier =>
    simp only [step]
    split
    · rename_i hi
      exact .released i bytes tier hi
    · rename_i hi
      split
      · rename_i hzero
        exact .extra i bytes tier hi hzero
      · exact .rest _
    · exact .rest _
  | compareExchange i spurious =>
    simp only [step]
    split
    · rename_i held cur bytes tier hi
      split
      · rename_i hzero
        exact .dropped i spurious held bytes tier (hzero ▸ hi)
      · rename_i hcur
        split
        · rename_i hswap
          exact .exchanged i spurious held cur bytes tier hi hcur hswap.1
        · exact .reread i spurious held cur bytes tier hi hcur
    · exact .rest _
  | meter i =>
    simp only [step]
    split
    · rename_i bytes tier hi
      exact .metered i bytes tier hi
    · exact .rest _
  | deduct i =>
    simp only [step]
    split
    · rename_i bytes tier hi
      exact .deducted i bytes tier _ hi
    · exact .rest _
  | setActive active => exact .setActive active
  | setBalance balanceUsd => exact .setBalance balanceUsd

lemma move_account (s : GateState) (i : ContextAddr) (p : SlotPhase) :
    (s.move i p).account = s.account := rfl

lemma setInFlight_maxConcurrency (s : GateState) (n : Nat) :
    (s.setInFlight n).account.maxConcurrency = s.account.maxConcurrency := rfl

lemma maxConcurrency_step (s : GateState) (e : GateEvent) :
    (s.step e).account.maxConcurrency = s.account.maxConcurrency := by
  have hstep := steps_step s e
  generalize s.step e = s' at hstep ⊢
  cases hstep with
  | added | undone | exchanged => rw [setInFlight_maxConcurrency, move_account]
  | rest | checked | full | granted | released | extra | dropped | reread | metered | deducted
  | setActive | setBalance => rfl

lemma slotsInv_step (s : GateState) (e : GateEvent) (h : s.SlotsInv) :
    (s.step e).SlotsInv ∧ Steady s (s.step e) := by
  have hsame : Steady s s := ⟨Nat.le_succ _, Nat.le_succ _⟩
  have hstep := steps_step s e
  generalize s.step e = s' at hstep ⊢
  cases hstep with
  | rest => exact ⟨h, hsame⟩
  | checked i limiterOk hi =>
    refine h.of_move rfl rfl ?_ (.inl ?_) trivial h.bytes_lt ?_
    all_goals rw [hi]; rfl
  | added i hi =>
    have hadd := wrappingAdd_inFlight h hi
    refine h.of_move rfl rfl ?_ ?_ trivial h.bytes_lt ?_
    · rw [hi]
      change wrappingAdd s.account.inFlight 1 + _ = _
      rw [hadd]
      simp only [grantWeight, attemptWeight]
      split <;> omega
    · rw [hi]
      simp only [grantWeight]
      split
      · exact .inl le_rfl
      · exact .inr (by omega)
    · rw [hi]
      rfl
  | full i current hi hfull =>
    refine h.of_move rfl rfl ?_ (.inl ?_) trivial h.bytes_lt ?_
    · rw [hi]
      simp only [move, grantWeight, attemptWeight, if_pos hfull]
    · exact Nat.zero_le _
    · rw [hi]
      rfl
  | granted i current hi hfree =>
    refine h.of_move rfl rfl ?_ (.inl ?_) trivial h.bytes_lt ?_
    · rw [hi]
      simp only [move, grantWeight, attemptWeight, if_neg hfree]
    · rw [hi]
      simp only [grantWeight, if_neg hfree, le_refl]
    · rw [hi]
      rfl
  | undone i hi =>
    obtain ⟨hpos, hsub⟩ := wrappingSub_inFlight h hi
    rw [hsub]
    refine h.of_move rfl rfl ?_ (.inl (Nat.zero_le _)) trivial h.bytes_lt ?_
    · rw [hi]
      change s.account.inFlight - 1 + (0 + 1) = s.account.inFlight + (0 + 0)
      omega
    · rw [hi]
      rfl
  | released i bytes tier hi =>
    have hpos := owner_counted (i := i) h (by rw [hi]; rfl)
    refine h.of_move rfl rfl ?_ (.inl ?_) hpos h.bytes_lt ?_
    all_goals rw [hi]; rfl
  | extra i bytes tier hi hzero =>
    refine h.of_move rfl rfl ?_ (.inl ?_) hzero h.bytes_lt ?_
    all_goals rw [hi]; rfl
  | dropped i spurious held bytes tier hi =>
    have hsound := h.sound i
    rw [hi] at hsound
    cases held with
    | true => exact absurd hsound (Nat.lt_irrefl 0)
    | false =>
      refine h.of_move rfl rfl ?_ (.inl (Nat.zero_le _)) trivial h.bytes_lt ?_
      all_goals rw [hi]; rfl
  | exchanged i spurious held cur bytes tier hi hcur hread =>
    obtain rfl := h.held_of_read hi hcur
    refine h.of_move rfl rfl ?_ (.inl (Nat.zero_le _)) trivial h.bytes_lt ?_
    · rw [hi]
      change cur - 1 + (1 + 0) = s.account.inFlight + (0 + 0)
      omega
    · rw [hi]
      change (s.account.totalBytes + bytes + s.effective.sum) % wordSize =
        (s.account.totalBytes + 0 + (s.effective ++ [bytes]).sum) % wordSize
      rw [List.sum_append, List.sum_singleton]
      congr 1
      omega
  | reread i spurious held cur bytes tier hi hcur =>
    obtain rfl := h.held_of_read hi hcur
    have hpos := owner_counted (i := i) h (by rw [hi]; rfl)
    refine h.of_move rfl rfl ?_ (.inl ?_) hpos h.bytes_lt ?_
    all_goals rw [hi]; rfl
  | metered i bytes tier hi =>
    refine h.of_move rfl rfl ?_ (.inl ?_) trivial (Nat.mod_lt _ (by decide)) ?_
    · rw [hi]
      rfl
    · rw [hi]
      exact Nat.le_refl 0
    · rw [hi]
      change ((s.account.totalBytes + bytes) % wordSize + 0 + s.effective.sum) % wordSize =
        (s.account.totalBytes + bytes + s.effective.sum) % wordSize
      rw [Nat.add_zero, Nat.mod_add_mod]
  | deducted i bytes tier balanceUsd hi =>
    refine h.of_move rfl rfl ?_ (.inl ?_) trivial h.bytes_lt ?_
    all_goals rw [hi]; rfl
  | setActive active => exact ⟨⟨h.1, h.2, h.3, h.4, h.5⟩, hsame⟩
  | setBalance balanceUsd => exact ⟨⟨h.1, h.2, h.3, h.4, h.5⟩, hsame⟩

lemma slotsInv_initial (account : TenantAccount) (hf : account.inFlight = 0)
    (hb : account.totalBytes = 0) : (initial account).SlotsInv := by
  have hzero : ∀ w : SlotPhase → Nat, w .idle = 0 → total w (initial account).phase = 0 :=
    fun w hw => total_eq_zero (fun _ => hw)
  refine ⟨?_, ?_, fun _ => trivial, ?_, ?_⟩
  · unfold grants attempts
    rw [hzero _ rfl, hzero _ rfl]
    exact hf
  · unfold grants
    rw [hzero _ rfl]
    exact Nat.zero_le _
  · change account.totalBytes < wordSize
    rw [hb]
    decide
  · unfold unmetered
    rw [hzero _ rfl]
    change (account.totalBytes + 0) % wordSize = 0 % wordSize
    rw [hb]

/-- The counter and the byte counter of a tenant with the given limit. -/
structure SlotsExact (maxConcurrency : Nat) (s : GateState) : Prop where
  grants_le : s.grants ≤ maxConcurrency
  inFlight_eq : s.account.inFlight = s.grants + s.attempts
  all_released : (∀ i, s.phase i = .idle) → s.account.inFlight = 0
  bytes_eq : (s.account.totalBytes + s.unmetered) % wordSize = s.effective.sum % wordSize
  bytes_settled : (∀ i, unmeteredBytes (s.phase i) = 0) →
    s.account.totalBytes = s.effective.sum % wordSize

/-- A step never wraps the counter. An exchange drops a release exactly when it is an extra one,
and then the account and the effective releases stay as they are. -/
structure StepExact (s : GateState) (e : GateEvent) : Prop where
  steady : Steady s (s.step e)
  owner_kept : ∀ i spurious cur bytes tier, e = .compareExchange i spurious →
    s.phase i = .releasing true cur bytes tier → (s.step e).phase i ≠ .idle
  extra_dropped : ∀ i spurious cur bytes tier, e = .compareExchange i spurious →
    s.phase i = .releasing false cur bytes tier → s.step e = s.move i .idle

lemma SlotsInv.slotsExact {s : GateState} (h : s.SlotsInv) :
    SlotsExact s.account.maxConcurrency s := by
  refine ⟨h.grants_le, h.inFlight_eq, fun hidle => ?_, h.bytes_eq, fun hmetered => ?_⟩
  · rw [h.inFlight_eq]
    unfold grants attempts
    rw [total_eq_zero (fun i => by rw [hidle i]; rfl),
      total_eq_zero (fun i => by rw [hidle i]; rfl)]
  · have heq := h.bytes_eq
    unfold unmetered at heq
    rw [total_eq_zero hmetered, Nat.add_zero, Nat.mod_eq_of_lt h.bytes_lt] at heq
    exact heq

lemma SlotsInv.stepExact {s : GateState} (h : s.SlotsInv) (e : GateEvent) : StepExact s e := by
  refine ⟨(slotsInv_step s e h).2, ?_, ?_⟩
  · rintro i spurious cur bytes tier rfl hi
    have hcur : 0 < cur := by
      have hsound := h.sound i
      rwa [hi] at hsound
    unfold step
    simp only [hi, Nat.ne_of_gt hcur, if_false]
    split <;> simp [move, setInFlight]
  · rintro i spurious cur bytes tier rfl hi
    have hcur : cur = 0 := by
      have hsound := h.sound i
      rwa [hi] at hsound
    unfold step
    simp only [hi, hcur, if_true]

end GateState

/-- For any requests and any interleaving of their steps: the grants stay within the limit, the
counter is the grants and the attempts about to be undone, it never wraps, extra releases are
dropped, and the byte counter adds up the releases that gave a slot back. -/
theorem tenant_slots_exact (tenantId : String) (qps maxConcurrency : Nat)
    (events : List GateEvent) :
    let start := GateState.initial (newTenantAccount tenantId qps maxConcurrency)
    Along GateState.step GateState.StepExact start events ∧
      GateState.SlotsExact maxConcurrency (run GateState.step start events) := by
  intro start
  have hinit : start.SlotsInv := GateState.slotsInv_initial _ rfl rfl
  have hstep : ∀ s e, GateState.SlotsInv s → (s.step e).SlotsInv :=
    fun s e h => (GateState.slotsInv_step s e h).1
  constructor
  · exact along_of_invariant hstep (fun s e h => h.stepExact e) hinit events
  · have hmax : (run GateState.step start events).account.maxConcurrency = maxConcurrency :=
      run_invariant (J := fun s => s.account.maxConcurrency = maxConcurrency)
        (fun s e h => (GateState.maxConcurrency_step s e).trans h) rfl events
    have hexact := (run_invariant hstep hinit events).slotsExact
    rwa [hmax] at hexact

end IPProxyPool
