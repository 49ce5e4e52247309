import IPProxyPool.Lib.Checked
import IPProxyPool.Lib.Run
import IPProxyPool.Model.FreePool

/-!
# The health of a free node

Averages, scores and weights stay in their ranges over every history of checks, a failure never
raises a weight, and the back-off grows with the failures in a row. The counters are read once more
in checked machine arithmetic, which no history of fewer than `2 ^ 32` checks leaves.
-/

namespace IPProxyPool
open Transition

inductive HealthEvent where
  | noteSuccess (fwdLatencyMs : Nat)
  | noteFailure (now : Instant)
  | graded (anon : AnonLevel)

namespace HealthEvent

/-- The event is a check, and not only its grade. -/
def isNote : HealthEvent → Bool
  | noteSuccess _ => true
  | noteFailure _ => true
  | graded _ => false

def isFailure : HealthEvent → Bool
  | noteFailure _ => true
  | _ => false

end HealthEvent

def noteCount (history : List HealthEvent) : Nat := (history.filter HealthEvent.isNote).length

/-- The number of failures since the last success. -/
def failuresInRow (history : List HealthEvent) : Nat :=
  ((history.filter HealthEvent.isNote).reverse.takeWhile HealthEvent.isFailure).length

/-- The back-off that the `k`-th failure in a row sets, in seconds. -/
def backoffSecs (k : Nat) : Nat := min (backoffBaseSecs * 2 ^ (min k 7 - 1)) backoffMaxSecs

namespace Health

def step (h : Health) : HealthEvent → Health
  | .noteSuccess fwdLatencyMs => h.noteSuccess fwdLatencyMs
  | .noteFailure now => h.noteFailure now
  | .graded anon => { h with anon := anon }

/-- The health of a node after the history. -/
def after (history : List HealthEvent) : Health := run step fresh history

lemma after_append (history : List HealthEvent) (e : HealthEvent) :
    after (history ++ [e]) = (after history).step e := run_append step fresh history [e]

/-! ### Ranges -/

structure InRange (h : Health) : Prop where
  success_nonneg : 0 ≤ h.ewmaSuccess
  success_le_one : h.ewmaSuccess ≤ 1
  latency_nonneg : 0 ≤ h.ewmaLatencyMs

lemma inRange_fresh : fresh.InRange where
  success_nonneg := by norm_num [fresh]
  success_le_one := by norm_num [fresh]
  latency_nonneg := by norm_num [fresh, healthNeutralLatencyMs]

lemma inRange_step (h : Health) (e : HealthEvent) (hr : h.InRange) : (h.step e).InRange := by
  obtain ⟨hs, hs', hl⟩ := hr
  cases e with
  | noteSuccess fwdLatencyMs =>
    have hms : (0 : ℚ) ≤ fwdLatencyMs := Nat.cast_nonneg _
    constructor
    all_goals
      simp only [step, noteSuccess, healthEwmaAlpha]
      linarith
  | noteFailure now =>
    refine ⟨?_, ?_, hl⟩
    all_goals
      simp only [step, noteFailure, healthEwmaAlpha]
      linarith
  | graded anon => exact ⟨hs, hs', hl⟩

lemma inRange_after (history : List HealthEvent) : (after history).InRange :=
  run_invariant inRange_step inRange_fresh history

variable {h : Health}

/-- The latency penalty. -/
def penalty (h : Health) : ℚ :=
  healthNeutralLatencyMs /
    (healthNeutralLatencyMs + max (h.ewmaLatencyMs - healthNeutralLatencyMs) 0)

/-- The retention factor. -/
def retention (h : Health) : ℚ := 1 / 2 + 1 / 2 * min (h.streak / trustedMinStreak : ℚ) 1

lemma score_eq (h : Health) : h.score = h.ewmaSuccess * h.penalty := rfl

lemma composite_eq (h : Health) : h.composite = h.score * h.retention := rfl

lemma penalty_range (h : Health) : 0 ≤ h.penalty ∧ h.penalty ≤ 1 := by
  have hmax : 0 ≤ max (h.ewmaLatencyMs - healthNeutralLatencyMs) 0 := le_max_right _ _
  have hneutral : 0 < healthNeutralLatencyMs := by norm_num [healthNeutralLatencyMs]
  unfold penalty
  exact ⟨by positivity, div_le_one_of_le₀ (by linarith) (by positivity)⟩

lemma retention_range (h : Health) : 1 / 2 ≤ h.retention ∧ h.retention ≤ 1 := by
  have hpos : 0 ≤ min (h.streak / trustedMinStreak : ℚ) 1 := le_min (by positivity) zero_le_one
  have hone : min (h.streak / trustedMinStreak : ℚ) 1 ≤ 1 := min_le_right _ _
  unfold retention
  constructor
  all_goals linarith

lemma InRange.score_range (hr : h.InRange) : 0 ≤ h.score ∧ h.score ≤ 1 := by
  rw [score_eq]
  exact ⟨mul_nonneg hr.success_nonneg h.penalty_range.1,
    mul_le_one₀ hr.success_le_one h.penalty_range.1 h.penalty_range.2⟩

lemma InRange.composite_range (hr : h.InRange) : 0 ≤ h.composite ∧ h.composite ≤ h.score := by
  have hret := h.retention_range
  rw [composite_eq]
  exact ⟨mul_nonneg hr.score_range.1 (by linarith), mul_le_of_le_one_right hr.score_range.1 hret.2⟩

/-! ### Weights -/

def weightCap (h : Health) : Nat :=
  if h.trusted then freePoolWeightTrustedMax else freePoolWeight

lemma weight_eq (h : Health) :
    h.weight = max 1 (min h.weightCap (roundU32 (h.composite * h.weightCap))) := rfl

lemma ten_lt_weight (hw : freePoolWeight < h.weight) : h.trusted = true := by
  by_contra hn
  have hcap : h.weightCap = freePoolWeight := if_neg hn
  have hle : h.weight ≤ freePoolWeight := by
    rw [weight_eq, hcap]
    exact max_le (by decide) (min_le_left _ _)
  omega

lemma roundU32_mono {x y : ℚ} (hxy : x ≤ y) : roundU32 x ≤ roundU32 y := by
  have hfloor : ⌊x + 1 / 2⌋ ≤ ⌊y + 1 / 2⌋ := Int.floor_le_floor (by linarith)
  unfold roundU32
  exact min_le_min (Int.toNat_le_toNat hfloor) le_rfl

lemma weightCap_noteFailure_le (h : Health) (now : Instant) :
    (h.noteFailure now).weightCap ≤ h.weightCap := by
  have hcap : (h.noteFailure now).weightCap = freePoolWeight := by
    refine if_neg ?_
    simp [trusted, noteFailure, trustedMinStreak]
  rw [hcap]
  unfold weightCap
  split
  · decide
  · exact le_rfl

lemma InRange.composite_noteFailure_le (hr : h.InRange) (now : Instant) :
    (h.noteFailure now).composite ≤ h.composite := by
  have hs : (h.noteFailure now).ewmaSuccess ≤ h.ewmaSuccess := by
    have hnonneg := hr.success_nonneg
    simp only [noteFailure, healthEwmaAlpha]
    linarith
  have hpen : (h.noteFailure now).penalty = h.penalty := rfl
  have hret : (h.noteFailure now).retention ≤ h.retention := by
    have hzero : (h.noteFailure now).retention = 1 / 2 := by simp [retention, noteFailure]
    rw [hzero]
    exact h.retention_range.1
  have hnext : (h.noteFailure now).InRange := inRange_step h (.noteFailure now) hr
  rw [composite_eq, composite_eq, score_eq, score_eq, hpen]
  have hscore : (h.noteFailure now).ewmaSuccess * h.penalty ≤ h.ewmaSuccess * h.penalty :=
    mul_le_mul_of_nonneg_right hs h.penalty_range.1
  refine mul_le_mul hscore hret ?_ hr.score_range.1
  exact le_trans (by norm_num) (h.noteFailure now).retention_range.1

/-- A failure lowers both the composite score and the cap. -/
theorem InRange.weight_noteFailure_le (hr : h.InRange) (now : Instant) :
    (h.noteFailure now).weight ≤ h.weight := by
  have hcomposite := hr.composite_noteFailure_le now
  have hcap := h.weightCap_noteFailure_le now
  have hcap' : ((h.noteFailure now).weightCap : ℚ) ≤ h.weightCap := by exact_mod_cast hcap
  have hnonneg : (0 : ℚ) ≤ (h.noteFailure now).weightCap := Nat.cast_nonneg _
  rw [weight_eq, weight_eq]
  refine max_le_max le_rfl (min_le_min hcap (roundU32_mono ?_))
  exact mul_le_mul hcomposite hcap' hnonneg hr.composite_range.1

/-! ### Failures in a row -/

lemma failuresInRow_le (history : List HealthEvent) :
    failuresInRow history ≤ noteCount history := by
  unfold failuresInRow noteCount
  calc ((history.filter HealthEvent.isNote).reverse.takeWhile HealthEvent.isFailure).length
      ≤ (history.filter HealthEvent.isNote).reverse.length := (List.takeWhile_prefix _).length_le
    _ = (history.filter HealthEvent.isNote).length := List.length_reverse

lemma filter_isNote_append (history : List HealthEvent) (e : HealthEvent) :
    (history ++ [e]).filter HealthEvent.isNote =
      history.filter HealthEvent.isNote ++ if e.isNote then [e] else [] := by
  rw [List.filter_append]
  cases e <;> rfl

lemma noteCount_append (history : List HealthEvent) (e : HealthEvent) :
    noteCount (history ++ [e]) = noteCount history + if e.isNote then 1 else 0 := by
  unfold noteCount
  rw [filter_isNote_append, List.length_append]
  split <;> rfl

lemma failuresInRow_append (history : List HealthEvent) (e : HealthEvent) :
    failuresInRow (history ++ [e]) =
      if e.isFailure then failuresInRow history + 1
      else if e.isNote then 0 else failuresInRow history := by
  unfold failuresInRow
  rw [filter_isNote_append, List.reverse_append]
  cases e with
  | noteSuccess fwdLatencyMs => rfl
  | noteFailure now => rfl
  | graded anon => rfl

lemma counters_after (history : List HealthEvent) :
    (after history).streak ≤ noteCount history ∧
      (after history).failStreak = failuresInRow history := by
  induction history using List.reverseRecOn with
  | nil => exact ⟨Nat.le_refl _, rfl⟩
  | append_singleton history e ih =>
    rw [after_append, noteCount_append, failuresInRow_append, ← ih.2]
    cases e with
    | noteSuccess fwdLatencyMs => exact ⟨Nat.succ_le_succ ih.1, rfl⟩
    | noteFailure now => exact ⟨Nat.zero_le _, rfl⟩
    | graded anon => exact ⟨ih.1, rfl⟩

lemma backoffSecs_range (k : Nat) :
    backoffBaseSecs ≤ backoffSecs k ∧ backoffSecs k ≤ backoffMaxSecs := by
  refine ⟨le_min ?_ (by decide), min_le_right _ _⟩
  exact Nat.le_mul_of_pos_right _ (Nat.two_pow_pos _)

lemma backoffSecs_mono : Monotone backoffSecs := by
  intro j k hjk
  unfold backoffSecs
  gcongr
  omega

/-! ### Machine arithmetic -/

/-- The counters are `u32`, the length of a back-off is computed in `u64`. -/
def checkedStep (h : Health) : HealthEvent → Option Health
  | .noteSuccess fwdLatencyMs => do
    let streak ← Checked.add (2 ^ 32) h.streak 1
    some { h.noteSuccess fwdLatencyMs with streak := streak }
  | .noteFailure now => do
    let failStreak ← Checked.add (2 ^ 32) h.failStreak 1
    let exponent ← Checked.sub (min failStreak 7) 1
    let factor ← Checked.pow (2 ^ 64) 2 exponent
    let secs ← Checked.mul (2 ^ 64) backoffBaseSecs factor
    some { h.noteFailure now with
      failStreak := failStreak
      backoffUntil := some (now + fromSecs (min secs backoffMaxSecs)) }
  | .graded anon => some { h with anon := anon }

/-- The rounded weight before its clamp, where the conversion to `u32` need not saturate. -/
def checkedWeight (h : Health) : Option Nat :=
  let rounded := ⌊h.composite * h.weightCap + 1 / 2⌋
  if 0 ≤ rounded ∧ rounded < 2 ^ 32 then some (max 1 (min h.weightCap rounded.toNat)) else none

lemma checkedStep_eq (e : HealthEvent) (hstreak : h.streak + 1 < 2 ^ 32)
    (hfail : h.failStreak + 1 < 2 ^ 32) : h.checkedStep e = some (h.step e) := by
  cases e with
  | noteSuccess fwdLatencyMs =>
    simp only [checkedStep, Checked.add_eq hstreak, Option.bind_eq_bind, Option.bind_some]
    rfl
  | noteFailure now =>
    have hsub : 1 ≤ min (h.failStreak + 1) 7 := by omega
    have hexp : min (h.failStreak + 1) 7 - 1 ≤ 6 := by omega
    have hle : 2 ^ (min (h.failStreak + 1) 7 - 1) ≤ 2 ^ 6 := Nat.pow_le_pow_right (by decide) hexp
    have hpow : 2 ^ (min (h.failStreak + 1) 7 - 1) < 2 ^ 64 := lt_of_le_of_lt hle (by decide)
    have hmul : backoffBaseSecs * 2 ^ (min (h.failStreak + 1) 7 - 1) < 2 ^ 64 := by
      unfold backoffBaseSecs
      omega
    simp only [checkedStep, Checked.add_eq hfail, Checked.sub_eq hsub, Checked.pow_eq hpow,
      Checked.mul_eq hmul, Option.bind_eq_bind, Option.bind_some]
    rfl
  | graded anon => rfl

/-- A history of fewer than `2 ^ 32` checks never leaves the machine types. -/
theorem foldlM_checkedStep {history : List HealthEvent} (h : noteCount history < 2 ^ 32) :
    history.foldlM checkedStep fresh = some (after history) := by
  induction history using List.reverseRecOn with
  | nil => rfl
  | append_singleton history e ih =>
    rw [noteCount_append] at h
    have hcount : noteCount history < 2 ^ 32 := lt_of_le_of_lt (Nat.le_add_right _ _) h
    rw [List.foldlM_append, ih hcount, after_append]
    have hcounters := counters_after history
    have hrow := failuresInRow_le history
    simp only [List.foldlM_cons, List.foldlM_nil, Option.bind_eq_bind, Option.bind_some]
    cases e with
    | graded anon => rfl
    | noteSuccess fwdLatencyMs | noteFailure now =>
      simp only [HealthEvent.isNote, if_true] at h
      rw [checkedStep_eq _ (by omega) (by omega)]
      rfl

theorem InRange.checkedWeight_eq (hr : h.InRange) : h.checkedWeight = some h.weight := by
  have hcap : h.weightCap ≤ freePoolWeightTrustedMax := by
    unfold weightCap
    split <;> decide
  have hcap' : (h.weightCap : ℚ) ≤ 20 := by exact_mod_cast hcap
  have hnonneg : 0 ≤ h.composite * h.weightCap :=
    mul_nonneg hr.composite_range.1 (Nat.cast_nonneg _)
  have hle : h.composite * h.weightCap ≤ 20 := by
    have hone := hr.composite_range.2.trans hr.score_range.2
    calc h.composite * h.weightCap ≤ 1 * h.weightCap :=
          mul_le_mul_of_nonneg_right hone (Nat.cast_nonneg _)
      _ ≤ 20 := by linarith
  have hfloor : 0 ≤ ⌊h.composite * h.weightCap + 1 / 2⌋ := Int.floor_nonneg.mpr (by linarith)
  have hfloor' : ⌊h.composite * h.weightCap + 1 / 2⌋ < 21 := Int.floor_lt.mpr (by
    push_cast
    linarith)
  have hround : roundU32 (h.composite * h.weightCap) =
      ⌊h.composite * h.weightCap + 1 / 2⌋.toNat := by
    unfold roundU32
    omega
  unfold checkedWeight
  rw [if_pos ⟨hfloor, by omega⟩, weight_eq, hround]

end Health

/-! ### Every history -/

/-- What holds of the health that a history of checks leaves. -/
structure SoundHealth (history : List HealthEvent) : Prop where
  averages : (Health.after history).InRange
  scores : 0 ≤ (Health.after history).composite ∧
    (Health.after history).composite ≤ (Health.after history).score ∧
    (Health.after history).score ≤ 1
  weights : 1 ≤ (Health.after history).weight ∧
    (Health.after history).weight ≤ freePoolWeightTrustedMax
  trusted : freePoolWeight < (Health.after history).weight → (Health.after history).trusted = true
  failure_weight : ∀ now, ((Health.after history).noteFailure now).weight ≤
    (Health.after history).weight
  backoff : ∀ now, ((Health.after history).noteFailure now).backoffUntil =
    some (now + fromSecs (backoffSecs (failuresInRow history + 1)))
  success_clears : ∀ fwdLatencyMs,
    ((Health.after history).noteSuccess fwdLatencyMs).backoffUntil = none
  no_overflow : history.foldlM Health.checkedStep .fresh = some (Health.after history)
  no_saturation : (Health.after history).checkedWeight = some (Health.after history).weight

theorem health_in_range (history : List HealthEvent) (h : noteCount history < 2 ^ 32) :
    SoundHealth history ∧ Monotone backoffSecs ∧
      ∀ k, backoffBaseSecs ≤ backoffSecs k ∧ backoffSecs k ≤ backoffMaxSecs := by
  have hr := Health.inRange_after history
  refine ⟨?_, Health.backoffSecs_mono, Health.backoffSecs_range⟩
  exact {
    averages := hr
    scores := ⟨hr.composite_range.1, hr.composite_range.2, hr.score_range.2⟩
    weights := ⟨Health.one_le_weight _, Health.weight_le _⟩
    trusted := Health.ten_lt_weight
    failure_weight := hr.weight_noteFailure_le
    backoff := fun now => by
      rw [← (Health.counters_after history).2]
      rfl
    success_clears := fun _ => rfl
    no_overflow := Health.foldlM_checkedStep h
    no_saturation := hr.checkedWeight_eq }

/-- Three fast checks of an elite node: it is trusted and may weigh more than ten. -/
theorem health_in_range_trusted :
    SoundHealth [.noteSuccess 10, .graded .elite, .noteSuccess 10, .noteSuccess 10] ∧
      (Health.after [.noteSuccess 10, .graded .elite, .noteSuccess 10, .noteSuccess 10]).failStreak
        = 0 :=
  ⟨(health_in_range _ (by decide)).1, rfl⟩

end IPProxyPool
