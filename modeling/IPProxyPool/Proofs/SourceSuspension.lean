import Mathlib.Data.Int.ModEq
import IPProxyPool.Model.SourceGuard

/-!
# The protocol of a suspension

The ticks of the outcomes without nodes since the last one with nodes, in order, say all about a
guard: it is suspended from the `max_zero`-th of them on.
-/

namespace IPProxyPool

namespace SourceGuard

/-- The guard after the ticks `1` to `n` of a source whose fetch at tick `k` comes to
`results k`. -/
def after (g : SourceGuard) (results : Nat → SourceFetch) : Nat → SourceGuard
  | 0 => g
  | n + 1 => (g.after results n).tick (n + 1) (results (n + 1))

/-- The source is fetched at the tick `n + 1`. -/
def fetches (g : SourceGuard) (results : Nat → SourceFetch) (n : Nat) : Bool :=
  (g.after results n).shouldFetch (n + 1)

/-- The ticks, up to `n`, of the outcomes without nodes since the last one with nodes or 304. -/
def zeroRun (g : SourceGuard) (results : Nat → SourceFetch) : Nat → List Nat
  | 0 => []
  | n + 1 =>
    if g.fetches results n then
      if (results (n + 1)).outcome.zeroYield then g.zeroRun results n ++ [n + 1] else []
    else g.zeroRun results n

variable {g : SourceGuard} {results : Nat → SourceFetch} {n t : Nat}

lemma maxZero_noteOutcome (g : SourceGuard) (o : FetchOutcome) (now : Nat) :
    (g.noteOutcome o now).maxZero = g.maxZero := by
  unfold noteOutcome
  split <;> rfl

lemma retryEvery_noteOutcome (g : SourceGuard) (o : FetchOutcome) (now : Nat) :
    (g.noteOutcome o now).retryEvery = g.retryEvery := by
  unfold noteOutcome
  split <;> rfl

lemma settings_after (g : SourceGuard) (results : Nat → SourceFetch) (n : Nat) :
    (g.after results n).maxZero = g.maxZero ∧ (g.after results n).retryEvery = g.retryEvery := by
  induction n with
  | zero => exact ⟨rfl, rfl⟩
  | succ n ih =>
    unfold after tick
    split
    · rw [maxZero_noteOutcome, retryEvery_noteOutcome]
      exact ih
    · exact ih

/-! ### The three cases of a tick -/

lemma after_skipped (h : g.fetches results n = false) :
    g.after results (n + 1) = g.after results n ∧
      g.zeroRun results (n + 1) = g.zeroRun results n := by
  constructor
  · unfold fetches at h
    rw [after, tick, h]
    rfl
  · rw [zeroRun, h]
    rfl

lemma after_yield (h : g.fetches results n = true)
    (hyield : (results (n + 1)).outcome.zeroYield = false) :
    g.after results (n + 1) =
        { g.after results n with zeroCycles := 0, suspendedAtTick := none } ∧
      g.zeroRun results (n + 1) = [] := by
  constructor
  · unfold fetches at h
    rw [after, tick, h, if_pos rfl, noteOutcome, hyield]
    rfl
  · rw [zeroRun, h, hyield]
    rfl

lemma after_zeroYield (h : g.fetches results n = true)
    (hyield : (results (n + 1)).outcome.zeroYield = true) :
    (g.after results (n + 1)).zeroCycles = ((g.after results n).zeroCycles + 1) % 2 ^ 32 ∧
      (g.after results (n + 1)).suspendedAtTick =
        (if g.maxZero ≤ ((g.after results n).zeroCycles + 1) % 2 ^ 32
          then some ((g.after results n).suspendedAtTick.getD (n + 1))
          else (g.after results n).suspendedAtTick) ∧
      g.zeroRun results (n + 1) = g.zeroRun results n ++ [n + 1] := by
  have hmax := (settings_after g results n).1
  unfold fetches at h
  rw [after, tick, h, if_pos rfl, noteOutcome, hyield, if_pos rfl, ← hmax]
  refine ⟨rfl, rfl, ?_⟩
  rw [zeroRun, fetches, h, hyield]
  rfl

/-- The state of a guard as its run of zero yields tells it. -/
structure Tells (g : SourceGuard) (run : List Nat) (n : Nat) : Prop where
  zeroCycles_eq : g.zeroCycles = run.length % 2 ^ 32
  suspendedAt_eq : g.suspendedAtTick = run[g.maxZero - 1]?
  past : ∀ t ∈ run, t ≤ n

/-- The count wraps only when the suspension is settled. -/
lemma getElem_zeroRun_append {maxZero : Nat} (hpos : 0 < maxZero) (hlt : maxZero < 2 ^ 32)
    (run : List Nat) (now : Nat) :
    (if maxZero ≤ (run.length % 2 ^ 32 + 1) % 2 ^ 32 then some (run[maxZero - 1]?.getD now)
      else run[maxZero - 1]?) = (run ++ [now])[maxZero - 1]? := by
  rcases Nat.lt_trichotomy (run.length + 1) maxZero with hbelow | hlast | habove
  · have hcount : ¬maxZero ≤ (run.length % 2 ^ 32 + 1) % 2 ^ 32 := by omega
    rw [if_neg hcount, List.getElem?_eq_none (by omega), List.getElem?_eq_none]
    rw [List.length_append, List.length_singleton]
    omega
  · have hcount : maxZero ≤ (run.length % 2 ^ 32 + 1) % 2 ^ 32 := by omega
    have hindex : maxZero - 1 = run.length := by omega
    rw [if_pos hcount, hindex, List.getElem?_eq_none le_rfl, List.getElem?_concat_length]
    rfl
  · have hindex : maxZero - 1 < run.length := by omega
    rw [List.getElem?_append_left hindex, List.getElem?_eq_getElem hindex]
    split <;> rfl

lemma tells_after (maxZero : UInt32) (retryEvery : UInt64) (results : Nat → SourceFetch) (n : Nat) :
    ((new maxZero retryEvery).after results n).Tells
      ((new maxZero retryEvery).zeroRun results n) n := by
  set g := new maxZero retryEvery with hg
  induction n with
  | zero => exact ⟨rfl, by rfl, by simp [zeroRun]⟩
  | succ n ih =>
    have hpos := g.maxZero_pos
    have hlt := g.maxZero_lt
    have hmax := (settings_after g results n).1
    have hsettings := (settings_after g results (n + 1)).1
    rcases hfetch : g.fetches results n with _ | _
    · obtain ⟨hafter, hrun⟩ := after_skipped hfetch
      rw [hafter, hrun]
      exact ⟨ih.zeroCycles_eq, ih.suspendedAt_eq, fun t ht => (ih.past t ht).trans (Nat.le_succ n)⟩
    · rcases hyield : (results (n + 1)).outcome.zeroYield with _ | _
      · obtain ⟨hafter, hrun⟩ := after_yield hfetch hyield
        rw [hafter, hrun]
        exact ⟨rfl, by simp, by simp⟩
      · obtain ⟨hcycles, hsuspended, hrun⟩ := after_zeroYield hfetch hyield
        rw [hrun]
        refine ⟨?_, ?_, ?_⟩
        · rw [hcycles, ih.zeroCycles_eq, List.length_append, List.length_singleton]
          omega
        · rw [hsuspended, hsettings, ih.zeroCycles_eq, ih.suspendedAt_eq, hmax]
          exact getElem_zeroRun_append hpos hlt _ _
        · intro t ht
          rcases List.mem_append.mp ht with ht | ht
          · exact (ih.past t ht).trans (Nat.le_succ n)
          · rw [List.mem_singleton.mp ht]

/-! ### Probes -/

/-- A suspended source is fetched at the ticks congruent to the tick of its suspension. -/
lemma fetches_iff_modEq (ht : (g.after results n).suspendedAtTick = some t) (hle : t ≤ n) :
    g.fetches results n = true ↔ n + 1 ≡ t [MOD g.retryEvery] := by
  have hretry := (settings_after g results n).2
  unfold fetches shouldFetch
  rw [ht, hretry]
  simp only [Bool.and_eq_true, decide_eq_true_eq]
  rw [← Nat.dvd_iff_mod_eq_zero, and_iff_right (hle.trans (Nat.le_succ n)), Nat.ModEq.comm]
  exact (Nat.modEq_iff_dvd' (hle.trans (Nat.le_succ n))).symm

/-- A suspension lasts until a fetch yields something. -/
lemma suspendedAt_kept (ht : (g.after results n).suspendedAtTick = some t)
    (hyield : g.fetches results n = true → (results (n + 1)).outcome.zeroYield = true) :
    (g.after results (n + 1)).suspendedAtTick = some t := by
  rcases hfetch : g.fetches results n with _ | _
  · rw [(after_skipped hfetch).1]
    exact ht
  · rw [(after_zeroYield hfetch (hyield hfetch)).2.1, ht]
    split <;> rfl

/-- Among `r` consecutive ticks one is congruent to `t`. -/
lemma exists_modEq {r : Nat} (hr : 0 < r) (hle : t ≤ n) :
    ∃ d, d < r ∧ n + d + 1 ≡ t [MOD r] := by
  have hdiv := Nat.mod_add_div (n + 1 - t) r
  have hmod := Nat.mod_lt (n + 1 - t) hr
  rcases Nat.eq_zero_or_pos ((n + 1 - t) % r) with hzero | hpos
  · refine ⟨0, hr, ((Nat.modEq_iff_dvd' (by omega)).mpr ⟨(n + 1 - t) / r, ?_⟩).symm⟩
    omega
  · refine ⟨r - (n + 1 - t) % r, by omega,
      ((Nat.modEq_iff_dvd' (by omega)).mpr ⟨(n + 1 - t) / r + 1, ?_⟩).symm⟩
    rw [Nat.mul_succ]
    omega

/-- Before its next probe a suspended source stays as it is. -/
lemma suspendedAt_of_unprobed (ht : (g.after results n).suspendedAtTick = some t) (hle : t ≤ n)
    {d : Nat} (hd : ∀ j < d, ¬n + j + 1 ≡ t [MOD g.retryEvery]) :
    (g.after results (n + d)).suspendedAtTick = some t := by
  induction d with
  | zero => exact ht
  | succ d ih =>
    have hkept := ih (fun j hj => hd j (Nat.lt_succ_of_lt hj))
    refine suspendedAt_kept hkept (fun hfetch => ?_)
    have hmod := (fetches_iff_modEq hkept (hle.trans (Nat.le_add_right n d))).mp hfetch
    exact absurd hmod (hd d (Nat.lt_succ_self d))

lemma exists_probe (ht : (g.after results n).suspendedAtTick = some t) (hle : t ≤ n) :
    ∃ m, n ≤ m ∧ m < n + g.retryEvery ∧ g.fetches results m = true := by
  classical
  have hex := exists_modEq (n := n) g.retryEvery_pos hle
  -- the first such tick: until then nothing is fetched, so the suspension is still the same
  obtain ⟨hlt, hmod⟩ := Nat.find_spec hex
  have hkept := suspendedAt_of_unprobed ht hle (d := Nat.find hex)
    (fun j hj hj' => Nat.find_min hex hj ⟨hj.trans hlt, hj'⟩)
  refine ⟨n + Nat.find hex, Nat.le_add_right _ _, Nat.add_lt_add_left hlt n, ?_⟩
  exact (fetches_iff_modEq hkept (hle.trans (Nat.le_add_right _ _))).mpr hmod

end SourceGuard

/-! ### The protocol -/

/-- Fetches and suspensions of a source over the ticks `1, 2, …`. -/
structure SuspensionProtocol (g : SourceGuard) (results : Nat → SourceFetch) : Prop where
  active_fetched : ∀ n, (g.after results n).suspended = false → g.fetches results n = true
  suspends : ∀ n, (g.after results n).suspended = false →
    ((g.after results (n + 1)).suspended = true ↔
      (results (n + 1)).outcome.zeroYield = true ∧
        (g.zeroRun results n).length + 1 = g.maxZero)
  suspends_at : ∀ n, (g.after results n).suspended = false →
    (g.after results (n + 1)).suspended = true →
      (g.after results (n + 1)).suspendedAtTick = some (n + 1)
  probes : ∀ n t, (g.after results n).suspendedAtTick = some t →
    (g.fetches results n = true ↔ n + 1 ≡ t [MOD g.retryEvery])
  stays : ∀ n t, (g.after results n).suspendedAtTick = some t →
    (g.fetches results n = true → (results (n + 1)).outcome.zeroYield = true) →
      (g.after results (n + 1)).suspendedAtTick = some t
  resumes : ∀ n, g.fetches results n = true → (results (n + 1)).outcome.zeroYield = false →
    (g.after results (n + 1)).suspended = false ∧ (g.after results (n + 1)).zeroCycles = 0 ∧
      g.zeroRun results (n + 1) = []
  never_abandoned : ∀ n, (g.after results n).suspended = true →
    ∃ m, n ≤ m ∧ m < n + g.retryEvery ∧ g.fetches results m = true

namespace SourceGuard

variable {g : SourceGuard} {results : Nat → SourceFetch} {n t : Nat}

lemma suspended_eq_false_iff : g.suspended = false ↔ g.suspendedAtTick = none := by
  unfold suspended
  rw [Option.isSome_eq_false_iff, Option.isNone_iff_eq_none]

lemma suspended_iff : g.suspended = true ↔ ∃ t, g.suspendedAtTick = some t := by
  unfold suspended
  rw [Option.isSome_iff_exists]

lemma fetches_of_active (h : (g.after results n).suspended = false) :
    g.fetches results n = true := by
  unfold fetches shouldFetch
  rw [suspended_eq_false_iff.mp h]

lemma Tells.suspendedAt_le (h : (g.after results n).Tells (g.zeroRun results n) n)
    (ht : (g.after results n).suspendedAtTick = some t) : t ≤ n := by
  rw [h.suspendedAt_eq] at ht
  exact h.past t (List.mem_of_getElem? ht)

lemma Tells.suspended_iff_le (h : (g.after results n).Tells (g.zeroRun results n) n) :
    (g.after results n).suspended = true ↔ g.maxZero ≤ (g.zeroRun results n).length := by
  have hpos := g.maxZero_pos
  rw [suspended_iff, ← Option.ne_none_iff_exists', h.suspendedAt_eq, (settings_after g results n).1,
    Ne, List.getElem?_eq_none_iff]
  omega

/-- The `max_zero`-th zero yield suspends an active source, and nothing else does. -/
lemma suspends_iff (h : (g.after results n).Tells (g.zeroRun results n) n)
    (h' : (g.after results (n + 1)).Tells (g.zeroRun results (n + 1)) (n + 1))
    (hactive : (g.after results n).suspended = false) :
    (g.after results (n + 1)).suspended = true ↔
      (results (n + 1)).outcome.zeroYield = true ∧
        (g.zeroRun results n).length + 1 = g.maxZero := by
  have hfetch := fetches_of_active hactive
  have hbelow : ¬g.maxZero ≤ (g.zeroRun results n).length := by
    rw [← h.suspended_iff_le, hactive]
    exact Bool.false_ne_true
  rcases hyield : (results (n + 1)).outcome.zeroYield with _ | _
  · rw [(after_yield hfetch hyield).1]
    simp [suspended]
  · rw [h'.suspended_iff_le, (after_zeroYield hfetch hyield).2.2, List.length_append,
      List.length_singleton]
    simp only [true_and]
    omega

lemma suspendedAt_of_suspends (hactive : (g.after results n).suspended = false)
    (hsusp : (g.after results (n + 1)).suspended = true) :
    (g.after results (n + 1)).suspendedAtTick = some (n + 1) := by
  have hfetch := fetches_of_active hactive
  obtain ⟨t, ht⟩ := suspended_iff.mp hsusp
  rcases hyield : (results (n + 1)).outcome.zeroYield with _ | _
  · rw [(after_yield hfetch hyield).1] at ht
    cases ht
  · rw [(after_zeroYield hfetch hyield).2.1, suspended_eq_false_iff.mp hactive] at ht ⊢
    split at ht
    · rename_i hfull
      rw [if_pos hfull]
      rfl
    · cases ht

lemma resumes (hfetch : g.fetches results n = true)
    (hyield : (results (n + 1)).outcome.zeroYield = false) :
    (g.after results (n + 1)).suspended = false ∧ (g.after results (n + 1)).zeroCycles = 0 ∧
      g.zeroRun results (n + 1) = [] := by
  obtain ⟨hafter, hzero⟩ := after_yield hfetch hyield
  rw [hafter]
  exact ⟨rfl, rfl, hzero⟩

end SourceGuard

theorem suspension_protocol (maxZero : UInt32) (retryEvery : UInt64)
    (results : Nat → SourceFetch) :
    SuspensionProtocol (.new maxZero retryEvery) results := by
  have htells := SourceGuard.tells_after maxZero retryEvery results
  constructor
  · exact fun n => SourceGuard.fetches_of_active
  · exact fun n => SourceGuard.suspends_iff (htells n) (htells (n + 1))
  · exact fun n => SourceGuard.suspendedAt_of_suspends
  · exact fun n t ht => SourceGuard.fetches_iff_modEq ht ((htells n).suspendedAt_le ht)
  · exact fun n t => SourceGuard.suspendedAt_kept
  · exact fun n => SourceGuard.resumes
  · intro n hsusp
    obtain ⟨t, ht⟩ := SourceGuard.suspended_iff.mp hsusp
    exact SourceGuard.exists_probe ht ((htells n).suspendedAt_le ht)

end IPProxyPool
