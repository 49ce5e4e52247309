import IPProxyPool.Lib.RunLog
import IPProxyPool.Model.Supervisor

/-!
# How often a worker is restarted

A worker that keeps failing is restarted at most five times in 91 seconds on the average, whatever
its runs last: the back-off grows to 60 s, and a run that resets it lasts longer than that. A
potential on the back-off pays for the quick restarts after a reset.
-/

namespace IPProxyPool
open Transition

namespace Supervisor

/-- What a back-off is worth, in fifths of a second: 91 fifths pay for one restart. -/
def credit (backoff : Nat) : Nat :=
  if backoff = second then 0
  else if backoff = 2 * second then 86
  else if backoff = 4 * second then 167
  else if backoff = 8 * second then 238
  else if backoff = 16 * second then 289
  else if backoff = 32 * second then 300
  else 231

/-- The values of the back-off. -/
def backoffs : List Nat :=
  [second, 2 * second, 4 * second, 8 * second, 16 * second, 32 * second, backoffLimit]

/-- How much of the time since the last spawn is still to be counted, and whether that spawn is. -/
def pendingTime : SupervisorPhase → Nat
  | .running ran => ran
  | .sleeping slept => slept
  | _ => 0

def pendingSpawn : SupervisorPhase → Nat
  | .head => 0
  | _ => 1

structure Paced (s : Supervisor) : Prop where
  backoff_mem : s.backoff ∈ backoffs
  paid : 91 * second * s.spawned + 5 * pendingTime s.phase ≤
    5 * s.elapsed + second * credit s.backoff + 91 * second * pendingSpawn s.phase

lemma credit_le (b : Nat) : credit b ≤ 300 := by
  unfold credit
  split_ifs <;> decide

/-- A sleep of the back-off pays for the spawn before it. -/
lemma credit_double {b : Nat} (h : b ∈ backoffs) :
    min (b * 2) backoffLimit ∈ backoffs ∧
      second * credit b + 91 * second ≤ 5 * b + second * credit (min (b * 2) backoffLimit) := by
  unfold backoffs at h
  simp only [List.mem_cons, List.not_mem_nil, or_false] at h
  rcases h with rfl | rfl | rfl | rfl | rfl | rfl | rfl <;> decide

lemma credit_second : credit second = 0 := rfl

/-- Time, a spawn, the end of a run and the end of a sleep all keep the account. -/
lemma paced_step (s : Supervisor) (e : SupervisorEvent) (h : s.Paced) : (s.step e).Paced := by
  obtain ⟨hmem, hpaid⟩ := h
  cases e with
  | pass ns =>
    refine ⟨hmem, ?_⟩
    cases hphase : s.phase <;> rw [hphase] at hpaid <;>
      simp only [step, hphase, pendingTime, pendingSpawn] at hpaid ⊢ <;> omega
  | proceed =>
    simp only [step]
    split
    · rename_i hphase
      rw [hphase] at hpaid
      simp only [pendingTime, pendingSpawn] at hpaid
      split
      · refine ⟨hmem, ?_⟩
        simp only [pendingTime, pendingSpawn]
        omega
      · refine ⟨hmem, ?_⟩
        simp only [pendingTime, pendingSpawn, Nat.mul_add]
        omega
    · exact ⟨hmem, hpaid⟩
  | workerEnds =>
    simp only [step]
    split
    · rename_i ran hphase
      rw [hphase] at hpaid
      simp only [pendingTime, pendingSpawn] at hpaid
      split
      · rename_i hlong
        -- a run that resets the back-off pays for all that is owed
        have hcredit := credit_le s.backoff
        refine ⟨List.mem_cons_self, ?_⟩
        simp only [pendingTime, pendingSpawn, credit_second]
        unfold backoffLimit at hlong
        unfold second at *
        omega
      · refine ⟨hmem, ?_⟩
        simp only [pendingTime, pendingSpawn]
        omega
    · exact ⟨hmem, hpaid⟩
  | wake =>
    simp only [step]
    split
    · rename_i slept hphase
      rw [hphase] at hpaid
      simp only [pendingTime, pendingSpawn] at hpaid
      split
      · refine ⟨hmem, ?_⟩
        simp only [pendingTime, pendingSpawn]
        omega
      · split
        · rename_i hslept
          obtain ⟨hmem', hcredit⟩ := credit_double hmem
          refine ⟨hmem', ?_⟩
          simp only [pendingTime, pendingSpawn]
          omega
        · exact ⟨hmem, by rw [hphase]; exact hpaid⟩
    · exact ⟨hmem, hpaid⟩
  | setStop => exact ⟨hmem, hpaid⟩
  | closeStop => exact ⟨hmem, hpaid⟩

lemma paced_start : ({} : Supervisor).Paced := ⟨List.mem_cons_self, by decide⟩

lemma Paced.rate {s : Supervisor} (h : s.Paced) :
    91 * second * s.spawned ≤ 5 * s.elapsed + 391 * second := by
  have hpaid := h.paid
  have hcredit := credit_le s.backoff
  have hpending : pendingSpawn s.phase ≤ 1 := by
    unfold pendingSpawn
    split <;> decide
  unfold second at *
  omega

/-- Every spawn but that of the present run is counted by the metric. -/
def Counted (s : Supervisor) : Prop :=
  s.spawned = s.restarts + match s.phase with
    | .running _ => 1
    | _ => 0

lemma counted_start : ({} : Supervisor).Counted := rfl

lemma counted_step (s : Supervisor) (e : SupervisorEvent) (h : s.Counted) :
    (s.step e).Counted := by
  unfold Counted at *
  cases e with
  | pass ns => cases hphase : s.phase <;> simpa [step, hphase] using h
  | proceed =>
    cases hphase : s.phase with
    | head =>
      simp only [step, hphase]
      split <;> simp_all
    | _ => simpa [step, hphase] using h
  | workerEnds => cases hphase : s.phase <;> simp_all [step]
  | wake =>
    cases hphase : s.phase with
    | sleeping slept =>
      simp only [step, hphase]
      split
      · simp_all
      · split <;> simp_all
    | _ => simpa [step, hphase] using h
  | setStop => exact h
  | closeStop => exact h

/-- A set stop signal stays, and no worker is started under it. -/
lemma stopped_step (s : Supervisor) (e : SupervisorEvent) (h : s.stop = true) :
    (s.step e).stop = true ∧ (s.step e).spawned = s.spawned := by
  cases e with
  | pass ns => exact ⟨h, rfl⟩
  | proceed =>
    simp only [step]
    split
    · rw [if_pos h]
      exact ⟨h, rfl⟩
    · exact ⟨h, rfl⟩
  | workerEnds =>
    simp only [step]
    split <;> exact ⟨h, rfl⟩
  | wake =>
    simp only [step]
    split
    · split
      · exact ⟨h, rfl⟩
      · split <;> exact ⟨h, rfl⟩
    · exact ⟨h, rfl⟩
  | setStop => exact ⟨rfl, rfl⟩
  | closeStop => exact ⟨h, rfl⟩

lemma stopped_run {s : Supervisor} (h : s.stop = true) (events : List SupervisorEvent) :
    (run step s events).spawned = s.spawned := by
  induction events generalizing s with
  | nil => rfl
  | cons e events ih =>
    obtain ⟨hstop, hspawned⟩ := stopped_step s e h
    exact (ih hstop).trans hspawned

/-! ### The quickest worker to fail -/

/-- At the head of the loop. -/
def atHead (backoff restarts elapsed : Nat) : Supervisor where
  backoff := backoff
  restarts := restarts
  spawned := restarts
  elapsed := elapsed

lemma atHead_congr {backoff restarts restarts' elapsed elapsed' : Nat} (hr : restarts = restarts')
    (he : elapsed = elapsed') :
    atHead backoff restarts elapsed = atHead backoff restarts' elapsed' := by
  rw [hr, he]

/-- The worker fails at once and the supervisor wakes up in time. -/
def quickFailure (backoff : Nat) : List SupervisorEvent :=
  [.proceed, .workerEnds, .pass backoff, .wake]

/-- The worker runs just long enough to reset the back-off. -/
def longRun : List SupervisorEvent :=
  [.proceed, .pass (backoffLimit + 1), .workerEnds, .pass second, .wake]

def round : List SupervisorEvent :=
  quickFailure (2 * second) ++ quickFailure (4 * second) ++ quickFailure (8 * second) ++
    quickFailure (16 * second) ++ longRun

lemma run_quickFailure (backoff restarts elapsed : Nat) :
    run step (atHead backoff restarts elapsed) (quickFailure backoff) =
      atHead (min (backoff * 2) backoffLimit) (restarts + 1) (elapsed + backoff) := by
  simp [quickFailure, step, atHead]

lemma run_longRun (backoff restarts elapsed : Nat) :
    run step (atHead backoff restarts elapsed) longRun =
      atHead (2 * second) (restarts + 1) (elapsed + (backoffLimit + 1) + second) := by
  simp [longRun, step, atHead]
  decide

lemma run_round (restarts elapsed : Nat) :
    run step (atHead (2 * second) restarts elapsed) round =
      atHead (2 * second) (restarts + 5) (elapsed + (91 * second + 1)) := by
  have h4 : min (2 * second * 2) backoffLimit = 4 * second := by decide
  have h8 : min (4 * second * 2) backoffLimit = 8 * second := by decide
  have h16 : min (8 * second * 2) backoffLimit = 16 * second := by decide
  have h32 : min (16 * second * 2) backoffLimit = 32 * second := by decide
  rw [round, run_append, run_append, run_append, run_append, run_quickFailure, h4,
    run_quickFailure, h8, run_quickFailure, h16, run_quickFailure, h32, run_longRun]
  refine atHead_congr (by omega) ?_
  unfold backoffLimit
  omega

lemma run_rounds (k : Nat) :
    run step {} (quickFailure second ++ (List.replicate k round).flatten) =
      atHead (2 * second) (5 * k + 1) (k * (91 * second + 1) + second) := by
  have h2 : min (second * 2) backoffLimit = 2 * second := by decide
  rw [run_append]
  change run step (run step (atHead second 0 0) (quickFailure second)) _ = _
  rw [run_quickFailure, h2]
  induction k with
  | zero => rfl
  | succ k ih =>
    rw [List.replicate_succ', List.flatten_append, List.flatten_singleton, run_append, ih,
      run_round]
    refine atHead_congr (by omega) ?_
    rw [Nat.add_mul k 1, Nat.one_mul]
    omega

end Supervisor

/-- In every run of the supervisor, whatever the runs of its worker last and however they end: the
worker is started at most five times in 91 seconds on the average, beyond a fixed allowance; the
metric counts every start but the present run's; the back-off is one of seven values; and once the
stop signal is set nothing is started any more. The rate is attained: a worker that fails quickly,
but for one long run in five, is started five times in 91 seconds and one nanosecond for ever. -/
theorem supervisor_paces_restarts :
    (∀ events later, let s := run Supervisor.step {} events
      91 * second * s.spawned ≤ 5 * s.elapsed + 391 * second ∧ s.Counted ∧
        s.backoff ∈ Supervisor.backoffs ∧
        (s.stop = true → (run Supervisor.step s later).spawned = s.spawned)) ∧
      ∀ k, ∃ events, (run Supervisor.step {} events).spawned = 5 * k + 1 ∧
        (run Supervisor.step {} events).elapsed = k * (91 * second + 1) + second := by
  constructor
  · intro events later s
    have hpaced : s.Paced := run_invariant Supervisor.paced_step Supervisor.paced_start events
    have hcounted : s.Counted :=
      run_invariant (J := Supervisor.Counted) Supervisor.counted_step Supervisor.counted_start
        events
    exact ⟨hpaced.rate, hcounted, hpaced.backoff_mem, fun hstop =>
      Supervisor.stopped_run hstop later⟩
  · intro k
    refine ⟨Supervisor.quickFailure second ++ (List.replicate k Supervisor.round).flatten, ?_, ?_⟩
    all_goals rw [Supervisor.run_rounds]; rfl

end IPProxyPool
