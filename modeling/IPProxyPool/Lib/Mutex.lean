import Mathlib.Logic.Function.Basic
import Mathlib.Tactic
import IPProxyPool.Lib.Run

/-!
# Critical sections under one lock

Any number of tasks share a state and a lock. The section of a task is a program of atomic steps,
each of which may read and write the shared state; it begins by taking the lock and ends by
releasing it. Under every schedule the tasks have the effect and the results that they have one
after the other, in the order in which they held the lock.
-/

namespace Mutex

open Transition

variable {ι σ ρ : Type}

/-- A program: it ends with a result, or takes one atomic step and goes on with what it has read. -/
inductive Program (σ ρ : Type) where
  | ret (r : ρ)
  | act (write : σ → σ) (next : σ → Program σ ρ)

namespace Program

def exec : Program σ ρ → σ → σ × ρ
  | .ret r, s => (s, r)
  | .act write next, s => (next s).exec (write s)

/-- `P` holds of the state before and after every step. -/
def Throughout (P : σ → Prop) : Program σ ρ → σ → Prop
  | .ret _, s => P s
  | .act write next, s => P s ∧ (next s).Throughout P (write s)

lemma Throughout.here {P : σ → Prop} {p : Program σ ρ} {s : σ} (h : p.Throughout P s) : P s := by
  cases p with
  | ret r => exact h
  | act write next => exact h.1

@[simp] lemma exec_act (write : σ → σ) (next : σ → Program σ ρ) (s : σ) :
    (act write next).exec s = (next s).exec (write s) := rfl

end Program

/-- Where a task stands. -/
inductive Status (σ ρ : Type) where
  | waiting
  | running (p : Program σ ρ)
  | done (r : ρ)

/-- The shared state, the task that holds the lock, and the tasks; `returned` lists those that have
released the lock, in that order. -/
structure System (ι σ ρ : Type) where
  shared : σ
  holder : Option ι
  status : ι → Status σ ρ
  returned : List ι

def start (s : σ) : System ι σ ρ where
  shared := s
  holder := none
  status := fun _ => .waiting
  returned := []

section Steps

variable [DecidableEq ι] (task : ι → Program σ ρ)

/-- The next step of task `i`: to take the lock, which may be held, a step of its program, or to
release the lock. -/
def step (t : System ι σ ρ) (i : ι) : System ι σ ρ :=
  match t.status i with
  | .waiting =>
    match t.holder with
    | none => { t with holder := some i, status := Function.update t.status i (.running (task i)) }
    | some _ => t
  | .running (.act write next) =>
    { t with
      shared := write t.shared
      status := Function.update t.status i (.running (next t.shared)) }
  | .running (.ret r) =>
    { t with
      holder := none
      status := Function.update t.status i (.done r)
      returned := t.returned ++ [i] }
  | .done _ => t

end Steps

variable (task : ι → Program σ ρ)

/-- The tasks of a list one after the other: the state they leave and their results. -/
def serial : σ → List ι → σ × List (ι × ρ)
  | s, [] => (s, [])
  | s, i :: is =>
    let p := (task i).exec s
    let q := serial p.1 is
    (q.1, (i, p.2) :: q.2)

variable {task}

lemma serial_append (s : σ) (is js : List ι) :
    serial task s (is ++ js) =
      ((serial task (serial task s is).1 js).1,
        (serial task s is).2 ++ (serial task (serial task s is).1 js).2) := by
  induction is generalizing s with
  | nil => rfl
  | cons i is ih => simp only [List.cons_append, serial, ih]

lemma serial_concat (s : σ) (is : List ι) (i : ι) :
    serial task s (is ++ [i]) =
      (((task i).exec (serial task s is).1).1,
        (serial task s is).2 ++ [(i, ((task i).exec (serial task s is).1).2)]) := by
  rw [serial_append]
  rfl

lemma map_fst_serial (task : ι → Program σ ρ) (s : σ) (is : List ι) :
    (serial task s is).2.map Prod.fst = is := by
  induction is generalizing s with
  | nil => rfl
  | cons i is ih => simp only [serial, List.map_cons, ih]

/-! ### The invariant -/

/-- The tasks that have returned ran one after the other, and the one that holds the lock is on its
way to what its section does when it starts after them, through states that `mid` allows. -/
structure Serial (task : ι → Program σ ρ) (mid : ι → σ → σ → Prop) (s : σ) (t : System ι σ ρ) :
    Prop where
  free : t.holder = none → t.shared = (serial task s t.returned).1
  held : ∀ i, t.holder = some i → ∃ p, t.status i = .running p ∧
    p.exec t.shared = (task i).exec (serial task s t.returned).1 ∧
    p.Throughout (mid i (serial task s t.returned).1) t.shared
  exclusive : ∀ i p, t.status i = .running p → t.holder = some i
  results : ∀ i r, t.status i = .done r ↔ (i, r) ∈ (serial task s t.returned).2
  once : t.returned.Nodup

variable {mid : ι → σ → σ → Prop} {s : σ}

lemma serial_start (s : σ) : Serial task mid s (start s : System ι σ ρ) where
  free := fun _ => rfl
  held := fun _ hi => nomatch hi
  exclusive := fun _ _ hi => nomatch hi
  results := fun _ _ => iff_of_false (fun h => nomatch h) (fun h => nomatch h)
  once := List.nodup_nil

lemma Serial.status_of_returned {t : System ι σ ρ} (h : Serial task mid s t) {i : ι}
    (hi : i ∈ t.returned) : ∃ r, t.status i = .done r := by
  rw [← map_fst_serial task s t.returned] at hi
  obtain ⟨⟨j, r⟩, hmem, rfl⟩ := List.mem_map.mp hi
  exact ⟨r, (h.results j r).mpr hmem⟩

section Steps

variable [DecidableEq ι] {t : System ι σ ρ} {i : ι}

/-- A task that starts or goes on returns nothing. -/
lemma done_update_iff (hi : ∀ r, t.status i ≠ .done r) (p : Program σ ρ) (j : ι) (r : ρ) :
    Function.update t.status i (.running p) j = .done r ↔ t.status j = .done r := by
  by_cases hji : j = i
  · rw [hji, Function.update_self]
    exact iff_of_false (fun hd => nomatch hd) (hi r)
  · rw [Function.update_of_ne hji]

lemma serial_acquire (hmid : ∀ i s, (task i).Throughout (mid i s) s) (h : Serial task mid s t)
    (hi : t.status i = .waiting) (hfree : t.holder = none) :
    Serial task mid s
      { t with holder := some i, status := Function.update t.status i (.running (task i)) } where
  free := fun hnone => nomatch hnone
  held := by
    intro j hj
    cases hj
    refine ⟨task i, Function.update_self .., ?_, ?_⟩
    · change (task i).exec t.shared = _
      rw [h.free hfree]
    · change (task i).Throughout _ t.shared
      rw [h.free hfree]
      exact hmid i _
  exclusive := by
    intro j p hj
    dsimp only at hj ⊢
    by_cases hji : j = i
    · rw [hji]
    · rw [Function.update_of_ne hji] at hj
      have hheld := h.exclusive j p hj
      rw [hfree] at hheld
      cases hheld
  results := fun j r => (done_update_iff (fun r hr => nomatch hi.symm.trans hr) _ j r).trans
    (h.results j r)
  once := h.once

lemma serial_act (h : Serial task mid s t) {write : σ → σ} {next : σ → Program σ ρ}
    (hi : t.status i = .running (.act write next)) :
    Serial task mid s
      { t with
        shared := write t.shared
        status := Function.update t.status i (.running (next t.shared)) } where
  free := by
    intro hnone
    have hheld := h.exclusive i _ hi
    dsimp only at hnone
    rw [hheld] at hnone
    cases hnone
  held := by
    intro j hj
    have hheld := h.exclusive i _ hi
    dsimp only at hj
    rw [hheld, Option.some.injEq] at hj
    obtain ⟨p, hp, hexec, hthrough⟩ := h.held i hheld
    rw [hi] at hp
    cases hp
    rw [← hj]
    exact ⟨next t.shared, Function.update_self .., hexec, hthrough.2⟩
  exclusive := by
    intro j p hj
    dsimp only at hj ⊢
    by_cases hji : j = i
    · rw [hji]
      exact h.exclusive i _ hi
    · rw [Function.update_of_ne hji] at hj
      exact h.exclusive j p hj
  results := fun j r => (done_update_iff (fun r hr => nomatch hi.symm.trans hr) _ j r).trans
    (h.results j r)
  once := h.once

lemma serial_release (h : Serial task mid s t) {r : ρ} (hi : t.status i = .running (.ret r)) :
    Serial task mid s
      { t with
        holder := none
        status := Function.update t.status i (.done r)
        returned := t.returned ++ [i] } := by
  have hheld := h.exclusive i _ hi
  obtain ⟨p, hp, hexec, -⟩ := h.held i hheld
  rw [hi] at hp
  cases hp
  have hserial : serial task s (t.returned ++ [i]) =
      (t.shared, (serial task s t.returned).2 ++ [(i, r)]) := by
    rw [serial_concat, ← hexec]
    rfl
  refine ⟨?_, ?_, ?_, ?_, ?_⟩
  · intro _
    dsimp only
    rw [hserial]
  · intro j hj
    cases hj
  · intro j p hj
    dsimp only at hj
    by_cases hji : j = i
    · rw [hji, Function.update_self] at hj
      cases hj
    · rw [Function.update_of_ne hji] at hj
      have hother := h.exclusive j p hj
      rw [hheld, Option.some.injEq] at hother
      exact absurd hother.symm hji
  · intro j r'
    dsimp only
    rw [hserial, List.mem_append, ← h.results j r', List.mem_singleton, Prod.mk.injEq]
    by_cases hji : j = i
    · rw [hji, Function.update_self, hi, Status.done.injEq]
      constructor
      · rintro rfl
        exact .inr ⟨rfl, rfl⟩
      · rintro (hd | ⟨-, hr⟩)
        · cases hd
        · exact hr.symm
    · rw [Function.update_of_ne hji]
      constructor
      · exact fun hd => .inl hd
      · rintro (hd | ⟨hij, -⟩)
        · exact hd
        · exact absurd hij hji
  · rw [List.nodup_append]
    refine ⟨h.once, List.nodup_singleton i, ?_⟩
    intro j hj k hk hjk
    rw [List.mem_singleton.mp hk] at hjk
    obtain ⟨r', hr'⟩ := h.status_of_returned hj
    rw [hjk, hi] at hr'
    cases hr'

theorem serial_step (hmid : ∀ i s, (task i).Throughout (mid i s) s) (h : Serial task mid s t)
    (i : ι) : Serial task mid s (step task t i) := by
  unfold step
  split
  · rename_i hi
    split
    · rename_i hfree
      exact serial_acquire hmid h hi hfree
    · exact h
  · rename_i write next hi
    exact serial_act h hi
  · rename_i r hi
    exact serial_release h hi
  · exact h

/-- Every schedule is serial. -/
theorem serial_run (hmid : ∀ i s, (task i).Throughout (mid i s) s) (s : σ) (schedule : List ι) :
    Serial task mid s (run (step task) (start s) schedule) :=
  run_invariant (J := Serial task mid s) (fun _ i ht => serial_step hmid ht i) (serial_start s) schedule

end Steps

/-- The state that the holder of the lock has reached so far is one that `mid` allows. -/
lemma Serial.current {t : System ι σ ρ} (h : Serial task mid s t) {i : ι} (hi : t.holder = some i) :
    mid i (serial task s t.returned).1 t.shared := by
  obtain ⟨p, -, -, hthrough⟩ := h.held i hi
  exact hthrough.here

end Mutex
