import Mathlib.Tactic

/-!
# Retry loops

A loop that consumes one input a round and either ends with a result or goes on with a new
state. When the inputs run out, the loop ends with `stop`.
-/

namespace RetryLoop

variable {σ ι ρ : Type*} (step : σ → ι → ρ ⊕ σ) (stop : σ → ρ)

def loop : σ → List ι → ρ
  | s, [] => stop s
  | s, i :: is =>
    match step s i with
    | .inl r => r
    | .inr s' => loop s' is

/-- `C` holds at every round that is executed. -/
def Rounds (C : σ → ι → Prop) : σ → List ι → Prop
  | _, [] => True
  | s, i :: is => C s i ∧ ∀ s', step s i = .inr s' → Rounds C s' is

/-- The rounds that are executed, each with the state before it. -/
def executed : σ → List ι → List (σ × ι)
  | _, [] => []
  | s, i :: is =>
    (s, i) :: match step s i with
      | .inl _ => []
      | .inr s' => executed s' is

variable {step stop} {I : σ → Prop} {Q : ρ → Prop} {C : σ → ι → Prop}

lemma loop_cons_done {s : σ} {i : ι} {r : ρ} (h : step s i = .inl r) (is : List ι) :
    loop step stop s (i :: is) = r := by
  unfold loop
  rw [h]

lemma loop_cons_next {s s' : σ} {i : ι} (h : step s i = .inr s') (is : List ι) :
    loop step stop s (i :: is) = loop step stop s' is := by
  rw [loop, h]

/-- An invariant that rounds keep, and that makes every way to end good, makes the result good. -/
theorem loop_induct (hstop : ∀ s, I s → Q (stop s))
    (hround : ∀ s i, I s → Sum.elim Q I (step s i)) {s : σ} (hs : I s) (is : List ι) :
    Q (loop step stop s is) := by
  induction is generalizing s with
  | nil => exact hstop s hs
  | cons i is ih =>
    have hi := hround s i hs
    cases h : step s i with
    | inl r =>
      rw [h] at hi
      rw [loop_cons_done h]
      exact hi
    | inr s' =>
      rw [h] at hi
      rw [loop_cons_next h]
      exact ih hi

/-- An invariant over the state and the rounds executed so far. At most `N` rounds are executed. -/
theorem loop_executed_induct {J : σ → List (σ × ι) → Prop} {R : ρ → List (σ × ι) → Prop} {N : Nat}
    (hstop : ∀ s past, J s past → R (stop s) past)
    (hround : ∀ s past i, past.length < N → J s past →
      Sum.elim (fun r => R r (past ++ [(s, i)])) (fun s' => J s' (past ++ [(s, i)])) (step s i))
    {s : σ} {past : List (σ × ι)} (hs : J s past) (is : List ι) (hN : past.length + is.length ≤ N) :
    R (loop step stop s is) (past ++ executed step s is) := by
  induction is generalizing s past with
  | nil =>
    rw [executed, List.append_nil]
    exact hstop s past hs
  | cons i is ih =>
    rw [List.length_cons] at hN
    have hi := hround s past i (by omega) hs
    unfold executed
    cases h : step s i with
    | inl r =>
      rw [h] at hi
      rw [loop_cons_done h]
      exact hi
    | inr s' =>
      rw [h] at hi
      rw [loop_cons_next h]
      have hrest := ih hi (by rw [List.length_append, List.length_singleton]; omega)
      rwa [List.append_assoc, List.singleton_append] at hrest

/-- If a round ends well exactly when it satisfies `C`, and goes on only when it does, the result
is good exactly when all executed rounds satisfy `C`. -/
theorem loop_iff (hstop : ∀ s, I s → Q (stop s))
    (hround : ∀ s i, I s → Sum.elim (fun r => Q r ↔ C s i) (fun s' => I s' ∧ C s i) (step s i))
    {s : σ} (hs : I s) (is : List ι) : Q (loop step stop s is) ↔ Rounds step C s is := by
  induction is generalizing s with
  | nil => exact iff_of_true (hstop s hs) trivial
  | cons i is ih =>
    have hi := hround s i hs
    cases h : step s i with
    | inl r =>
      rw [h] at hi
      rw [loop_cons_done h]
      refine (show Q r ↔ C s i from hi).trans ⟨fun hC => ⟨hC, fun s' hs' => ?_⟩, fun hC => hC.1⟩
      rw [h] at hs'
      cases hs'
    | inr s' =>
      rw [h] at hi
      rw [loop_cons_next h, ih hi.1]
      refine ⟨fun hrest => ⟨hi.2, fun t ht => ?_⟩, fun hrounds => hrounds.2 s' h⟩
      rw [h] at ht
      cases ht
      exact hrest

/-- A loop whose rounds compute their inputs is a loop over the inputs that they come to. -/
theorem exists_loop_eq {κ : Type*} {step' : σ → κ → ρ ⊕ σ} {f : σ → κ → ι}
    (h : ∀ s x, step' s x = step s (f s x)) (s : σ) (xs : List κ) :
    ∃ is : List ι, is.length = xs.length ∧ loop step' stop s xs = loop step stop s is := by
  induction xs generalizing s with
  | nil => exact ⟨[], rfl, rfl⟩
  | cons x xs ih =>
    cases hx : step' s x with
    | inl r =>
      have hi : step s (f s x) = .inl r := (h s x).symm.trans hx
      refine ⟨f s x :: List.replicate xs.length (f s x), by simp, ?_⟩
      rw [loop_cons_done hx, loop_cons_done hi]
    | inr s' =>
      have hi : step s (f s x) = .inr s' := (h s x).symm.trans hx
      obtain ⟨is, hlen, heq⟩ := ih s'
      refine ⟨f s x :: is, by simp [hlen], ?_⟩
      rw [loop_cons_next hx, loop_cons_next hi, heq]

end RetryLoop
