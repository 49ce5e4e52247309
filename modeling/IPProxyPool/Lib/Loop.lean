import Mathlib.Tactic

/-!
# Loops that end with a result

The body of a loop goes round again from a new state or leaves with a result. A loop is run for a
number of rounds; it ends if some number is enough.
-/

namespace Loop

variable {σ ρ : Type*} (body : σ → σ ⊕ ρ)

/-- The result, if there is one within so many rounds. -/
def iterate : Nat → σ → Option ρ
  | 0, _ => none
  | rounds + 1, s =>
    match body s with
    | .inl s' => iterate rounds s'
    | .inr r => some r

def Ends (s : σ) (r : ρ) : Prop := ∃ rounds, iterate body rounds s = some r

variable {body} {s s' : σ} {r : ρ}

lemma ends_of_inr (h : body s = .inr r) : Ends body s r := ⟨1, by rw [iterate, h]⟩

/-- Going round once changes nothing about how the loop ends. -/
lemma ends_of_inl (h : body s = .inl s') : Ends body s r ↔ Ends body s' r := by
  constructor
  · rintro ⟨rounds, hr⟩
    cases rounds with
    | zero => cases hr
    | succ rounds =>
      rw [iterate, h] at hr
      exact ⟨rounds, hr⟩
  · rintro ⟨rounds, hr⟩
    exact ⟨rounds + 1, by rw [iterate, h]; exact hr⟩

/-- A loop with a measure that every round lowers ends. -/
theorem exists_ends (measure : σ → Nat) (h : ∀ s s', body s = .inl s' → measure s' < measure s)
    (s : σ) : ∃ r, Ends body s r := by
  induction hn : measure s using Nat.strong_induction_on generalizing s with
  | _ n ih =>
    cases hs : body s with
    | inr r => exact ⟨r, ends_of_inr hs⟩
    | inl s' =>
      obtain ⟨r, hr⟩ := ih (measure s') (hn ▸ h s s' hs) s' rfl
      exact ⟨r, (ends_of_inl hs).mpr hr⟩

/-- What the rounds preserve holds when the loop is left. -/
theorem Ends.of_invariant {I : σ → Prop} {P : ρ → Prop} (h : Ends body s r) (hs : I s)
    (hround : ∀ s s', I s → body s = .inl s' → I s') (hlast : ∀ s r, I s → body s = .inr r → P r) :
    P r := by
  obtain ⟨rounds, hr⟩ := h
  induction rounds generalizing s with
  | zero => cases hr
  | succ rounds ih =>
    rw [iterate] at hr
    cases hb : body s with
    | inl s' =>
      rw [hb] at hr
      exact ih (hround s s' hs hb) hr
    | inr r' =>
      rw [hb] at hr
      cases hr
      exact hlast s r hs hb

lemma Ends.unique {r' : ρ} (h : Ends body s r) (h' : Ends body s r') : r' = r := by
  have hP : ∀ s r', Ends body s r → body s = .inr r' → r' = r := by
    rintro s r' ⟨rounds, hr⟩ hb
    cases rounds with
    | zero => cases hr
    | succ rounds =>
      rw [iterate, hb] at hr
      exact Option.some.inj hr
  exact h'.of_invariant (P := fun r' => r' = r) h (fun s s' hs hb => (ends_of_inl hb).mp hs) hP

end Loop
