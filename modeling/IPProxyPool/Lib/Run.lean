import Mathlib.Data.List.Infix
import Mathlib.Tactic

/-!
# Runs of a transition function

A system with a total step function `step : σ → ε → σ` is run over a list of events.
`Along step P` says that `P` holds of every state of the run together with the event that
leaves it. The rules below turn a fact about one step into a fact about whole runs.
-/

namespace Transition

variable {σ ε : Type*} (step : σ → ε → σ)

def run (s : σ) (es : List ε) : σ := es.foldl step s

/-- `P` holds at every step of the run. -/
def Along (P : σ → ε → Prop) : σ → List ε → Prop
  | _, [] => True
  | s, e :: es => P s e ∧ Along P (step s e) es

@[simp] lemma run_nil (s : σ) : run step s [] = s := rfl

@[simp] lemma run_cons (s : σ) (e : ε) (es : List ε) :
    run step s (e :: es) = run step (step s e) es := rfl

lemma run_append (s : σ) (es fs : List ε) :
    run step s (es ++ fs) = run step (run step s es) fs :=
  List.foldl_append

variable {step} {P Q I : σ → ε → Prop}

@[simp] lemma along_nil (s : σ) : Along step P s [] := trivial

@[simp] lemma along_cons (s : σ) (e : ε) (es : List ε) :
    Along step P s (e :: es) ↔ P s e ∧ Along step P (step s e) es := Iff.rfl

instance decidableAlong [∀ s e, Decidable (P s e)] :
    (s : σ) → (es : List ε) → Decidable (Along step P s es)
  | _, [] => .isTrue trivial
  | s, _ :: es => @instDecidableAnd _ _ _ (decidableAlong (step s _) es)

theorem run_invariant {J : σ → Prop} (hstep : ∀ s e, J s → J (step s e))
    {s : σ} (hs : J s) (es : List ε) : J (run step s es) := by
  induction es generalizing s with
  | nil => exact hs
  | cons e es ih => exact ih (hstep s e hs)

/-- Where a condition on the steps is needed to keep `J`, and every step of the run meets it. -/
theorem run_of_along {J : σ → Prop} (hstep : ∀ s e, J s → P s e → J (step s e))
    {s : σ} (hs : J s) {es : List ε} (h : Along step P s es) : J (run step s es) := by
  induction es generalizing s with
  | nil => exact hs
  | cons e es ih => exact ih (hstep s e hs h.1) h.2

variable (step) in
/-- The invariant may speak of the events that are still to come. -/
theorem run_rest {J : σ → List ε → Prop} (hstep : ∀ s e es, J s (e :: es) → J (step s e) es)
    {s : σ} (es : List ε) (h : J s es) : J (run step s es) [] := by
  induction es generalizing s with
  | nil => exact h
  | cons e es ih => exact ih (hstep s e es h)

lemma along_imp (h : ∀ s e, P s e → Q s e) {s : σ} {es : List ε} (hP : Along step P s es) :
    Along step Q s es := by
  induction es generalizing s with
  | nil => trivial
  | cons e es ih => exact ⟨h s e hP.1, ih hP.2⟩

theorem along_of_invariant {J : σ → Prop} (hstep : ∀ s e, J s → J (step s e))
    (hP : ∀ s e, J s → P s e) {s : σ} (hs : J s) (es : List ε) : Along step P s es := by
  induction es generalizing s with
  | nil => trivial
  | cons e es ih => exact ⟨hP s e hs, ih (hstep s e hs)⟩

/-- Where every step of the run meets the condition that keeps `J`, what `J` and the condition give
holds at every step. -/
theorem along_of_along {J : σ → Prop} (hstep : ∀ s e, J s → P s e → J (step s e))
    (hQ : ∀ s e, J s → P s e → Q s e) {s : σ} (hs : J s) {es : List ε} (h : Along step P s es) :
    Along step Q s es := by
  induction es generalizing s with
  | nil => trivial
  | cons e es ih => exact ⟨hQ s e hs h.1, ih (hstep s e hs h.1) h.2⟩

theorem along_congr {J : σ → Prop} (hstep : ∀ s e, J s → J (step s e))
    (hiff : ∀ s e, J s → (P s e ↔ Q s e)) {s : σ} (hs : J s) (es : List ε) :
    Along step P s es ↔ Along step Q s es := by
  induction es generalizing s with
  | nil => exact Iff.rfl
  | cons e es ih => rw [along_cons, along_cons, hiff s e hs, ih (hstep s e hs)]

/-- If, in a state with property `J`, a step keeps `J` exactly when it satisfies `P`, then all
states of a run have `J` exactly when all its steps satisfy `P`. -/
theorem along_keeps_iff {J : σ → Prop} (hiff : ∀ s e, J s → (J (step s e) ↔ P s e))
    {s : σ} (hs : J s) (es : List ε) :
    Along step (fun s e => J (step s e)) s es ↔ Along step P s es := by
  induction es generalizing s with
  | nil => exact Iff.rfl
  | cons e es ih =>
    rw [along_cons, along_cons, hiff s e hs]
    refine and_congr_right (fun hp => ?_)
    exact ih ((hiff s e hs).mpr hp)

lemma along_of_forall {R : ε → Prop} {s : σ} {es : List ε} (hR : ∀ e ∈ es, R e) :
    Along step (fun _ e => R e) s es := by
  induction es generalizing s with
  | nil => trivial
  | cons e es ih =>
    exact ⟨hR e List.mem_cons_self, ih (fun e' he => hR e' (List.mem_cons_of_mem e he))⟩

lemma along_and_forall {R : ε → Prop} {s : σ} {es : List ε} (h : Along step P s es)
    (hR : ∀ e ∈ es, R e) : Along step (fun s e => P s e ∧ R e) s es := by
  induction es generalizing s with
  | nil => trivial
  | cons e es ih =>
    exact ⟨⟨h.1, hR e List.mem_cons_self⟩, ih h.2 (fun e' he => hR e' (List.mem_cons_of_mem e he))⟩

lemma along_append (s : σ) (es fs : List ε) :
    Along step P s (es ++ fs) ↔ Along step P s es ∧ Along step P (run step s es) fs := by
  induction es generalizing s with
  | nil => simp
  | cons e es ih => simp [ih, and_assoc]

/-- `Along` spelled out by positions: each event, taken in the state its predecessors lead to. -/
theorem along_iff_positions (s : σ) (es : List ε) :
    Along step P s es ↔ ∀ pre e, pre ++ [e] <+: es → P (run step s pre) e := by
  constructor
  · rintro h pre e ⟨post, rfl⟩
    rw [List.append_assoc, along_append] at h
    exact h.2.1
  · intro h
    induction es generalizing s with
    | nil => trivial
    | cons e es ih =>
      refine ⟨h [] e ⟨es, rfl⟩, ih _ (fun pre f hpre => ?_)⟩
      obtain ⟨post, rfl⟩ := hpre
      exact h (e :: pre) f ⟨post, rfl⟩

end Transition
