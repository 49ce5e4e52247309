import IPProxyPool.Lib.Run

/-!
# What a run puts out

`log step out s es` lists what the steps of a run put out, in order. A quantity that every step
changes by what it takes in and puts out is accounted for over the whole run by the two logs; a
potential that pays for what is put out bounds it.
-/

namespace Transition

variable {σ ε α β : Type*} (step : σ → ε → σ)

def log (out : σ → ε → List α) : σ → List ε → List α
  | _, [] => []
  | s, e :: es => out s e ++ log out (step s e) es

variable {step} {out : σ → ε → List α} {inp : σ → ε → List β}

@[simp] lemma log_nil (s : σ) : log step out s [] = [] := rfl

@[simp] lemma log_cons (s : σ) (e : ε) (es : List ε) :
    log step out s (e :: es) = out s e ++ log step out (step s e) es := rfl

lemma log_append (s : σ) (es fs : List ε) :
    log step out s (es ++ fs) = log step out s es ++ log step out (run step s es) fs := by
  induction es generalizing s with
  | nil => rfl
  | cons e es ih =>
    rw [List.cons_append, log_cons, log_cons, ih, run_cons, List.append_assoc]

lemma log_map {γ : Type*} (g : α → γ) (s : σ) (es : List ε) :
    log step (fun s e => (out s e).map g) s es = (log step out s es).map g := by
  induction es generalizing s with
  | nil => rfl
  | cons e es ih => rw [log_cons, log_cons, List.map_append, ih]

lemma log_eq_nil {P : σ → ε → Prop} (h : ∀ s e, P s e → out s e = []) {s : σ} {es : List ε}
    (halong : Along step P s es) : log step out s es = [] := by
  induction es generalizing s with
  | nil => rfl
  | cons e es ih => rw [log_cons, h s e halong.1, ih halong.2, List.nil_append]

lemma sum_map_indicator (p : α → Prop) [DecidablePred p] (l : List α) :
    (l.map (fun a => if p a then 1 else 0)).sum = l.countP p := by
  induction l with
  | nil => rfl
  | cons a l ih => simp [List.countP_cons, ih, Nat.add_comm]

/-- Everything that is put out has a property that every step's output has. -/
theorem forall_mem_log {J : σ → Prop} {P : α → Prop} (hstep : ∀ s e, J s → J (step s e))
    (hout : ∀ s e, J s → ∀ a ∈ out s e, P a) {s : σ} (hs : J s) (es : List ε) :
    ∀ a ∈ log step out s es, P a := by
  induction es generalizing s with
  | nil => simp
  | cons e es ih =>
    intro a ha
    rcases List.mem_append.mp ha with hhere | hlater
    · exact hout s e hs a hhere
    · exact ih (hstep s e hs) a hlater

/-- A record that every step extends by what it puts out. -/
theorem run_record {r : σ → List α} (hrec : ∀ s e, r (step s e) = r s ++ out s e) (s : σ)
    (es : List ε) : r (run step s es) = r s ++ log step out s es := by
  induction es generalizing s with
  | nil => simp
  | cons e es ih => rw [run_cons, ih, hrec, log_cons, List.append_assoc]

/-- A quantity that each step changes by what it takes in and what it puts out. -/
theorem run_accounts {M : Type*} [AddCommMonoid M] {J : σ → Prop} {f : σ → M} {g : α → M}
    {h : β → M} (hstep : ∀ s e, J s → J (step s e))
    (hbal : ∀ s e, J s →
      f (step s e) + ((out s e).map g).sum = f s + ((inp s e).map h).sum)
    {s : σ} (hs : J s) (es : List ε) :
    f (run step s es) + ((log step out s es).map g).sum =
      f s + ((log step inp s es).map h).sum := by
  induction es generalizing s with
  | nil => rfl
  | cons e es ih =>
    rw [run_cons, log_cons, log_cons, List.map_append, List.map_append, List.sum_append,
      List.sum_append, ← add_assoc (f s), ← hbal s e hs, add_right_comm, ← ih (hstep s e hs)]
    abel

/-- A queue: what a step puts out comes from its head, what it takes in goes to its tail. -/
theorem run_queue {P : σ → ε → Prop} {q : σ → List α} {i : σ → ε → List α}
    (hqueue : ∀ s e, P s e → out s e ++ q (step s e) = q s ++ i s e) {s : σ} {es : List ε}
    (halong : Along step P s es) :
    log step out s es ++ q (run step s es) = q s ++ log step i s es := by
  induction es generalizing s with
  | nil => simp
  | cons e es ih =>
    rw [run_cons, log_cons, log_cons, List.append_assoc, ih halong.2, ← List.append_assoc,
      hqueue s e halong.1, List.append_assoc]

lemma log_sublist {i : σ → ε → List α} (h : ∀ s e, (out s e).Sublist (i s e)) (s : σ)
    (es : List ε) : (log step out s es).Sublist (log step i s es) := by
  induction es generalizing s with
  | nil => exact List.Sublist.refl _
  | cons e es ih => exact (h s e).append (ih (step s e))

/-- The same for a number and how often something is put out and taken in. -/
theorem run_counts {J : σ → Prop} {f : σ → Nat} {p : α → Bool} {q : β → Bool}
    (hstep : ∀ s e, J s → J (step s e))
    (hbal : ∀ s e, J s → f (step s e) + (out s e).countP p = f s + (inp s e).countP q)
    {s : σ} (hs : J s) (es : List ε) :
    f (run step s es) + (log step out s es).countP p = f s + (log step inp s es).countP q := by
  induction es generalizing s with
  | nil => rfl
  | cons e es ih =>
    have hnow := hbal s e hs
    have hlater := ih (hstep s e hs)
    rw [run_cons, log_cons, log_cons, List.countP_append, List.countP_append]
    omega

/-- A potential that each step lowers by at least what it puts out, up to what it takes in. -/
theorem run_pays {M : Type*} [AddCommMonoid M] [PartialOrder M] [IsOrderedAddMonoid M]
    {J : σ → Prop} {P : σ → ε → Prop} {f : σ → M} {g : α → M} {h : β → M}
    (hstep : ∀ s e, J s → P s e → J (step s e))
    (hpay : ∀ s e, J s → P s e →
      f (step s e) + ((out s e).map g).sum ≤ f s + ((inp s e).map h).sum)
    {s : σ} (hs : J s) {es : List ε} (halong : Along step P s es) :
    f (run step s es) + ((log step out s es).map g).sum ≤
      f s + ((log step inp s es).map h).sum := by
  induction es generalizing s with
  | nil => exact le_rfl
  | cons e es ih =>
    have hnow := hpay s e hs halong.1
    have hlater := ih (hstep s e hs halong.1) halong.2
    rw [run_cons, log_cons, log_cons, List.map_append, List.map_append, List.sum_append,
      List.sum_append]
    calc f (run step (step s e) es) +
          (((out s e).map g).sum + ((log step out (step s e) es).map g).sum)
        = f (run step (step s e) es) + ((log step out (step s e) es).map g).sum +
            ((out s e).map g).sum := by abel
      _ ≤ f (step s e) + ((log step inp (step s e) es).map h).sum + ((out s e).map g).sum :=
          add_le_add_left hlater _
      _ = f (step s e) + ((out s e).map g).sum + ((log step inp (step s e) es).map h).sum := by
          abel
      _ ≤ f s + ((inp s e).map h).sum + ((log step inp (step s e) es).map h).sum :=
          add_le_add_left hnow _
      _ = f s + (((inp s e).map h).sum + ((log step inp (step s e) es).map h).sum) := by abel

/-- A supply that each step uses up by what it puts out. -/
theorem run_drains {J : σ → Prop} {P : σ → ε → Prop} {f : σ → Nat}
    (hstep : ∀ s e, J s → P s e → J (step s e))
    (hdrain : ∀ s e, J s → P s e → f (step s e) + (out s e).length ≤ f s)
    {s : σ} (hs : J s) {es : List ε} (halong : Along step P s es) :
    f (run step s es) + (log step out s es).length ≤ f s := by
  have hnone : log step (fun _ _ => ([] : List Nat)) s es = [] :=
    log_eq_nil (P := P) (fun _ _ _ => rfl) halong
  have hpays : f (run step s es) + ((log step out s es).map (fun _ => 1)).sum ≤
      f s + ((log step (fun _ _ => ([] : List Nat)) s es).map id).sum :=
    run_pays hstep (fun s e hs he => by simpa using hdrain s e hs he) hs halong
  rw [hnone] at hpays
  simpa using hpays

end Transition
