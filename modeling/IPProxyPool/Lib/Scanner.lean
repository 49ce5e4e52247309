import Mathlib.Data.List.TakeWhile
import Mathlib.Tactic

/-!
# Scanning a sequence by position

Reads and slices that fail outside the sequence, the loop that moves a position over a run of
elements, and the rest of the sequence that begins at a position.
-/

namespace Scanner

/-- What an index can run into. -/
inductive Fault where
  | outOfBounds
  | outOfFuel
  deriving DecidableEq, Repr

variable {α : Type}

def readAt (b : List α) (i : Nat) : Except Fault α :=
  match b[i]? with
  | some c => .ok c
  | none => .error .outOfBounds

def slice (b : List α) (lo hi : Nat) : Except Fault (List α) :=
  if lo ≤ hi ∧ hi ≤ b.length then .ok ((b.drop lo).take (hi - lo)) else .error .outOfBounds

/-- `while pos < b.len() && p(b[pos]) { pos += 1 }` -/
def skipWhile (p : α → Bool) (b : List α) : Nat → Nat → Except Fault Nat
  | 0, _ => .error .outOfFuel
  | fuel + 1, pos =>
    if pos < b.length then do
      let c ← readAt b pos
      if p c then skipWhile p b fuel (pos + 1) else .ok pos
    else .ok pos

/-- `l` is what begins at a position inside the sequence or at its end. -/
structure At (b : List α) (pos : Nat) (l : List α) : Prop where
  bound : pos ≤ b.length
  drop_eq : b.drop pos = l

/-- `w` is the longest run of `p` before `rest`. -/
structure IsRun (p : α → Bool) (w rest : List α) : Prop where
  all : ∀ c ∈ w, p c = true
  stop : ∀ c ∈ rest.head?, p c = false

variable {b w l rest : List α} {pos : Nat} {c : α} {p : α → Bool}

/-! ### Positions -/

namespace At

lemma start (b : List α) : At b 0 b := ⟨Nat.zero_le _, List.drop_zero⟩

lemma of_le (h : pos ≤ b.length) : At b pos (b.drop pos) := ⟨h, rfl⟩

lemma length_eq (h : At b pos l) : pos + l.length = b.length := by
  rw [← h.drop_eq, List.length_drop]
  exact Nat.add_sub_cancel' h.bound

lemma append (h : At b pos (w ++ l)) : At b (pos + w.length) l := by
  have hlen := h.length_eq
  rw [List.length_append] at hlen
  refine ⟨by omega, ?_⟩
  rw [← List.drop_drop, h.drop_eq, List.drop_left]

lemma next (h : At b pos (c :: l)) : At b (pos + 1) l := append (w := [c]) h

lemma lt (h : At b pos (c :: l)) : pos < b.length := by
  have hlen := h.length_eq
  rw [List.length_cons] at hlen
  omega

lemma not_lt (h : At b pos []) : ¬pos < b.length := by
  have hlen := h.length_eq
  rw [List.length_nil] at hlen
  omega

lemma readAt (h : At b pos (c :: l)) : readAt b pos = .ok c := by
  have hget : b[pos]? = some c := by
    rw [← List.head?_drop, h.drop_eq, List.head?_cons]
  rw [Scanner.readAt, hget]

lemma slice (h : At b pos (w ++ l)) : slice b pos (pos + w.length) = .ok w := by
  have hlen := h.length_eq
  rw [List.length_append] at hlen
  rw [Scanner.slice, if_pos ⟨by omega, by omega⟩, h.drop_eq, Nat.add_sub_cancel_left,
    List.take_left]

lemma slice_end (h : At b pos l) : Scanner.slice b pos b.length = .ok l := by
  rw [Scanner.slice, if_pos ⟨h.bound, le_rfl⟩, h.drop_eq, List.take_of_length_le]
  rw [← h.length_eq]
  omega

end At

/-! ### Runs -/

lemma exists_run (p : α → Bool) (l : List α) : ∃ w rest, l = w ++ rest ∧ IsRun p w rest := by
  refine ⟨l.takeWhile p, l.dropWhile p, List.takeWhile_append_dropWhile.symm,
    fun c hc => List.mem_takeWhile_imp hc, fun c hc => ?_⟩
  have hhead := List.head?_dropWhile_not p l
  rw [Option.mem_def.mp hc] at hhead
  exact hhead

/-- Before a text there is at most one longest run. -/
lemma IsRun.unique {w' rest' : List α} (h : IsRun p w rest) (h' : IsRun p w' rest')
    (heq : w ++ rest = w' ++ rest') : w = w' ∧ rest = rest' := by
  have htake : ∀ {w rest : List α}, IsRun p w rest → (w ++ rest).takeWhile p = w := by
    intro w rest h
    rw [List.takeWhile_append_of_pos h.all]
    cases rest with
    | nil => simp
    | cons x xs =>
      have hx : p x = false := h.stop x rfl
      rw [List.takeWhile_cons_of_neg (by simp [hx]), List.append_nil]
  have hw : w = w' := by rw [← htake h, heq, htake h']
  rw [hw] at heq
  exact ⟨hw, List.append_cancel_left heq⟩

/-- With fuel for its run the loop stops behind it. -/
lemma At.skipWhile {fuel : Nat} (h : At b pos (w ++ rest)) (hrun : IsRun p w rest)
    (hfuel : w.length < fuel) : skipWhile p b fuel pos = .ok (pos + w.length) := by
  induction fuel generalizing pos w with
  | zero => omega
  | succ fuel ih =>
    rw [Scanner.skipWhile]
    cases w with
    | nil =>
      rw [List.nil_append] at h
      cases rest with
      | nil => rw [if_neg h.not_lt]; rfl
      | cons c rest =>
        have hc : p c = false := hrun.stop c rfl
        rw [if_pos h.lt, h.readAt]
        simp [hc, bind, Except.bind]
    | cons c w =>
      have hc : p c = true := hrun.all c List.mem_cons_self
      have htail : IsRun p w rest := ⟨fun x hx => hrun.all x (List.mem_cons_of_mem c hx), hrun.stop⟩
      rw [List.cons_append] at h
      rw [List.length_cons] at hfuel
      have hrest := ih h.next htail (by omega)
      rw [if_pos h.lt, h.readAt]
      simp only [bind, Except.bind, hc, if_true, hrest, List.length_cons]
      rw [Nat.add_assoc, Nat.add_comm 1]

/-- The fuel that the length of the sequence gives is enough. -/
lemma At.skipWhile_length (h : At b pos (w ++ rest)) (hrun : IsRun p w rest) :
    Scanner.skipWhile p b (b.length + 1) pos = .ok (pos + w.length) := by
  have hlen := h.length_eq
  rw [List.length_append] at hlen
  exact h.skipWhile hrun (by omega)

lemma At.skipWhile_nil (h : At b pos l) (hstop : ∀ c ∈ l.head?, p c = false) :
    Scanner.skipWhile p b (b.length + 1) pos = .ok pos :=
  h.skipWhile_length (w := []) ⟨by simp, hstop⟩

end Scanner
