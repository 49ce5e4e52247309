import Mathlib.Data.List.GetD
import IPProxyPool.Lib.Population
import IPProxyPool.Lib.Run

/-!
# Histograms of atomic counters

Several histograms with the same buckets are filled and read without a lock. An observer adds one
to the bucket of its value, then to the count, then adds the value to the sum in a
compare-and-swap loop; a reader loads the buckets in order, then the count, then the sum, for one
histogram after the other. Any number of observers and readers are interleaved.
-/

namespace AtomicHistogram
open Population Transition

/-- Upper bounds of the finite buckets. Values are cut at `cap`, which some bucket holds. -/
structure Layout where
  bounds : List Nat
  cap : Nat
  covered : ∃ b ∈ bounds, cap ≤ b

namespace Layout

def cut (l : Layout) (value : Nat) : Nat := min value l.cap

/-- The first bucket that holds the value. -/
def bucketOf (l : Layout) (value : Nat) : Option Nat :=
  l.bounds.findIdx? (fun bound => l.cut value ≤ bound)

lemma exists_bucketOf (l : Layout) (value : Nat) :
    ∃ k, l.bucketOf value = some k ∧ k < l.bounds.length := by
  obtain ⟨b, hb, hcap⟩ := l.covered
  cases h : l.bucketOf value with
  | none =>
    have hnone := List.findIdx?_eq_none_iff.mp h b hb
    have hle : l.cut value ≤ b := (Nat.min_le_right _ _).trans hcap
    simp [hle] at hnone
  | some k => exact ⟨k, rfl, (List.findIdx?_eq_some_iff_getElem.mp h).1⟩

end Layout

structure Cells where
  buckets : List Nat
  count : Nat
  sum : Nat
  deriving DecidableEq

def Cells.addBucket (k : Nat) (c : Cells) : Cells :=
  { c with buckets := c.buckets.modify k (· + 1) }

def Cells.addCount (c : Cells) : Cells := { c with count := c.count + 1 }

def Cells.setSum (sum : Nat) (c : Cells) : Cells := { c with sum := sum }

/-- The next atomic operation of an observer. -/
inductive Observer (η : Type*) where
  | idle
  | bucket (h : η) (k value : Nat)
  | count (h : η) (value : Nat)
  | load (h : η) (value : Nat)
  | swap (h : η) (value seen : Nat)

/-- The lines of a histogram but for its sum. -/
structure Lines where
  buckets : List Nat
  inf : Nat
  count : Nat
  deriving DecidableEq

/-- The next loads of a reader. As a history variable, `missed` counts the additions to a bucket
of this histogram after the reader had loaded that bucket. -/
inductive Reader (η : Type*) where
  | idle
  | buckets (h : η) (todo : List η) (loaded : List Nat) (missed : Nat)
  | sum (h : η) (todo : List η) (lines : Lines)

structure State (η ι κ : Type*) where
  cells : η → Cells
  observers : ι → Observer η
  readers : κ → Reader η
  rendered : List (η × Lines × Nat)

inductive Op (η ι κ : Type*) where
  | observe (i : ι) (h : η) (value : Nat)
  | advance (i : ι) (spurious : Bool)
  | render (j : κ)
  | load (j : κ)

def init (η ι κ : Type*) (l : Layout) : State η ι κ where
  cells := fun _ => ⟨List.replicate l.bounds.length 0, 0, 0⟩
  observers := fun _ => .idle
  readers := fun _ => .idle
  rendered := []

/-- Cumulative values from raw ones. -/
def cumulate : Nat → List Nat → List Nat
  | _, [] => []
  | acc, n :: ns => (acc + n) :: cumulate (acc + n) ns

/-- What an addition to bucket `k` of `h` means to a reader. -/
def Reader.miss {η : Type*} [DecidableEq η] (h : η) (k : Nat) : Reader η → Reader η
  | .buckets h' todo loaded missed =>
    .buckets h' todo loaded (if h' = h ∧ k < loaded.length then missed + 1 else missed)
  | r => r

def Reader.start {η : Type*} : List η → Reader η
  | [] => .idle
  | h :: todo => .buckets h todo [] 0

section
variable {η ι κ : Type*} [DecidableEq η] [DecidableEq ι] [DecidableEq κ]

def setObserver (s : State η ι κ) (i : ι) (o : Observer η) : State η ι κ :=
  { s with observers := Function.update s.observers i o }

def setReader (s : State η ι κ) (j : κ) (r : Reader η) : State η ι κ :=
  { s with readers := Function.update s.readers j r }

def modifyCells (s : State η ι κ) (h : η) (f : Cells → Cells) : State η ι κ :=
  { s with cells := Function.update s.cells h (f (s.cells h)) }

/-- One more value in bucket `k` of `h`. -/
def addBucket (s : State η ι κ) (h : η) (k : Nat) : State η ι κ :=
  { modifyCells s h (Cells.addBucket k) with readers := fun j => (s.readers j).miss h k }

def saturatingAdd (a b : Nat) : Nat := min (a + b) (2 ^ 64 - 1)

/-- The next atomic operation of observer `i`; a compare-and-swap may fail for no reason. -/
def advance (s : State η ι κ) (i : ι) (spurious : Bool) : State η ι κ :=
  match s.observers i with
  | .idle => s
  | .bucket h k value => setObserver (addBucket s h k) i (.count h value)
  | .count h value =>
    setObserver (modifyCells s h Cells.addCount) i (.load h value)
  | .load h value => setObserver s i (.swap h value (s.cells h).sum)
  | .swap h value seen =>
    if !spurious && (s.cells h).sum = seen then
      setObserver (modifyCells s h (Cells.setSum (saturatingAdd seen value))) i .idle
    else setObserver s i (.swap h value (s.cells h).sum)

/-- The next load of reader `j`. With the count, the lines of the buckets are complete. -/
def load (l : Layout) (s : State η ι κ) (j : κ) : State η ι κ :=
  match s.readers j with
  | .idle => s
  | .buckets h todo loaded missed =>
    if loaded.length < l.bounds.length then
      setReader s j
        (.buckets h todo (loaded ++ [(s.cells h).buckets.getD loaded.length 0]) missed)
    else
      let count := (s.cells h).count
      setReader s j (.sum h todo ⟨cumulate 0 loaded, count, count⟩)
  | .sum h todo lines =>
    setReader { s with rendered := s.rendered ++ [(h, lines, (s.cells h).sum)] } j (.start todo)

/-- An observation or a rendering begins where the party is idle. -/
def step (l : Layout) (order : List η) (s : State η ι κ) : Op η ι κ → State η ι κ
  | .observe i h value =>
    match s.observers i with
    | .idle =>
      match l.bucketOf value with
      | some k => setObserver s i (.bucket h k (l.cut value))
      | none => setObserver s i (.count h (l.cut value))
    | _ => s
  | .advance i spurious => advance s i spurious
  | .render j =>
    match s.readers j with
    | .idle => setReader s j (.start order)
    | _ => s
  | .load j => load l s j

end

variable {η ι κ : Type*}

@[simp] lemma observers_setObserver_self [DecidableEq ι] (s : State η ι κ) (i : ι) (o : Observer η) :
    (setObserver s i o).observers i = o := Function.update_self ..

lemma observers_setObserver_of_ne [DecidableEq ι] (s : State η ι κ) {i i' : ι} (h : i' ≠ i)
    (o : Observer η) :
    (setObserver s i o).observers i' = s.observers i' := Function.update_of_ne h ..

@[simp] lemma readers_setReader_self [DecidableEq κ] (s : State η ι κ) (j : κ) (r : Reader η) :
    (setReader s j r).readers j = r := Function.update_self ..

lemma readers_setReader_of_ne [DecidableEq κ] (s : State η ι κ) {j j' : κ} (h : j' ≠ j)
    (r : Reader η) :
    (setReader s j r).readers j' = s.readers j' := Function.update_of_ne h ..

lemma cells_modifyCells [DecidableEq η] (s : State η ι κ) (h h' : η) (f : Cells → Cells) :
    (modifyCells s h f).cells h' = if h' = h then f (s.cells h') else s.cells h' := by
  by_cases hh : h' = h
  · subst hh
    rw [if_pos rfl]
    exact Function.update_self ..
  · rw [if_neg hh]
    exact Function.update_of_ne hh ..

lemma cells_addBucket [DecidableEq η] (s : State η ι κ) (h h' : η) (k : Nat) :
    (addBucket s h k).cells h' = if h' = h then (s.cells h').addBucket k else s.cells h' :=
  cells_modifyCells s h h' (Cells.addBucket k)

/-! ### Cumulative values -/

/-- The bucket lines do not decrease, and the `+Inf` line, which is the count, is no less. -/
structure Lines.Monotone (lines : Lines) : Prop where
  buckets : lines.buckets.Pairwise (· ≤ ·)
  le_inf : ∀ n ∈ lines.buckets.getLast?, n ≤ lines.inf
  inf_eq : lines.inf = lines.count

lemma le_of_mem_cumulate {acc n : Nat} {ns : List Nat} (h : n ∈ cumulate acc ns) : acc ≤ n := by
  induction ns generalizing acc with
  | nil => cases h
  | cons m ns ih =>
    rcases List.mem_cons.mp h with rfl | h
    · exact Nat.le_add_right acc m
    · exact (Nat.le_add_right acc m).trans (ih h)

lemma pairwise_cumulate (acc : Nat) (ns : List Nat) : (cumulate acc ns).Pairwise (· ≤ ·) := by
  induction ns generalizing acc with
  | nil => exact List.Pairwise.nil
  | cons m ns ih => exact List.Pairwise.cons (fun n hn => le_of_mem_cumulate hn) (ih (acc + m))

lemma getLast_cumulate (acc : Nat) {ns : List Nat} (h : ns ≠ []) :
    (cumulate acc ns).getLast? = some (acc + ns.sum) := by
  induction ns generalizing acc with
  | nil => exact absurd rfl h
  | cons m ns ih =>
    cases ns with
    | nil => simp [cumulate]
    | cons k ns =>
      have htail := ih (acc + m) (by simp)
      rw [cumulate, cumulate, List.getLast?_cons_cons, ← cumulate, htail, List.sum_cons (a := m),
        Nat.add_assoc]

/-- Only the last bucket can be out of order. -/
lemma monotone_iff {loaded : List Nat} (h : loaded ≠ []) (count : Nat) :
    (Lines.mk (cumulate 0 loaded) count count).Monotone ↔ loaded.sum ≤ count := by
  constructor
  · intro hm
    have hlast := hm.le_inf loaded.sum
    rw [getLast_cumulate 0 h, Nat.zero_add] at hlast
    exact hlast rfl
  · intro hle
    refine ⟨pairwise_cumulate 0 loaded, fun n hn => ?_, rfl⟩
    rw [getLast_cumulate 0 h, Nat.zero_add] at hn
    cases hn
    exact hle

lemma sum_take_modify {l : List Nat} {k : Nat} (h : k < l.length) (n : Nat) :
    ((l.modify k (· + 1)).take n).sum = (l.take n).sum + if k < n then 1 else 0 := by
  induction l generalizing k n with
  | nil => cases h
  | cons a l ih =>
    cases n with
    | zero => simp
    | succ n =>
      cases k with
      | zero =>
        simp
        omega
      | succ k =>
        have htail := ih (Nat.lt_of_succ_lt_succ h) n
        simp [htail, Nat.add_assoc]

lemma sum_modify {l : List Nat} {k : Nat} (h : k < l.length) :
    (l.modify k (· + 1)).sum = l.sum + 1 := by
  have htake := sum_take_modify h l.length
  rwa [if_pos h, List.take_length, List.take_of_length_le (by simp)] at htake

/-! ### What is rendered -/

/-- Every histogram that is rendered, or whose lines are complete but for the sum, is monotone. -/
structure Good (s : State η ι κ) : Prop where
  written : ∀ j h todo lines, s.readers j = .sum h todo lines → lines.Monotone
  rendered : ∀ r ∈ s.rendered, r.2.1.Monotone

section
variable {s : State η ι κ}

lemma good_init (l : Layout) : Good (init η ι κ l) where
  written := fun _ _ _ _ h => by cases h
  rendered := fun _ h => by cases h

lemma good_setReader [DecidableEq κ] (hgood : Good s) {j : κ} {r : Reader η}
    (hr : ∀ h todo lines, r = .sum h todo lines → lines.Monotone) : Good (setReader s j r) where
  written := fun j' h todo lines hj' => by
    by_cases hj : j' = j
    · subst hj
      exact hr h todo lines ((readers_setReader_self s j' r).symm.trans hj')
    · exact hgood.written j' h todo lines ((readers_setReader_of_ne s hj r).symm.trans hj')
  rendered := hgood.rendered

lemma good_start [DecidableEq κ] (hgood : Good s) (j : κ) (order : List η) :
    Good (setReader s j (.start order)) := by
  refine good_setReader hgood (fun h todo lines hr => ?_)
  cases order <;> cases hr

lemma good_advance [DecidableEq η] [DecidableEq ι] (hgood : Good s) (i : ι) (spurious : Bool) :
    Good (advance s i spurious) := by
  unfold advance
  cases hi : s.observers i with
  | bucket h k value =>
    refine ⟨fun j h' todo lines hj => ?_, hgood.rendered⟩
    change (s.readers j).miss h k = _ at hj
    cases hr : s.readers j with
    | sum h0 todo0 lines0 =>
      rw [hr] at hj
      cases hj
      exact hgood.written j h' todo lines hr
    | _ =>
      rw [hr] at hj
      cases hj
  | swap h value seen =>
    dsimp only
    split
    · exact ⟨hgood.written, hgood.rendered⟩
    · exact ⟨hgood.written, hgood.rendered⟩
  | _ => exact ⟨hgood.written, hgood.rendered⟩

end

/-! ### Invariant -/

section
variable [DecidableEq η]

/-- The observer stands between the addition to a bucket of `h` and that to its count. -/
def owesCount (h : η) : Observer η → Nat
  | .count h' _ => if h' = h then 1 else 0
  | _ => 0

variable [Fintype ι]

def inFlight (s : State η ι κ) (h : η) : Nat := total (owesCount h) s.observers

structure Inv (l : Layout) (s : State η ι κ) : Prop where
  length : ∀ h, (s.cells h).buckets.length = l.bounds.length
  balance : ∀ h, (s.cells h).buckets.sum = (s.cells h).count + inFlight s h
  index : ∀ i h k value, s.observers i = .bucket h k value → k < l.bounds.length
  loaded : ∀ j h todo loaded missed, s.readers j = .buckets h todo loaded missed →
    loaded.length ≤ l.bounds.length ∧
      loaded.sum + missed = ((s.cells h).buckets.take loaded.length).sum

variable {l : Layout} {s : State η ι κ}

lemma inv_init (l : Layout) : Inv l (init η ι κ l) where
  length := fun _ => List.length_replicate
  balance := fun h => by
    have hzero : inFlight (init η ι κ l) h = 0 := total_eq_zero (fun _ => rfl)
    rw [hzero]
    simp [init]
  index := fun _ _ _ _ h => by cases h
  loaded := fun _ _ _ _ _ h => by cases h

/-- The sum plays no part. -/
lemma inv_setSum (hinv : Inv l s) (h : η) (sum : Nat) :
    Inv l (modifyCells s h (Cells.setSum sum)) := by
  have hsame : ∀ h', ((modifyCells s h (Cells.setSum sum)).cells h').buckets =
      (s.cells h').buckets ∧
      ((modifyCells s h (Cells.setSum sum)).cells h').count = (s.cells h').count := by
    intro h'
    rw [cells_modifyCells]
    split <;> exact ⟨rfl, rfl⟩
  refine ⟨fun h' => ?_, fun h' => ?_, hinv.index, fun j h' todo loaded missed hj => ?_⟩
  · rw [(hsame h').1]
    exact hinv.length h'
  · rw [(hsame h').1, (hsame h').2]
    exact hinv.balance h'
  · rw [(hsame h').1]
    exact hinv.loaded j h' todo loaded missed hj

lemma inv_setReader [DecidableEq κ] (hinv : Inv l s) {j : κ} {r : Reader η}
    (hr : ∀ h todo loaded missed, r = .buckets h todo loaded missed →
      loaded.length ≤ l.bounds.length ∧
        loaded.sum + missed = ((s.cells h).buckets.take loaded.length).sum) :
    Inv l (setReader s j r) where
  length := hinv.length
  balance := hinv.balance
  index := hinv.index
  loaded := fun j' h todo loaded missed hj' => by
    by_cases hj : j' = j
    · subst hj
      exact hr h todo loaded missed ((readers_setReader_self s j' r).symm.trans hj')
    · exact hinv.loaded j' h todo loaded missed
        ((readers_setReader_of_ne s hj r).symm.trans hj')

lemma inv_start [DecidableEq κ] (hinv : Inv l s) (j : κ) (order : List η) :
    Inv l (setReader s j (.start order)) := by
  refine inv_setReader hinv (fun h todo loaded missed hr => ?_)
  cases order with
  | nil => cases hr
  | cons h order =>
    cases hr
    exact ⟨Nat.zero_le _, by simp⟩

lemma inv_load [DecidableEq κ] (hinv : Inv l s) (j : κ) : Inv l (load l s j) := by
  unfold load
  cases hj : s.readers j with
  | idle => exact hinv
  | buckets h todo loaded missed =>
    obtain ⟨hlen, hsum⟩ := hinv.loaded j h todo loaded missed hj
    dsimp only
    split
    · rename_i hlt
      have hlt' : loaded.length < (s.cells h).buckets.length := (hinv.length h).symm ▸ hlt
      refine inv_setReader hinv (fun h' todo' loaded' missed' hr => ?_)
      cases hr
      rw [List.length_append, List.length_singleton]
      refine ⟨hlt, ?_⟩
      rw [List.sum_take_succ _ _ hlt', ← hsum, List.sum_append, List.sum_singleton,
        List.getD_eq_getElem _ _ hlt']
      omega
    · exact inv_setReader hinv (fun _ _ _ _ hr => by cases hr)
  | sum h todo lines =>
    exact inv_start (s := { s with rendered := s.rendered ++ [(h, lines, (s.cells h).sum)] })
      ⟨hinv.length, hinv.balance, hinv.index, hinv.loaded⟩ j todo

variable [DecidableEq ι]

/-- An observer moves: its debt leaves the total and the new one enters. -/
lemma inFlight_setObserver (s : State η ι κ) (i : ι) (o : Observer η) (h : η) :
    inFlight (setObserver s i o) h + owesCount h (s.observers i) =
      inFlight s h + owesCount h o :=
  total_update (owesCount h) s.observers i o

/-- An observer that moves elsewhere than to a bucket leaves all observers within the bounds. -/
lemma Inv.index_setObserver (hinv : Inv l s) {s' : State η ι κ} (hs : s'.observers = s.observers)
    {i : ι} {o : Observer η} (ho : ∀ h k value, o = .bucket h k value → k < l.bounds.length)
    (i' : ι) (h : η) (k value : Nat) (hi' : (setObserver s' i o).observers i' = .bucket h k value) :
    k < l.bounds.length := by
  by_cases hi : i' = i
  · subst hi
    exact ho h k value ((observers_setObserver_self s' i' o).symm.trans hi')
  · rw [observers_setObserver_of_ne _ hi, hs] at hi'
    exact hinv.index i' h k value hi'

lemma inv_setObserver (hinv : Inv l s) {i : ι} {o : Observer η}
    (howes : ∀ h, owesCount h o = owesCount h (s.observers i))
    (hindex : ∀ h k value, o = .bucket h k value → k < l.bounds.length) :
    Inv l (setObserver s i o) where
  length := hinv.length
  balance := fun h => by
    have htotal := inFlight_setObserver s i o h
    rw [howes h] at htotal
    rw [Nat.add_right_cancel htotal]
    exact hinv.balance h
  index := hinv.index_setObserver rfl hindex
  loaded := hinv.loaded

/-- An addition to a bucket: the observer owes the count, and every reader that is past the bucket
has missed it. -/
lemma inv_addBucket (hinv : Inv l s) {i : ι} {h : η} {k value : Nat}
    (hi : s.observers i = .bucket h k value) :
    Inv l (setObserver (addBucket s h k) i (.count h value)) := by
  have hk : ∀ h', k < (s.cells h').buckets.length := fun h' =>
    (hinv.length h').symm ▸ hinv.index i h k value hi
  refine ⟨fun h' => ?_, fun h' => ?_, hinv.index_setObserver rfl (by simp), ?_⟩
  · change ((addBucket s h k).cells h').buckets.length = _
    rw [cells_addBucket]
    split
    · exact (List.length_modify ..).trans (hinv.length h')
    · exact hinv.length h'
  · have htotal := inFlight_setObserver (addBucket s h k) i (.count h value) h'
    have hbalance := hinv.balance h'
    change _ + owesCount h' (s.observers i) = inFlight s h' + _ at htotal
    rw [hi] at htotal
    change ((addBucket s h k).cells h').buckets.sum = ((addBucket s h k).cells h').count + _
    rw [cells_addBucket]
    by_cases hh : h' = h
    · subst hh
      simp only [owesCount, if_pos, Cells.addBucket, sum_modify (hk h')] at htotal ⊢
      omega
    · simp only [owesCount, if_neg (Ne.symm hh), if_neg hh] at htotal ⊢
      omega
  · intro j h' todo loaded missed hj
    change (s.readers j).miss h k = _ at hj
    change _ ∧ _ = (((addBucket s h k).cells h').buckets.take _).sum
    cases hr : s.readers j with
    | idle =>
      rw [hr] at hj
      cases hj
    | sum h0 todo0 lines0 =>
      rw [hr] at hj
      cases hj
    | buckets h0 todo0 loaded0 missed0 =>
      rw [hr] at hj
      cases hj
      obtain ⟨hlen, hsum⟩ := hinv.loaded j h' todo loaded missed0 hr
      refine ⟨hlen, ?_⟩
      rw [cells_addBucket]
      by_cases hh : h' = h
      · subst hh
        rw [if_pos rfl, Cells.addBucket, sum_take_modify (hk h'), ← hsum]
        by_cases hlt : k < loaded.length
        · rw [if_pos ⟨rfl, hlt⟩, if_pos hlt, Nat.add_assoc]
        · rw [if_neg (fun h => hlt h.2), if_neg hlt, Nat.add_zero]
      · rw [if_neg (fun h => hh h.1), if_neg hh, hsum]

/-- An addition to the count settles the debt of the observer. -/
lemma inv_addCount (hinv : Inv l s) {i : ι} {h : η} {value : Nat}
    (hi : s.observers i = .count h value) :
    Inv l (setObserver (modifyCells s h Cells.addCount) i (.load h value)) := by
  have hbuckets : ∀ h', ((modifyCells s h Cells.addCount).cells h').buckets =
      (s.cells h').buckets := by
    intro h'
    rw [cells_modifyCells]
    split <;> rfl
  refine ⟨fun h' => ?_, fun h' => ?_, hinv.index_setObserver rfl (by simp),
    fun j h' todo loaded missed hj => ?_⟩
  · exact (congrArg List.length (hbuckets h')).trans (hinv.length h')
  · have htotal := inFlight_setObserver (modifyCells s h Cells.addCount) i (.load h value) h'
    have hbalance := hinv.balance h'
    change _ + owesCount h' (s.observers i) = inFlight s h' + _ at htotal
    rw [hi] at htotal
    change ((modifyCells s h Cells.addCount).cells h').buckets.sum =
      ((modifyCells s h Cells.addCount).cells h').count + _
    rw [hbuckets h', cells_modifyCells]
    by_cases hh : h' = h
    · subst hh
      simp only [owesCount, if_pos, Cells.addCount] at htotal ⊢
      omega
    · simp only [owesCount, if_neg (Ne.symm hh), if_neg hh] at htotal ⊢
      omega
  · change _ ∧ _ = (((modifyCells s h Cells.addCount).cells h').buckets.take _).sum
    rw [hbuckets h']
    exact hinv.loaded j h' todo loaded missed hj

lemma inv_advance (hinv : Inv l s) (i : ι) (spurious : Bool) : Inv l (advance s i spurious) := by
  unfold advance
  cases hi : s.observers i with
  | idle => exact hinv
  | bucket h k value => exact inv_addBucket hinv hi
  | count h value => exact inv_addCount hinv hi
  | load h value =>
    exact inv_setObserver hinv (fun _ => by rw [hi]; rfl) (fun _ _ _ h => by cases h)
  | swap h value seen =>
    dsimp only
    split
    · refine inv_setObserver (inv_setSum hinv h _) (fun _ => ?_) (fun _ _ _ h => by cases h)
      change _ = owesCount _ (s.observers i)
      rw [hi]
      rfl
    · exact inv_setObserver hinv (fun _ => by rw [hi]; rfl) (fun _ _ _ h => by cases h)

variable [DecidableEq κ]

lemma inv_step (hinv : Inv l s) (order : List η) (op : Op η ι κ) : Inv l (step l order s op) := by
  cases op with
  | observe i h value =>
    unfold step
    dsimp only
    split
    · rename_i hidle
      obtain ⟨k, hk, hlt⟩ := l.exists_bucketOf value
      rw [hk]
      refine inv_setObserver hinv (fun _ => ?_) (fun h' k' value' ho => ?_)
      · rw [hidle]
        rfl
      · cases ho
        exact hlt
    · exact hinv
  | advance i spurious => exact inv_advance hinv i spurious
  | render j =>
    unfold step
    dsimp only
    split
    · exact inv_start hinv j order
    · exact hinv
  | load j => exact inv_load hinv j

/-! ### Early counts -/

/-- A reader loads the count while more observers owe it than additions the reader has missed. -/
def EarlyCount (l : Layout) (s : State η ι κ) : Op η ι κ → Prop
  | .load j => ∃ h todo loaded missed, s.readers j = .buckets h todo loaded missed ∧
      loaded.length = l.bounds.length ∧ missed < inFlight s h
  | _ => False

omit [DecidableEq ι] in
/-- With all buckets loaded, the count completes monotone lines exactly when it is not early. -/
lemma good_load_iff (hinv : Inv l s) (hgood : Good s) (j : κ) :
    Good (load l s j) ↔ ¬EarlyCount l s (.load j) := by
  unfold load
  cases hj : s.readers j with
  | idle =>
    refine iff_of_true hgood ?_
    rintro ⟨_, _, _, _, hr, _⟩
    cases hj.symm.trans hr
  | buckets h todo loaded missed =>
    obtain ⟨hlen, hsum⟩ := hinv.loaded j h todo loaded missed hj
    dsimp only
    split
    · rename_i hlt
      refine iff_of_true (good_setReader hgood (fun _ _ _ hr => by cases hr)) ?_
      rintro ⟨_, _, _, _, hr, hfull, _⟩
      cases hj.symm.trans hr
      omega
    · rename_i hfull
      have hfull' : loaded.length = l.bounds.length := by omega
      have hne : loaded ≠ [] := by
        obtain ⟨b, hb, -⟩ := l.covered
        have hpos := List.length_pos_of_mem hb
        exact List.ne_nil_of_length_pos (by omega)
      have hbalance := hinv.balance h
      rw [List.take_of_length_le (by rw [hfull', hinv.length h])] at hsum
      have hmono : (Lines.mk (cumulate 0 loaded) (s.cells h).count (s.cells h).count).Monotone ↔
          ¬missed < inFlight s h := by
        rw [monotone_iff hne]
        omega
      constructor
      · rintro hgood' ⟨_, _, _, _, hr, -, hearly⟩
        cases hj.symm.trans hr
        have hwritten := hgood'.written j h todo _ (readers_setReader_self ..)
        exact hmono.mp hwritten hearly
      · intro hearly
        refine good_setReader hgood (fun h' todo' lines' hr => ?_)
        cases hr
        exact hmono.mpr (fun hlt => hearly ⟨h, todo, loaded, missed, hj, hfull', hlt⟩)
  | sum h todo lines =>
    have hrendered : Good { s with rendered := s.rendered ++ [(h, lines, (s.cells h).sum)] } := by
      refine ⟨hgood.written, fun r hr => ?_⟩
      rcases List.mem_append.mp hr with hr | hr
      · exact hgood.rendered r hr
      · rw [List.mem_singleton.mp hr]
        exact hgood.written j h todo lines hj
    refine iff_of_true (good_start hrendered j todo) ?_
    rintro ⟨_, _, _, _, hr, _⟩
    cases hj.symm.trans hr

lemma good_step_iff (hinv : Inv l s) (hgood : Good s) (order : List η) (op : Op η ι κ) :
    Good (step l order s op) ↔ ¬EarlyCount l s op := by
  cases op with
  | observe i h value =>
    refine iff_of_true ?_ id
    unfold step
    dsimp only
    split
    · split
      · exact ⟨hgood.written, hgood.rendered⟩
      · exact ⟨hgood.written, hgood.rendered⟩
    · exact hgood
  | advance i spurious => exact iff_of_true (good_advance hgood i spurious) id
  | render j =>
    refine iff_of_true ?_ id
    unfold step
    dsimp only
    split
    · exact good_start hgood j order
    · exact hgood
  | load j => exact good_load_iff hinv hgood j

/-- The system decodes its events to operations; an event that decodes to none does nothing. -/
def stepEvent {ε : Type*} (l : Layout) (order : List η) (decode : ε → Option (Op η ι κ))
    (s : State η ι κ) (e : ε) : State η ι κ :=
  (decode e).elim s (step l order s)

/-- In every interleaving, all histograms are rendered monotone exactly when no reader loads a
count early. -/
theorem run_good_iff {ε : Type*} (l : Layout) (order : List η) (decode : ε → Option (Op η ι κ))
    (es : List ε) :
    Along (stepEvent l order decode) (fun s e => Good (stepEvent l order decode s e))
        (init η ι κ l) es ↔
      Along (stepEvent l order decode) (fun s e => ∀ op ∈ decode e, ¬EarlyCount l s op)
        (init η ι κ l) es := by
  have hinv : ∀ s e, Inv l s → Inv l (stepEvent l order decode s e) := by
    intro s e hs
    unfold stepEvent
    cases decode e with
    | none => exact hs
    | some op => exact inv_step hs order op
  have hgood : ∀ s e, Inv l s ∧ Good s →
      (Good (stepEvent l order decode s e) ↔ ∀ op ∈ decode e, ¬EarlyCount l s op) := by
    intro s e hs
    unfold stepEvent
    cases decode e with
    | none => exact iff_of_true hs.2 (fun op hop => by cases hop)
    | some op => simpa using good_step_iff hs.1 hs.2 order op
  refine Iff.trans ?_ (along_keeps_iff (J := fun s => Inv l s ∧ Good s)
    (fun s e hs => ?_) ⟨inv_init l, good_init l⟩ es)
  · exact along_congr (J := Inv l) hinv
      (fun s e hs => (and_iff_right (hinv s e hs)).symm) (inv_init l) es
  · rw [← hgood s e hs]
    exact and_iff_right (hinv s e hs.1)

end

/-! ### Parties that are alone -/

section
variable [DecidableEq η] [DecidableEq ι] [DecidableEq κ]

/-- An observation as one step. -/
def Cells.observe (l : Layout) (value : Nat) (c : Cells) : Cells :=
  let counted := ((l.bucketOf value).elim c (fun k => c.addBucket k)).addCount
  counted.setSum (saturatingAdd c.sum (l.cut value))

def Cells.lines (c : Cells) : Lines := ⟨cumulate 0 c.buckets, c.count, c.count⟩

/-- The atomic operations of an observer that nobody interrupts make one observation. -/
lemma cells_observe_alone (l : Layout) (order : List η) (s : State η ι κ) {i : ι}
    (hidle : s.observers i = .idle) (h : η) (value : Nat) :
    (run (step l order) s (.observe i h value :: List.replicate 4 (.advance i false))).cells =
      Function.update s.cells h ((s.cells h).observe l value) := by
  obtain ⟨k, hk, -⟩ := l.exists_bucketOf value
  have hstart : step l order s (.observe i h value) =
      setObserver s i (.bucket h k (l.cut value)) := by
    simp only [step, hidle, hk]
  have hbucket : ∀ s' : State η ι κ, s'.observers i = .bucket h k (l.cut value) →
      advance s' i false = setObserver (addBucket s' h k) i (.count h (l.cut value)) :=
    fun s' hi => by simp only [advance, hi]
  have hcount : ∀ s' : State η ι κ, s'.observers i = .count h (l.cut value) →
      advance s' i false =
        setObserver (modifyCells s' h Cells.addCount) i (.load h (l.cut value)) :=
    fun s' hi => by simp only [advance, hi]
  have hload : ∀ s' : State η ι κ, s'.observers i = .load h (l.cut value) →
      advance s' i false = setObserver s' i (.swap h (l.cut value) (s'.cells h).sum) :=
    fun s' hi => by simp only [advance, hi]
  have hswap : ∀ s' : State η ι κ, s'.observers i = .swap h (l.cut value) (s'.cells h).sum →
      advance s' i false = setObserver (modifyCells s' h
        (Cells.setSum (saturatingAdd (s'.cells h).sum (l.cut value)))) i .idle :=
    fun s' hi => by simp [advance, hi]
  change (advance (advance (advance (advance (step l order s (.observe i h value)) i false)
    i false) i false) i false).cells = _
  rw [hstart, hbucket _ (observers_setObserver_self ..), hcount _ (observers_setObserver_self ..),
    hload _ (observers_setObserver_self ..), hswap _ (observers_setObserver_self ..)]
  simp [setObserver, addBucket, modifyCells, Cells.observe, hk, Cells.addBucket, Cells.addCount,
    Cells.setSum]

/-- The loads of a reader that nobody interrupts write the lines of the cells. -/
lemma rendered_load_alone (l : Layout) (order : List η) {h : η} {todo : List η} {j : κ} {n : Nat}
    {s : State η ι κ} {loaded : List Nat} {missed : Nat}
    (hlen : (s.cells h).buckets.length = l.bounds.length)
    (hj : s.readers j = .buckets h todo loaded missed)
    (hloaded : loaded = (s.cells h).buckets.take loaded.length)
    (hn : loaded.length + n = l.bounds.length) :
    (run (step l order) s (List.replicate (n + 2) (.load j))).rendered =
      s.rendered ++ [(h, (s.cells h).lines, (s.cells h).sum)] := by
  induction n generalizing s loaded with
  | zero =>
    have hall : loaded = (s.cells h).buckets := by
      rwa [List.take_of_length_le (by omega)] at hloaded
    have hcount : step l order s (.load j) =
        setReader s j (.sum h todo ⟨cumulate 0 loaded, (s.cells h).count, (s.cells h).count⟩) := by
      simp only [step, load, hj]
      rw [if_neg (by omega)]
    change (load l (step l order s (.load j)) j).rendered = _
    rw [hcount, load, readers_setReader_self, hall]
    rfl
  | succ n ih =>
    have hlt : loaded.length < (s.cells h).buckets.length := by omega
    have hbucket : step l order s (.load j) =
        setReader s j (.buckets h todo
          (loaded ++ [(s.cells h).buckets.getD loaded.length 0]) missed) := by
      simp only [step, load, hj]
      rw [if_pos (by omega)]
    rw [List.replicate_succ, run_cons, hbucket]
    refine ih hlen (readers_setReader_self ..) ?_ ?_
    · change _ = (s.cells h).buckets.take _
      rw [List.length_append, List.length_singleton, List.take_add_one, ← hloaded,
        List.getD_eq_getElem _ _ hlt, List.getElem?_eq_getElem hlt]
      rfl
    · rw [List.length_append, List.length_singleton]
      omega

end

end AtomicHistogram
