import IPProxyPool.Lib.Table

/-!
# Consumer groups of a stream

A stream of entries numbered in the order in which they were appended, read by the consumers of one
group. An entry that is handed to a consumer is pending until it is acknowledged. A read returns
each entry once; a claim moves pending entries to another consumer; trimming removes the oldest
entries from the stream; deleting a consumer discards the entries that are pending for it.
-/

namespace ConsumerGroup
open AssocTable

/-- Entries below `added` have been appended, those below `trimmed` are gone from the stream and
those below `last` will not be returned by a read. `delivered` is the history of the reads. -/
structure Group (κ : Type*) where
  added : Nat
  trimmed : Nat
  last : Nat
  delivered : List Nat
  pending : Table Nat κ

namespace Group

variable {κ : Type*}

def empty : Group κ := ⟨0, 0, 0, [], ∅⟩

def append (g : Group κ) : Group κ := { g with added := g.added + 1 }

def trim (g : Group κ) (n : Nat) : Group κ := { g with trimmed := max g.trimmed (min n g.added) }

/-- The group starts at the end of the stream. -/
def seekEnd (g : Group κ) : Group κ := { g with last := max g.last g.added }

/-- The entries that a read of at most `count` returns. -/
def readable (g : Group κ) (count : Nat) : List Nat :=
  ((List.range g.added).filter (fun i => g.last ≤ i ∧ g.trimmed ≤ i)).take count

def deliver (g : Group κ) (c : κ) (i : Nat) : Group κ :=
  { g with
    last := max g.last (i + 1)
    delivered := g.delivered ++ [i]
    pending := g.pending.insert i c }

/-- An entry can be claimed while it is pending and still in the stream. -/
def Claimable (g : Group κ) (i : Nat) : Prop := i ∈ g.pending ∧ g.trimmed ≤ i

instance (g : Group κ) (i : Nat) : Decidable (g.Claimable i) :=
  inferInstanceAs (Decidable (i ∈ g.pending ∧ g.trimmed ≤ i))

def claim (g : Group κ) (c : κ) (i : Nat) : Group κ :=
  if g.Claimable i then { g with pending := g.pending.insert i c } else g

/-- Those of `ids` that are gone from the stream are no longer pending. -/
def purge (g : Group κ) (ids : List Nat) : Group κ :=
  { g with pending := retain (fun i _ => i ∉ ids ∨ g.trimmed ≤ i) g.pending }

def ack (g : Group κ) (ids : List Nat) : Group κ :=
  { g with pending := retain (fun i _ => i ∉ ids) g.pending }

def delConsumer [DecidableEq κ] (g : Group κ) (c : κ) : Group κ :=
  { g with pending := retain (fun _ owner => owner ≠ c) g.pending }

lemma mem_pending_iff (g : Group κ) (i : Nat) :
    i ∈ g.pending ↔ ∃ c, g.pending.lookup i = some c :=
  mem_iff_lookup g.pending i

lemma mem_pending_ack (g : Group κ) (ids : List Nat) (i : Nat) :
    i ∈ (g.ack ids).pending ↔ i ∈ g.pending ∧ i ∉ ids := by
  rw [mem_pending_iff, mem_pending_iff]
  simp [ack, Option.filter_eq_some_iff]

lemma mem_pending_purge (g : Group κ) (ids : List Nat) (i : Nat) :
    i ∈ (g.purge ids).pending ↔ i ∈ g.pending ∧ (i ∉ ids ∨ g.trimmed ≤ i) := by
  rw [mem_pending_iff, mem_pending_iff]
  simp [purge, Option.filter_eq_some_iff]

lemma mem_pending_delConsumer [DecidableEq κ] (g : Group κ) (c : κ) (i : Nat) :
    i ∈ (g.delConsumer c).pending ↔ ∃ owner, g.pending.lookup i = some owner ∧ owner ≠ c := by
  rw [mem_pending_iff]
  simp [delConsumer, Option.filter_eq_some_iff]

lemma mem_pending_deliver (g : Group κ) (c : κ) (i j : Nat) :
    j ∈ (g.deliver c i).pending ↔ j = i ∨ j ∈ g.pending := by
  simp [deliver]

lemma mem_pending_claim (g : Group κ) (c : κ) (i j : Nat) :
    j ∈ (g.claim c i).pending ↔ j ∈ g.pending := by
  unfold claim
  split
  · rename_i h
    simp only [AList.mem_insert, or_iff_right_iff_imp]
    rintro rfl
    exact h.1
  · rfl

/-! ### What a read returns is new -/

/-- Whatever was delivered lies below the position of the next read. -/
def Ordered (g : Group κ) : Prop := ∀ i ∈ g.delivered, i < g.last

lemma ordered_deliver {g : Group κ} (h : g.Ordered) (c : κ) (i : Nat) :
    (g.deliver c i).Ordered := by
  intro j hj
  rcases List.mem_append.mp hj with hj | hj
  · exact lt_of_lt_of_le (h j hj) (le_max_left _ _)
  · rw [List.mem_singleton.mp hj]
    exact lt_of_lt_of_le (Nat.lt_succ_self i) (le_max_right _ _)

lemma ordered_seekEnd {g : Group κ} (h : g.Ordered) : g.seekEnd.Ordered :=
  fun i hi => (h i hi).trans_le (Nat.le_max_left _ _)

lemma mem_readable {g : Group κ} {count i : Nat} (h : i ∈ g.readable count) :
    g.last ≤ i ∧ g.trimmed ≤ i := by
  have hmem := List.mem_of_mem_take h
  rw [List.mem_filter] at hmem
  simpa using hmem.2

lemma sorted_readable (g : Group κ) (count : Nat) : (g.readable count).Pairwise (· < ·) :=
  (List.pairwise_lt_range.filter _).take

/-! ### A whole read -/

variable (g : Group κ) (c : κ) (ids : List Nat)

lemma delivered_foldl_deliver :
    (ids.foldl (fun g i => g.deliver c i) g).delivered = g.delivered ++ ids := by
  induction ids generalizing g with
  | nil => simp
  | cons i ids ih =>
    rw [List.foldl_cons, ih, deliver, List.append_assoc]
    rfl

lemma mem_pending_foldl_deliver (j : Nat) :
    j ∈ (ids.foldl (fun g i => g.deliver c i) g).pending ↔ j ∈ ids ∨ j ∈ g.pending := by
  induction ids generalizing g with
  | nil => simp
  | cons i ids ih =>
    rw [List.foldl_cons, ih, mem_pending_deliver, List.mem_cons]
    tauto

variable {g ids}

lemma ordered_foldl_deliver (h : g.Ordered) :
    (ids.foldl (fun g i => g.deliver c i) g).Ordered := by
  induction ids generalizing g with
  | nil => exact h
  | cons i ids ih => exact ih (ordered_deliver h c i)

/-- No entry is returned by two reads. -/
lemma nodup_delivered_append (h : g.Ordered) (hnodup : g.delivered.Nodup) (count : Nat) :
    (g.delivered ++ g.readable count).Nodup := by
  have hread : (g.readable count).Nodup :=
    (sorted_readable g count).imp (fun hlt => Nat.ne_of_lt hlt)
  refine List.nodup_append.mpr ⟨hnodup, hread, fun i hi j hj => ?_⟩
  exact Nat.ne_of_lt ((h i hi).trans_le (mem_readable hj).1)

end Group

end ConsumerGroup
