import IPProxyPool.Lib.Recency
import IPProxyPool.Lib.Run
import IPProxyPool.Model.Sink

/-!
# The dedupe window remembers the latest ids

The queue of a window that has answered a sequence of calls holds the last `cap` distinct ids among
those that the calls inserted. The set follows the queue, so a call hits exactly on these ids.
-/

namespace IPProxyPool
open Transition Recency

namespace SeenIds

def afterCall (s : SeenIds) (id : String) : SeenIds := (s.checkAndInsert id).2

/-- The id that a call inserts. The call returns `false` for it, as it does for the empty id. -/
def newIds (s : SeenIds) (id : String) : List String :=
  if id ≠ "" ∧ (s.checkAndInsert id).1 = false then [id] else []

/-- The ids that a sequence of calls inserts. -/
def inserted (s : SeenIds) : List String → List String
  | [] => []
  | id :: ids => s.newIds id ++ (s.afterCall id).inserted ids

/-- An exact sliding window, where `history` are the ids inserted so far. -/
structure ExactWindow (cap : Nat) (history : List String) (s : SeenIds) : Prop where
  hit_iff : ∀ id, id ≠ "" → ((s.checkAndInsert id).1 = true ↔ id ∈ lastDistinct cap history)
  empty_id : s.checkAndInsert "" = (false, s)
  same_ids : ∀ id, id ∈ s.set ↔ id ∈ s.order
  order_nodup : s.order.Nodup
  order_le : s.order.length ≤ cap
  set_le : s.set.card ≤ cap

/-- The queue of `s` agrees with the history. -/
structure Recalls (cap : Nat) (history : List String) (s : SeenIds) : Prop where
  cap_eq : s.cap = cap
  order_eq : s.order = lastDistinct cap history

variable {cap : Nat} {history : List String} {s : SeenIds}

lemma mem_set_iff (s : SeenIds) (id : String) : id ∈ s.set ↔ id ∈ s.order := by
  rw [s.set_eq, List.mem_toFinset]

lemma card_set (s : SeenIds) : s.set.card = s.order.length := by
  rw [s.set_eq]
  exact List.toFinset_card_of_nodup s.nodup

lemma order_insert (s : SeenIds) (id : String) (hid : id ∉ s.set) :
    (s.insert id hid).order = enqueue s.cap s.order id := by
  refine congrArg (fun q => q ++ [id]) ?_
  unfold makeRoom
  split
  · rcases s.order with _ | ⟨old, rest⟩
    · rfl
    · rfl
  · rfl

@[simp] lemma checkAndInsert_empty (s : SeenIds) : s.checkAndInsert "" = (false, s) := rfl

lemma checkAndInsert_of_mem {id : String} (hne : id ≠ "") (hmem : id ∈ s.set) :
    s.checkAndInsert id = (true, s) := by
  unfold checkAndInsert
  rw [if_neg hne, dif_pos hmem]

lemma checkAndInsert_of_notMem {id : String} (hne : id ≠ "") (hid : id ∉ s.set) :
    s.checkAndInsert id = (false, s.insert id hid) := by
  unfold checkAndInsert
  rw [if_neg hne, dif_neg hid]

lemma hit_iff_mem {id : String} (hne : id ≠ "") :
    (s.checkAndInsert id).1 = true ↔ id ∈ s.set := by
  by_cases hmem : id ∈ s.set
  · simp [checkAndInsert_of_mem hne hmem, hmem]
  · simp [checkAndInsert_of_notMem hne hmem, hmem]

lemma recalls_new (hcap : 1 ≤ cap) : Recalls cap [] (new cap) where
  cap_eq := max_eq_left hcap
  order_eq := (lastDistinct_nil cap).symm

/-- One call moves the queue along with the history. -/
lemma Recalls.afterCall (h : Recalls cap history s) (id : String) :
    Recalls cap (history ++ s.newIds id) (s.afterCall id) := by
  unfold newIds SeenIds.afterCall
  by_cases hne : id = ""
  · subst hne
    simpa using h
  by_cases hmem : id ∈ s.set
  · rw [checkAndInsert_of_mem hne hmem]
    simpa using h
  have hcap : 0 < cap := by
    rw [← h.cap_eq]
    exact s.cap_pos
  have hold : id ∉ lastDistinct cap history := by
    rw [← h.order_eq, ← mem_set_iff]
    exact hmem
  rw [checkAndInsert_of_notMem hne hmem, if_pos ⟨hne, rfl⟩]
  refine ⟨h.cap_eq, ?_⟩
  rw [order_insert, h.cap_eq, h.order_eq, lastDistinct_concat hcap hold]

theorem Recalls.run (h : Recalls cap history s) (ids : List String) :
    Recalls cap (history ++ s.inserted ids) (run SeenIds.afterCall s ids) := by
  induction ids generalizing history s with
  | nil =>
    rw [inserted, List.append_nil]
    exact h
  | cons id ids ih =>
    rw [inserted, ← List.append_assoc]
    exact ih (h.afterCall id)

lemma Recalls.exact (h : Recalls cap history s) : ExactWindow cap history s where
  hit_iff id hne := by rw [hit_iff_mem hne, mem_set_iff, h.order_eq]
  empty_id := s.checkAndInsert_empty
  same_ids := s.mem_set_iff
  order_nodup := s.nodup
  order_le := h.cap_eq ▸ s.length_le
  set_le := by
    rw [card_set, ← h.cap_eq]
    exact s.length_le

/-- After any sequence of calls the window is exact for the ids that the calls inserted. -/
theorem exactWindow_run (cap : Nat) (hcap : 1 ≤ cap) (ids : List String) :
    ExactWindow cap ((new cap).inserted ids) (run afterCall (new cap) ids) :=
  ((recalls_new hcap).run ids).exact

/-- Above two ids the oldest one is forgotten, and inserted again when it comes back. -/
theorem exactWindow_run_two :
    1 ≤ 2 ∧ (new 2).inserted ["a", "b", "", "a", "c", "a"] = ["a", "b", "c", "a"] ∧
      ExactWindow 2 ((new 2).inserted ["a", "b", "", "a", "c", "a"])
        (run afterCall (new 2) ["a", "b", "", "a", "c", "a"]) :=
  ⟨by decide, by decide +kernel, exactWindow_run 2 (by decide) _⟩

end SeenIds

end IPProxyPool
