import IPProxyPool.Model.GatewaySteps
import IPProxyPool.Proofs.Indexes

/-!
# A prune beside joining nodes

`prune_stale_arms` compares the arms, one key after the other, with the addresses that the pool
had when the call began. A node that joins meanwhile, and is given an arm before its key is
visited, loses that arm although it is in the pool.
-/

namespace IPProxyPool
open RustText AssocTable Transition

namespace PruneState

/-- No arm is deleted while its address is in the pool. -/
def SparesLive (s : PruneState) (e : PruneEvent) : Prop :=
  ∀ key ∈ s.arms, key ∉ (s.step e).arms → key ∉ poolAddrs s.router

/-- An arm that is visited while its address is in the pool belongs to an address that was in the
pool when the prune began. -/
def VisitsKnown (s : PruneState) (e : PruneEvent) : Prop :=
  ∀ i key, e = .visit i key → key ∈ s.arms → key ∈ poolAddrs s.router →
    ∀ alive before, s.phase i = .removing alive before → key ∈ alive

/-- The addresses that a call under way has taken. -/
def aliveOf : PrunePhase → Option (List String)
  | .snapshotted alive => some alive
  | .removing alive _ => some alive
  | .idle => none
  | .returned _ => none

/-- A node that joins the pool was in it already when the prunes under way began. -/
def JoinsKnown (s : PruneState) (e : PruneEvent) : Prop :=
  ∀ i alive, aliveOf (s.phase i) = some alive →
    ∀ addr ∈ poolAddrs (s.step e).router, addr ∈ poolAddrs s.router ∨ addr ∈ alive

/-- The pool holds only addresses that every prune under way has taken. -/
def Covered (s : PruneState) : Prop :=
  ∀ i alive, aliveOf (s.phase i) = some alive → ∀ addr ∈ poolAddrs s.router, addr ∈ alive

/-! ### What a step does -/

variable {s : PruneState} {e : PruneEvent}

@[simp] lemma phase_move (i j : Nat) (p : PrunePhase) :
    (s.move i p).phase j = if j = i then p else s.phase j := by
  simp [move, Function.update_apply]

@[simp] lemma arms_move (i : Nat) (p : PrunePhase) : (s.move i p).arms = s.arms := rfl

/-- A call stays where it is or takes its next step, reading what the state holds then. -/
lemma phase_step_cases (s : PruneState) (e : PruneEvent) (i : Nat) :
    (s.step e).phase i = s.phase i ∨
      (e = .snapshot i ∧ (s.step e).phase i = .snapshotted (poolAddrs s.router)) ∨
      (∃ alive, e = .readLen i ∧ s.phase i = .snapshotted alive ∧
        (s.step e).phase i = .removing alive (len s.arms)) ∨
      ∃ alive before, e = .finish i ∧ s.phase i = .removing alive before ∧
        (s.step e).phase i = .returned (removedCount before (len s.arms)) := by
  cases e with
  | snapshot j =>
    simp only [step]
    split
    · by_cases hij : i = j
      · subst hij
        exact .inr (.inl ⟨rfl, by simp⟩)
      · exact .inl (by simp [hij])
    · exact .inl rfl
  | readLen j =>
    simp only [step]
    split
    · rename_i alive hphase
      by_cases hij : i = j
      · subst hij
        exact .inr (.inr (.inl ⟨alive, rfl, hphase, by simp⟩))
      · exact .inl (by simp [hij])
    · exact .inl rfl
  | finish j =>
    simp only [step]
    split
    · rename_i alive before hphase
      by_cases hij : i = j
      · subst hij
        exact .inr (.inr (.inr ⟨alive, before, rfl, hphase, by simp⟩))
      · exact .inl (by simp [hij])
    · exact .inl rfl
  | visit j key =>
    refine .inl ?_
    simp only [step]
    split
    · split <;> rfl
    · rfl
  | update addr context reward =>
    refine .inl ?_
    simp only [step]
    split <;> rfl
  | addNode | removeNode | replaceVendorNodes | armFor => exact .inl rfl

/-- Only a visit deletes: the key it visits, when the prune did not find its address. -/
lemma deleted_step {key : String} (hmem : key ∈ s.arms) (hgone : key ∉ (s.step e).arms) :
    ∃ i alive before, e = .visit i key ∧ s.phase i = .removing alive before ∧ key ∉ alive := by
  cases e with
  | visit i key' =>
    simp only [step] at hgone
    split at hgone
    · rename_i alive before hphase
      split at hgone
      · exact absurd hmem hgone
      · rename_i hstale
        have hkey : key = key' := by
          by_contra hne
          exact hgone (AList.mem_erase.mpr ⟨hne, hmem⟩)
        subst hkey
        exact ⟨i, alive, before, rfl, hphase, hstale⟩
    · exact absurd hmem hgone
  | armFor node =>
    refine absurd ?_ hgone
    change key ∈ (IPProxyPool.armFor s.arms node).2
    unfold IPProxyPool.armFor
    split
    · exact hmem
    · exact (AList.mem_insert _).mpr (.inr hmem)
  | update addr context reward =>
    refine absurd ?_ hgone
    simp only [step]
    split
    · exact (AList.mem_insert _).mpr (.inr hmem)
    · exact hmem
  | snapshot i =>
    simp only [step] at hgone
    split at hgone <;> exact absurd hmem hgone
  | readLen i =>
    simp only [step] at hgone
    split at hgone <;> exact absurd hmem hgone
  | finish i =>
    simp only [step] at hgone
    split at hgone <;> exact absurd hmem hgone
  | addNode | removeNode | replaceVendorNodes => exact absurd hmem hgone

lemma arms_visit {i : Nat} {key : String} {alive : List String} {before : Nat}
    (hphase : s.phase i = .removing alive before) :
    (s.step (.visit i key)).arms = if key ∈ alive then s.arms else s.arms.erase key := by
  simp only [step]
  rw [hphase]
  dsimp only
  split <;> rfl

lemma sparesLive_iff : s.SparesLive e ↔ s.VisitsKnown e := by
  constructor
  · rintro hspares i key rfl hmem hpool alive before hphase
    by_contra hstale
    refine hspares key hmem ?_ hpool
    rw [arms_visit hphase, if_neg hstale]
    exact fun hin => (AList.mem_erase.mp hin).1 rfl
  · intro hknown key hmem hgone hpool
    obtain ⟨i, alive, before, he, hphase, hstale⟩ := deleted_step hmem hgone
    exact hstale (hknown i key he hmem hpool alive before hphase)

/-! ### Nodes that join during a prune -/

lemma covered_step (h : s.Covered) (hjoin : s.JoinsKnown e) : (s.step e).Covered := by
  intro i alive halive addr haddr
  rcases phase_step_cases s e i with hphase | ⟨rfl, hphase⟩ | ⟨alive', rfl, hold, hphase⟩ |
    ⟨alive', before, rfl, hold, hphase⟩
  · rw [hphase] at halive
    rcases hjoin i alive halive addr haddr with hold | hknown
    · exact h i alive halive addr hold
    · exact hknown
  · rw [hphase] at halive
    cases halive
    have hrouter : (s.step (.snapshot i)).router = s.router := by
      simp only [step]
      split <;> rfl
    rwa [hrouter] at haddr
  · rw [hphase] at halive
    cases halive
    have hrouter : (s.step (.readLen i)).router = s.router := by
      simp only [step]
      split <;> rfl
    rw [hrouter] at haddr
    exact h i _ (by rw [hold]; rfl) addr haddr
  · rw [hphase] at halive
    cases halive

lemma visitsKnown_of_covered (h : s.Covered) : s.VisitsKnown e := by
  intro i key _ _ hpool alive before hphase
  exact h i alive (by rw [hphase]; rfl) key hpool

lemma covered_initial (nodes : List ProxyNode) : (initial nodes).Covered := by
  intro i alive halive
  cases halive

/-! ### The count -/

/-- Call `i` read `n` as the number of arms, at some moment of the run, when its turn came. -/
def ReadAt (nodes : List ProxyNode) (events : List PruneEvent) (i n : Nat) : Prop :=
  ∃ pre post, events = pre ++ .readLen i :: post ∧
    (∃ alive, (run step (initial nodes) pre).phase i = .snapshotted alive) ∧
    len (run step (initial nodes) pre).arms = n

lemma ReadAt.append {nodes : List ProxyNode} {events : List PruneEvent} {i n : Nat}
    (h : ReadAt nodes events i n) (e : PruneEvent) : ReadAt nodes (events ++ [e]) i n := by
  obtain ⟨pre, post, rfl, hread⟩ := h
  exact ⟨pre, post ++ [e], by simp, hread⟩

/-- What a call holds or returns goes back to the number that it read. -/
lemma readAt_run (nodes : List ProxyNode) (events : List PruneEvent) (i : Nat) :
    (∀ alive before, (run step (initial nodes) events).phase i = .removing alive before →
        ReadAt nodes events i before) ∧
      ∀ count, (run step (initial nodes) events).phase i = .returned count →
        ∃ before, ReadAt nodes events i before ∧ count ≤ before := by
  induction events using List.reverseRecOn with
  | nil =>
    constructor
    · intro alive before hphase
      cases hphase
    · intro count hphase
      cases hphase
  | append_singleton events e ih =>
    obtain ⟨hremoving, hreturned⟩ := ih
    rw [run_append, run_cons, run_nil]
    rcases phase_step_cases (run step (initial nodes) events) e i with
      hphase | ⟨rfl, hphase⟩ | ⟨alive, rfl, hold, hphase⟩ | ⟨alive, before, rfl, hold, hphase⟩
    · rw [hphase]
      constructor
      · intro alive before hold
        exact (hremoving alive before hold).append e
      · intro count hold
        obtain ⟨before, hread, hle⟩ := hreturned count hold
        exact ⟨before, hread.append e, hle⟩
    · rw [hphase]
      constructor
      · intro alive before hnow
        cases hnow
      · intro count hnow
        cases hnow
    · rw [hphase]
      constructor
      · intro alive' before hnow
        cases hnow
        exact ⟨events, [], rfl, ⟨alive, hold⟩, rfl⟩
      · intro count hnow
        cases hnow
    · rw [hphase]
      constructor
      · intro alive' before' hnow
        cases hnow
      · intro count hnow
        cases hnow
        exact ⟨before, (hremoving alive before hold).append _, Nat.sub_le _ _⟩

/-! ### A prune on its own -/

/-- A call that nothing comes between. -/
def pruneAlone (s : PruneState) (i : Nat) : List PruneEvent :=
  .snapshot i :: .readLen i :: (s.arms.keys.map (.visit i) ++ [.finish i])

lemma run_visits {i : Nat} {alive : List String} {before : Nat} (keys : List String)
    (hphase : s.phase i = .removing alive before) :
    (run step s (keys.map (.visit i))).phase i = .removing alive before ∧
      ∀ key, (run step s (keys.map (.visit i))).arms.lookup key =
        if key ∈ keys ∧ key ∉ alive then none else s.arms.lookup key := by
  induction keys generalizing s with
  | nil => exact ⟨hphase, fun key => by simp⟩
  | cons k ks ih =>
    have hnext : (s.step (.visit i k)).phase i = .removing alive before := by
      simp only [step, hphase]
      split <;> exact hphase
    obtain ⟨hend, hlook⟩ := ih hnext
    refine ⟨hend, fun key => ?_⟩
    rw [List.map_cons, run_cons, hlook key, arms_visit hphase]
    by_cases hk : k ∈ alive
    · rw [if_pos hk]
      by_cases hkey : key = k
      · subst hkey
        simp [hk]
      · simp [hkey]
    · rw [if_neg hk, lookup_erase_eq]
      by_cases hkey : key = k
      · subst hkey
        simp [hk]
      · simp [hkey]

/-- It leaves the arms, and returns the count, of `prune_stale_arms` as a whole. -/
theorem run_pruneAlone {i : Nat} (hidle : s.phase i = .idle) :
    (∀ addr, (run step s (s.pruneAlone i)).arms.lookup addr =
        (pruneStaleArms s.arms s.router).2.lookup addr) ∧
      (run step s (s.pruneAlone i)).phase i =
        .returned (pruneStaleArms s.arms s.router).1 := by
  have hsnap : s.step (.snapshot i) = s.move i (.snapshotted (poolAddrs s.router)) := by
    simp only [step, hidle]
  have hread : (s.move i (.snapshotted (poolAddrs s.router))).step (.readLen i) =
      (s.move i (.snapshotted (poolAddrs s.router))).move i
        (.removing (poolAddrs s.router) (len s.arms)) := by
    simp [step]
  generalize hstart : (s.move i (.snapshotted (poolAddrs s.router))).move i
    (.removing (poolAddrs s.router) (len s.arms)) = start at hread
  have harms : start.arms = s.arms := by
    rw [← hstart]
    rfl
  have hphase : start.phase i = .removing (poolAddrs s.router) (len s.arms) := by
    rw [← hstart]
    simp
  obtain ⟨hend, hlook⟩ := run_visits s.arms.keys hphase
  have hkept : ∀ addr, (run step start (s.arms.keys.map (.visit i))).arms.lookup addr =
      (pruneStaleArms s.arms s.router).2.lookup addr := by
    intro addr
    rw [hlook, harms, pruneStaleArms, lookup_retain]
    by_cases halive : addr ∈ poolAddrs s.router
    · cases hold : s.arms.lookup addr with
      | none => simp
      | some arm => simp [halive, Option.filter]
    · cases hold : s.arms.lookup addr with
      | none => simp
      | some arm =>
        have hkey : addr ∈ s.arms.keys := mem_of_lookup hold
        simp [halive, hkey]
  have hrun : run step s (s.pruneAlone i) =
      (run step start (s.arms.keys.map (.visit i))).step (.finish i) := by
    rw [pruneAlone, run_cons, hsnap, run_cons, hread, run_append, run_cons, run_nil]
  rw [hrun]
  simp only [step, hend]
  refine ⟨hkept, ?_⟩
  rw [phase_move, if_pos rfl, len_eq_of_lookup hkept]
  rfl

/-! ### Whole runs -/

/-- Live arms are kept in a run exactly when every arm that is visited while its address is in the
pool was known to the prune. They are kept when no unknown address joins during a prune. A
count never exceeds the number of arms that its prune started from. -/
theorem live_arms_kept_iff (nodes : List ProxyNode) (events : List PruneEvent) :
    (Along step SparesLive (initial nodes) events ↔
        Along step VisitsKnown (initial nodes) events) ∧
      (Along step JoinsKnown (initial nodes) events →
        Along step SparesLive (initial nodes) events) ∧
      ∀ i count, (run step (initial nodes) events).phase i = .returned count →
        ∃ before, ReadAt nodes events i before ∧ count ≤ before := by
  refine ⟨?_, ?_, fun i => (readAt_run nodes events i).2⟩
  · exact along_congr (J := fun _ => True) (fun _ _ _ => trivial) (fun _ _ _ => sparesLive_iff)
      trivial events
  · apply along_of_along (J := Covered)
    · exact fun _ _ h hjoin => covered_step h hjoin
    · exact fun _ _ h _ => sparesLive_iff.mpr (visitsKnown_of_covered h)
    · exact covered_initial nodes

/-- A node whose arm has learned. -/
def returning : ProxyNode := .new "10.0.0.1" 8080 none none "US" "free" "free-list" 10

/-- The node is gone when the prune looks at the pool, and back before its arm is visited. -/
def returnDuringPrune : List PruneEvent :=
  [.armFor returning, .update returning.addr 0 1, .removeNode returning.addr, .snapshot 0,
    .addNode returning, .readLen 0]

theorem live_arm_deleted :
    ¬Along step SparesLive (initial [returning])
      (returnDuringPrune ++ [.visit 0 returning.addr]) := by
  rw [along_append]
  rintro ⟨-, hspares, -⟩
  exact hspares returning.addr (by decide +kernel) (by decide +kernel) (by decide +kernel)

end PruneState

end IPProxyPool
