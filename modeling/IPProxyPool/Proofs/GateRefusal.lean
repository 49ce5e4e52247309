import IPProxyPool.Proofs.TenantSlots

/-!
# Refusals of the concurrency gate

An attempt that finds the counter at the limit is counted until it has undone its increment. It
is refused rightly when the grants alone fill the limit. Whether the attempts that are being
refused can cost another request its slot is decided by the grants at its `fetch_add`.
-/

namespace IPProxyPool
open Population Transition

/-- The gate, and for each request the grants that were outstanding at its last `fetch_add`. -/
structure ObservedGate where
  gate : GateState
  grantsAt : ContextAddr → Nat

namespace ObservedGate

def initial (account : TenantAccount) : ObservedGate where
  gate := .initial account
  grantsAt := fun _ => 0

def observe (s : ObservedGate) : GateEvent → ContextAddr → Nat
  | .fetchAdd i =>
    match s.gate.phase i with
    | .checked => Function.update s.grantsAt i s.gate.grants
    | _ => s.grantsAt
  | _ => s.grantsAt

def step (s : ObservedGate) (e : GateEvent) : ObservedGate where
  gate := s.gate.step e
  grantsAt := s.observe e

/-- An attempt that is answered with "Max concurrency limit reached" met as many grants as the
limit allows. -/
def AnswersWhenFull (s : ObservedGate) (e : GateEvent) : Prop :=
  ∀ i, e = .fetchSub i → s.gate.phase i = .overLimit →
    s.gate.account.maxConcurrency ≤ s.grantsAt i

/-- At a `fetch_add` the slots are all granted, or the attempts that are being refused leave one
of the free slots. -/
def RoomOrFull (s : ObservedGate) (e : GateEvent) : Prop :=
  ∀ i, e = .fetchAdd i → s.gate.phase i = .checked →
    s.gate.account.maxConcurrency ≤ s.gate.grants ∨
      s.gate.grants + s.gate.attempts < s.gate.account.maxConcurrency

/-- The attempts that are being refused met a full gate. -/
structure RefusalInv (s : ObservedGate) : Prop where
  slots : s.gate.SlotsInv
  full : ∀ i, attemptWeight s.gate.account.maxConcurrency (s.gate.phase i) = 1 →
    s.gate.account.maxConcurrency ≤ s.grantsAt i

end ObservedGate

namespace GateState

variable {s : GateState} {i j : ContextAddr} {p : SlotPhase}

lemma attemptWeight_update {limit : Nat}
    (h : attemptWeight limit (Function.update s.phase i p j) = 1) :
    j = i ∧ attemptWeight limit p = 1 ∨ attemptWeight limit (s.phase j) = 1 := by
  by_cases hj : j = i
  · subst hj
    rw [Function.update_self] at h
    exact .inl ⟨rfl, h⟩
  · rw [Function.update_of_ne hj] at h
    exact .inr h

/-- A step that moves a request to a phase that is no refusal. -/
lemma attemptWeight_quiet {limit : Nat} (hp : attemptWeight limit p = 0)
    (h : attemptWeight limit (Function.update s.phase i p j) = 1) :
    attemptWeight limit (s.phase j) = 1 := by
  rcases attemptWeight_update h with ⟨-, hone⟩ | hold
  · omega
  · exact hold

/-- A request is being refused from its `fetch_add` on, where that found the counter at the
limit. -/
lemma attemptWeight_step (s : GateState) (e : GateEvent) (j : ContextAddr)
    (h : attemptWeight s.account.maxConcurrency ((s.step e).phase j) = 1) :
    attemptWeight s.account.maxConcurrency (s.phase j) = 1 ∨
      e = .fetchAdd j ∧ s.phase j = .checked ∧
        s.account.maxConcurrency ≤ s.account.inFlight := by
  have hstep := steps_step s e
  generalize s.step e = s' at hstep h
  cases hstep with
  | rest | setActive | setBalance => exact .inl h
  | added i hi =>
    rcases attemptWeight_update (s := s) h with ⟨rfl, hone⟩ | hold
    · refine .inr ⟨rfl, hi, ?_⟩
      by_contra hlt
      simp [attemptWeight, hlt] at hone
    · exact .inl hold
  | full i current hi hfull =>
    rcases attemptWeight_update (s := s) h with ⟨rfl, -⟩ | hold
    · left
      rw [hi]
      exact if_pos hfull
    · exact .inl hold
  | checked | granted | undone | released | extra | dropped | exchanged | reread | metered
  | deducted =>
    exact .inl (attemptWeight_quiet (s := s) rfl h)

end GateState

namespace ObservedGate

variable {s : ObservedGate} {e : GateEvent}

lemma observe_of_not_checked {i : ContextAddr} (h : s.gate.phase i ≠ .checked) :
    s.observe (.fetchAdd i) = s.grantsAt := by
  unfold observe
  dsimp only
  split
  · rename_i hi
    exact absurd hi h
  · rfl

lemma grantsAt_step_of_not_checked {j : ContextAddr}
    (h : ¬(e = .fetchAdd j ∧ s.gate.phase j = .checked)) :
    (s.step e).grantsAt j = s.grantsAt j := by
  change s.observe e j = s.grantsAt j
  cases e with
  | fetchAdd i =>
    by_cases hi : s.gate.phase i = .checked
    · have hne : j ≠ i := by
        rintro rfl
        exact h ⟨rfl, hi⟩
      simp only [observe, hi]
      exact Function.update_of_ne hne _ _
    · rw [observe_of_not_checked hi]
  | _ => rfl

lemma grantsAt_step_fetchAdd {j : ContextAddr} (h : s.gate.phase j = .checked) :
    (s.step (.fetchAdd j)).grantsAt j = s.gate.grants := by
  change s.observe (.fetchAdd j) j = _
  simp only [observe, h, Function.update_self]

/-- At a `fetch_add` the counter reaches the limit only where the gate is full. -/
lemma RefusalInv.full_of_roomOrFull (h : s.RefusalInv) {j : ContextAddr}
    (hroom : s.RoomOrFull (.fetchAdd j)) (hj : s.gate.phase j = .checked)
    (hlimit : s.gate.account.maxConcurrency ≤ s.gate.account.inFlight) :
    s.gate.account.maxConcurrency ≤ s.gate.grants := by
  have heq := h.slots.inFlight_eq
  rcases hroom j rfl hj with hfull | hfree
  · exact hfull
  · omega

lemma refusalInv_step (s : ObservedGate) (e : GateEvent) (h : s.RefusalInv)
    (hroom : s.RoomOrFull e) : (s.step e).RefusalInv := by
  have hmax : (s.step e).gate.account.maxConcurrency = s.gate.account.maxConcurrency :=
    GateState.maxConcurrency_step s.gate e
  refine ⟨(GateState.slotsInv_step s.gate e h.slots).1, fun j hj => ?_⟩
  rw [hmax] at hj ⊢
  by_cases hadd : e = .fetchAdd j ∧ s.gate.phase j = .checked
  · obtain ⟨rfl, hphase⟩ := hadd
    rw [grantsAt_step_fetchAdd hphase]
    rcases GateState.attemptWeight_step s.gate _ j hj with hold | ⟨-, -, hlimit⟩
    · rw [hphase] at hold
      cases hold
    · exact h.full_of_roomOrFull hroom hphase hlimit
  · rw [grantsAt_step_of_not_checked hadd]
    rcases GateState.attemptWeight_step s.gate e j hj with hold | ⟨he, hphase, -⟩
    · exact h.full j hold
    · exact absurd ⟨he, hphase⟩ hadd

lemma refusalInv_initial (tenantId : String) (qps maxConcurrency : Nat) :
    (initial (newTenantAccount tenantId qps maxConcurrency)).RefusalInv where
  slots := GateState.slotsInv_initial _ rfl rfl
  full := fun _ h => by cases h

lemma RefusalInv.answersWhenFull (h : s.RefusalInv) (e : GateEvent) : s.AnswersWhenFull e := by
  rintro i rfl hi
  refine h.full i ?_
  rw [hi]
  rfl

lemma gate_run (s : ObservedGate) (events : List GateEvent) :
    (run step s events).gate = run GateState.step s.gate events := by
  induction events generalizing s with
  | nil => rfl
  | cons e events ih => exact ih (s.step e)

lemma refusalInv_slots (tenantId : String) (qps maxConcurrency : Nat) (events : List GateEvent) :
    (run step (initial (newTenantAccount tenantId qps maxConcurrency)) events).gate.SlotsInv := by
  rw [gate_run]
  exact run_invariant (fun s e h => (GateState.slotsInv_step s e h).1)
    (GateState.slotsInv_initial _ rfl rfl) events

/-- Where a request's `fetch_add` finds the counter at the limit, its next two steps answer it. -/
lemma overLimit_of_limit {i : ContextAddr} (hi : s.gate.phase i = .checked)
    (hlimit : s.gate.account.maxConcurrency ≤ s.gate.account.inFlight) :
    (run step s [.fetchAdd i, .compare i]).gate.phase i = .overLimit ∧
      (run step s [.fetchAdd i, .compare i]).gate.account.maxConcurrency =
        s.gate.account.maxConcurrency ∧
      (run step s [.fetchAdd i, .compare i]).grantsAt i = s.gate.grants := by
  have hadded : (s.step (.fetchAdd i)).gate.phase i = .added s.gate.account.inFlight := by
    simp only [step, GateState.step, hi, GateState.setInFlight, GateState.move,
      Function.update_self]
  have hmax : (s.step (.fetchAdd i)).gate.account.maxConcurrency =
      s.gate.account.maxConcurrency := GateState.maxConcurrency_step _ _
  refine ⟨?_, ?_, ?_⟩
  · change ((s.step (.fetchAdd i)).gate.step (.compare i)).phase i = .overLimit
    simp only [GateState.step, hadded, hmax, hlimit, if_true, GateState.move,
      Function.update_self]
  · exact (GateState.maxConcurrency_step _ _).trans hmax
  · exact grantsAt_step_fetchAdd hi

lemma not_answersWhenFull (h : s.gate.SlotsInv) {i : ContextAddr}
    (hroom : ¬s.RoomOrFull (.fetchAdd i)) :
    ¬(run step s [.fetchAdd i, .compare i]).AnswersWhenFull (.fetchSub i) := by
  intro hanswer
  refine hroom (fun j hj hphase => ?_)
  cases hj
  by_cases hlimit : s.gate.account.maxConcurrency ≤ s.gate.account.inFlight
  · obtain ⟨hover, hmax, hgrants⟩ := overLimit_of_limit hphase hlimit
    have hfull := hanswer i rfl hover
    rw [hmax, hgrants] at hfull
    exact .inl hfull
  · have heq := h.inFlight_eq
    exact .inr (by omega)

end ObservedGate

/-- In every run in which a `fetch_add` meets a full gate, or leaves room for the attempts that
are being refused, only a full gate refuses. A `fetch_add` that meets neither is refused although
a slot is free. -/
theorem refused_only_when_full (tenantId : String) (qps maxConcurrency : Nat)
    (events : List GateEvent) :
    let start := ObservedGate.initial (newTenantAccount tenantId qps maxConcurrency)
    (Along ObservedGate.step ObservedGate.RoomOrFull start events →
        Along ObservedGate.step ObservedGate.AnswersWhenFull start events) ∧
      ∀ i, ¬(run ObservedGate.step start events).RoomOrFull (.fetchAdd i) →
        ¬Along ObservedGate.step ObservedGate.AnswersWhenFull start
          (events ++ [.fetchAdd i, .compare i, .fetchSub i]) := by
  intro start
  constructor
  · intro hroom
    exact along_of_along ObservedGate.refusalInv_step (fun s e h _ => h.answersWhenFull e)
      (ObservedGate.refusalInv_initial tenantId qps maxConcurrency) hroom
  · intro i hroom halong
    have hslots := ObservedGate.refusalInv_slots tenantId qps maxConcurrency events
    rw [along_append] at halong
    exact ObservedGate.not_answersWhenFull hslots hroom halong.2.2.2.1

/-- Three requests. -/
def party (k : Fin 3) : ContextAddr :=
  ⟨⟨k.val + 1, by unfold wordSize; omega⟩, Nat.succ_ne_zero k.val⟩

/-- One slot: the first request holds it while the second is turned away, and gives it back before
the second has undone its increment. -/
def refusalRace : List GateEvent :=
  [.check (party 0) true, .check (party 1) true, .check (party 2) true, .fetchAdd (party 0),
    .compare (party 0), .fetchAdd (party 1), .release (party 0) 0 "dc",
    .compareExchange (party 0) false]

/-- Of a counter at one, a refused attempt leaves nothing to the grants. -/
lemma no_grants {s : GateState} (h : s.SlotsInv) (hmax : s.account.maxConcurrency = 1)
    (hcount : s.account.inFlight = 1) {i : ContextAddr} (hi : s.phase i = .added 1) :
    s.grants = 0 ∧ s.attempts = 1 := by
  have hattempt := weight_le_total (attemptWeight s.account.maxConcurrency) s.phase i
  have heq := h.inFlight_eq
  rw [hi, hmax] at hattempt
  have hone : attemptWeight 1 (.added 1) = 1 := rfl
  unfold GateState.attempts at heq ⊢
  rw [hmax] at heq ⊢
  omega

lemma refusalRace_facts :
    let gate := run GateState.step (.initial (newTenantAccount "t" 10 1)) refusalRace
    gate.phase (party 2) = .checked ∧ gate.phase (party 1) = .added 1 ∧
      gate.account.inFlight = 1 ∧ gate.account.maxConcurrency = 1 := by
  decide +kernel

/-- The third request finds the counter at the limit and is refused with no grant outstanding. -/
theorem refused_with_free_slot :
    ¬Along ObservedGate.step ObservedGate.AnswersWhenFull
      (.initial (newTenantAccount "t" 10 1))
      (refusalRace ++ [.fetchAdd (party 2), .compare (party 2), .fetchSub (party 2)]) := by
  have hslots := ObservedGate.refusalInv_slots "t" 10 1 refusalRace
  have hgate := ObservedGate.gate_run (.initial (newTenantAccount "t" 10 1)) refusalRace
  have hfacts := refusalRace_facts
  rw [along_append]
  rintro ⟨-, -, -, hanswer, -⟩
  refine ObservedGate.not_answersWhenFull hslots (fun hroom => ?_) hanswer
  dsimp only at hfacts
  change (run ObservedGate.step _ refusalRace).gate = run GateState.step (.initial _) _ at hgate
  rw [← hgate] at hfacts
  obtain ⟨hthird, hsecond, hcount, hmax⟩ := hfacts
  obtain ⟨hgrants, hattempts⟩ := no_grants hslots hmax hcount hsecond
  have hcase := hroom _ rfl hthird
  rw [hgrants, hattempts, hmax] at hcase
  exact absurd hcase (by decide)

end IPProxyPool
