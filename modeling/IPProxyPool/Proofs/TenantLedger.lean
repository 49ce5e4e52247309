import IPProxyPool.Lib.RunLog
import IPProxyPool.Proofs.GateRefusal

/-!
# The ledger of a tenant

The balance against the releases that were billed and the balances set by the admin interface, for
any interleaving of the atomic steps of any requests. A release is billed from the exchange that
gives its slot back; its price reaches the balance two steps later. An account that is disabled or
out of balance admits nobody, so that only the requests that were past the check go on.
-/

namespace IPProxyPool
open Population Transition

/-- The price of a release, as `release_and_meter` computes it. -/
def releaseCost (bytes : Nat) (tier : String) : ℚ := bytes / bytesPerGb * pricePerGb tier

/-- A release that gave its slot back: its bytes and its tier. -/
structure Bill where
  bytes : Nat
  tier : String
  deriving DecidableEq

def Bill.cost (b : Bill) : ℚ := releaseCost b.bytes b.tier

/-- What a request in this phase has been billed and not yet paid. -/
def unpaid : SlotPhase → Multiset Bill
  | .metering bytes tier => {⟨bytes, tier⟩}
  | .deducting bytes tier => {⟨bytes, tier⟩}
  | _ => 0

def holdsSlot : SlotPhase → Nat
  | .granted => 1
  | .releasing true _ _ _ => 1
  | _ => 0

/-- A request that is past the check and does not know yet whether there is a slot. -/
def awaitsSlot : SlotPhase → Nat
  | .checked => 1
  | .added _ => 1
  | _ => 0

/-- A request that is past the check, whether or not it gets a slot, until its release is paid. -/
def inService : SlotPhase → Nat
  | .checked => 1
  | .added _ => 1
  | .granted => 1
  | .releasing true _ _ _ => 1
  | .metering _ _ => 1
  | .deducting _ _ => 1
  | _ => 0

/-- A step of the admin interface. -/
def GateEvent.IsAdmin : GateEvent → Prop
  | .setActive _ => True
  | .setBalance _ => True
  | _ => False

/-- How a request goes from one phase to the next: how many requests that admits, and what it bills
and pays. Only the check depends on the account. -/
inductive Turn (opened : Prop) : SlotPhase → SlotPhase → Nat → List Bill → List Bill → Prop where
  | checked (h : opened) : Turn opened .idle .checked 0 [] []
  | added (current : Nat) : Turn opened .checked (.added current) 0 [] []
  | full (current : Nat) : Turn opened (.added current) .overLimit 0 [] []
  | granted (current : Nat) : Turn opened (.added current) .granted 1 [] []
  | undone : Turn opened .overLimit .idle 0 [] []
  | released (cur bytes : Nat) (tier : String) :
    Turn opened .granted (.releasing true cur bytes tier) 0 [] []
  | extra (cur bytes : Nat) (tier : String) :
    Turn opened .idle (.releasing false cur bytes tier) 0 [] []
  | dropped (bytes : Nat) (tier : String) :
    Turn opened (.releasing false 0 bytes tier) .idle 0 [] []
  | billed (cur bytes : Nat) (tier : String) :
    Turn opened (.releasing true cur bytes tier) (.metering bytes tier) 0 [⟨bytes, tier⟩] []
  | reread (cur cur' bytes : Nat) (tier : String) :
    Turn opened (.releasing true cur bytes tier) (.releasing true cur' bytes tier) 0 [] []
  | metered (bytes : Nat) (tier : String) :
    Turn opened (.metering bytes tier) (.deducting bytes tier) 0 [] []
  | paid (bytes : Nat) (tier : String) :
    Turn opened (.deducting bytes tier) .idle 0 [] [⟨bytes, tier⟩]

namespace Turn

variable {opened : Prop} {p p' : SlotPhase} {admitted : Nat} {billed paid : List Bill}

lemma unpaid_eq (h : Turn opened p p' admitted billed paid) :
    unpaid p' + paid = unpaid p + (billed : Multiset Bill) := by
  cases h <;> simp [unpaid]

lemma holdsSlot_eq (h : Turn opened p p' admitted billed paid) :
    holdsSlot p' + billed.length = holdsSlot p + admitted := by
  cases h <;> rfl

lemma inService_le (h : Turn opened p p' admitted billed paid) (hclosed : ¬opened) :
    inService p' + paid.length ≤ inService p := by
  cases h with
  | checked hopen => exact absurd hopen hclosed
  | _ => simp [inService]

lemma awaitsSlot_le (h : Turn opened p p' admitted billed paid) (hclosed : ¬opened) :
    awaitsSlot p' + admitted ≤ awaitsSlot p := by
  cases h with
  | checked hopen => exact absurd hopen hclosed
  | _ => simp [awaitsSlot]

end Turn

namespace GateState

/-- The request that this step grants a slot. -/
def admits (s : GateState) : GateEvent → List ContextAddr
  | .compare i =>
    match s.phase i with
    | .added current => if s.account.maxConcurrency ≤ current then [] else [i]
    | _ => []
  | _ => []

/-- The release whose slot this step gives back. -/
def bills (s : GateState) : GateEvent → List Bill
  | .compareExchange i spurious =>
    match s.phase i with
    | .releasing _ cur bytes tier =>
      if cur = 0 then []
      else if s.account.inFlight = cur ∧ spurious = false then [⟨bytes, tier⟩]
      else []
    | _ => []
  | _ => []

/-- The release whose price this step takes off the balance. -/
def pays (s : GateState) : GateEvent → List Bill
  | .deduct i =>
    match s.phase i with
    | .deducting bytes tier => [⟨bytes, tier⟩]
    | _ => []
  | _ => []

/-- By how much a step of the admin interface moves the balance. -/
def adjusts (s : GateState) : GateEvent → List ℚ
  | .setBalance balanceUsd => [balanceUsd - s.account.balanceUsd]
  | _ => []

def owed (s : GateState) : Multiset Bill := ∑ i, unpaid (s.phase i)

def holders (s : GateState) : Nat := total holdsSlot s.phase

def waiting (s : GateState) : Nat := total awaitsSlot s.phase

def served (s : GateState) : Nat := total inService s.phase

/-- An account that `authenticate_and_throttle` refuses before it asks the rate limiter. -/
def Closed (s : GateState) : Prop := s.account.isActive = false ∨ s.account.balanceUsd ≤ 0

variable {s s' : GateState} {i : ContextAddr} {p : SlotPhase}

lemma move_phase (s : GateState) (i : ContextAddr) (p : SlotPhase) :
    (s.move i p).phase = Function.update s.phase i p := rfl

lemma setInFlight_phase (s : GateState) (n : Nat) : (s.setInFlight n).phase = s.phase := rfl

lemma setInFlight_effective (s : GateState) (n : Nat) :
    (s.setInFlight n).effective = s.effective := rfl

lemma setInFlight_balanceUsd (s : GateState) (n : Nat) :
    (s.setInFlight n).account.balanceUsd = s.account.balanceUsd := rfl

lemma setInFlight_isActive (s : GateState) (n : Nat) :
    (s.setInFlight n).account.isActive = s.account.isActive := rfl

/-! ### What a step puts into the books -/

lemma phase_of_same (hphase : s'.phase = Function.update s.phase i p) (h : s' = s) :
    s.phase i = p := by
  subst h
  rw [hphase, Function.update_self]

/-- A step that changes nothing puts nothing into the books. -/
lemma books_of_rest {e : GateEvent} (h : s.step e = s) :
    s.admits e = [] ∧ s.bills e = [] ∧ s.pays e = [] ∧ (s.adjusts e).sum = 0 := by
  cases e with
  | compare i =>
    refine ⟨?_, rfl, rfl, rfl⟩
    cases hi : s.phase i with
    | added current =>
      simp only [step, hi] at h
      simp only [admits, hi]
      split
      · rfl
      · rename_i hfree
        rw [if_neg hfree] at h
        have hphase := phase_of_same rfl h
        rw [hi] at hphase
        cases hphase
    | _ => simp only [admits, hi]
  | compareExchange i spurious =>
    refine ⟨rfl, ?_, rfl, rfl⟩
    cases hi : s.phase i with
    | releasing held cur bytes tier =>
      simp only [step, hi] at h
      simp only [bills, hi]
      split
      · rfl
      · rename_i hcur
        rw [if_neg hcur] at h
        split
        · rename_i hswap
          rw [if_pos hswap] at h
          have hlength := congrArg (fun s => s.effective.length) h
          simp [setInFlight, move] at hlength
        · rfl
    | _ => simp only [bills, hi]
  | deduct i =>
    refine ⟨rfl, rfl, ?_, rfl⟩
    cases hi : s.phase i with
    | deducting bytes tier =>
      simp only [step, hi] at h
      have hphase := phase_of_same rfl h
      rw [hi] at hphase
      cases hphase
    | _ => simp only [pays, hi]
  | setBalance balanceUsd =>
    refine ⟨rfl, rfl, rfl, ?_⟩
    have hbalance : balanceUsd = s.account.balanceUsd :=
      congrArg (fun s => s.account.balanceUsd) h
    simp [adjusts, hbalance]
  | _ => exact ⟨rfl, rfl, rfl, rfl⟩

lemma bills_exchange {held : Bool} {cur bytes : Nat} {tier : String} {spurious : Bool}
    (hi : s.phase i = .releasing held cur bytes tier) :
    s.bills (.compareExchange i spurious) =
      if cur = 0 then []
      else if s.account.inFlight = cur ∧ spurious = false then [⟨bytes, tier⟩]
      else [] := by
  simp only [bills, hi]

/-- An exchange that bills is the one that records its bytes. -/
lemma effective_step (s : GateState) (e : GateEvent) :
    (s.step e).effective = s.effective ++ (s.bills e).map Bill.bytes := by
  cases e with
  | check i limiterOk =>
    simp only [step]
    split
    · split <;> exact (List.append_nil _).symm
    · exact (List.append_nil _).symm
  | fetchAdd i =>
    simp only [step]
    split
    · rw [setInFlight_effective]
      exact (List.append_nil _).symm
    · exact (List.append_nil _).symm
  | compare i =>
    simp only [step]
    split
    · split <;> exact (List.append_nil _).symm
    · exact (List.append_nil _).symm
  | fetchSub i =>
    simp only [step]
    split
    · rw [setInFlight_effective]
      exact (List.append_nil _).symm
    · exact (List.append_nil _).symm
  | release i bytes tier =>
    simp only [step]
    split
    · exact (List.append_nil _).symm
    · split <;> exact (List.append_nil _).symm
    · exact (List.append_nil _).symm
  | compareExchange i spurious =>
    cases hi : s.phase i with
    | releasing held cur bytes tier =>
      rw [bills_exchange hi]
      simp only [step, hi]
      split
      · exact (List.append_nil _).symm
      · split
        · rfl
        · exact (List.append_nil _).symm
    | _ =>
      simp only [step, bills, hi]
      exact (List.append_nil _).symm
  | meter i =>
    simp only [step]
    split <;> exact (List.append_nil _).symm
  | deduct i =>
    simp only [step]
    split <;> exact (List.append_nil _).symm
  | setActive active => exact (List.append_nil _).symm
  | setBalance balanceUsd => exact (List.append_nil _).symm

lemma bills_of_effective {e : GateEvent} (h : (s.step e).effective = s.effective) :
    s.bills e = [] := by
  rw [effective_step] at h
  exact List.map_eq_nil_iff.mp (List.append_right_eq_self.mp h)

lemma bills_of_exchanged {held : Bool} {cur bytes : Nat} {tier : String} {spurious : Bool}
    (hi : s.phase i = .releasing held cur bytes tier) (hcur : cur ≠ 0)
    (h : (s.step (.compareExchange i spurious)).effective = s.effective ++ [bytes]) :
    s.bills (.compareExchange i spurious) = [⟨bytes, tier⟩] := by
  rw [effective_step] at h
  have hbytes := List.append_cancel_left h
  rw [bills_exchange hi, if_neg hcur] at hbytes ⊢
  split at hbytes
  · rename_i hswap
    rw [if_pos hswap]
  · cases hbytes

lemma pays_deduct {bytes : Nat} {tier : String} (hi : s.phase i = .deducting bytes tier) :
    s.pays (.deduct i) = [⟨bytes, tier⟩] := by
  simp only [pays, hi]

lemma admits_compare {current : Nat} (hi : s.phase i = .added current) :
    s.admits (.compare i) = if s.account.maxConcurrency ≤ current then [] else [i] := by
  simp only [admits, hi]

/-- What is paid is taken off the balance, and nothing else is but by the admin interface. -/
lemma paid_step (s : GateState) (e : GateEvent) :
    (s.step e).account.balanceUsd + ((s.pays e).map Bill.cost).sum =
      s.account.balanceUsd + (s.adjusts e).sum := by
  have hstep := steps_step s e
  generalize hs : s.step e = s' at hstep ⊢
  cases hstep with
  | rest e =>
    obtain ⟨-, -, hpays, hadjusts⟩ := books_of_rest hs
    rw [hpays, hadjusts]
    rfl
  | deducted i bytes tier balanceUsd hi =>
    have hbalance : s.account.balanceUsd - releaseCost bytes tier = balanceUsd := by
      simp only [step, hi] at hs
      exact congrArg (fun s => s.account.balanceUsd) hs
    rw [pays_deduct hi]
    change balanceUsd + (releaseCost bytes tier + 0) = s.account.balanceUsd + 0
    rw [← hbalance]
    ring
  | setBalance balanceUsd =>
    change balanceUsd + 0 = s.account.balanceUsd + (balanceUsd - s.account.balanceUsd + 0)
    ring
  | added | undone => rw [setInFlight_balanceUsd]; rfl
  | checked | full | granted | released | extra | dropped | exchanged | reread | metered
  | setActive => rfl

lemma check_of_closed (h : s.Closed) (limiterOk : Bool) :
    s.step (.check i limiterOk) = s ∧
      ∃ reason, tenantChecks s.account limiterOk = .error reason := by
  have hrefused : ∃ reason, tenantChecks s.account limiterOk = .error reason := by
    rcases h with hactive | hbalance
    · exact ⟨_, by rw [tenantChecks, hactive]; rfl⟩
    · cases hactive : s.account.isActive with
      | false => exact ⟨_, by rw [tenantChecks, hactive]; rfl⟩
      | true => exact ⟨_, by rw [tenantChecks, hactive, if_neg (by simp), if_pos hbalance]⟩
  refine ⟨?_, hrefused⟩
  obtain ⟨reason, hreason⟩ := hrefused
  simp only [step, hreason]
  split <;> rfl

/-- What a step does: it leaves the requests and the books as they are, or one request goes on. -/
lemma turn_step (s : GateState) (e : GateEvent) (h : s.SlotsInv) :
    (s.step e).phase = s.phase ∧ s.admits e = [] ∧ s.bills e = [] ∧ s.pays e = [] ∨
      ∃ i p, (s.step e).phase = Function.update s.phase i p ∧
        Turn (¬s.Closed) (s.phase i) p (s.admits e).length (s.bills e) (s.pays e) := by
  have hstep := steps_step s e
  generalize hs : s.step e = s' at hstep ⊢
  cases hstep with
  | rest e =>
    obtain ⟨hadmits, hbills, hpays, -⟩ := books_of_rest hs
    exact .inl ⟨rfl, hadmits, hbills, hpays⟩
  | setActive active => exact .inl ⟨rfl, rfl, rfl, rfl⟩
  | setBalance balanceUsd => exact .inl ⟨rfl, rfl, rfl, rfl⟩
  | checked i limiterOk hi =>
    refine .inr ⟨i, _, move_phase _ _ _, ?_⟩
    rw [hi]
    refine .checked (fun hclosed => ?_)
    rw [(check_of_closed hclosed limiterOk).1] at hs
    have hphase := phase_of_same rfl hs.symm
    rw [hi] at hphase
    cases hphase
  | added i hi =>
    refine .inr ⟨i, _, (setInFlight_phase _ _).trans (move_phase _ _ _), ?_⟩
    rw [hi]
    exact .added _
  | undone i hi =>
    refine .inr ⟨i, _, (setInFlight_phase _ _).trans (move_phase _ _ _), ?_⟩
    rw [hi]
    exact .undone
  | full i current hi hfull =>
    refine .inr ⟨i, _, move_phase _ _ _, ?_⟩
    rw [admits_compare hi, if_pos hfull, hi]
    exact .full current
  | granted i current hi hfree =>
    refine .inr ⟨i, _, move_phase _ _ _, ?_⟩
    rw [admits_compare hi, if_neg hfree, hi]
    exact .granted current
  | released i bytes tier hi =>
    refine .inr ⟨i, _, move_phase _ _ _, ?_⟩
    rw [hi]
    exact .released _ bytes tier
  | extra i bytes tier hi hzero =>
    refine .inr ⟨i, _, move_phase _ _ _, ?_⟩
    rw [hi]
    exact .extra _ bytes tier
  | dropped i spurious held bytes tier hi =>
    refine .inr ⟨i, _, move_phase _ _ _, ?_⟩
    have hsound := h.sound i
    rw [bills_of_effective (by rw [hs]; rfl), hi]
    rw [hi] at hsound
    cases held with
    | true => exact absurd hsound (Nat.lt_irrefl 0)
    | false => exact .dropped bytes tier
  | exchanged i spurious held cur bytes tier hi hcur hread =>
    obtain rfl := h.held_of_read hi hcur
    refine .inr ⟨i, .metering bytes tier, rfl, ?_⟩
    rw [bills_of_exchanged hi hcur (by rw [hs]), hi]
    exact .billed cur bytes tier
  | reread i spurious held cur bytes tier hi hcur =>
    obtain rfl := h.held_of_read hi hcur
    refine .inr ⟨i, _, move_phase _ _ _, ?_⟩
    rw [bills_of_effective (by rw [hs]; rfl), hi]
    exact .reread cur _ bytes tier
  | metered i bytes tier hi =>
    refine .inr ⟨i, .deducting bytes tier, rfl, ?_⟩
    rw [hi]
    exact .metered bytes tier
  | deducted i bytes tier balanceUsd hi =>
    refine .inr ⟨i, .idle, rfl, ?_⟩
    rw [pays_deduct hi, hi]
    exact .paid bytes tier

/-! ### What is owed and who is served -/

/-- What is billed is owed until it is paid. -/
lemma owed_step (s : GateState) (e : GateEvent) (h : s.SlotsInv) :
    (s.step e).owed + s.pays e = s.owed + (s.bills e : Multiset Bill) := by
  unfold owed
  rcases turn_step s e h with ⟨hphase, -, hbills, hpays⟩ | ⟨i, p, hphase, hturn⟩
  · rw [hphase, hbills, hpays]
  · have hmove := sum_update unpaid s.phase i p
    rw [hphase]
    refine add_right_cancel (b := unpaid (s.phase i)) ?_
    calc ∑ j, unpaid (Function.update s.phase i p j) + s.pays e + unpaid (s.phase i)
        = ∑ j, unpaid (s.phase j) + (unpaid p + s.pays e) := by
          rw [add_right_comm, hmove, add_assoc]
      _ = ∑ j, unpaid (s.phase j) + s.bills e + unpaid (s.phase i) := by
          rw [hturn.unpaid_eq, add_comm (unpaid (s.phase i)), add_assoc]

/-- The requests that hold a slot are those that were admitted and not yet billed. -/
lemma holders_step (s : GateState) (e : GateEvent) (h : s.SlotsInv) :
    (s.step e).holders + (s.bills e).length = s.holders + (s.admits e).length := by
  unfold holders
  rcases turn_step s e h with ⟨hphase, hadmits, hbills, -⟩ | ⟨i, p, hphase, hturn⟩
  · rw [hphase, hadmits, hbills]
    rfl
  · rw [hphase]
    have hmove := total_update holdsSlot s.phase i p
    have hturned := hturn.holdsSlot_eq
    omega

/-- While the account is closed, a payment uses up a request that was past the check. -/
lemma served_step (s : GateState) (e : GateEvent) (h : s.SlotsInv) (hclosed : s.Closed) :
    (s.step e).served + (s.pays e).length ≤ s.served := by
  unfold served
  rcases turn_step s e h with ⟨hphase, -, -, hpays⟩ | ⟨i, p, hphase, hturn⟩
  · rw [hphase, hpays, List.length_nil, Nat.add_zero]
  · rw [hphase]
    have hmove := total_update inService s.phase i p
    have hturned := hturn.inService_le (not_not_intro hclosed)
    omega

/-- While the account is closed, an admission uses up a request that waits for a slot. -/
lemma waiting_step (s : GateState) (e : GateEvent) (h : s.SlotsInv) (hclosed : s.Closed) :
    (s.step e).waiting + (s.admits e).length ≤ s.waiting := by
  unfold waiting
  rcases turn_step s e h with ⟨hphase, hadmits, -, -⟩ | ⟨i, p, hphase, hturn⟩
  · rw [hphase, hadmits, List.length_nil, Nat.add_zero]
  · rw [hphase]
    have hmove := total_update awaitsSlot s.phase i p
    have hturned := hturn.awaitsSlot_le (not_not_intro hclosed)
    omega

lemma releaseCost_nonneg (bytes : Nat) (tier : String) : 0 ≤ releaseCost bytes tier := by
  have hprice : 0 ≤ pricePerGb tier := by
    unfold pricePerGb priceDcPerGb priceResidentialPerGb priceMobilePerGb priceFreePerGb
    split <;> norm_num
  have hunit : 0 < bytesPerGb := by
    unfold bytesPerGb
    norm_num
  unfold releaseCost
  positivity

lemma adjusts_of_not_admin {e : GateEvent} (he : ¬e.IsAdmin) : s.adjusts e = [] := by
  cases e with
  | setBalance balanceUsd => exact absurd trivial he
  | _ => rfl

lemma isActive_step {e : GateEvent} (he : ¬e.IsAdmin) :
    (s.step e).account.isActive = s.account.isActive := by
  have hstep := steps_step s e
  generalize s.step e = s' at hstep ⊢
  cases hstep with
  | setActive | setBalance => exact absurd trivial he
  | added | undone => rw [setInFlight_isActive, move_account]
  | rest | checked | full | granted | released | extra | dropped | exchanged | reread | metered
  | deducted => rfl

/-- Requests alone do not open an account. -/
lemma closed_step {e : GateEvent} (h : s.Closed) (he : e.IsAdmin → (s.step e).Closed) :
    (s.step e).Closed := by
  by_cases hadmin : e.IsAdmin
  · exact he hadmin
  · rcases h with hactive | hbalance
    · exact .inl ((isActive_step hadmin).trans hactive)
    · right
      have hpaid := paid_step s e
      have hcost : 0 ≤ ((s.pays e).map Bill.cost).sum := by
        refine List.sum_nonneg (fun c hc => ?_)
        obtain ⟨b, -, rfl⟩ := List.mem_map.mp hc
        exact releaseCost_nonneg b.bytes b.tier
      rw [adjusts_of_not_admin hadmin, List.sum_nil] at hpaid
      linarith

lemma sum_map_singleton (bills : List Bill) :
    (bills.map (fun b => ({b} : Multiset Bill))).sum = bills := by
  rw [← Multiset.sum_coe, ← Multiset.map_coe, Multiset.sum_map_singleton]

/-- What the books of a run say of the state it leads to. -/
structure LedgerExact (start : GateState) (events : List GateEvent) : Prop where
  effective_eq : (run step start events).effective =
    start.effective ++ (log step bills start events).map Bill.bytes
  billed_once : (run step start events).holders + (log step bills start events).length =
    start.holders + (log step admits start events).length
  owed_eq : (run step start events).owed + log step pays start events =
    start.owed + (log step bills start events : Multiset Bill)
  paid_eq : (run step start events).account.balanceUsd +
      ((log step pays start events).map Bill.cost).sum =
    start.account.balanceUsd + (log step adjusts start events).sum

lemma slotsInv_run {start : GateState} (h : start.SlotsInv) (events : List GateEvent) :
    (run step start events).SlotsInv :=
  run_invariant (fun s e h => (slotsInv_step s e h).1) h events

lemma ledgerExact_run {start : GateState} (h : start.SlotsInv) (events : List GateEvent) :
    LedgerExact start events := by
  have hstep : ∀ s e, SlotsInv s → (s.step e).SlotsInv := fun s e h => (slotsInv_step s e h).1
  refine ⟨?_, ?_, ?_, ?_⟩
  · have hrec : (run step start events).effective =
        start.effective ++ log step (fun s e => (s.bills e).map Bill.bytes) start events :=
      run_record effective_step start events
    rwa [log_map] at hrec
  · have hcount : (run step start events).holders +
          ((log step bills start events).map (fun _ => 1)).sum =
        start.holders + ((log step admits start events).map (fun _ => 1)).sum :=
      run_accounts hstep (fun s e h => by simpa using holders_step s e h) h events
    simpa using hcount
  · have howed : (run step start events).owed +
          ((log step pays start events).map (fun b => ({b} : Multiset Bill))).sum =
        start.owed + ((log step bills start events).map (fun b => ({b} : Multiset Bill))).sum :=
      run_accounts hstep (fun s e h => by simpa only [sum_map_singleton] using owed_step s e h) h
        events
    simpa only [sum_map_singleton] using howed
  · have hpaid : (run step start events).account.balanceUsd +
          ((log step pays start events).map Bill.cost).sum =
        start.account.balanceUsd + ((log step adjusts start events).map id).sum :=
      run_accounts (f := fun s : GateState => s.account.balanceUsd) (J := fun _ => True)
        (fun _ _ _ => trivial) (fun s e _ => by simpa using paid_step s e) trivial events
    rwa [List.map_id] at hpaid

lemma owed_of_idle {s : GateState} (h : ∀ i, s.phase i = .idle) : s.owed = 0 :=
  Finset.sum_eq_zero (fun i _ => by rw [h i]; rfl)

lemma holders_of_idle {s : GateState} (h : ∀ i, s.phase i = .idle) : s.holders = 0 :=
  total_eq_zero (fun i => by rw [h i]; rfl)

lemma adjusts_of_not_set {e : GateEvent} (h : ∀ b, e ≠ .setBalance b) (s : GateState) :
    s.adjusts e = [] := by
  cases e with
  | setBalance b => exact absurd rfl (h b)
  | _ => rfl

/-- A check that the account answers at once. -/
def RefusesCheck (s : GateState) (e : GateEvent) : Prop :=
  ∀ i limiterOk, e = .check i limiterOk →
    s.step e = s ∧ ∃ reason, tenantChecks s.account limiterOk = .error reason

/-- The admin interface does not open the account again. -/
def StaysClosed (s : GateState) (e : GateEvent) : Prop := e.IsAdmin → (s.step e).Closed

lemma closed_run {s : GateState} {events : List GateEvent} (hslots : s.SlotsInv)
    (hclosed : s.Closed) (hadmin : Along step StaysClosed s events) :
    (run step s events).Closed ∧ Along step RefusesCheck s events ∧
      (run step s events).served + (log step pays s events).length ≤ s.served ∧
      (run step s events).waiting + (log step admits s events).length ≤ s.waiting := by
  have hstep : ∀ s e, SlotsInv s ∧ s.Closed → StaysClosed s e →
      (s.step e).SlotsInv ∧ (s.step e).Closed :=
    fun s e h he => ⟨(slotsInv_step s e h.1).1, closed_step h.2 he⟩
  refine ⟨(run_of_along hstep ⟨hslots, hclosed⟩ hadmin).2, ?_, ?_, ?_⟩
  · refine along_of_along hstep (fun s e h _ => ?_) ⟨hslots, hclosed⟩ hadmin
    rintro i limiterOk rfl
    exact check_of_closed h.2 limiterOk
  · exact run_drains hstep (fun s e h _ => served_step s e h.1 h.2) ⟨hslots, hclosed⟩ hadmin
  · exact run_drains hstep (fun s e h _ => waiting_step s e h.1 h.2) ⟨hslots, hclosed⟩ hadmin

end GateState

/-- In any interleaving of the steps of any requests and of the admin interface: every admitted
request is billed once, when it gives its slot back, and every bill is paid once. The balance is the
starting balance with the adjustments and without the payments; from a balance set by the admin
interface on, it is that balance without the payments made since. -/
theorem tenant_ledger_exact (tenantId : String) (qps maxConcurrency : Nat)
    (events : List GateEvent) :
    let start := GateState.initial (newTenantAccount tenantId qps maxConcurrency)
    let s := run GateState.step start events
    let admitted := log GateState.step GateState.admits start events
    let billed := log GateState.step GateState.bills start events
    let paid := log GateState.step GateState.pays start events
    let adjusted := log GateState.step GateState.adjusts start events
    s.effective = billed.map Bill.bytes ∧
      s.holders + billed.length = admitted.length ∧
      s.owed + paid = (billed : Multiset Bill) ∧
      s.account.balanceUsd = 100 + adjusted.sum - (paid.map Bill.cost).sum ∧
      ((∀ i, s.phase i = .idle) → billed.length = admitted.length ∧ paid.Perm billed) ∧
      ∀ pre balanceUsd post, events = pre ++ .setBalance balanceUsd :: post →
        (∀ e ∈ post, ∀ b, e ≠ .setBalance b) →
        s.account.balanceUsd = balanceUsd - ((log GateState.step GateState.pays
          (run GateState.step start (pre ++ [.setBalance balanceUsd])) post).map
            Bill.cost).sum := by
  intro start s admitted billed paid adjusted
  have hinit : start.SlotsInv := GateState.slotsInv_initial _ rfl rfl
  have hidle : ∀ i, start.phase i = .idle := fun _ => rfl
  obtain ⟨heffective, honce, howed, hpaid⟩ := GateState.ledgerExact_run hinit events
  rw [GateState.holders_of_idle hidle, Nat.zero_add] at honce
  rw [GateState.owed_of_idle hidle, zero_add] at howed
  refine ⟨heffective, honce, howed, eq_sub_of_add_eq hpaid, fun hdone => ⟨?_, ?_⟩, ?_⟩
  · rw [GateState.holders_of_idle hdone, Nat.zero_add] at honce
    exact honce
  · rw [GateState.owed_of_idle hdone, zero_add] at howed
    exact Multiset.coe_eq_coe.mp howed
  · intro pre balanceUsd post hevents hpost
    have hsplit : s = run GateState.step
        (run GateState.step start (pre ++ [.setBalance balanceUsd])) post := by
      rw [← run_append, List.append_assoc, List.singleton_append, ← hevents]
    have hsince := (GateState.ledgerExact_run
      (GateState.slotsInv_run hinit (pre ++ [.setBalance balanceUsd])) post).paid_eq
    have hset : (run GateState.step start (pre ++ [.setBalance balanceUsd])).account.balanceUsd =
        balanceUsd := by
      rw [run_append]
      rfl
    have hnone : log GateState.step GateState.adjusts
        (run GateState.step start (pre ++ [.setBalance balanceUsd])) post = [] :=
      log_eq_nil (P := fun _ e => ∀ b, e ≠ .setBalance b)
        (fun s e he => GateState.adjusts_of_not_set he s) (along_of_forall hpost)
    rw [← hsplit, hset, hnone, List.sum_nil, add_zero] at hsince
    exact eq_sub_of_add_eq hsince

/-- An account that is disabled or out of balance stays so while the admin interface does not open
it, whatever the requests do. Every check is refused and changes nothing; no more requests are
admitted than were waiting for a slot, and no more are paid than were past the check. -/
theorem closed_account_drains (tenantId : String) (qps maxConcurrency : Nat)
    (events later : List GateEvent) :
    let start := GateState.initial (newTenantAccount tenantId qps maxConcurrency)
    let s := run GateState.step start events
    s.Closed → Along GateState.step GateState.StaysClosed s later →
      (run GateState.step s later).Closed ∧
        Along GateState.step GateState.RefusesCheck s later ∧
        (run GateState.step s later).served +
          (log GateState.step GateState.pays s later).length ≤ s.served ∧
        (run GateState.step s later).waiting +
          (log GateState.step GateState.admits s later).length ≤ s.waiting := by
  intro start s hclosed hadmin
  exact GateState.closed_run (GateState.slotsInv_run (GateState.slotsInv_initial _ rfl rfl) events)
    hclosed hadmin

/-- The balance runs out while one request is past the check; it is served, and the next one is
refused. -/
theorem closed_account_drains_last :
    let s := run GateState.step (.initial (newTenantAccount "t" 10 1))
      [.check (party 0) true, .setBalance 0]
    (run GateState.step s [.fetchAdd (party 0), .check (party 1) true]).Closed ∧
      Along GateState.step GateState.RefusesCheck s
        [.fetchAdd (party 0), .check (party 1) true] := by
  have hdrained := closed_account_drains "t" 10 1 [.check (party 0) true, .setBalance 0]
    [.fetchAdd (party 0), .check (party 1) true] (.inr le_rfl)
    ⟨fun h => h.elim, fun h => h.elim, trivial⟩
  exact ⟨hdrained.1, hdrained.2.1⟩

end IPProxyPool
