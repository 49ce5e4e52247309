import IPProxyPool.Proofs.BreakerOnce

/-!
# The fan-out of isolations

An isolation that a worker has put into the memory of its instance is confirmed by Redis, counted
as a failure, still in hand, or was in hand when the worker died. At most two copies of it are sent,
and an instance that keeps its subscription reads all that is sent, in order.
-/

namespace IPProxyPool
open Population Transition

/-- The copies of a message that a worker may still send of the isolation in hand. -/
def BreakerPhase.credit (message : String) : BreakerPhase → Nat
  | .persisting q _ _ _ => if q.message = message then 2 else 0
  | .publishing q retry _ _ =>
    if q.message = message then (if retry then 1 else 2) else 0
  | _ => 0

@[simp] lemma BreakerPhase.credit_next (message : String) (todo : List Nat) :
    (next todo).credit message = 0 := by cases todo <;> rfl

/-- The isolations whose fan-out has ended, one way or another. -/
def BreakerOutput.settled (o : BreakerOutput) : List Isolation :=
  o.confirmed ++ o.givenUp ++ o.abandoned

namespace BreakerTurn

variable {f : WireFormat} {stream : Nat → Fields} {v v' : BreakerView} {o : BreakerOutput}

lemma inHand_count (h : BreakerTurn f stream v v' o) (q : Isolation) :
    v'.1.inHand.count q + o.settled.count q = v.1.inHand.count q + o.triggered.count q := by
  cases h with
  | read batch m | acked id todo m => rw [BreakerPhase.inHand_next]; rfl
  | _ => simp [BreakerPhase.inHand, BreakerOutput.settled]

lemma confirmed_sublist (h : BreakerTurn f stream v v' o) :
    (o.confirmed.map Isolation.message).Sublist o.published := by
  cases h with
  | confirmed q retry id todo m => exact List.Sublist.refl _
  | _ => exact List.nil_sublist _

lemma credit_le (h : BreakerTurn f stream v v' o) (message : String) :
    v'.1.credit message + o.published.count message ≤
      v.1.credit message + 2 * o.triggered.countP (fun q => q.message = message) := by
  cases h with
  | triggered id todo status q m htrigger =>
    by_cases hq : q.message = message <;> simp [BreakerPhase.credit, hq]
  | confirmed q retry id todo m =>
    by_cases hq : q.message = message
    · cases retry <;> simp [BreakerPhase.credit, hq]
    · simp [BreakerPhase.credit, hq]
  | publishAgain q sent id todo m | givenUp q sent id todo m =>
    by_cases hq : q.message = message <;> cases sent <;> simp [BreakerPhase.credit, hq]
  | read batch m | acked id todo m => simp
  | kill p m | panic p m => exact Nat.zero_le _
  | _ => simp [BreakerPhase.credit]

end BreakerTurn

namespace BreakerSystem

variable {ι : Type*} [DecidableEq ι] (f : WireFormat) (stream : Nat → Fields)

lemma sent_step (s : BreakerSystem ι) (e : BreakerStep ι) :
    (s.step f stream e).sent = s.sent ++ (s.output f stream e).published := by
  have hmove : Move f stream s e (s.step f stream e) := move_step s e
  generalize s.step f stream e = s' at hmove
  cases hmove with
  | idle e h => rw [output_of_outOfTurn f stream h, List.append_nil]
  | read i answered hphase =>
    simp only [output, hphase]
    exact (List.append_nil _).symm
  | ignored i now id todo hphase htrigger | triggered i now id todo status q hphase htrigger =>
    simp only [output, hphase]
    exact (List.append_nil _).symm
  | published i answered q retry id todo hphase =>
    simp only [output, hphase]
    rfl
  | unpublished i answered q retry id todo hphase =>
    simp only [output, hphase]
    exact (List.append_nil _).symm
  | _ => exact (List.append_nil _).symm

lemma confirmed_sublist (s : BreakerSystem ι) (e : BreakerStep ι) :
    ((s.output f stream e).confirmed.map Isolation.message).Sublist
      (s.output f stream e).published := by
  rcases oneTurn_step f stream s e with ⟨-, hnone⟩ | ⟨i, v, -, hturn⟩
  · rw [hnone]
    exact List.Sublist.refl _
  · exact hturn.confirmed_sublist

/-- How often the isolation is in the hand of a worker. -/
def inHand [Fintype ι] (s : BreakerSystem ι) (q : Isolation) : Nat :=
  total (fun v : BreakerView => v.1.inHand.count q) s.views

def credit [Fintype ι] (s : BreakerSystem ι) (message : String) : Nat :=
  total (fun v : BreakerView => v.1.credit message) s.views

lemma credit_step [Fintype ι] (s : BreakerSystem ι) (e : BreakerStep ι) (message : String) :
    (s.step f stream e).credit message + (s.output f stream e).published.count message ≤
      s.credit message +
        2 * (s.output f stream e).triggered.countP (fun q => q.message = message) := by
  rcases oneTurn_step f stream s e with ⟨hviews, hnone⟩ | ⟨i, v, hviews, hturn⟩
  · unfold credit
    rw [hviews, hnone]
    exact le_rfl
  · have hupdate := total_update (fun v : BreakerView => v.1.credit message) s.views i v
    have hpaid := hturn.credit_le message
    unfold credit
    rw [hviews]
    omega

/-! ### The failures that a worker counts -/

/-- The worker of `i` is started anew, or its instance is killed. -/
def Restarts (i : ι) (s : BreakerSystem ι) (e : BreakerStep ι) : Prop :=
  e = .kill i ∨ e = .panic i ∧ (s.instances i).phase ≠ .down

/-- The isolations that the worker of `i` gives up in this step. -/
def givenUpBy (i : ι) (s : BreakerSystem ι) (e : BreakerStep ι) : List Isolation :=
  match e with
  | .publish j _ _ => if j = i then (s.output f stream e).givenUp else []
  | _ => []

lemma failures_restart {i : ι} {e : BreakerStep ι} (s : BreakerSystem ι)
    (h : s.Restarts i e) : ((s.step f stream e).instances i).publishFailures = 0 := by
  rcases h with rfl | ⟨rfl, hphase⟩
  · simp only [step]
    rw [instances_setInstance]
    rfl
  · simp only [step]
    rw [instances_setInstance]
    rfl

/-! ### What a subscription reads -/

/-- The message that the subscription of `j` reads in this step. -/
def heard (j : ι) (s : BreakerSystem ι) : BreakerStep ι → List String
  | .delta i _ => if i = j then (s.instances j).inbox.take 1 else []
  | _ => []

/-- The subscription of `j` lasts beyond the step. -/
def Listens (j : ι) (s : BreakerSystem ι) (e : BreakerStep ι) : Prop :=
  (s.instances j).subscribed = true ∧ ((s.step f stream e).instances j).subscribed = true

variable {f stream} {s base : BreakerSystem ι} {i j : ι} {b : BreakerInstance}

lemma inbox_setInstance (hbase : base.instances = s.instances)
    (hinbox : b.inbox = (s.instances i).inbox) :
    ((base.setInstance i b).instances j).inbox = (s.instances j).inbox := by
  by_cases hj : j = i
  · subst hj
    simpa only [setInstance, Function.update_self] using hinbox
  · simp only [setInstance, Function.update_of_ne hj, hbase]

/-- A step at the end of which the subscription of the instance is closed. -/
lemma inbox_of_closed (hsub : ((s.setInstance i b).instances j).subscribed = true)
    (hb : b.subscribed = false) :
    ((s.setInstance i b).instances j).inbox = (s.instances j).inbox := by
  by_cases hj : j = i
  · subst hj
    simp only [setInstance, Function.update_self, hb] at hsub
    cases hsub
  · simp only [setInstance, Function.update_of_ne hj]

lemma publishFailures_setInstance (hbase : base.instances = s.instances)
    (hfailures : j = i → b.publishFailures = (s.instances i).publishFailures) :
    ((base.setInstance i b).instances j).publishFailures = (s.instances j).publishFailures := by
  by_cases hj : j = i
  · subst hj
    simpa only [setInstance, Function.update_self] using hfailures rfl
  · simp only [setInstance, Function.update_of_ne hj, hbase]

lemma publishFailures_receive (b : BreakerInstance) (message : String) :
    (b.receive message).publishFailures = b.publishFailures := by
  unfold BreakerInstance.receive
  split <;> rfl

lemma publishFailures_afterSetEx (b : BreakerInstance) (q : Isolation) (retry : Bool) (id : Nat)
    (todo : List Nat) (ok : Bool) :
    (b.afterSetEx q retry id todo ok).publishFailures = b.publishFailures := by
  unfold BreakerInstance.afterSetEx
  split
  · rfl
  · split <;> rfl

lemma publishFailures_afterPublish (b : BreakerInstance) (q : Isolation) (retry : Bool) (id : Nat)
    (todo : List Nat) (ok : Bool) :
    (b.afterPublish q retry id todo ok).publishFailures =
      b.publishFailures + (if retry && !ok then [q] else []).length := by
  unfold BreakerInstance.afterPublish
  cases ok <;> cases retry <;> rfl

lemma givenUpBy_of_outOfTurn {e : BreakerStep ι} (h : s.OutOfTurn e) :
    s.givenUpBy f stream i e = [] := by
  unfold givenUpBy
  split
  · rw [output_of_outOfTurn f stream h, ite_self]
  · rfl

/-- The counter of a worker that goes on grows with each isolation that it gives up. -/
lemma failures_step (e : BreakerStep ι) (h : ¬s.Restarts i e) :
    ((s.step f stream e).instances i).publishFailures =
      (s.instances i).publishFailures + (s.givenUpBy f stream i e).length := by
  have hmove : Move f stream s e (s.step f stream e) := move_step s e
  generalize hafter : s.step f stream e = s' at hmove
  cases hmove with
  | idle e hturn =>
    rw [givenUpBy_of_outOfTurn hturn]
    rfl
  | append | trim n => rfl
  | kill k => exact publishFailures_setInstance rfl (fun hi => absurd (.inl (by rw [hi])) h)
  | panic k =>
    by_cases hi : i = k
    · subst hi
      have hdown : (s.instances i).phase = .down := by_contra (fun hne => h (.inr ⟨rfl, hne⟩))
      have hsame : s.step f stream (.panic i) = s := by simp only [step, hdown]
      rw [← hafter, hsame]
      rfl
    · exact publishFailures_setInstance rfl (fun hsame => absurd hsame hi)
  | setEx k stored answered setExs q retry id todo hphase =>
    exact publishFailures_setInstance rfl (fun _ => publishFailures_afterSetEx _ _ _ _ _ _)
  | published k answered q retry id todo hphase =>
    simp only [givenUpBy, output, hphase, Bool.true_and, publishFailures_receive]
    by_cases hi : i = k
    · subst hi
      rw [Function.update_self, if_pos rfl, publishFailures_afterPublish]
    · rw [Function.update_of_ne hi, if_neg (Ne.symm hi)]
      rfl
  | unpublished k answered q retry id todo hphase =>
    simp only [givenUpBy, output, hphase, Bool.false_and]
    by_cases hi : i = k
    · subst hi
      rw [instances_setInstance, if_pos rfl, publishFailures_afterPublish]
    · rw [if_neg (Ne.symm hi)]
      exact publishFailures_setInstance rfl (fun hsame => absurd hsame hi)
  | boot k nodes hphase | create k ok hphase | read k answered hphase | xack k ok id todo hphase
  | ignored k now id todo hphase htrigger | triggered k now id todo status q hphase htrigger
  | subscribe k | unsubscribe k received | delta k now message waiting hinbox | router k op =>
    exact publishFailures_setInstance rfl (fun _ => rfl)

lemma heard_of_outOfTurn {e : BreakerStep ι} (h : s.OutOfTurn e) : s.heard j e = [] := by
  cases e with
  | delta i now =>
    have hinbox : (s.instances i).inbox = [] := h
    simp only [heard]
    split
    · next hi =>
      rw [← hi, hinbox]
      rfl
    · rfl
  | _ => rfl

omit [DecidableEq ι] in
lemma queue_of_quiet {s' : BreakerSystem ι} {heard published : List String} (hheard : heard = [])
    (hsame : (s'.instances j).inbox = (s.instances j).inbox) (hpublished : published = []) :
    heard ++ (s'.instances j).inbox = (s.instances j).inbox ++ published := by
  rw [hheard, hsame, hpublished, List.nil_append, List.append_nil]

/-- A message that is sent waits in the inbox of each instance that listens. -/
lemma inbox_step {e : BreakerStep ι} (h : s.Listens f stream j e) :
    s.heard j e ++ ((s.step f stream e).instances j).inbox =
      (s.instances j).inbox ++ (s.output f stream e).published := by
  obtain ⟨hbefore, hafter⟩ := h
  have hmove : Move f stream s e (s.step f stream e) := move_step s e
  generalize s.step f stream e = s' at hmove hafter
  cases hmove with
  | idle e h =>
    exact queue_of_quiet (heard_of_outOfTurn h) rfl (by rw [output_of_outOfTurn f stream h])
  | append | trim n => exact queue_of_quiet rfl rfl rfl
  | kill i => exact queue_of_quiet rfl (inbox_of_closed hafter rfl) rfl
  | unsubscribe i received => exact queue_of_quiet rfl (inbox_of_closed hafter rfl) rfl
  | read i answered hphase =>
    exact queue_of_quiet rfl (inbox_setInstance rfl rfl) (by simp only [output, hphase])
  | ignored i now id todo hphase htrigger | triggered i now id todo status q hphase htrigger =>
    exact queue_of_quiet rfl (inbox_setInstance rfl rfl) (by simp only [output, hphase])
  | setEx i stored answered setExs q retry id todo hphase =>
    have hinbox := ((s.instances i).frame_afterSetEx q retry id todo (stored && answered)).2.1
    exact queue_of_quiet rfl (inbox_setInstance rfl hinbox) rfl
  | published i answered q retry id todo hphase =>
    obtain ⟨-, hinbox, hsub⟩ := (s.instances i).frame_afterPublish q retry id todo answered
    simp only [output, hphase, heard, List.nil_append, if_true]
    by_cases hj : j = i
    · subst hj
      rw [Function.update_self, BreakerInstance.receive, if_pos (hsub.trans hbefore), hinbox]
    · rw [Function.update_of_ne hj, BreakerInstance.receive, if_pos hbefore]
  | unpublished i answered q retry id todo hphase =>
    have hinbox := ((s.instances i).frame_afterPublish q retry id todo false).2.1
    exact queue_of_quiet rfl (inbox_setInstance rfl hinbox) (by simp [output, hphase])
  | delta i now message waiting hinbox =>
    simp only [output, heard, List.append_nil]
    by_cases hj : j = i
    · subst hj
      rw [if_pos rfl, hinbox]
      simp only [setInstance, Function.update_self]
      rfl
    · rw [if_neg (Ne.symm hj)]
      simp only [setInstance, Function.update_of_ne hj, List.nil_append]
  | boot i nodes hphase | create i ok hphase | panic i | xack i ok id todo hphase | subscribe i
  | router i op =>
    exact queue_of_quiet rfl (inbox_setInstance rfl rfl) rfl

/-! ### Whole runs -/

variable (f stream) (events : List (BreakerStep ι))

lemma sent_run (s : BreakerSystem ι) :
    (run (step f stream) s events).sent =
      s.sent ++ log (step f stream) (fun s e => (s.output f stream e).published) s events :=
  run_record (r := fun s => s.sent) (sent_step f stream) s events

lemma confirmed_run :
    ((log (step f stream) (fun s e => (s.output f stream e).confirmed) init events).map
      Isolation.message).Sublist (run (step f stream) init events).sent := by
  rw [sent_run, ← log_map]
  exact log_sublist (confirmed_sublist f stream) init events

lemma inHand_run [Fintype ι] (q : Isolation) :
    (run (step f stream) init events).inHand q +
        (log (step f stream) (fun s e => (s.output f stream e).settled) init events).count q =
      (log (step f stream) (fun s e => (s.output f stream e).triggered) init events).count q := by
  have hcounts : (run (step f stream) init events).inHand q +
        (log (step f stream) (fun s e => (s.output f stream e).settled) init events).count q =
      (init : BreakerSystem ι).inHand q +
        (log (step f stream) (fun s e => (s.output f stream e).triggered) init events).count q :=
    run_counts (J := fun _ => True) (f := fun s : BreakerSystem ι => s.inHand q)
      (fun _ _ _ => trivial)
      (fun s e _ => account_step
        (fun v v' o (h : BreakerTurn f stream v v' o) => h.inHand_count q) s e) trivial events
  have hempty : (init : BreakerSystem ι).inHand q = 0 := total_eq_zero (fun _ => rfl)
  rw [hcounts, hempty, Nat.zero_add]

/-- Two copies for each entry that asks for the message pay for all that is sent. -/
lemma copies_run [Fintype ι] (message : String) :
    (run (step f stream) init events).sent.count message ≤
      2 * (log (step f stream) (fun s e => (s.output f stream e).triggered) init events).countP
        (fun q => q.message = message) := by
  have hpays : ∀ (s : BreakerSystem ι) (events : List (BreakerStep ι)),
      (run (step f stream) s events).credit message + (log (step f stream)
          (fun s e => (s.output f stream e).published) s events).count message ≤
        s.credit message + 2 * (log (step f stream)
          (fun s e => (s.output f stream e).triggered) s events).countP
            (fun q => q.message = message) := by
    intro s events
    induction events generalizing s with
    | nil => exact le_rfl
    | cons e events ih =>
      have hnow := credit_step f stream s e message
      have hlater := ih (s.step f stream e)
      rw [run_cons, log_cons, log_cons, List.count_append, List.countP_append]
      omega
  have hempty : (init : BreakerSystem ι).credit message = 0 := total_eq_zero (fun _ => rfl)
  have htotal := hpays init events
  rw [sent_run, List.count_append]
  have hnone : (init : BreakerSystem ι).sent.count message = 0 := rfl
  omega

variable {events} in
lemma failures_run {s : BreakerSystem ι} {i : ι}
    (h : Along (step f stream) (fun s e => ¬s.Restarts i e) s events) :
    ((run (step f stream) s events).instances i).publishFailures =
      (s.instances i).publishFailures +
        (log (step f stream) (givenUpBy f stream i) s events).length := by
  induction events generalizing s with
  | nil => rfl
  | cons e events ih =>
    obtain ⟨hnow, hlater⟩ := h
    rw [run_cons, log_cons, ih hlater, failures_step e hnow, List.length_append, Nat.add_assoc]

end BreakerSystem

/-- In every run of any number of instances, each isolation that was put in force for an entry has,
exactly once, been confirmed or counted as a failure, is in the hand of a live worker, or was in
hand when its worker died; the failure counter of a worker is the number of isolations that it has
given up since it was started; what is confirmed has been sent, and no message is sent more than
twice for each entry that asks for it. From there on, an instance that listens reads all that is
sent from then on, in order and without loss. -/
theorem isolations_fanned_out {ι : Type*} [DecidableEq ι] [Fintype ι] (f : WireFormat)
    (stream : Nat → Fields) (events : List (BreakerStep ι)) :
    let start : BreakerSystem ι := .init
    let s := run (BreakerSystem.step f stream) start events
    let triggered := log (BreakerSystem.step f stream)
      (fun s e => (s.output f stream e).triggered) start events
    let settled := log (BreakerSystem.step f stream)
      (fun s e => (s.output f stream e).settled) start events
    let confirmed := log (BreakerSystem.step f stream)
      (fun s e => (s.output f stream e).confirmed) start events
    (∀ q, ∑ i, (s.instances i).phase.inHand.count q + settled.count q = triggered.count q) ∧
      (∀ i e, s.Restarts i e →
        ((s.step f stream e).instances i).publishFailures = 0) ∧
      (∀ i more, Along (BreakerSystem.step f stream) (fun s e => ¬s.Restarts i e) s more →
        ((run (BreakerSystem.step f stream) s more).instances i).publishFailures =
          (s.instances i).publishFailures + (log (BreakerSystem.step f stream)
            (BreakerSystem.givenUpBy f stream i) s more).length) ∧
      (confirmed.map Isolation.message).Sublist s.sent ∧
      (∀ message, s.sent.count message ≤
        2 * triggered.countP (fun q => q.message = message)) ∧
      ∀ j more, Along (BreakerSystem.step f stream) (BreakerSystem.Listens f stream j) s more →
        ∃ later, (run (BreakerSystem.step f stream) s more).sent = s.sent ++ later ∧
          log (BreakerSystem.step f stream) (BreakerSystem.heard j) s more ++
              ((run (BreakerSystem.step f stream) s more).instances j).inbox =
            (s.instances j).inbox ++ later := by
  intro start s triggered settled confirmed
  refine ⟨BreakerSystem.inHand_run f stream events,
    fun i e => BreakerSystem.failures_restart f stream s,
    fun i more => BreakerSystem.failures_run f stream, BreakerSystem.confirmed_run f stream events,
    BreakerSystem.copies_run f stream events, fun j more hlistens => ?_⟩
  exact ⟨_, BreakerSystem.sent_run f stream more s, run_queue (q := fun s => (s.instances j).inbox)
    (fun s e h => BreakerSystem.inbox_step h) hlistens⟩

end IPProxyPool
