import IPProxyPool.Lib.RunLog
import IPProxyPool.Proofs.BreakerCauses

/-!
# Entries handled at most once

The workers of all instances share one consumer of the group, and none of them claims a pending
entry back. An entry that was handed out is handled by one worker, waits in the batch of one, or was
dropped for good: with a worker that died before it came to the entry, or with a reply that no
worker received. The trigger counters of the instances count the handled entries.
-/

namespace IPProxyPool
open ConsumerGroup Population Transition

/-- The status for which an entry triggers, if it does. -/
def triggerStatus (f : WireFormat) (stream : Nat → Fields) (id : Nat) : Option Nat :=
  (trigger f (stream id)).map Prod.fst

lemma countOf_noteBreakerTrigger {f : WireFormat} {fields : Fields} {status : Nat} {q : Isolation}
    (h : trigger f fields = some (status, q)) (m : MetricsRegistry) (status' : Nat) :
    countOf (m.noteBreakerTrigger status).breakerTrigger status' =
      countOf m.breakerTrigger status' + if status' = status then 1 else 0 := by
  have hstatus : status = 429 ∨ status = 403 ∨ status = 502 ∨ status = 504 := by
    have httl := (trigger_spec h).1
    unfold quarantineTtlForStatus at httl
    split at httl <;> simp_all
  unfold MetricsRegistry.noteBreakerTrigger
  rw [if_pos hstatus, countOf_addTo]

/-! ### What goes in and out of a worker -/

/-- What a step passes to or from the worker that takes it. -/
structure BreakerOutput where
  handedOut : List Nat := []
  handled : List Nat := []
  dropped : List Nat := []
  retired : List MetricsRegistry := []
  triggered : List Isolation := []
  confirmed : List Isolation := []
  givenUp : List Isolation := []
  abandoned : List Isolation := []
  published : List String := []

/-- The phase of a worker and the registers of its instance. -/
abbrev BreakerView := BreakerPhase × MetricsRegistry

def BreakerInstance.view (b : BreakerInstance) : BreakerView := (b.phase, b.metrics)

/-- How a worker goes from one phase to the next. -/
inductive BreakerTurn (f : WireFormat) (stream : Nat → Fields) :
    BreakerView → BreakerView → BreakerOutput → Prop where
  | same (v : BreakerView) : BreakerTurn f stream v v {}
  | boot (m : MetricsRegistry) : BreakerTurn f stream (.down, m) (.starting, m) {}
  | kill (p : BreakerPhase) (m : MetricsRegistry) :
    BreakerTurn f stream (p, m) (.down, {})
      { dropped := p.rest, abandoned := p.inHand, retired := [m] }
  | panic (p : BreakerPhase) (m : MetricsRegistry) :
    BreakerTurn f stream (p, m) (.starting, m) { dropped := p.rest, abandoned := p.inHand }
  | create (m : MetricsRegistry) : BreakerTurn f stream (.starting, m) (.reading, m) {}
  | read (batch : List Nat) (m : MetricsRegistry) :
    BreakerTurn f stream (.reading, m) (.next batch, m) { handedOut := batch }
  | lost (batch : List Nat) (m : MetricsRegistry) :
    BreakerTurn f stream (.reading, m) (.reading, m) { handedOut := batch, dropped := batch }
  | ignored (id : Nat) (todo : List Nat) (m : MetricsRegistry) (h : trigger f (stream id) = none) :
    BreakerTurn f stream (.processing id todo, m) (.acking id todo, m) { handled := [id] }
  | triggered (id : Nat) (todo : List Nat) (status : Nat) (q : Isolation) (m : MetricsRegistry)
      (h : trigger f (stream id) = some (status, q)) :
    BreakerTurn f stream (.processing id todo, m)
      (.persisting q false id todo, m.noteBreakerTrigger status)
      { handled := [id], triggered := [q] }
  | persisted (q : Isolation) (retry : Bool) (id : Nat) (todo : List Nat) (m : MetricsRegistry) :
    BreakerTurn f stream (.persisting q retry id todo, m) (.publishing q false id todo, m) {}
  | persistAgain (q : Isolation) (id : Nat) (todo : List Nat) (m : MetricsRegistry) :
    BreakerTurn f stream (.persisting q false id todo, m) (.persisting q true id todo, m) {}
  | confirmed (q : Isolation) (retry : Bool) (id : Nat) (todo : List Nat) (m : MetricsRegistry) :
    BreakerTurn f stream (.publishing q retry id todo, m) (.acking id todo, m)
      { confirmed := [q], published := [q.message] }
  | publishAgain (q : Isolation) (sent : Bool) (id : Nat) (todo : List Nat) (m : MetricsRegistry) :
    BreakerTurn f stream (.publishing q false id todo, m) (.publishing q true id todo, m)
      { published := if sent then [q.message] else [] }
  | givenUp (q : Isolation) (sent : Bool) (id : Nat) (todo : List Nat) (m : MetricsRegistry) :
    BreakerTurn f stream (.publishing q true id todo, m) (.acking id todo, m)
      { givenUp := [q], published := if sent then [q.message] else [] }
  | acked (id : Nat) (todo : List Nat) (m : MetricsRegistry) :
    BreakerTurn f stream (.acking id todo, m) (.next todo, m) {}

namespace BreakerSystem

variable {ι : Type*}

def output (f : WireFormat) (stream : Nat → Fields) (s : BreakerSystem ι) :
    BreakerStep ι → BreakerOutput
  | .kill i =>
    { dropped := (s.instances i).phase.rest
      abandoned := (s.instances i).phase.inHand
      retired := [(s.instances i).metrics] }
  | .panic i =>
    { dropped := (s.instances i).phase.rest, abandoned := (s.instances i).phase.inHand }
  | .read i answered =>
    match (s.instances i).phase with
    | .reading => { handedOut := s.readBatch, dropped := if answered then [] else s.readBatch }
    | _ => {}
  | .process i _ =>
    match (s.instances i).phase with
    | .processing id _ =>
      { handled := [id], triggered := ((trigger f (stream id)).map Prod.snd).toList }
    | _ => {}
  | .publish i sent answered =>
    match (s.instances i).phase with
    | .publishing q retry _ _ =>
      { published := if sent then [q.message] else []
        confirmed := if sent && answered then [q] else []
        givenUp := if retry && !(sent && answered) then [q] else [] }
    | _ => {}
  | _ => {}

def views (s : BreakerSystem ι) (i : ι) : BreakerView := (s.instances i).view

variable (f : WireFormat) (stream : Nat → Fields) {s s' : BreakerSystem ι} {e : BreakerStep ι}

lemma output_of_outOfTurn (h : s.OutOfTurn e) : s.output f stream e = {} := by
  cases e with
  | panic i =>
    have hphase : (s.instances i).phase = .down := h
    simp only [output, hphase]
    rfl
  | read i answered =>
    simp only [output]
    split
    · next hphase => exact absurd hphase h
    · rfl
  | process i now =>
    simp only [output]
    split
    · next id todo hphase => exact absurd hphase (h id todo)
    · rfl
  | publish i sent answered =>
    simp only [output]
    split
    · next q retry id todo hphase => exact absurd hphase (h q retry id todo)
    · rfl
  | kill i => exact absurd h id
  | _ => rfl

variable [DecidableEq ι]

lemma views_setInstance (s : BreakerSystem ι) (i : ι) (b : BreakerInstance) :
    (s.setInstance i b).views = Function.update s.views i b.view := by
  funext j
  by_cases hj : j = i
  · subst hj
    simp only [views, setInstance, Function.update_self]
  · simp only [views, setInstance, Function.update_of_ne hj]

end BreakerSystem

lemma BreakerInstance.view_receive (b : BreakerInstance) (message : String) :
    (b.receive message).view = b.view := by
  unfold receive
  split <;> rfl

lemma BreakerInstance.view_eq {b : BreakerInstance} {p : BreakerPhase} (h : b.phase = p) :
    b.view = (p, b.metrics) := by
  unfold view
  rw [h]

lemma BreakerTurn.setEx (f : WireFormat) (stream : Nat → Fields) {b : BreakerInstance}
    {q : Isolation} {retry : Bool} {id : Nat} {todo : List Nat}
    (h : b.phase = .persisting q retry id todo) (ok : Bool) :
    BreakerTurn f stream b.view (b.afterSetEx q retry id todo ok).view {} := by
  rw [BreakerInstance.view_eq h]
  unfold BreakerInstance.afterSetEx
  split
  · exact .persisted q retry id todo b.metrics
  · split
    · exact .persisted q retry id todo b.metrics
    · next hretry =>
      rw [Bool.not_eq_true] at hretry
      subst hretry
      exact .persistAgain q id todo b.metrics

lemma BreakerTurn.publish (f : WireFormat) (stream : Nat → Fields) {b : BreakerInstance}
    {q : Isolation} {retry : Bool} {id : Nat} {todo : List Nat}
    (h : b.phase = .publishing q retry id todo) (sent answered : Bool) :
    BreakerTurn f stream b.view (b.afterPublish q retry id todo (sent && answered)).view
      { published := if sent then [q.message] else []
        confirmed := if sent && answered then [q] else []
        givenUp := if retry && !(sent && answered) then [q] else [] } := by
  rw [BreakerInstance.view_eq h]
  unfold BreakerInstance.afterPublish
  cases hok : sent && answered with
  | true =>
    rw [Bool.and_eq_true] at hok
    rw [hok.1, Bool.not_true, Bool.and_false]
    exact .confirmed q retry id todo b.metrics
  | false =>
    cases retry with
    | true => exact .givenUp q sent id todo b.metrics
    | false => exact .publishAgain q sent id todo b.metrics

namespace BreakerTurn

variable {f : WireFormat} {stream : Nat → Fields} {v v' : BreakerView} {o : BreakerOutput}

/-- An entry is passed on: from a read to the batch, and from there to its handling or nowhere. -/
lemma rest_count (h : BreakerTurn f stream v v' o) (id : Nat) :
    v'.1.rest.count id + (o.handled.count id + o.dropped.count id) =
      v.1.rest.count id + o.handedOut.count id := by
  cases h with
  | read batch m => rw [BreakerPhase.rest_next]; exact Nat.add_comm _ _
  | ignored id' todo m htrigger | triggered id' todo status q m htrigger =>
    simp only [BreakerPhase.rest, List.count_cons, List.count_nil]
    omega
  | acked id' todo m => rw [BreakerPhase.rest_next]; rfl
  | _ => simp [BreakerPhase.rest]

lemma current_subset (h : BreakerTurn f stream v v' o) :
    v'.1.current ⊆ v.1.current ++ o.handled := by
  cases h with
  | same v => exact List.subset_append_left _ _
  | read batch m | acked id todo m =>
    rw [BreakerPhase.current_next]
    exact List.nil_subset _
  | _ => simp [BreakerPhase.current]

/-- The trigger counter of a status goes up with each entry that triggers it. -/
lemma triggers (h : BreakerTurn f stream v v' o) (status : Nat) :
    countOf v'.2.breakerTrigger status +
        (o.retired.map (fun m => countOf m.breakerTrigger status)).sum =
      countOf v.2.breakerTrigger status +
        o.handled.countP (fun id => triggerStatus f stream id = some status) := by
  cases h with
  | kill p m => simp [countOf]
  | ignored id todo m htrigger => simp [triggerStatus, htrigger]
  | triggered id todo status' q m htrigger =>
    have hid : triggerStatus f stream id = some status' := by rw [triggerStatus, htrigger]; rfl
    rw [countOf_noteBreakerTrigger htrigger, List.countP_singleton, hid]
    by_cases hstatus : status = status'
    · subst hstatus
      simp
    · rw [if_neg hstatus, if_neg (by simpa using Ne.symm hstatus)]
      rfl
  | _ => rfl

end BreakerTurn

namespace BreakerSystem

variable {ι : Type*} [DecidableEq ι] {f : WireFormat} {stream : Nat → Fields}
  {s base : BreakerSystem ι} {o : BreakerOutput}

/-- At most one worker takes a turn in a step. -/
def OneTurn (f : WireFormat) (stream : Nat → Fields) (s s' : BreakerSystem ι)
    (o : BreakerOutput) : Prop :=
  s'.views = s.views ∧ o = {} ∨
    ∃ i v, s'.views = Function.update s.views i v ∧ BreakerTurn f stream (s.views i) v o

lemma OneTurn.setInstance {i : ι} {b : BreakerInstance} (h : base.views = s.views)
    (hturn : BreakerTurn f stream (s.views i) b.view o) :
    OneTurn f stream s (base.setInstance i b) o :=
  .inr ⟨i, b.view, by rw [views_setInstance, h], hturn⟩

variable (f stream) in
lemma oneTurn_step (s : BreakerSystem ι) (e : BreakerStep ι) :
    OneTurn f stream s (s.step f stream e) (s.output f stream e) := by
  have hmove : Move f stream s e (s.step f stream e) := move_step s e
  generalize s.step f stream e = s' at hmove
  cases hmove with
  | idle e h => exact .inl ⟨rfl, output_of_outOfTurn f stream h⟩
  | append | trim n => exact .inl ⟨rfl, rfl⟩
  | boot i nodes hphase =>
    refine .setInstance rfl ?_
    rw [views, BreakerInstance.view_eq hphase]
    exact .boot _
  | kill i => exact .setInstance rfl (.kill _ _)
  | create i ok hphase =>
    refine .setInstance rfl ?_
    rw [views, BreakerInstance.view_eq hphase]
    exact .create _
  | panic i => exact .setInstance rfl (.panic _ _)
  | read i answered hphase =>
    refine .setInstance rfl ?_
    rw [views, BreakerInstance.view_eq hphase]
    simp only [output, hphase]
    cases answered with
    | true => exact .read _ _
    | false => exact .lost _ _
  | ignored i now id todo hphase htrigger =>
    refine .setInstance rfl ?_
    rw [views, BreakerInstance.view_eq hphase]
    simp only [output, hphase, htrigger]
    exact .ignored id todo _ htrigger
  | triggered i now id todo status q hphase htrigger =>
    refine .setInstance rfl ?_
    rw [views, BreakerInstance.view_eq hphase]
    simp only [output, hphase, htrigger]
    exact .triggered id todo status q _ htrigger
  | setEx i stored answered setExs q retry id todo hphase =>
    exact .setInstance rfl (.setEx f stream hphase _)
  | published i answered q retry id todo hphase =>
    refine .inr ⟨i, ((s.instances i).afterPublish q retry id todo answered).view, ?_, ?_⟩
    · refine Eq.trans (funext fun j => ?_) (views_setInstance s i _)
      exact BreakerInstance.view_receive _ _
    · simp only [output, hphase]
      exact .publish f stream hphase true answered
  | unpublished i answered q retry id todo hphase =>
    refine .setInstance rfl ?_
    simp only [output, hphase]
    exact .publish f stream hphase false answered
  | xack i ok id todo hphase =>
    refine .setInstance rfl ?_
    rw [views, BreakerInstance.view_eq hphase]
    exact .acked id todo _
  | subscribe i => exact .setInstance rfl (.same _)
  | unsubscribe i received => exact .setInstance rfl (.same _)
  | delta i now message waiting hinbox => exact .setInstance rfl (.same _)
  | router i op => exact .setInstance rfl (.same _)

/-- A weight of the workers that every turn keeps in balance with what goes in and out. -/
lemma account_step [Fintype ι] {w : BreakerView → Nat} {outgoing incoming : BreakerOutput → Nat}
    (hturn : ∀ v v' o, BreakerTurn f stream v v' o → w v' + outgoing o = w v + incoming o)
    (s : BreakerSystem ι) (e : BreakerStep ι) :
    total w (s.step f stream e).views + outgoing (s.output f stream e) =
      total w s.views + incoming (s.output f stream e) := by
  rcases oneTurn_step f stream s e with ⟨hviews, hnone⟩ | ⟨i, v, hviews, h⟩
  · have hsame := hturn (.down, {}) (.down, {}) {} (.same _)
    rw [hviews, hnone]
    omega
  · have hupdate := total_update w s.views i v
    have hpaid := hturn _ _ _ h
    rw [hviews]
    omega

/-! ### The histories -/

variable (f stream) in
lemma processed_step (s : BreakerSystem ι) (e : BreakerStep ι) :
    (s.step f stream e).processed = s.processed ++ (s.output f stream e).handled := by
  have hmove : Move f stream s e (s.step f stream e) := move_step s e
  generalize s.step f stream e = s' at hmove
  cases hmove with
  | idle e h => rw [output_of_outOfTurn f stream h, List.append_nil]
  | read i answered hphase =>
    simp only [output, hphase]
    exact (List.append_nil _).symm
  | ignored i now id todo hphase htrigger | triggered i now id todo status q hphase htrigger =>
    simp only [output, hphase]
    rfl
  | published i answered q retry id todo hphase | unpublished i answered q retry id todo hphase =>
    simp only [output, hphase]
    exact (List.append_nil _).symm
  | _ => exact (List.append_nil _).symm

variable (f stream) in
lemma delivered_step (s : BreakerSystem ι) (e : BreakerStep ι) :
    (s.step f stream e).group.delivered = s.group.delivered ++ (s.output f stream e).handedOut := by
  have hmove : Move f stream s e (s.step f stream e) := move_step s e
  generalize s.step f stream e = s' at hmove
  cases hmove with
  | idle e h => rw [output_of_outOfTurn f stream h, List.append_nil]
  | read i answered hphase =>
    simp only [output, hphase]
    exact Group.delivered_foldl_deliver _ _ _
  | create i ok hphase | xack i ok id todo hphase =>
    refine Eq.trans ?_ (List.append_nil _).symm
    dsimp only [setInstance]
    split <;> rfl
  | ignored i now id todo hphase htrigger | triggered i now id todo status q hphase htrigger =>
    simp only [output, hphase]
    exact (List.append_nil _).symm
  | published i answered q retry id todo hphase | unpublished i answered q retry id todo hphase =>
    simp only [output, hphase]
    exact (List.append_nil _).symm
  | _ => exact (List.append_nil _).symm

omit [DecidableEq ι] in
variable (f stream) in
lemma handedOut_cases (s : BreakerSystem ι) (e : BreakerStep ι) :
    (s.output f stream e).handedOut = [] ∨
      (s.output f stream e).handedOut = s.group.readable breakerReadCount := by
  cases e with
  | read i answered =>
    simp only [output]
    split
    · simp only [readBatch]
      split
      · exact .inr rfl
      · exact .inl rfl
    · exact .inl rfl
  | process i now | publish i sent answered =>
    simp only [output]
    split <;> exact .inl rfl
  | _ => exact .inl rfl

lemma ordered_step (h : s.group.Ordered) (e : BreakerStep ι) :
    (s.step f stream e).group.Ordered := by
  have hmove : Move f stream s e (s.step f stream e) := move_step s e
  generalize s.step f stream e = s' at hmove
  cases hmove with
  | create i ok hphase =>
    dsimp only [setInstance]
    split
    · exact Group.ordered_seekEnd h
    · exact h
  | read i answered hphase => exact Group.ordered_foldl_deliver _ h
  | xack i ok id todo hphase =>
    dsimp only [setInstance]
    split <;> exact h
  | _ => exact h

/-! ### The invariant -/

/-- What the group and the workers know of the entries. -/
structure EntriesInv (s : BreakerSystem ι) : Prop where
  ordered : s.group.Ordered
  nodup : s.group.delivered.Nodup
  current : ∀ i, (s.views i).1.current ⊆ s.processed
  settled : ∀ id ∈ s.group.delivered, id ∈ s.group.pending ∨ id ∈ s.processed

variable (f stream) in
lemma current_step (h : ∀ i, (s.views i).1.current ⊆ s.processed) (e : BreakerStep ι) (i : ι) :
    ((s.step f stream e).views i).1.current ⊆ (s.step f stream e).processed := by
  have hkept : (s.views i).1.current ⊆ s.processed ++ (s.output f stream e).handled :=
    List.subset_append_of_subset_left _ (h i)
  rw [processed_step]
  rcases oneTurn_step f stream s e with ⟨hviews, -⟩ | ⟨j, v, hviews, hturn⟩
  · rwa [hviews]
  · rw [hviews]
    by_cases hj : i = j
    · subst hj
      rw [Function.update_self]
      refine List.Subset.trans hturn.current_subset (List.append_subset.mpr ⟨hkept, ?_⟩)
      exact List.subset_append_right _ _
    · rwa [Function.update_of_ne hj]

variable (f stream) in
lemma settled_step (h : s.EntriesInv) (e : BreakerStep ι) :
    ∀ id ∈ (s.step f stream e).group.delivered,
      id ∈ (s.step f stream e).group.pending ∨ id ∈ (s.step f stream e).processed := by
  have hmove : Move f stream s e (s.step f stream e) := move_step s e
  generalize s.step f stream e = s' at hmove
  cases hmove with
  | create i ok hphase =>
    intro id hid
    dsimp only [setInstance] at hid ⊢
    split at hid
    · next hfirst =>
      rw [if_pos hfirst]
      exact h.settled id hid
    · next hlater =>
      rw [if_neg hlater]
      exact h.settled id hid
  | read i answered hphase =>
    intro id hid
    have hdelivered := Group.delivered_foldl_deliver s.group breakerConsumer s.readBatch
    rcases List.mem_append.mp (hdelivered ▸ hid) with hold | hnew
    · exact (h.settled id hold).imp_left
        (fun hp => (Group.mem_pending_foldl_deliver _ _ _ id).mpr (.inr hp))
    · exact .inl ((Group.mem_pending_foldl_deliver _ _ _ id).mpr (.inl hnew))
  | ignored i now id' todo hphase htrigger | triggered i now id' todo status q hphase htrigger =>
    exact fun id hid => (h.settled id hid).imp_right (fun hp => List.mem_append_left _ hp)
  | xack i ok id' todo hphase =>
    intro id hid
    dsimp only [setInstance] at hid ⊢
    cases ok with
    | false => exact h.settled id hid
    | true =>
      have hcurrent : id' ∈ s.processed := h.current i (by
        rw [views, BreakerInstance.view_eq hphase]
        exact List.mem_singleton_self id')
      rcases h.settled id hid with hp | hp
      · by_cases hsame : id = id'
        · exact .inr (hsame ▸ hcurrent)
        · exact .inl ((Group.mem_pending_ack _ _ _).mpr ⟨hp, by simpa using hsame⟩)
      · exact .inr hp
  | _ => exact h.settled

lemma entriesInv_step (h : s.EntriesInv) (e : BreakerStep ι) :
    (s.step f stream e).EntriesInv := by
  refine ⟨ordered_step h.ordered e, ?_, current_step f stream h.current e,
    settled_step f stream h e⟩
  rw [delivered_step]
  rcases handedOut_cases f stream s e with hnone | hsome
  · rw [hnone, List.append_nil]
    exact h.nodup
  · rw [hsome]
    exact Group.nodup_delivered_append h.ordered h.nodup breakerReadCount

omit [DecidableEq ι] in
lemma entriesInv_init : (init : BreakerSystem ι).EntriesInv :=
  ⟨fun _ hid => absurd hid List.not_mem_nil, List.nodup_nil, fun _ => List.nil_subset _,
    fun _ hid => absurd hid List.not_mem_nil⟩

lemma entriesInv_run (events : List (BreakerStep ι)) :
    (run (step f stream) init events).EntriesInv :=
  run_invariant (J := EntriesInv) (fun _ e h => entriesInv_step h e) entriesInv_init events

section Totals

variable [Fintype ι] (f stream) (events : List (BreakerStep ι))

/-- How often the entry is in the batch of a worker that has not come to it. -/
def waiting (s : BreakerSystem ι) (id : Nat) : Nat :=
  total (fun v : BreakerView => v.1.rest.count id) s.views

lemma waiting_step (s : BreakerSystem ι) (e : BreakerStep ι) (id : Nat) :
    (s.step f stream e).processed.count id + (s.step f stream e).waiting id +
        (s.output f stream e).dropped.count id =
      s.processed.count id + s.waiting id + (s.output f stream e).handedOut.count id := by
  have haccount : (s.step f stream e).waiting id + ((s.output f stream e).handled.count id +
        (s.output f stream e).dropped.count id) =
      s.waiting id + (s.output f stream e).handedOut.count id :=
    account_step (fun v v' o (h : BreakerTurn f stream v v' o) => h.rest_count id) s e
  rw [processed_step, List.count_append]
  omega

/-- Each entry that was handed out is handled, waits, or was dropped. -/
lemma entries_run (id : Nat) :
    let s := run (step f stream) init events
    s.processed.count id + s.waiting id +
        (log (step f stream) (fun s e => (s.output f stream e).dropped) init events).count id =
      s.group.delivered.count id := by
  intro s
  have hdelivered : s.group.delivered =
      [] ++ log (step f stream) (fun s e => (s.output f stream e).handedOut) init events :=
    run_record (r := fun s => s.group.delivered) (delivered_step f stream) init events
  have hcounts : s.processed.count id + s.waiting id +
        (log (step f stream) (fun s e => (s.output f stream e).dropped) init events).count id =
      0 + (init : BreakerSystem ι).waiting id +
        (log (step f stream) (fun s e => (s.output f stream e).handedOut) init events).count id :=
    run_counts (J := fun _ => True)
      (f := fun s : BreakerSystem ι => s.processed.count id + s.waiting id)
      (fun _ _ _ => trivial) (fun s e _ => waiting_step f stream s e id) trivial events
  have hempty : (init : BreakerSystem ι).waiting id = 0 := total_eq_zero (fun _ => rfl)
  rw [hcounts, hempty, hdelivered, List.nil_append, Nat.zero_add]

/-- The triggers of a status that the instances show. -/
def triggers (s : BreakerSystem ι) (status : Nat) : Nat :=
  total (fun v : BreakerView => countOf v.2.breakerTrigger status) s.views

/-- The counters of the instances, and of those that were killed, count the handled entries. -/
lemma triggers_run (status : Nat) :
    let s := run (step f stream) init events
    s.triggers status + ((log (step f stream) (fun s e => (s.output f stream e).retired) init
        events).map (fun m => countOf m.breakerTrigger status)).sum =
      s.processed.countP (fun id => triggerStatus f stream id = some status) := by
  intro s
  have hprocessed : s.processed =
      [] ++ log (step f stream) (fun s e => (s.output f stream e).handled) init events :=
    run_record (r := fun s => s.processed) (processed_step f stream) init events
  have hcounts : s.triggers status + ((log (step f stream)
        (fun s e => (s.output f stream e).retired) init events).map
          (fun m => countOf m.breakerTrigger status)).sum =
      (init : BreakerSystem ι).triggers status + ((log (step f stream)
        (fun s e => (s.output f stream e).handled) init events).map
          (fun id => if triggerStatus f stream id = some status then 1 else 0)).sum :=
    run_accounts (J := fun _ => True) (f := fun s : BreakerSystem ι => s.triggers status)
      (fun _ _ _ => trivial)
      (fun s e _ => by
        rw [sum_map_indicator]
        exact account_step
          (fun v v' o (h : BreakerTurn f stream v v' o) => h.triggers status) s e)
      trivial events
  have hempty : (init : BreakerSystem ι).triggers status = 0 := total_eq_zero (fun _ => rfl)
  rw [hcounts, hempty, hprocessed, sum_map_indicator, List.nil_append, Nat.zero_add]

end Totals

end BreakerSystem

/-- In every run of any number of instances, no entry is handed out twice, and each entry that was
handed out is, exactly once, handled, waiting in the batch of one worker, or dropped for good; only
handled entries are acknowledged; and for each status the counters of the instances, those that were
killed included, add up to the handled entries that trigger it. -/
theorem entries_handled_once {ι : Type*} [DecidableEq ι] [Fintype ι] (f : WireFormat)
    (stream : Nat → Fields) (events : List (BreakerStep ι)) :
    let start : BreakerSystem ι := .init
    let s := run (BreakerSystem.step f stream) start events
    let dropped := log (BreakerSystem.step f stream)
      (fun s e => (s.output f stream e).dropped) start events
    let retired := log (BreakerSystem.step f stream)
      (fun s e => (s.output f stream e).retired) start events
    s.group.delivered.Nodup ∧
      (∀ id, s.processed.count id +
        ∑ i, (s.instances i).phase.rest.count id + dropped.count id =
          s.group.delivered.count id) ∧
      (∀ id ∈ s.group.delivered, id ∉ s.group.pending → id ∈ s.processed) ∧
      ∀ status, ∑ i, countOf (s.instances i).metrics.breakerTrigger status +
          (retired.map (fun m => countOf m.breakerTrigger status)).sum =
        s.processed.countP (fun id => triggerStatus f stream id = some status) := by
  intro start s dropped retired
  have hinv : s.EntriesInv := BreakerSystem.entriesInv_run events
  refine ⟨hinv.nodup, BreakerSystem.entries_run f stream events, fun id hid hsettled => ?_,
    BreakerSystem.triggers_run f stream events⟩
  exact (hinv.settled id hid).resolve_left hsettled

end IPProxyPool
