import IPProxyPool.Lib.RunLog
import IPProxyPool.Proofs.LandOnce
import IPProxyPool.Proofs.SinkRestarts
import IPProxyPool.Proofs.TelemetryBooks

/-!
# Rows and the events they come from

Whatever the gateways, Redis and the sinks do, a row in ClickHouse is the row of an event that some
`emit` was called with. The sinks run over the stream as it is in the end, since they only look at
entries that are there, so what is known of their runs holds on the whole path.
-/

namespace IPProxyPool
open AssocTable Transition

/-! ### The sinks -/

namespace SinkSystem

variable {f f' : WireFormat} {stream stream' : Nat → Fields} {s : SinkSystem}

/-- What the steps of a sink keep of a process. -/
structure KeptBySink (f : WireFormat) (stream : Nat → Fields) (Q : ChSinkWorker → Prop) : Prop where
  new : ∀ batchSize, Q (.new batchSize)
  newCycle : ∀ w, Q w → Q w.newCycle
  phase : ∀ w p, Q w → Q { w with phase := p }
  classify : ∀ isRedelivery id w, Q w → Q (w.classify f stream isRedelivery id)

section Kept

variable {Q : ChSinkWorker → Prop}

lemma forall_live_setWorker {t : SinkSystem} {name : String} {w : ChSinkWorker}
    (hs : ∀ v, t.Live v → Q v) (hw : Q w) : ∀ v, (t.setWorker name w).Live v → Q v := by
  intro v hv
  rcases live_setWorker hv with hold | rfl
  · exact hs v hold
  · exact hw

lemma forall_live_classifyFor (h : KeptBySink f stream Q) {t : SinkSystem}
    (hs : ∀ v, t.Live v → Q v) (name : String) (isRedelivery answered : Bool) (id : Nat) :
    ∀ v, (t.classifyFor f stream name isRedelivery answered id).Live v → Q v := by
  unfold classifyFor
  split
  · rename_i w hw
    split
    · exact forall_live_setWorker hs (h.classify _ _ w (hs w ⟨name, hw⟩))
    · exact hs
  · exact hs

lemma forall_live_goto (h : KeptBySink f stream Q) {t : SinkSystem} (hs : ∀ v, t.Live v → Q v)
    (name : String) (p : SinkPhase) : ∀ v, (t.goto name p).Live v → Q v := by
  unfold goto
  split
  · rename_i w hw
    exact forall_live_setWorker hs (h.phase w p (hs w ⟨name, hw⟩))
  · exact hs

lemma forall_live_inPhase {t : SinkSystem} (hs : ∀ v, t.Live v → Q v) {name : String}
    {p : SinkPhase} {k : ChSinkWorker → SinkSystem}
    (hk : ∀ w, t.workers.lookup name = some w → w.phase = p → ∀ v, (k w).Live v → Q v) :
    ∀ v, (t.inPhase name p k).Live v → Q v := by
  unfold inPhase
  split
  · rename_i w hw
    split
    · rename_i hp
      exact hk w hw hp
    · exact hs
  · exact hs

lemma KeptBySink.cleanNext (h : KeptBySink f stream Q) {w : ChSinkWorker} (hw : Q w)
    (victims : List String) : Q (w.cleanNext victims) := by
  unfold ChSinkWorker.cleanNext
  split
  · exact h.newCycle w hw
  · exact h.phase w _ hw

/-- What holds of every new process and is kept by what a sink does holds of every live process. -/
theorem forall_live_step (h : KeptBySink f stream Q) (hs : ∀ v, s.Live v → Q v)
    (e : SinkSystemEvent) : ∀ v, (s.step f stream e).Live v → Q v := by
  unfold step
  cases e with
  | append | trim | purge => exact hs
  | start name batchSize ok =>
    dsimp only
    unfold startWorker
    split
    · exact hs
    · exact forall_live_setWorker (t := { s with
        created := s.created || ok
        group := if ok && !s.created then s.group.seekEnd else s.group }) hs (h.new batchSize)
  | crash name =>
    rintro v ⟨name', hv⟩
    dsimp only at hv
    rw [lookup_erase_eq] at hv
    split at hv
    · cases hv
    · exact hs v ⟨name', hv⟩
  | xinfo name info =>
    exact forall_live_inPhase hs
      (fun w hw _ => forall_live_setWorker hs (h.cleanNext (hs w ⟨name, hw⟩) _))
  | delConsumer name ok =>
    dsimp only
    split
    · rename_i w hw
      have hnext : ∀ victims, Q (w.cleanNext victims) := h.cleanNext (hs w ⟨name, hw⟩)
      split
      · cases ok with
        | true => exact forall_live_setWorker hs (hnext _)
        | false => exact forall_live_setWorker hs (hnext _)
      · exact hs
    · exact hs
  | reclaim name ids answered =>
    refine forall_live_inPhase hs (fun w hw _ => forall_live_goto h ?_ _ _)
    refine run_invariant (J := fun t : SinkSystem => ∀ v, t.Live v → Q v) (fun t id ht => ?_) hs ids
    unfold reclaimOne
    split
    · exact forall_live_classifyFor h (t := { t with group := t.group.claim name id }) ht _ _ _ _
    · exact ht
  | read name count answered =>
    refine forall_live_inPhase hs (fun w hw _ => forall_live_goto h ?_ _ _)
    refine run_invariant (J := fun t : SinkSystem => ∀ v, t.Live v → Q v) (fun t id ht => ?_) hs _
    exact forall_live_classifyFor h (t := { t with group := t.group.deliver name id }) ht _ _ _ _
  | xackSkips name ok =>
    refine forall_live_inPhase hs (fun w hw _ => ?_)
    have hnext : Q w.afterSkips := by
      unfold ChSinkWorker.afterSkips
      split
      · exact h.newCycle w (hs w ⟨name, hw⟩)
      · exact h.phase w _ (hs w ⟨name, hw⟩)
    cases ok with
    | true => exact forall_live_setWorker hs hnext
    | false => exact forall_live_setWorker hs hnext
  | insert name stored answered =>
    refine forall_live_inPhase hs (fun w hw _ => ?_)
    have hnext : Q (w.afterInsert (stored && answered)) := by
      unfold ChSinkWorker.afterInsert
      split
      · exact h.phase w _ (hs w ⟨name, hw⟩)
      · exact h.newCycle w (hs w ⟨name, hw⟩)
    exact forall_live_setWorker (t := { s with
      landed := if stored then s.landed ++ w.cycle.validIds else s.landed }) hs hnext
  | xackValid name ok =>
    refine forall_live_inPhase hs (fun w hw _ => ?_)
    have hnext : Q w.newCycle := h.newCycle w (hs w ⟨name, hw⟩)
    cases ok with
    | true => exact forall_live_setWorker hs hnext
    | false => exact forall_live_setWorker hs hnext

end Kept

/-- A consumer can be deleted when all that is pending has landed. -/
lemma discardsSpare_of_landed (h : ∀ x ∈ s.group.pending.keys, x ∈ s.landed) (name : String) :
    s.DiscardsSpare f stream (.delConsumer name true) :=
  fun _ victim _ _ _ x hx => .inl (h x ((mem_iff_lookup _ _).mpr ⟨victim, hx⟩))

/-! ### Entries that are there -/

/-- The group has no new entries, and only entries of the stream become pending. -/
def Settles (g g' : ConsumerGroup.Group String) : Prop :=
  g'.added = g.added ∧ ∀ id ∈ g'.pending, id ∈ g.pending ∨ id < g.added

def PendingAdded (s : SinkSystem) : Prop := ∀ id ∈ s.group.pending, id < s.group.added

lemma settles_self (g : ConsumerGroup.Group String) : Settles g g := ⟨rfl, fun _ hid => .inl hid⟩

lemma Settles.trans {g g' g'' : ConsumerGroup.Group String} (h : Settles g g')
    (h' : Settles g' g'') : Settles g g'' := by
  refine ⟨h'.1.trans h.1, fun id hid => ?_⟩
  rcases h'.2 id hid with hmid | hlt
  · exact h.2 id hmid
  · exact .inr (h.1 ▸ hlt)

lemma settles_ack (g : ConsumerGroup.Group String) (ids : List Nat) : Settles g (g.ack ids) :=
  ⟨rfl, fun _ hid => .inl ((ConsumerGroup.Group.mem_pending_ack _ _ _).mp hid).1⟩

lemma settles_xack (ids : List Nat) (ok : Bool) (name : String) (w : ChSinkWorker) :
    Settles s.group ((if ok then s.xack ids else s).setWorker name w).group := by
  cases ok with
  | true => exact settles_ack s.group ids
  | false => exact settles_self s.group

lemma group_goto (t : SinkSystem) (name : String) (p : SinkPhase) :
    (t.goto name p).group = t.group := by
  unfold goto
  split <;> rfl

variable (f stream) in
lemma settles_reclaimOne (t : SinkSystem) (name : String) (answered : Bool) (id : Nat) :
    Settles t.group (t.reclaimOne f stream name answered id).group := by
  unfold reclaimOne
  split
  · rw [group_classifyFor]
    refine ⟨?_, fun id' hid => .inl ((ConsumerGroup.Group.mem_pending_claim _ _ _ _).mp hid)⟩
    unfold ConsumerGroup.Group.claim
    split <;> rfl
  · exact settles_self _

lemma settles_readOne (t : SinkSystem) (name : String) (answered : Bool) {id : Nat}
    (hid : id < t.group.added) : Settles t.group (t.readOne f stream name answered id).group := by
  unfold readOne
  rw [group_classifyFor]
  refine ⟨rfl, fun id' hmem => ?_⟩
  rcases (ConsumerGroup.Group.mem_pending_deliver _ _ _ _).mp hmem with rfl | hold
  · exact .inr hid
  · exact .inl hold

lemma settles_foldl {step : SinkSystem → Nat → SinkSystem} {ids : List Nat}
    (hstep : ∀ t, ∀ id ∈ ids, t.group.added = s.group.added → Settles t.group (step t id).group) :
    Settles s.group (ids.foldl step s).group := by
  have hall : ∀ t : SinkSystem, Settles s.group t.group →
      Settles s.group (ids.foldl step t).group := by
    induction ids with
    | nil => exact fun t ht => ht
    | cons id ids ih =>
      intro t ht
      exact ih (fun t id hid => hstep t id (List.mem_cons_of_mem _ hid)) _
        (ht.trans (hstep t id List.mem_cons_self ht.1))
  exact hall s (settles_self _)

lemma mem_readable_added {g : ConsumerGroup.Group String} {count id : Nat}
    (h : id ∈ g.readable count) : id < g.added :=
  List.mem_range.mp (List.mem_filter.mp (List.mem_of_mem_take h)).1

lemma mem_ids_of_read {count id : Nat}
    (h : id ∈ if s.created then s.group.readable count else []) : id < s.group.added := by
  split at h
  · exact mem_readable_added h
  · cases h

lemma settles_inPhase {name : String} {p : SinkPhase} {k : ChSinkWorker → SinkSystem}
    (hk : ∀ w, Settles s.group (k w).group) : Settles s.group (s.inPhase name p k).group := by
  unfold inPhase
  split
  · split
    · exact hk _
    · exact settles_self _
  · exact settles_self _

variable (f stream s) in
/-- Only an `XADD` adds entries, and nothing else is ever pending. -/
lemma settles_step (e : SinkSystemEvent) (he : e ≠ .append) :
    Settles s.group (s.step f stream e).group := by
  unfold step
  cases e with
  | append => exact absurd rfl he
  | trim n => exact settles_self _
  | purge ids =>
    exact ⟨rfl, fun _ hid => .inl ((ConsumerGroup.Group.mem_pending_purge _ _ _).mp hid).1⟩
  | start name batchSize ok =>
    dsimp only
    unfold startWorker
    split
    · exact settles_self _
    · dsimp only
      split
      · exact settles_self _
      · exact settles_self _
  | crash name => exact settles_self _
  | xinfo name info => exact settles_inPhase (fun w => settles_self _)
  | delConsumer name ok =>
    dsimp only
    split
    · split
      · cases ok with
        | true =>
          refine ⟨rfl, fun id hid => .inl ?_⟩
          obtain ⟨owner, hlook, -⟩ :=
            (ConsumerGroup.Group.mem_pending_delConsumer s.group _ id).mp hid
          exact (ConsumerGroup.Group.mem_pending_iff _ _).mpr ⟨owner, hlook⟩
        | false => exact settles_self _
      · exact settles_self _
    · exact settles_self _
  | reclaim name ids answered =>
    refine settles_inPhase (fun w => ?_)
    rw [group_goto]
    exact settles_foldl (fun t id _ _ => settles_reclaimOne f stream t name answered id)
  | read name count answered =>
    refine settles_inPhase (fun w => ?_)
    rw [group_goto]
    refine settles_foldl (fun t id hid hadded => settles_readOne t name answered ?_)
    rw [hadded]
    exact mem_ids_of_read hid
  | xackSkips name ok => exact settles_inPhase (fun w => settles_xack _ ok name _)
  | insert name stored answered => exact settles_inPhase (fun w => settles_self _)
  | xackValid name ok => exact settles_inPhase (fun w => settles_xack _ ok name _)

lemma pendingAdded_step (h : s.PendingAdded) (e : SinkSystemEvent) :
    (s.step f stream e).PendingAdded := by
  by_cases he : e = .append
  · subst he
    exact fun id hid => Nat.lt_succ_of_lt (h id hid)
  · obtain ⟨hadded, hpending⟩ := settles_step f stream s e he
    intro id hid
    rw [hadded]
    exact (hpending id hid).elim (h id) (fun hlt => hlt)

lemma classifyEntry_congr {fields fields' : Fields}
    (h : parseEntry f fields = parseEntry f' fields') (seen : SeenIds) (id : Nat)
    (cycle : SinkCycle) (rowsCap : Nat) (isRedelivery : Bool) :
    classifyEntry f seen id fields cycle rowsCap isRedelivery =
      classifyEntry f' seen id fields' cycle rowsCap isRedelivery := by
  unfold classifyEntry
  rw [h]

lemma classifyFor_congr (t : SinkSystem) (name : String) (isRedelivery answered : Bool) {id : Nat}
    (hid : parseEntry f (stream id) = parseEntry f' (stream' id)) :
    t.classifyFor f stream name isRedelivery answered id =
      t.classifyFor f' stream' name isRedelivery answered id := by
  unfold classifyFor ChSinkWorker.classify
  simp only [classifyEntry_congr hid]

/-- A step looks at what the entries that have been appended say, and at no others. -/
lemma step_congr
    (hstream : ∀ id < s.group.added, parseEntry f (stream id) = parseEntry f' (stream' id))
    (h : s.PendingAdded) (e : SinkSystemEvent) : s.step f stream e = s.step f' stream' e := by
  cases e with
  | reclaim name ids answered =>
    have hfold : ids.foldl (reclaimOne f stream name answered) s =
        ids.foldl (reclaimOne f' stream' name answered) s := by
      have hall : ∀ t : SinkSystem, t.PendingAdded → t.group.added = s.group.added →
          ids.foldl (reclaimOne f stream name answered) t =
            ids.foldl (reclaimOne f' stream' name answered) t := by
        induction ids with
        | nil => exact fun _ _ _ => rfl
        | cons id ids ih =>
          intro t ht hadded
          have hone : t.reclaimOne f stream name answered id =
              t.reclaimOne f' stream' name answered id := by
            unfold reclaimOne
            split
            · rename_i hclaim
              exact classifyFor_congr _ _ _ _ (hstream id (hadded ▸ ht id hclaim.1))
            · rfl
          obtain ⟨hadded', hpending⟩ := settles_reclaimOne f' stream' t name answered id
          rw [List.foldl_cons, List.foldl_cons, hone]
          refine ih _ (fun id' hid => ?_) (hadded'.trans hadded)
          rw [hadded']
          exact (hpending id' hid).elim (ht id') (fun hlt => hlt)
      exact hall s h rfl
    unfold step
    dsimp only
    rw [hfold]
  | read name count answered =>
    have hfold : (if s.created then s.group.readable count else []).foldl
          (readOne f stream name answered) s =
        (if s.created then s.group.readable count else []).foldl
          (readOne f' stream' name answered) s := by
      apply List.foldl_ext
      intro t id hid
      exact classifyFor_congr _ _ _ _ (hstream id (mem_ids_of_read hid))
    unfold step
    dsimp only
    rw [hfold]
  | append | trim | purge | start | crash | xinfo | delConsumer | xackSkips | insert | xackValid =>
    rfl

lemma run_congr (hstream : ∀ id, parseEntry f (stream id) = parseEntry f' (stream' id))
    (h : s.PendingAdded) (events : List SinkSystemEvent) :
    run (SinkSystem.step f stream) s events = run (SinkSystem.step f' stream') s events := by
  induction events generalizing s with
  | nil => rw [run_nil, run_nil]
  | cons e events ih =>
    rw [run_cons, run_cons, step_congr (fun id _ => hstream id) h e]
    exact ih (pendingAdded_step h e)

end SinkSystem

/-! ### The stream grows -/

namespace TelemetryPath
open SinkSystem

variable {c : Nat → TelemetryConfig} {serialize : TelemetryMessage → Option String}
  {f : WireFormat} {s : TelemetryPath}

lemma contentOf_append {stream : List XAdd} {id : Nat} (h : id < stream.length)
    (more : List XAdd) : contentOf (stream ++ more) id = contentOf stream id := by
  unfold contentOf
  rw [List.getElem?_append_left h]

lemma parseEntry_empty (f : WireFormat) : parseEntry f ∅ = none := rfl

/-- What the sink can read is an entry of the stream. -/
lemma exists_of_parseEntry {stream : List XAdd} {id : Nat} {r : TelemetryRow × String}
    (h : parseEntry f (contentOf stream id) = some r) :
    ∃ x, stream[id]? = some x ∧ parseEntry f x.toFields = some r := by
  unfold contentOf at h
  cases hx : stream[id]? with
  | none =>
    rw [hx, Option.map_none, Option.getD_none, parseEntry_empty] at h
    cases h
  | some x =>
    rw [hx] at h
    exact ⟨x, rfl, h⟩

/-- The rows of a process are those of the entries listed beside them. -/
def RowsOf (f : WireFormat) (stream : List XAdd) (w : ChSinkWorker) : Prop :=
  w.cycle.rows = w.cycle.validIds.filterMap (rowOf f (contentOf stream)) ∧
    ∀ id ∈ w.cycle.validIds, id < stream.length

lemma keptBySink_rowsOf (stream : List XAdd) :
    KeptBySink f (contentOf stream) (RowsOf f stream) where
  new _ := ⟨rfl, fun _ hid => absurd hid List.not_mem_nil⟩
  newCycle _ _ := ⟨rfl, fun _ hid => absurd hid List.not_mem_nil⟩
  phase _ _ h := h
  classify isRedelivery id w h := by
    rcases classify_cases f (contentOf stream) isRedelivery w id with
      ⟨-, hw⟩ | ⟨row, e, -, -, -, -, hw⟩ | ⟨row, e, seen, hparse, -, hw⟩
    · rw [hw]
      exact h
    · rw [hw]
      exact h
    · rw [hw]
      unfold RowsOf
      dsimp only
      rcases SinkCycle.admitRow_cases w.cycle row id w.rowsCap with hc | hc
      · rw [hc]
        simp only [SinkCycle.push, List.filterMap_append, h.1]
        refine ⟨by simp [rowOf, hparse], fun id' hid => ?_⟩
        rcases List.mem_append.mp hid with hold | hnew
        · exact h.2 id' hold
        · obtain ⟨x, hx, -⟩ := exists_of_parseEntry hparse
          rw [List.mem_singleton.mp hnew]
          exact (List.getElem?_eq_some_iff.mp hx).1
      · rw [hc]
        exact h

lemma filterMap_rowOf_append {stream : List XAdd} {ids : List Nat}
    (h : ∀ id ∈ ids, id < stream.length) (more : List XAdd) :
    ids.filterMap (rowOf f (contentOf (stream ++ more))) =
      ids.filterMap (rowOf f (contentOf stream)) := by
  apply List.filterMap_congr
  intro id hid
  unfold rowOf
  rw [contentOf_append (h id hid)]

lemma storing_live {t : SinkSystem} {e : SinkSystemEvent} {w : ChSinkWorker}
    (h : storing t e = some w) : t.Live w := by
  unfold storing at h
  split at h
  · exact ⟨_, (Option.filter_eq_some_iff.mp h).1⟩
  · cases h

lemma landed_inPhase {t : SinkSystem} {name : String} {p : SinkPhase}
    {k : ChSinkWorker → SinkSystem} (hk : ∀ w, (k w).landed = t.landed) :
    (t.inPhase name p k).landed = t.landed := by
  unfold inPhase
  split
  · split
    · exact hk _
    · rfl
  · rfl

lemma landed_goto (t : SinkSystem) (name : String) (p : SinkPhase) :
    (t.goto name p).landed = t.landed := by
  unfold goto
  split <;> rfl

lemma landed_classifyFor (t : SinkSystem) (stream : Nat → Fields) (name : String)
    (isRedelivery answered : Bool) (id : Nat) :
    (t.classifyFor f stream name isRedelivery answered id).landed = t.landed := by
  unfold classifyFor
  split
  · split <;> rfl
  · rfl

lemma landed_foldl {step : SinkSystem → Nat → SinkSystem}
    (hstep : ∀ t id, (step t id).landed = t.landed) (t : SinkSystem) (ids : List Nat) :
    (ids.foldl step t).landed = t.landed := by
  induction ids generalizing t with
  | nil => rfl
  | cons id ids ih => exact (ih _).trans (hstep t id)

lemma landed_xack (t : SinkSystem) (ids : List Nat) (ok : Bool) (name : String)
    (w : ChSinkWorker) : ((if ok then t.xack ids else t).setWorker name w).landed = t.landed := by
  cases ok <;> rfl

lemma landed_step (t : SinkSystem) (stream : Nat → Fields) (e : SinkSystemEvent) :
    (t.step f stream e).landed =
      t.landed ++ (storing t e).elim [] (fun w => w.cycle.validIds) := by
  cases e with
  | insert name stored answered =>
    unfold SinkSystem.step inPhase
    dsimp only
    cases hw : t.workers.lookup name with
    | none => cases stored <;> simp [storing, hw]
    | some w =>
      dsimp only
      by_cases hphase : w.phase = .inserting
      · cases stored <;> simp [storing, hw, hphase, Option.filter]
      · cases stored <;> simp [storing, hw, hphase, Option.filter]
  | append | trim | purge | crash => exact (List.append_nil _).symm
  | start name batchSize ok =>
    refine Eq.trans ?_ (List.append_nil _).symm
    unfold SinkSystem.step startWorker
    dsimp only
    split <;> rfl
  | xinfo name info =>
    refine Eq.trans ?_ (List.append_nil _).symm
    exact landed_inPhase (fun _ => rfl)
  | delConsumer name ok =>
    refine Eq.trans ?_ (List.append_nil _).symm
    unfold SinkSystem.step
    dsimp only
    split
    · split
      · cases ok <;> rfl
      · rfl
    · rfl
  | reclaim name ids answered =>
    refine Eq.trans (landed_inPhase (fun _ => ?_)) (List.append_nil _).symm
    rw [landed_goto]
    refine landed_foldl (fun t id => ?_) t ids
    unfold reclaimOne
    split
    · exact landed_classifyFor _ _ _ _ _ _
    · rfl
  | read name count answered =>
    refine Eq.trans (landed_inPhase (fun _ => ?_)) (List.append_nil _).symm
    rw [landed_goto]
    have hread : ∀ (t : SinkSystem) (id : Nat),
        (t.readOne f stream name answered id).landed = t.landed :=
      fun t id => landed_classifyFor { t with group := t.group.deliver name id } _ _ _ _ _
    exact landed_foldl hread t _
  | xackSkips name ok =>
    refine Eq.trans (landed_inPhase (fun _ => ?_)) (List.append_nil _).symm
    exact landed_xack t _ ok name _
  | xackValid name ok =>
    refine Eq.trans (landed_inPhase (fun _ => ?_)) (List.append_nil _).symm
    exact landed_xack t _ ok name _

/-- The sinks' group counts the entries, and the rows are those of the landed entries. -/
structure Matched (f : WireFormat) (s : TelemetryPath) : Prop where
  added : s.sinks.group.added = s.stream.length
  pending : s.sinks.PendingAdded
  workers : ∀ w, s.sinks.Live w → RowsOf f s.stream w
  rows : s.rows = s.sinks.landed.filterMap (rowOf f (contentOf s.stream))
  landed : ∀ id ∈ s.sinks.landed, id < s.stream.length

lemma matched_init : Matched f init where
  added := rfl
  pending _ hid := absurd hid (AList.notMem_empty _)
  workers w hw := by
    obtain ⟨name, hname⟩ := hw
    cases hname
  rows := rfl
  landed _ hid := absurd hid List.not_mem_nil

lemma run_appends {α : Type*} (t : SinkSystem) (stream : Nat → Fields) (l : List α) :
    run (SinkSystem.step f stream) t (l.map (fun _ => .append)) =
      { t with group := { t.group with added := t.group.added + l.length } } := by
  induction l generalizing t with
  | nil => rfl
  | cons x l ih =>
    rw [List.map_cons, run_cons, ih]
    simp only [SinkSystem.step, ConsumerGroup.Group.append, List.length_cons]
    rw [Nat.add_assoc, Nat.add_comm 1]

/-- The rows of the stored batch are those of its entries. -/
lemma Matched.rows_of_storing (h : s.Matched f) (e : SinkSystemEvent) :
    (storing s.sinks e).elim [] (fun w => w.cycle.rows) =
      ((storing s.sinks e).elim [] (fun w => w.cycle.validIds)).filterMap
        (rowOf f (contentOf s.stream)) := by
  cases hw : storing s.sinks e with
  | none => rfl
  | some w => exact (h.workers w (storing_live hw)).1

lemma step_sink {e : SinkSystemEvent} (he : e ≠ .append) : s.step c serialize f (.sink e) =
    { s with
      sinks := s.sinks.step f (contentOf s.stream) e
      rows := s.rows ++ (storing s.sinks e).elim [] (fun w => w.cycle.rows) } := by
  cases e with
  | append => exact absurd rfl he
  | _ => rfl

lemma matched_step (h : s.Matched f) (e : PathEvent) : (s.step c serialize f e).Matched f := by
  cases e with
  | start => exact ⟨h.added, h.pending, h.workers, h.rows, h.landed⟩
  | gateway i op =>
    unfold step
    dsimp only
    rw [run_appends]
    refine ⟨?_, fun id hid => ?_, fun w hw => ⟨?_, fun id hid => ?_⟩, ?_, fun id hid => ?_⟩
    · simp only [h.added, List.length_append]
    · exact Nat.lt_add_right _ (h.pending id hid)
    · have hold := h.workers w hw
      dsimp only
      rw [filterMap_rowOf_append hold.2]
      exact hold.1
    · rw [List.length_append]
      exact Nat.lt_add_right _ ((h.workers w hw).2 id hid)
    · dsimp only
      rw [filterMap_rowOf_append h.landed]
      exact h.rows
    · rw [List.length_append]
      exact Nat.lt_add_right _ (h.landed id hid)
  | sink e =>
    by_cases he : e = .append
    · subst he
      exact h
    · have hlanded := landed_step (f := f) s.sinks (contentOf s.stream) e
      rw [step_sink he]
      refine ⟨?_, pendingAdded_step h.pending e,
        forall_live_step (keptBySink_rowsOf s.stream) h.workers e, ?_, fun id hid => ?_⟩
      · exact (settles_step _ _ _ e he).1.trans h.added
      · dsimp only
        rw [hlanded, List.filterMap_append, h.rows, h.rows_of_storing]
      · dsimp only at hid
        rw [hlanded] at hid
        rcases List.mem_append.mp hid with hold | hnew
        · exact h.landed id hold
        · cases hw : storing s.sinks e with
          | none =>
            rw [hw] at hnew
            cases hnew
          | some w =>
            rw [hw] at hnew
            exact (h.workers w (storing_live hw)).2 id hnew

/-! ### The processes -/

section Modify

variable {α : Type*} {l : List α} {i : Nat} {a : α}

lemma mem_modify_cases (g : α → α) (ha : l[i]? = some a) {b : α} (h : b ∈ l.modify i g) :
    b = g a ∨ b ∈ l := by
  obtain ⟨j, hj⟩ := List.mem_iff_getElem?.mp h
  rw [List.getElem?_modify] at hj
  split at hj
  · rename_i hij
    rw [← hij, ha] at hj
    exact .inl (Option.some.inj hj).symm
  · rw [Option.map_eq_map, Option.map_id'] at hj
    exact .inr (List.mem_iff_getElem?.mpr ⟨j, hj⟩)

lemma mem_modify_of_mem (g : α → α) (ha : l[i]? = some a) {b : α} (h : b ∈ l) :
    b = a ∨ b ∈ l.modify i g := by
  obtain ⟨j, hj⟩ := List.mem_iff_getElem?.mp h
  by_cases hij : i = j
  · rw [← hij, ha] at hj
    exact .inl (Option.some.inj hj).symm
  · exact .inr (List.mem_iff_getElem?.mpr ⟨j, by rw [List.getElem?_modify_ne g l hij, hj]⟩)

lemma mem_modify_self (g : α → α) (ha : l[i]? = some a) : g a ∈ l.modify i g :=
  List.mem_iff_getElem?.mpr ⟨i, by rw [List.getElem?_modify_eq, ha]; rfl⟩

lemma sum_map_modify (w : α → Nat) (g : α → α) (ha : l[i]? = some a) :
    ((l.modify i g).map w).sum + w a = (l.map w).sum + w (g a) := by
  induction l generalizing i with
  | nil => cases ha
  | cons b l ih =>
    cases i with
    | zero =>
      obtain rfl := Option.some.inj ha
      simp only [List.modify_zero_cons, List.map_cons, List.sum_cons]
      omega
    | succ i =>
      have hrest := ih ha
      simp only [List.modify_succ_cons, List.map_cons, List.sum_cons]
      omega

end Modify

/-- The commands that go to the sinks' stream. -/
def toSinks (l : List XAdd) : List XAdd := l.filter (fun x => sinkStreams.contains x.streamKey)

variable (serialize) in
lemma appended_step (p : GatewayProcess) (c : TelemetryConfig) (op : ProcessOp) :
    (p.step c serialize op).appended = p.appended ++ if p.alive then p.taken op else [] := by
  unfold GatewayProcess.step
  split
  · cases op with
    | attempt => rfl
    | emit | countDropped | recv | tick | encode | kill => exact (List.append_nil _).symm
  · exact (List.append_nil _).symm

lemma appends_eq {i : Nat} {p : GatewayProcess} (hp : s.processes[i]? = some p) (op : ProcessOp) :
    s.appends i op = toSinks (if p.alive then p.taken op else []) := by
  unfold appends
  rw [hp]
  dsimp only
  split <;> rfl

/-- What the processes have appended is what the stream holds. -/
structure Sound (serialize : TelemetryMessage → Option String) (s : TelemetryPath) : Prop where
  booked : ∀ p ∈ s.processes, p.Booked serialize
  source : ∀ x ∈ s.stream, ∃ p ∈ s.processes, x ∈ p.appended
  copies : ∀ e, (s.stream.map XAdd.event).count e ≤
    (s.processes.map (fun p => (p.appended.map XAdd.event).count e)).sum
  appended : ∀ p ∈ s.processes, (toSinks p.appended).Sublist s.stream

lemma sound_init : Sound serialize init where
  booked _ hp := absurd hp List.not_mem_nil
  source _ hx := absurd hx List.not_mem_nil
  copies _ := le_rfl
  appended _ hp := absurd hp List.not_mem_nil

lemma sound_start (h : s.Sound serialize) : (s.step c serialize f .start).Sound serialize where
  booked p hp := by
    rcases List.mem_append.mp hp with hold | hnew
    · exact h.booked p hold
    · rw [List.mem_singleton.mp hnew]
      exact GatewayProcess.booked_new
  source x hx := by
    obtain ⟨p, hp, hmem⟩ := h.source x hx
    exact ⟨p, List.mem_append_left _ hp, hmem⟩
  copies e := by
    have hold := h.copies e
    change _ ≤ ((s.processes ++ [({} : GatewayProcess)]).map _).sum
    rw [List.map_append, List.sum_append]
    exact hold.trans (Nat.le_add_right _ _)
  appended p hp := by
    rcases List.mem_append.mp hp with hold | hnew
    · exact h.appended p hold
    · rw [List.mem_singleton.mp hnew]
      exact List.nil_sublist _

lemma sound_gateway (h : s.Sound serialize) (i : Nat) (op : ProcessOp) :
    (s.step c serialize f (.gateway i op)).Sound serialize := by
  cases hp : s.processes[i]? with
  | none =>
    have hprocesses : s.processes.modify i (fun p => p.step (c i) serialize op) = s.processes :=
      List.modify_eq_self (List.getElem?_eq_none_iff.mp hp)
    have happends : s.appends i op = [] := by
      unfold appends
      rw [hp]
    unfold step
    dsimp only
    rw [hprocesses, happends, List.append_nil]
    exact ⟨h.booked, h.source, h.copies, h.appended⟩
  | some p =>
    have hmem : p ∈ s.processes := List.mem_of_getElem? hp
    have happended := appended_step serialize p (c i) op
    unfold step
    dsimp only
    rw [appends_eq hp op]
    generalize (if p.alive then p.taken op else []) = taken at happended
    refine ⟨fun q hq => ?_, fun x hx => ?_, fun e => ?_, fun q hq => ?_⟩
    · rcases mem_modify_cases _ hp hq with rfl | hold
      · exact GatewayProcess.booked_step (h.booked p hmem) op
      · exact h.booked q hold
    · rcases List.mem_append.mp hx with hold | hnew
      · obtain ⟨q, hq, hx'⟩ := h.source x hold
        rcases mem_modify_of_mem (fun p => p.step (c i) serialize op) hp hq with rfl | hother
        · refine ⟨_, mem_modify_self _ hp, ?_⟩
          rw [happended]
          exact List.mem_append_left _ hx'
        · exact ⟨q, hother, hx'⟩
      · refine ⟨_, mem_modify_self _ hp, ?_⟩
        rw [happended]
        exact List.mem_append_right _ (List.mem_of_mem_filter hnew)
    · have hold := h.copies e
      have hsum := sum_map_modify (fun p : GatewayProcess => (p.appended.map XAdd.event).count e)
        (fun p => p.step (c i) serialize op) hp
      have hfilter : ((toSinks taken).map XAdd.event).count e ≤ (taken.map XAdd.event).count e :=
        ((List.filter_sublist).map XAdd.event).count_le e
      dsimp only at hsum ⊢
      rw [happended] at hsum
      simp only [List.map_append, List.count_append] at hsum ⊢
      omega
    · dsimp only
      rcases mem_modify_cases _ hp hq with rfl | hold
      · rw [happended]
        unfold toSinks
        rw [List.filter_append]
        exact (h.appended p hmem).append (List.Sublist.refl _)
      · exact (h.appended q hold).trans (List.sublist_append_left _ _)

lemma sound_step (h : s.Sound serialize) (e : PathEvent) :
    (s.step c serialize f e).Sound serialize := by
  cases e with
  | start => exact sound_start h
  | gateway i op => exact sound_gateway h i op
  | sink e => cases e <;> exact ⟨h.booked, h.source, h.copies, h.appended⟩

/-! ### Rows -/

/-- An `XADD` of an event that serialises carries it to the sink. -/
lemma parseEntry_toFields {x : XAdd} (hencoded : encodeEvent x.streamKey serialize x.event = some x)
    (hjson : ∀ e json, serialize e = some json → f.fromStr json = some e) :
    parseEntry f x.toFields = some (.ofMessage f x.event, x.event.eventId) := by
  obtain ⟨json, hserialize, hx⟩ := Option.map_eq_some_iff.mp hencoded
  have hpayload : fieldText x.toFields "payload" = some json := by
    unfold XAdd.toFields
    rw [← hx]
    unfold fieldText
    simp only [List.foldl_cons, List.foldl_nil]
    rw [AList.lookup_insert_ne (by decide), AList.lookup_insert_ne (by decide),
      AList.lookup_insert]
    exact stringFromUtf8_toByteArray json
  exact parseEntry_of_payload hpayload (hjson _ _ hserialize)

lemma Sound.encoded (h : s.Sound serialize) {x : XAdd} (hx : x ∈ s.stream) :
    encodeEvent x.streamKey serialize x.event = some x ∧
      ∃ p ∈ s.processes, x.event ∈ p.handed := by
  obtain ⟨p, hp, hmem⟩ := h.source x hx
  refine ⟨(h.booked p hp).encoded x (List.mem_append_left _ hmem), p, hp, ?_⟩
  have hcount : 0 < (p.appended.map XAdd.event).count x.event :=
    List.count_pos_iff.mpr (List.mem_map_of_mem hmem)
  have hcopies := (h.booked p hp).copies x.event
  exact List.count_pos_iff.mp (by omega)

/-- In every run, each row is the row of an event that some process was handed, each event handed to
a process is refused, held, given up or sent by it and by nothing else, what was sent to the sinks'
stream is in it, and no event has more than two entries for each time it was handed over. -/
theorem rows_are_handed_events (c : Nat → TelemetryConfig)
    (serialize : TelemetryMessage → Option String) (f : WireFormat)
    (hjson : ∀ e json, serialize e = some json → f.fromStr json = some e)
    (events : List PathEvent) :
    let s := run (step c serialize f) init events
    (∀ row ∈ s.rows, ∃ p ∈ s.processes, ∃ e ∈ p.handed, row = .ofMessage f e) ∧
      (∀ p ∈ s.processes, p.handed.Perm (p.refused ++ (p.bus.holding ++
        (p.bus.gaveUp ++ p.bus.confirmed.map XAdd.event)))) ∧
      (∀ p ∈ s.processes, (toSinks p.bus.confirmed).Sublist s.stream) ∧
      ∀ e, (s.stream.map XAdd.event).count e ≤
        2 * (s.processes.map (fun p => p.handed.count e)).sum := by
  intro s
  have hsound : s.Sound serialize :=
    run_invariant (J := Sound serialize) (fun _ e h => sound_step h e) sound_init events
  have hmatched : s.Matched f :=
    run_invariant (J := Matched f) (fun _ e h => matched_step h e) matched_init events
  refine ⟨fun row hrow => ?_, fun p hp => ?_, fun p hp => ?_, fun e => ?_⟩
  · rw [hmatched.rows] at hrow
    obtain ⟨id, -, hid⟩ := List.mem_filterMap.mp hrow
    obtain ⟨r, hparse, rfl⟩ := Option.map_eq_some_iff.mp hid
    obtain ⟨x, hx, hfields⟩ := exists_of_parseEntry hparse
    obtain ⟨hencoded, p, hp, hhanded⟩ := hsound.encoded (List.mem_of_getElem? hx)
    rw [parseEntry_toFields hencoded hjson] at hfields
    exact ⟨p, hp, x.event, hhanded, congrArg Prod.fst (Option.some.inj hfields).symm⟩
  · rw [List.perm_iff_count]
    intro e
    rw [(hsound.booked p hp).balance e]
    unfold TelemetryState.tally TelemetryState.tallyWith TelemetryState.holding
    simp only [List.count_append]
    omega
  · exact ((hsound.booked p hp).confirmed.filter _).trans (hsound.appended p hp)
  · refine (hsound.copies e).trans ?_
    rw [← List.sum_map_mul_left]
    refine List.sum_le_sum (fun p hp => ?_)
    exact (Nat.le_add_right _ _).trans ((hsound.booked p hp).copies e)

/-! ### What the sinks have seen -/

/-- What a step of the path is to the sinks. -/
def sinkOps (s : TelemetryPath) : PathEvent → List SinkSystemEvent
  | .start => []
  | .gateway i op => (s.appends i op).map (fun _ => .append)
  | .sink .append => []
  | .sink e => [e]

lemma prefix_step (s : TelemetryPath) (e : PathEvent) :
    s.stream <+: (s.step c serialize f e).stream := by
  cases e with
  | start => exact List.prefix_refl _
  | gateway i op => exact List.prefix_append _ _
  | sink e => cases e <;> exact List.prefix_refl _

lemma prefix_run (s : TelemetryPath) (events : List PathEvent) :
    s.stream <+: (run (step c serialize f) s events).stream :=
  run_invariant (J := fun t : TelemetryPath => s.stream <+: t.stream)
    (fun t e h => h.trans (prefix_step t e)) (List.prefix_refl _) events

lemma contentOf_extends {stream stream' : List XAdd} (h : stream <+: stream') {id : Nat}
    (hid : id < stream.length) : contentOf stream id = contentOf stream' id := by
  obtain ⟨more, rfl⟩ := h
  exact (contentOf_append hid more).symm

/-- The sinks of a step run over any stream that continues the present one. -/
lemma sinks_step (h : s.Matched f) {stream : List XAdd} (hstream : s.stream <+: stream)
    (e : PathEvent) : (s.step c serialize f e).sinks =
      run (SinkSystem.step f (contentOf stream)) s.sinks (s.sinkOps e) := by
  have hstep : ∀ e, s.sinks.step f (contentOf s.stream) e =
      s.sinks.step f (contentOf stream) e :=
    step_congr (fun id hid => congrArg (parseEntry f)
      (contentOf_extends hstream (h.added ▸ hid))) h.pending
  cases e with
  | start => rfl
  | gateway i op =>
    unfold step sinkOps
    dsimp only
    rw [run_appends, run_appends]
  | sink e =>
    by_cases he : e = .append
    · subst he
      rfl
    · have hops : s.sinkOps (.sink e) = [e] := by
        cases e with
        | append => exact absurd rfl he
        | _ => rfl
      rw [step_sink he, hops]
      exact hstep e

/-- The sinks have run over the stream as it is in the end. -/
theorem sinks_run (h : s.Matched f) (events : List PathEvent) :
    (run (step c serialize f) s events).sinks =
      run (SinkSystem.step f (contentOf (run (step c serialize f) s events).stream)) s.sinks
        (log (step c serialize f) sinkOps s events) := by
  have hall : ∀ stream : List XAdd, (run (step c serialize f) s events).stream <+: stream →
      (run (step c serialize f) s events).sinks =
        run (SinkSystem.step f (contentOf stream)) s.sinks
          (log (step c serialize f) sinkOps s events) := by
    intro stream
    induction events generalizing s with
    | nil => exact fun _ => rfl
    | cons e events ih =>
      intro hstream
      have hhere : s.stream <+: stream := (prefix_run s (e :: events)).trans hstream
      rw [run_cons, log_cons, run_append, ← sinks_step h hhere]
      exact ih (matched_step h e) hstream
  exact hall _ (List.prefix_refl _)

/-- Where Redis discards no pending entry that is still needed and no two events share an id, every
entry that was delivered to a sink has its row in ClickHouse, or the event is still pending. -/
theorem delivered_events_land (c : Nat → TelemetryConfig)
    (serialize : TelemetryMessage → Option String) (f : WireFormat)
    (hjson : ∀ e json, serialize e = some json → f.fromStr json = some e)
    (events : List PathEvent)
    (hspare : Along (SinkSystem.step f (contentOf (run (step c serialize f) init events).stream))
      (DiscardsSpare f (contentOf (run (step c serialize f) init events).stream)) .init
      (log (step c serialize f) sinkOps init events))
    (hids : ∀ p ∈ (run (step c serialize f) init events).processes,
      ∀ q ∈ (run (step c serialize f) init events).processes, ∀ e ∈ p.handed, ∀ e' ∈ q.handed,
        e.eventId = e'.eventId → e = e') :
    let s := run (step c serialize f) init events
    ∀ id x, s.stream[id]? = some x → id ∈ s.sinks.group.delivered → s.sinks.group.trimmed ≤ id →
      .ofMessage f x.event ∈ s.rows ∨
        ∃ id' y, s.stream[id']? = some y ∧ y.event = x.event ∧ id' ∈ s.sinks.group.pending := by
  intro s id x hx hdelivered htrimmed
  have hsound : s.Sound serialize :=
    run_invariant (J := Sound serialize) (fun _ e h => sound_step h e) sound_init events
  have hmatched : s.Matched f :=
    run_invariant (J := Matched f) (fun _ e h => matched_step h e) matched_init events
  have hsinks : s.sinks = run (SinkSystem.step f (contentOf s.stream)) .init
      (log (step c serialize f) sinkOps init events) := sinks_run matched_init events
  have hlost : s.sinks.NothingLost f (contentOf s.stream) := by
    rw [hsinks]
    exact (run_of_along restartInv_step restartInv_init hspare).nothingLost
  have hparse : ∀ (id : Nat) (x : XAdd), s.stream[id]? = some x →
      parseEntry f (contentOf s.stream id) = some (.ofMessage f x.event, x.event.eventId) := by
    intro id x hx
    unfold contentOf
    rw [hx]
    exact parseEntry_toFields (hsound.encoded (List.mem_of_getElem? hx)).1 hjson
  have hrow : ∀ (id : Nat) (x : XAdd), s.stream[id]? = some x → id ∈ s.sinks.landed →
      .ofMessage f x.event ∈ s.rows := by
    intro id x hx hlanded
    rw [hmatched.rows]
    refine List.mem_filterMap.mpr ⟨id, hlanded, ?_⟩
    unfold rowOf
    rw [hparse id x hx]
    rfl
  rcases hlost id hdelivered htrimmed with
    hlanded | ⟨-, hpoison | ⟨eventId, -, hid, id', hid', hkept⟩⟩ | hclaim
  · exact .inl (hrow id x hx hlanded)
  · rw [hparse id x hx] at hpoison
    cases hpoison
  · obtain ⟨y, hy⟩ : ∃ y, s.stream[id']? = some y := by
      obtain ⟨r, hr, -⟩ := Option.map_eq_some_iff.mp hid'
      obtain ⟨y, hy, -⟩ := exists_of_parseEntry hr
      exact ⟨y, hy⟩
    have hsame : y.event = x.event := by
      obtain ⟨-, p, hp, hxp⟩ := hsound.encoded (List.mem_of_getElem? hx)
      obtain ⟨-, q, hq, hyq⟩ := hsound.encoded (List.mem_of_getElem? hy)
      unfold eventIdOf at hid hid'
      rw [hparse id x hx] at hid
      rw [hparse id' y hy] at hid'
      refine hids q hq p hp _ hyq _ hxp ?_
      exact Option.some.inj (hid'.trans hid.symm)
    rcases hkept with hlanded | hpending
    · exact .inl (hsame ▸ hrow id' y hy hlanded)
    · exact .inr ⟨id', y, hy, hsame, hpending⟩
  · exact .inr ⟨id, x, hx, rfl, hclaim.1⟩

/-! ### A concrete path -/

def oneShard : TelemetryConfig where
  capacity := 10
  batchSize := 1
  streamShards := 1
  pid := 7
  hash _ := 0

/-- What follows `sampleMessage`. -/
def secondMessage : TelemetryMessage := { sampleMessage with eventId := "1700000000000-7-2" }

def secondPayload : String :=
  "\x7b\"event_id\":\"1700000000000-7-2\",\"trace_id\":\"\",\"client_ip\":\"5.6.7.8\"," ++
  "\"target_domain\":\"a.com\",\"out_ip\":\"1.2.3.4\",\"provider\":\"p\",\"tier\":\"isp\"," ++
  "\"country\":\"US\",\"status_code\":200,\"latency_ms\":10,\"transferred_bytes\":20," ++
  "\"retry_count\":0,\"tenant_id\":null,\"error_type\":null,\"timestamp\":1700000000000\x7d"

def sampleSerialize (e : TelemetryMessage) : Option String :=
  if e = sampleMessage then some samplePayload
  else if e = secondMessage then some secondPayload
  else none

def pairFormat : WireFormat where
  fromStr s :=
    if s = samplePayload then some sampleMessage
    else if s = secondPayload then some secondMessage
    else none
  fromTimestampMillis n := some n

lemma sampleSerialize_fromStr (e : TelemetryMessage) (json : String)
    (h : sampleSerialize e = some json) : pairFormat.fromStr json = some e := by
  have hpayloads : secondPayload ≠ samplePayload := by decide +kernel
  unfold sampleSerialize at h
  unfold pairFormat
  dsimp only
  split at h
  · rename_i he
    obtain rfl := Option.some.inj h
    rw [if_pos rfl, he]
  · split at h
    · rename_i he
      obtain rfl := Option.some.inj h
      rw [if_neg hpayloads, if_pos rfl, he]
    · cases h

/-- Two events on their way. Redis stores the second pipe and reports an error, so it is sent again.
The first sink reads an entry, fails to insert it and crashes; the second claims it back, stores it
with the next entry and crashes before it acknowledges them; the third deletes both consumers. -/
def sampleWay : List PathEvent :=
  [.start, .sink (.start "sink_1" 1 true), .sink (.xinfo "sink_1" (some [])),
    .gateway 0 (.emit sampleMessage 0), .gateway 0 (.emit secondMessage 0),
    .gateway 0 .recv, .gateway 0 .encode, .gateway 0 (.attempt [] true 0),
    .gateway 0 .recv, .gateway 0 .encode, .gateway 0 (.attempt [true] false 0),
    .gateway 0 (.attempt [] true 0),
    .sink (.reclaim "sink_1" [] true), .sink (.read "sink_1" 1 true),
    .sink (.xackSkips "sink_1" true), .sink (.insert "sink_1" false true), .sink (.crash "sink_1"),
    .sink (.start "sink_2" 1 true), .sink (.xinfo "sink_2" (some [⟨"sink_1", 60000⟩])),
    .sink (.reclaim "sink_2" [0] true), .sink (.read "sink_2" 1 true),
    .sink (.xackSkips "sink_2" true), .sink (.insert "sink_2" true true), .sink (.crash "sink_2"),
    .sink (.start "sink_3" 1 true),
    .sink (.xinfo "sink_3" (some [⟨"sink_1", 120001⟩, ⟨"sink_2", 60001⟩])),
    .sink (.delConsumer "sink_3" true), .sink (.delConsumer "sink_3" true),
    .sink (.reclaim "sink_3" [] true), .sink (.read "sink_3" 1 true),
    .sink (.xackSkips "sink_3" true), .sink (.insert "sink_3" true true),
    .sink (.xackValid "sink_3" true)]

/-- The entry of an event whose domain and status are those of `sampleMessage`. -/
def carries (event : TelemetryMessage) (json : String) : XAdd where
  streamKey := streamKey
  fields := [("payload", json), ("domain", "a.com"), ("status", "200")]
  event := event

/-- The steps of the sinks until the third deletes the others. -/
def sampleStarts : List SinkSystemEvent :=
  [.start "sink_1" 1 true, .xinfo "sink_1" (some []), .append, .append, .append,
    .reclaim "sink_1" [] true, .read "sink_1" 1 true, .xackSkips "sink_1" true,
    .insert "sink_1" false true, .crash "sink_1", .start "sink_2" 1 true,
    .xinfo "sink_2" (some [⟨"sink_1", 60000⟩]), .reclaim "sink_2" [0] true,
    .read "sink_2" 1 true, .xackSkips "sink_2" true, .insert "sink_2" true true,
    .crash "sink_2", .start "sink_3" 1 true,
    .xinfo "sink_3" (some [⟨"sink_1", 120001⟩, ⟨"sink_2", 60001⟩])]

lemma sampleWay_log : log (step (fun _ => oneShard) sampleSerialize pairFormat) sinkOps init
    sampleWay = sampleStarts ++ [.delConsumer "sink_3" true, .delConsumer "sink_3" true,
      .reclaim "sink_3" [] true, .read "sink_3" 1 true, .xackSkips "sink_3" true,
      .insert "sink_3" true true, .xackValid "sink_3" true] := by
  rfl

lemma sampleWay_stream :
    (run (step (fun _ => oneShard) sampleSerialize pairFormat) init sampleWay).stream =
      [carries sampleMessage samplePayload, carries secondMessage secondPayload,
        carries secondMessage secondPayload] := by
  rfl

/-- The same entries with short payloads. -/
def shortFormat : WireFormat where
  fromStr s :=
    if s = "1" then some sampleMessage
    else if s = "2" then some secondMessage
    else none
  fromTimestampMillis n := some n

def shortStream (id : Nat) : Fields :=
  match id with
  | 0 => (∅ : Fields).insert "payload" (.bulkString "1".toByteArray.data.toList)
  | 1 | 2 => (∅ : Fields).insert "payload" (.bulkString "2".toByteArray.data.toList)
  | _ => ∅

lemma parseEntry_carries (event : TelemetryMessage) (json : String)
    (h : encodeEvent streamKey sampleSerialize event = some (carries event json)) :
    parseEntry pairFormat (carries event json).toFields =
      some (.ofMessage pairFormat event, event.eventId) :=
  parseEntry_toFields h sampleSerialize_fromStr

lemma parseEntry_shortStream (id : Nat) :
    parseEntry pairFormat (contentOf [carries sampleMessage samplePayload,
      carries secondMessage secondPayload, carries secondMessage secondPayload] id) =
        parseEntry shortFormat (shortStream id) := by
  match id with
  | 0 =>
    exact (parseEntry_carries sampleMessage samplePayload rfl).trans
      (parseEntry_of_payload (f := shortFormat) (fieldText_payload "1") rfl).symm
  | 1 | 2 =>
    exact (parseEntry_carries secondMessage secondPayload rfl).trans
      (parseEntry_of_payload (f := shortFormat) (fieldText_payload "2") rfl).symm
  | id + 3 => rfl

/-- When the consumers are deleted, all that is pending has landed. -/
lemma sampleStarts_landed : ∀ ops ∈ [sampleStarts, sampleStarts ++ [.delConsumer "sink_3" true]],
    ∀ x ∈ (run (SinkSystem.step shortFormat shortStream) .init ops).group.pending.keys,
      x ∈ (run (SinkSystem.step shortFormat shortStream) .init ops).landed := by
  decide +kernel

lemma sampleWay_handed : (run (step (fun _ => oneShard) sampleSerialize pairFormat) init
    sampleWay).processes.map GatewayProcess.handed = [[sampleMessage, secondMessage]] := by
  rfl

theorem sampleWay_rows :
    let s := run (step (fun _ => oneShard) sampleSerialize pairFormat) init sampleWay
    (∀ row ∈ s.rows, ∃ p ∈ s.processes, ∃ e ∈ p.handed, row = .ofMessage pairFormat e) ∧
      (∀ p ∈ s.processes, p.handed.Perm (p.refused ++ (p.bus.holding ++
        (p.bus.gaveUp ++ p.bus.confirmed.map XAdd.event)))) ∧
      (∀ p ∈ s.processes, (toSinks p.bus.confirmed).Sublist s.stream) ∧
      ∀ e, (s.stream.map XAdd.event).count e ≤
        2 * (s.processes.map (fun p => p.handed.count e)).sum :=
  rows_are_handed_events _ _ _ sampleSerialize_fromStr sampleWay

theorem sampleWay_lands :
    let s := run (step (fun _ => oneShard) sampleSerialize pairFormat) init sampleWay
    ∀ id x, s.stream[id]? = some x → id ∈ s.sinks.group.delivered → s.sinks.group.trimmed ≤ id →
      .ofMessage pairFormat x.event ∈ s.rows ∨
        ∃ id' y, s.stream[id']? = some y ∧ y.event = x.event ∧ id' ∈ s.sinks.group.pending :=
  delivered_events_land _ _ _ sampleSerialize_fromStr sampleWay
    (by
      rw [sampleWay_log, sampleWay_stream, along_append]
      have hrun := run_congr (s := .init) parseEntry_shortStream
        (fun id hid => absurd hid (AList.notMem_empty id))
      have hfirst := sampleStarts_landed _ List.mem_cons_self
      have hsecond := sampleStarts_landed _ (List.mem_cons_of_mem _ List.mem_cons_self)
      rw [← hrun] at hfirst hsecond
      rw [run_append, run_cons, run_nil] at hsecond
      exact ⟨⟨trivial, trivial, trivial, trivial, trivial, trivial, trivial, trivial, trivial,
        trivial, trivial, trivial, trivial, trivial, trivial, trivial, trivial, trivial, trivial,
        trivial⟩, discardsSpare_of_landed hfirst "sink_3", discardsSpare_of_landed hsecond "sink_3",
        trivial, trivial, trivial, trivial, trivial, trivial⟩)
    (by
      intro p hp q hq e he e' he' hid
      have hhanded : ∀ p ∈ (run (step (fun _ => oneShard) sampleSerialize pairFormat) init
          sampleWay).processes, p.handed = [sampleMessage, secondMessage] := by
        intro p hp
        have hmem := List.mem_map_of_mem (f := GatewayProcess.handed) hp
        rw [sampleWay_handed] at hmem
        exact List.mem_singleton.mp hmem
      rw [hhanded p hp] at he
      rw [hhanded q hq] at he'
      revert e e'
      decide)

end TelemetryPath

end IPProxyPool
