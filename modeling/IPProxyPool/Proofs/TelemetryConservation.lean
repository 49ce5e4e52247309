import IPProxyPool.Model.Telemetry

/-!
# Conservation of telemetry events

Every event that was emitted is in exactly one place: lost at the channel, waiting in it, held by
the worker, counted as dropped by a flush, or in a pipe that was reported as sent. The events a
flush still has to settle are counted with the buffer that it emptied.
-/

namespace IPProxyPool
open Transition

def FlushRecord.written (r : FlushRecord) : List TelemetryMessage :=
  r.pipes.flatten.map XAdd.event

/-- Each event of the batch was counted as dropped once or is in one of the sent pipes. -/
def FlushRecord.Settled (r : FlushRecord) : Prop := r.batch.Perm (r.dropped ++ r.written)

def eventsOf (todo : List (Nat × List TelemetryMessage)) : List TelemetryMessage :=
  todo.flatMap Prod.snd

/-! ### Batches -/

lemma length_fillEventIds (n : Nat) (events : List TelemetryMessage) :
    (fillEventIds n events).2.length = events.length := by
  induction events generalizing n with
  | nil => rfl
  | cons event events ih =>
    unfold fillEventIds
    split
    · simp [ih]
    · simp [ih]

lemma flatten_modify_perm {α : Type*} (x : α) (acc : List (List α)) (i : Nat)
    (h : i < acc.length) : (acc.modify i (· ++ [x])).flatten.Perm (x :: acc.flatten) := by
  induction acc generalizing i with
  | nil => simp at h
  | cons l acc ih =>
    cases i with
    | zero =>
      simp only [List.modify_zero_cons, List.flatten_cons, List.append_assoc]
      exact List.perm_middle
    | succ i =>
      simp only [List.modify_succ_cons, List.flatten_cons]
      have hi : i < acc.length := by simpa using h
      exact ((ih i hi).append_left l).trans List.perm_middle

lemma shardForDomain_lt (s : RedisStreamSharder) (hash : String → Nat) (domain : String) :
    s.shardForDomain hash domain < s.shards :=
  Nat.mod_lt _ s.shards_pos

lemma shardBatches_spec (s : RedisStreamSharder) (hash : String → Nat)
    (batch : List TelemetryMessage) :
    (shardBatches s hash batch).length = s.shards ∧
      (shardBatches s hash batch).flatten.Perm batch := by
  have hfold : ∀ (batch : List TelemetryMessage) (acc : List (List TelemetryMessage)),
      acc.length = s.shards →
      let out := batch.foldl (fun acc event =>
        acc.modify (s.shardForDomain hash event.targetDomain) (· ++ [event])) acc
      out.length = s.shards ∧ out.flatten.Perm (batch ++ acc.flatten) := by
    intro batch
    induction batch with
    | nil => intro acc hacc; exact ⟨hacc, List.Perm.refl _⟩
    | cons event batch ih =>
      intro acc hacc
      obtain ⟨hlen, hperm⟩ := ih (acc.modify (s.shardForDomain hash event.targetDomain)
        (· ++ [event])) (by simpa using hacc)
      refine ⟨hlen, hperm.trans ?_⟩
      have hlt : s.shardForDomain hash event.targetDomain < acc.length := by
        rw [hacc]
        exact shardForDomain_lt s hash _
      exact ((flatten_modify_perm event acc _ hlt).append_left batch).trans List.perm_middle
  obtain ⟨hlen, hperm⟩ := hfold batch (List.replicate s.shards []) (by simp)
  refine ⟨hlen, ?_⟩
  have hnil : (List.replicate s.shards ([] : List TelemetryMessage)).flatten = [] := by simp
  rwa [hnil, List.append_nil] at hperm

lemma eventsOf_zip_perm (s : RedisStreamSharder) (hash : String → Nat)
    (batch : List TelemetryMessage) :
    (eventsOf ((List.range s.shards).zip (shardBatches s hash batch))).Perm batch := by
  obtain ⟨hlen, hperm⟩ := shardBatches_spec s hash batch
  have hsnd : ((List.range s.shards).zip (shardBatches s hash batch)).map Prod.snd =
      shardBatches s hash batch := List.map_snd_zip (by simp [hlen])
  unfold eventsOf
  rw [List.flatMap_def, hsnd]
  exact hperm

/-- What serialises is in the pipe, the rest is counted as dropped. -/
lemma encodeBatch_perm (batch : List TelemetryMessage) (key : String)
    (serialize : TelemetryMessage → Option String) :
    batch.Perm (batch.filter (fun event => (serialize event).isNone) ++
      (encodeBatch batch key serialize).map XAdd.event) := by
  induction batch with
  | nil => exact List.Perm.refl _
  | cons event batch ih =>
    cases hs : serialize event with
    | none => simpa [encodeBatch, encodeEvent, hs] using ih
    | some json =>
      have hcons := (ih.cons event).trans List.perm_middle.symm
      simpa [encodeBatch, encodeEvent, hs] using hcons

namespace TelemetryState

/-- The events that the running flush has not settled. -/
def unsettled (s : TelemetryState) : List TelemetryMessage :=
  match s.phase with
  | .idle => []
  | .encoding todo => eventsOf todo
  | .sending pipe _ todo => pipe.map XAdd.event ++ eventsOf todo

/-- The events in the hands of the worker; between two flushes, those in its buffer. -/
def inBuffer (s : TelemetryState) : Nat := s.buffer.length + s.unsettled.length

/-- The events in pipes that were reported as sent. -/
def written (s : TelemetryState) : Nat :=
  (s.completed.map (fun r => r.written.length)).sum + s.current.written.length

/-- The books of a state whose running flush has `rest` left to settle. -/
structure Ledger (s : TelemetryState) (rest : List TelemetryMessage) : Prop where
  batch_perm : s.current.batch.Perm (rest ++ (s.current.dropped ++ s.current.written))
  records : ∀ r ∈ s.completed, r.Settled
  dropped_eq : s.flushDropped =
    (s.completed.map (fun r => r.dropped.length)).sum + s.current.dropped.length
  count : s.emitted = s.channelDropped + s.channel.length + (s.buffer.length + rest.length) +
    s.flushDropped + s.written

structure Conserved (s : TelemetryState) : Prop where
  ledger : s.Ledger s.unsettled
  idle : s.phase = .idle → s.current = {}
  running : s.phase ≠ .idle → s.buffer = []

/-- The buffer that the operation hands to `flush`: at a tick the buffer as it is, and with an event
received the buffer that it fills. -/
def flushing (c : TelemetryConfig) (s : TelemetryState) :
    TelemetryOp → Option (List TelemetryMessage)
  | .tick => some s.buffer
  | .recv =>
    match s.channel with
    | [] => none
    | event :: _ =>
      if c.batchSize ≤ (s.buffer ++ [event]).length then some (s.buffer ++ [event]) else none
  | _ => none

/-- A flush takes all of the buffer, as the batch that it then has to settle, and leaves it empty;
nothing of the batch is dropped or written yet. -/
def FlushStarts (c : TelemetryConfig) (s : TelemetryState) (op : TelemetryOp) : Prop :=
  s.phase = .idle → ∀ filled, s.flushing c op = some filled →
    (s.step c op).buffer = [] ∧ (s.step c op).completed = s.completed ∧
      (filled ≠ [] → (s.step c op).phase ≠ .idle ∧
        (s.step c op).current = { batch := (fillEventIds s.fallbackSeq filled).2 })

/-- A flush that returns has emptied its buffer and settled its batch. -/
def FlushReturns (c : TelemetryConfig) (s : TelemetryState) (op : TelemetryOp) : Prop :=
  s.phase ≠ .idle → (s.step c op).phase = .idle →
    (s.step c op).buffer = [] ∧ ∃ r, (s.step c op).completed = s.completed ++ [r] ∧
      r.batch = s.current.batch ∧ r.Settled

variable {c : TelemetryConfig} {s : TelemetryState} {rest : List TelemetryMessage}
  {todo : List (Nat × List TelemetryMessage)} {pipe : List XAdd}

lemma Ledger.perm {rest' : List TelemetryMessage} (h : s.Ledger rest) (hp : rest.Perm rest') :
    s.Ledger rest' := by
  refine ⟨h.batch_perm.trans (hp.append_right _), h.records, h.dropped_eq, ?_⟩
  rw [← hp.length_eq]
  exact h.count

lemma Ledger.drop {events : List TelemetryMessage} (h : s.Ledger (events ++ rest)) :
    (s.drop events).Ledger rest := by
  refine ⟨?_, h.records, ?_, ?_⟩
  · refine h.batch_perm.trans ?_
    change (events ++ rest ++ (s.current.dropped ++ s.current.written)).Perm
      (rest ++ (s.current.dropped ++ events ++ s.current.written))
    rw [List.append_assoc]
    refine List.perm_append_comm_assoc events rest _ |>.trans ?_
    rw [List.append_assoc]
    exact (List.perm_append_comm_assoc events s.current.dropped _).append_left rest
  · have heq := h.dropped_eq
    simp only [TelemetryState.drop, List.length_append]
    omega
  · have heq := h.count
    have hw : (s.drop events).written = s.written := rfl
    rw [hw]
    simp only [TelemetryState.drop, List.length_append] at heq ⊢
    omega

lemma written_landPipe (s : TelemetryState) (pipe : List XAdd) :
    (s.landPipe pipe).current.written = s.current.written ++ pipe.map XAdd.event := by
  simp [landPipe, FlushRecord.written]

lemma Ledger.landPipe (h : s.Ledger (pipe.map XAdd.event ++ rest)) :
    (s.landPipe pipe).Ledger rest := by
  refine ⟨?_, h.records, h.dropped_eq, ?_⟩
  · rw [written_landPipe]
    refine h.batch_perm.trans ?_
    change (pipe.map XAdd.event ++ rest ++ (s.current.dropped ++ s.current.written)).Perm
      (rest ++ (s.current.dropped ++ (s.current.written ++ pipe.map XAdd.event)))
    rw [List.append_assoc]
    refine List.perm_append_comm.trans ?_
    simp only [List.append_assoc]
    exact List.Perm.refl _
  · have heq := h.count
    have hw : (s.landPipe pipe).written = s.written + pipe.length := by
      unfold TelemetryState.written
      rw [written_landPipe, List.length_append, List.length_map]
      exact (Nat.add_assoc _ _ _).symm
    rw [hw]
    simp only [TelemetryState.landPipe, List.length_append, List.length_map] at heq ⊢
    omega

/-- The end of an iteration; after the last shard the flush returns with its batch settled. -/
lemma Ledger.nextShard (h : s.Ledger (eventsOf todo)) (hb : s.buffer = []) :
    (s.nextShard todo).Conserved := by
  cases todo with
  | nil =>
    have hnil : eventsOf [] = [] := rfl
    rw [hnil] at h
    have hsettled : s.current.Settled := h.batch_perm
    refine ⟨⟨List.Perm.refl _, ?_, ?_, ?_⟩, fun _ => rfl, fun hne => absurd rfl hne⟩
    · intro r hr
      simp only [TelemetryState.nextShard, List.mem_append, List.mem_singleton] at hr
      rcases hr with hr | rfl
      · exact h.records r hr
      · exact hsettled
    · have heq := h.dropped_eq
      simp only [TelemetryState.nextShard, List.map_append, List.sum_append, List.map_singleton,
        List.sum_singleton, List.length_nil]
      omega
    · have heq := h.count
      unfold TelemetryState.written at heq ⊢
      simp only [TelemetryState.nextShard, unsettled, FlushRecord.written, List.map_append,
        List.sum_append, List.map_singleton, List.sum_singleton, List.flatten_nil, List.map_nil,
        List.length_nil] at heq ⊢
      omega
  | cons p todo =>
    exact ⟨⟨h.batch_perm, h.records, h.dropped_eq, h.count⟩,
      fun he => absurd he (by simp [TelemetryState.nextShard]), fun _ => hb⟩

lemma unsettled_idle (h : s.phase = .idle) : s.unsettled = [] := by
  unfold unsettled
  rw [h]

lemma Conserved.startFlush (h : s.Conserved) (hidle : s.phase = .idle) :
    (s.startFlush c).Conserved := by
  unfold TelemetryState.startFlush
  split
  · exact h
  · have hcur := h.idle hidle
    have hledger := h.ledger
    rw [unsettled_idle hidle] at hledger
    have hperm := eventsOf_zip_perm c.sharder c.hash (fillEventIds s.fallbackSeq s.buffer).2
    refine ⟨⟨?_, h.ledger.records, ?_, ?_⟩, fun he => by simp at he, fun _ => rfl⟩
    · simpa [unsettled, FlushRecord.written] using hperm.symm
    · have heq := hledger.dropped_eq
      rw [hcur] at heq
      exact heq
    · have heq := hledger.count
      have hlen := hperm.length_eq
      rw [length_fillEventIds] at hlen
      unfold TelemetryState.written at heq ⊢
      rw [hcur] at heq
      simp only [FlushRecord.written, unsettled, List.flatten_nil, List.map_nil,
        List.length_nil] at heq ⊢
      omega

lemma conserved_encodeShard {i : Nat} {shardBatch : List TelemetryMessage}
    (h : s.Ledger (shardBatch ++ eventsOf todo)) (hb : s.buffer = [])
    (serialize : TelemetryMessage → Option String) :
    (s.encodeShard c i shardBatch todo serialize).Conserved := by
  unfold encodeShard
  split
  · rename_i hempty
    rw [List.isEmpty_iff.mp hempty, List.nil_append] at h
    exact h.nextShard hb
  · have hsplit := encodeBatch_perm shardBatch (c.sharder.streamKeyFor i) serialize
    have hledger := h.perm (hsplit.append_right (eventsOf todo))
    rw [List.append_assoc] at hledger
    dsimp only
    split
    · rename_i hempty
      have hdropped := hledger.drop
      rw [List.isEmpty_iff.mp hempty] at hdropped
      exact hdropped.nextShard hb
    · have hd := hledger.drop
      exact ⟨⟨hd.batch_perm, hd.records, hd.dropped_eq, hd.count⟩, fun he => by simp at he,
        fun _ => hb⟩

lemma conserved_attemptPipe {retry : Bool}
    (h : s.Ledger (pipe.map XAdd.event ++ eventsOf todo)) (hb : s.buffer = []) (ok : Bool)
    (now : Nat) : (s.attemptPipe pipe retry todo ok now).Conserved := by
  unfold attemptPipe
  cases retry with
  | true =>
    cases ok with
    | true => exact h.landPipe.nextShard hb
    | false => exact h.drop.nextShard hb
  | false =>
    cases ok with
    | true =>
      have h' : ({ s with redis := s.redis.markSinkOk now } : TelemetryState).Ledger
          (pipe.map XAdd.event ++ eventsOf todo) :=
        ⟨h.batch_perm, h.records, h.dropped_eq, h.count⟩
      exact h'.landPipe.nextShard hb
    | false =>
      exact ⟨⟨h.batch_perm, h.records, h.dropped_eq, h.count⟩, fun he => by simp at he,
        fun _ => hb⟩

/-- A step outside `flush` moves events between the channel, the buffer and the count of losses. -/
lemma Conserved.of_counts {s' : TelemetryState} (h : s.Conserved) (hphase : s'.phase = s.phase)
    (hcurrent : s'.current = s.current) (hcompleted : s'.completed = s.completed)
    (hdropped : s'.flushDropped = s.flushDropped)
    (hbuffer : s.phase ≠ .idle → s'.buffer = s.buffer)
    (hcount : s'.emitted + (s.channelDropped + s.channel.length + s.buffer.length) =
      s.emitted + (s'.channelDropped + s'.channel.length + s'.buffer.length)) :
    s'.Conserved := by
  have hu : s'.unsettled = s.unsettled := by
    unfold unsettled
    rw [hphase]
  have hw : s'.written = s.written := by
    unfold TelemetryState.written
    rw [hcurrent, hcompleted]
  obtain ⟨hbatch, hrecords, hd, hc⟩ := h.ledger
  refine ⟨⟨?_, ?_, ?_, ?_⟩, ?_, fun hne => ?_⟩
  · rw [hu, hcurrent]
    exact hbatch
  · rw [hcompleted]
    exact hrecords
  · rw [hdropped, hcompleted, hcurrent]
    exact hd
  · rw [hu, hw, hdropped]
    omega
  · rw [hphase, hcurrent]
    exact h.idle
  · rw [hphase] at hne
    rw [hbuffer hne]
    exact h.running hne

lemma conserved_step (s : TelemetryState) (op : TelemetryOp) (h : s.Conserved) :
    (s.step c op).Conserved := by
  unfold step
  cases op with
  | trySend event nowMs =>
    have hassign : (s.assignId c event nowMs).2.Conserved := by
      unfold assignId
      split
      · exact h.of_counts rfl rfl rfl rfl (fun _ => rfl) rfl
      · exact h
    dsimp only
    split
    · refine hassign.of_counts rfl rfl rfl rfl (fun _ => rfl) ?_
      simp only [List.length_append, List.length_singleton]
      omega
    · exact hassign.of_counts rfl rfl rfl rfl (fun _ => rfl) rfl
  | countDropped =>
    dsimp only
    split
    · exact h
    · refine h.of_counts rfl rfl rfl rfl (fun _ => rfl) ?_
      dsimp only
      omega
  | recv =>
    dsimp only
    split
    · rename_i event rest hphase hchannel
      have hpushed : ({ s with channel := rest, buffer := s.buffer ++ [event] } :
          TelemetryState).Conserved := by
        refine h.of_counts rfl rfl rfl rfl (fun hne => absurd hphase hne) ?_
        simp only [hchannel, List.length_append, List.length_cons, List.length_nil]
        omega
      split
      · exact hpushed.startFlush hphase
      · exact hpushed
    · exact h
  | tick =>
    dsimp only
    split
    · rename_i hphase
      exact h.startFlush hphase
    · exact h
  | encode serialize =>
    dsimp only
    split
    · rename_i i shardBatch todo hphase
      have hledger := h.ledger
      have hu : s.unsettled = shardBatch ++ eventsOf todo := by
        unfold unsettled
        rw [hphase]
        rfl
      rw [hu] at hledger
      exact conserved_encodeShard hledger (h.running (by simp [hphase])) serialize
    · exact h
  | attempt ok now =>
    dsimp only
    split
    · rename_i pipe retry todo hphase
      have hledger := h.ledger
      have hu : s.unsettled = pipe.map XAdd.event ++ eventsOf todo := by
        unfold unsettled
        rw [hphase]
      rw [hu] at hledger
      exact conserved_attemptPipe hledger (h.running (by simp [hphase])) ok now
    · exact h

/-! ### The start and the return of a flush -/

lemma startFlush_spec (c : TelemetryConfig) (s : TelemetryState) :
    (s.startFlush c).buffer = [] ∧ (s.startFlush c).completed = s.completed ∧
      (s.buffer ≠ [] → (s.startFlush c).phase ≠ .idle ∧
        (s.startFlush c).current = { batch := (fillEventIds s.fallbackSeq s.buffer).2 }) := by
  unfold startFlush
  split
  · rename_i hempty
    have hnil := List.isEmpty_iff.mp hempty
    exact ⟨hnil, rfl, fun hne => absurd hnil hne⟩
  · exact ⟨rfl, rfl, fun _ => ⟨fun h => (by cases h), rfl⟩⟩

lemma flushStarts (s : TelemetryState) (op : TelemetryOp) : FlushStarts c s op := by
  intro hidle filled hfilled
  cases op with
  | tick =>
    obtain rfl : s.buffer = filled := Option.some.inj hfilled
    unfold step
    simp only [hidle]
    exact startFlush_spec c s
  | recv =>
    unfold flushing at hfilled
    dsimp only at hfilled
    split at hfilled
    · cases hfilled
    · rename_i event rest hchannel
      split at hfilled
      · rename_i hfull
        obtain rfl := Option.some.inj hfilled
        have hstep : s.step c .recv =
            startFlush c { s with channel := rest, buffer := s.buffer ++ [event] } := by
          unfold step
          dsimp only
          split
          · rename_i _ heq
            obtain ⟨rfl, rfl⟩ := List.cons.inj (hchannel.symm.trans heq)
            exact if_pos hfull
          · rename_i hnone
            exact absurd hchannel (hnone event rest hidle)
        rw [hstep]
        exact startFlush_spec c _
      · cases hfilled
  | _ => cases hfilled

/-- The flush of `s` has returned in `s'`. -/
structure Returned (s s' : TelemetryState) : Prop where
  buffer_eq : s'.buffer = s.buffer
  completed_eq : ∃ r : FlushRecord, s'.completed = s.completed ++ [r] ∧ r.batch = s.current.batch

lemma returned_nextShard (h : (s.nextShard todo).phase = .idle) :
    Returned s (s.nextShard todo) := by
  cases todo with
  | nil => exact ⟨rfl, s.current, rfl, rfl⟩
  | cons p todo => cases h

lemma Returned.of_eq {s₁ s' : TelemetryState} (h : Returned s₁ s') (hb : s₁.buffer = s.buffer)
    (hc : s₁.completed = s.completed) (hbatch : s₁.current.batch = s.current.batch) :
    Returned s s' := by
  obtain ⟨hbuffer, r, hcompleted, hr⟩ := h
  exact ⟨hbuffer.trans hb, r, by rw [hcompleted, hc], hr.trans hbatch⟩

lemma returned_encodeShard {i : Nat} {shardBatch : List TelemetryMessage}
    {serialize : TelemetryMessage → Option String}
    (h : (s.encodeShard c i shardBatch todo serialize).phase = .idle) :
    Returned s (s.encodeShard c i shardBatch todo serialize) := by
  unfold encodeShard at h ⊢
  split
  · rename_i hempty
    rw [if_pos hempty] at h
    exact returned_nextShard h
  · rename_i hne
    rw [if_neg hne] at h
    dsimp only at h ⊢
    split
    · rename_i hempty
      rw [if_pos hempty] at h
      exact (returned_nextShard h).of_eq rfl rfl rfl
    · rename_i hne
      rw [if_neg hne] at h
      cases h

lemma returned_attemptPipe {retry ok : Bool} {now : Nat}
    (h : (s.attemptPipe pipe retry todo ok now).phase = .idle) :
    Returned s (s.attemptPipe pipe retry todo ok now) := by
  cases retry <;> cases ok
  · cases h
  · have h' : ((({ s with redis := s.redis.markSinkOk now } : TelemetryState).landPipe
        pipe).nextShard todo).phase = .idle := h
    exact (returned_nextShard h').of_eq rfl rfl rfl
  · exact (returned_nextShard (s := s.drop (pipe.map XAdd.event)) h).of_eq rfl rfl rfl
  · exact (returned_nextShard (s := s.landPipe pipe) h).of_eq rfl rfl rfl

lemma returned_step {op : TelemetryOp} (hphase : s.phase ≠ .idle)
    (h : (s.step c op).phase = .idle) : Returned s (s.step c op) := by
  cases op with
  | trySend event nowMs =>
    have hkeep : (s.step c (.trySend event nowMs)).phase = s.phase := by
      unfold step assignId
      dsimp only
      split <;> split <;> rfl
    exact absurd (hkeep.symm.trans h) hphase
  | countDropped =>
    have hkeep : (s.step c .countDropped).phase = s.phase := by
      unfold step
      dsimp only
      split <;> rfl
    exact absurd (hkeep.symm.trans h) hphase
  | recv =>
    unfold step at h
    dsimp only at h
    split at h
    · rename_i hidle _
      exact absurd hidle hphase
    · exact absurd h hphase
  | tick =>
    unfold step at h
    dsimp only at h
    split at h
    · rename_i hidle
      exact absurd hidle hphase
    · exact absurd h hphase
  | encode serialize =>
    unfold step at h ⊢
    dsimp only at h ⊢
    split
    · rename_i i shardBatch todo he
      rw [he] at h
      exact returned_encodeShard h
    · rename_i hne
      split at h
      · rename_i i shardBatch todo he
        exact absurd he (hne i shardBatch todo)
      · exact absurd h hphase
  | attempt ok now =>
    unfold step at h ⊢
    dsimp only at h ⊢
    split
    · rename_i pipe retry todo he
      rw [he] at h
      exact returned_attemptPipe h
    · rename_i hne
      split at h
      · rename_i pipe retry todo he
        exact absurd he (hne pipe retry todo)
      · exact absurd h hphase

lemma Conserved.flushReturns (h : s.Conserved) (op : TelemetryOp) : FlushReturns c s op := by
  intro hphase hidle
  obtain ⟨hbuffer, r, hcompleted, hbatch⟩ := returned_step hphase hidle
  have hr : r ∈ (s.step c op).completed := by simp [hcompleted]
  exact ⟨hbuffer.trans (h.running hphase), r, hcompleted, hbatch,
    (conserved_step s op h).ledger.records r hr⟩

lemma conserved_initial : ({} : TelemetryState).Conserved :=
  ⟨⟨List.Perm.refl _, fun r hr => by simp at hr, rfl, rfl⟩, fun _ => rfl, fun _ => rfl⟩

end TelemetryState

/-- For every configuration and every interleaving of the callers of `emit` with the worker: each
event emitted is in exactly one place, the count of dropped events is what the flushes gave up,
every flush takes the whole buffer for its batch, and it returns with an empty buffer and all of
its batch settled. -/
theorem telemetry_conserved (c : TelemetryConfig) (ops : List TelemetryOp) :
    let s := run (TelemetryState.step c) {} ops
    s.emitted = s.channelDropped + s.channel.length + s.inBuffer + s.flushDropped + s.written ∧
      (s.phase = .idle → s.inBuffer = s.buffer.length) ∧
      s.flushDropped =
        (s.completed.map (fun r => r.dropped.length)).sum + s.current.dropped.length ∧
      (∀ r ∈ s.completed, r.Settled) ∧
      Along (TelemetryState.step c) (TelemetryState.FlushStarts c) {} ops ∧
      Along (TelemetryState.step c) (TelemetryState.FlushReturns c) {} ops := by
  intro s
  have hstep : ∀ s op, TelemetryState.Conserved s → (s.step c op).Conserved :=
    fun s op h => TelemetryState.conserved_step s op h
  have hs : s.Conserved := run_invariant hstep TelemetryState.conserved_initial ops
  refine ⟨hs.ledger.count, fun hidle => ?_, hs.ledger.dropped_eq, hs.ledger.records, ?_, ?_⟩
  · unfold TelemetryState.inBuffer
    rw [TelemetryState.unsettled_idle hidle]
    rfl
  · exact along_of_invariant hstep (fun s op _ => TelemetryState.flushStarts s op)
      TelemetryState.conserved_initial ops
  · exact along_of_invariant hstep (fun s op h => h.flushReturns op)
      TelemetryState.conserved_initial ops

end IPProxyPool
