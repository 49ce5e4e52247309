import IPProxyPool.Proofs.TelemetryConservation

/-!
# Streams written and streams read

With more than one shard every event goes to a stream whose name ends in the number of its shard;
the circuit breaker and the sink read the stream without a number only.
-/

namespace IPProxyPool
open RustText Transition

def ReadByBoth (key : String) : Prop := key ∈ breakerStreams ∧ key ∈ sinkStreams

instance (key : String) : Decidable (ReadByBoth key) :=
  inferInstanceAs (Decidable (key ∈ breakerStreams ∧ key ∈ sinkStreams))

lemma readByBoth_iff (key : String) : ReadByBoth key ↔ key = telemetryStreamBase := by
  simp [ReadByBoth, breakerStreams, sinkStreams, streamKey, telemetryStreamBase]

lemma streamKeyFor_eq_base_iff (s : RedisStreamSharder) (i : Nat) :
    s.streamKeyFor i = telemetryStreamBase ↔ s.shards = 1 := by
  unfold RedisStreamSharder.streamKeyFor
  split
  · rename_i h
    simp [h]
  · rename_i h
    simp only [h, iff_false]
    intro heq
    have hlen := congrArg (fun t => t.toList.length) heq
    simp at hlen

/-! ### The key of an event in a run of the worker -/

/-- Batches that wait for the pipe of shard `i` hold events of that shard only. -/
def TelemetryConfig.ShardTodo (c : TelemetryConfig) (todo : List (Nat × List TelemetryMessage)) :
    Prop :=
  ∀ p ∈ todo, ∀ event ∈ p.2, c.sharder.shardForDomain c.hash event.targetDomain = p.1

def TelemetryConfig.Keyed (c : TelemetryConfig) (pipe : List XAdd) : Prop :=
  ∀ x ∈ pipe, x.streamKey = c.flushKey x.event

lemma shardBatches_shard (s : RedisStreamSharder) (hash : String → Nat)
    (batch : List TelemetryMessage) (i : Nat) (shardBatch : List TelemetryMessage)
    (h : (shardBatches s hash batch)[i]? = some shardBatch) :
    ∀ event ∈ shardBatch, s.shardForDomain hash event.targetDomain = i := by
  have hfold : ∀ (batch : List TelemetryMessage) (acc : List (List TelemetryMessage)),
      (∀ j b, acc[j]? = some b → ∀ event ∈ b, s.shardForDomain hash event.targetDomain = j) →
      ∀ j b, (batch.foldl (fun acc event =>
          acc.modify (s.shardForDomain hash event.targetDomain) (· ++ [event])) acc)[j]? = some b →
        ∀ event ∈ b, s.shardForDomain hash event.targetDomain = j := by
    intro batch
    induction batch with
    | nil => exact fun acc hacc => hacc
    | cons event batch ih =>
      intro acc hacc
      refine ih _ (fun j b hb => ?_)
      rw [List.getElem?_modify] at hb
      obtain ⟨b', hb', rfl⟩ := Option.map_eq_some_iff.mp hb
      split
      · rename_i hj
        intro x hx
        rcases List.mem_append.mp hx with hx | hx
        · exact hacc j b' hb' x hx
        · rw [List.mem_singleton.mp hx]
          exact hj
      · exact hacc j b' hb'
  refine hfold batch (List.replicate s.shards []) (fun j b hb => ?_) i shardBatch h
  rw [List.getElem?_replicate] at hb
  split at hb
  · cases hb
    simp
  · cases hb

lemma shardTodo_zip (c : TelemetryConfig) (batch : List TelemetryMessage) :
    c.ShardTodo ((List.range c.sharder.shards).zip (shardBatches c.sharder c.hash batch)) := by
  rintro ⟨i, shardBatch⟩ hp
  obtain ⟨k, hk⟩ := List.mem_iff_getElem?.mp hp
  rw [List.getElem?_zip_eq_some] at hk
  obtain ⟨hi, hb⟩ := hk
  obtain ⟨hlt, hki⟩ := List.getElem?_eq_some_iff.mp hi
  rw [List.getElem_range] at hki
  subst hki
  exact shardBatches_shard c.sharder c.hash batch k shardBatch hb

namespace TelemetryState

variable {c : TelemetryConfig} {s : TelemetryState}
  {todo : List (Nat × List TelemetryMessage)} {pipe : List XAdd}

def PhaseKeyed (c : TelemetryConfig) (s : TelemetryState) : Prop :=
  match s.phase with
  | .idle => True
  | .encoding todo => c.ShardTodo todo
  | .sending pipe _ todo => c.Keyed pipe ∧ c.ShardTodo todo

/-- The pipes sent so far, by flushes that have returned and by the running one. -/
def sentPipes (s : TelemetryState) : List (List XAdd) :=
  s.completed.flatMap FlushRecord.pipes ++ s.current.pipes

/-- Every `XADD` that was built goes to the stream of its event. -/
structure WellKeyed (c : TelemetryConfig) (s : TelemetryState) : Prop where
  phase : s.PhaseKeyed c
  sent : ∀ pipe ∈ s.sentPipes, c.Keyed pipe

lemma keyed_encodeBatch {i : Nat} {shardBatch : List TelemetryMessage}
    (h : ∀ event ∈ shardBatch, c.sharder.shardForDomain c.hash event.targetDomain = i)
    (serialize : TelemetryMessage → Option String) :
    c.Keyed (encodeBatch shardBatch (c.sharder.streamKeyFor i) serialize) := by
  intro x hx
  obtain ⟨event, hmem, hx⟩ := List.mem_filterMap.mp hx
  obtain ⟨json, -, rfl⟩ := Option.map_eq_some_iff.mp hx
  simp only [TelemetryConfig.flushKey, h event hmem]

lemma wellKeyed_of_eq {s' : TelemetryState} (h : s.WellKeyed c) (hphase : s'.PhaseKeyed c)
    (hcurrent : s'.current.pipes = s.current.pipes) (hcompleted : s'.completed = s.completed) :
    s'.WellKeyed c := by
  refine ⟨hphase, fun pipe hpipe => h.sent pipe ?_⟩
  unfold sentPipes at hpipe ⊢
  rwa [hcurrent, hcompleted] at hpipe

lemma WellKeyed.nextShard (h : s.WellKeyed c) (htodo : c.ShardTodo todo) :
    (s.nextShard todo).WellKeyed c := by
  cases todo with
  | nil =>
    refine ⟨trivial, fun pipe hpipe => h.sent pipe ?_⟩
    simpa [sentPipes, TelemetryState.nextShard] using hpipe
  | cons p todo => exact wellKeyed_of_eq h htodo rfl rfl

lemma WellKeyed.landPipe (h : s.WellKeyed c) (hpipe : c.Keyed pipe) :
    (s.landPipe pipe).WellKeyed c := by
  refine ⟨h.phase, fun p hp => ?_⟩
  have hp' : p ∈ s.sentPipes ∨ p = pipe := by
    simpa [sentPipes, TelemetryState.landPipe, or_assoc] using hp
  rcases hp' with hp' | rfl
  · exact h.sent p hp'
  · exact hpipe

lemma WellKeyed.startFlush (h : s.WellKeyed c) (hcurrent : s.current = {}) :
    (s.startFlush c).WellKeyed c := by
  unfold TelemetryState.startFlush
  split
  · exact h
  · refine wellKeyed_of_eq h ?_ ?_ rfl
    · exact shardTodo_zip c _
    · rw [hcurrent]

lemma wellKeyed_step (s : TelemetryState) (op : TelemetryOp) (hc : s.Conserved)
    (h : s.WellKeyed c) : (s.step c op).WellKeyed c := by
  have hphase := h.phase
  unfold step
  cases op with
  | trySend event nowMs =>
    have hassign : (s.assignId c event nowMs).2.WellKeyed c := by
      unfold assignId
      split
      · exact wellKeyed_of_eq h hphase rfl rfl
      · exact h
    dsimp only
    split
    · exact wellKeyed_of_eq hassign hassign.phase rfl rfl
    · exact wellKeyed_of_eq hassign hassign.phase rfl rfl
  | countDropped =>
    dsimp only
    split
    · exact h
    · exact wellKeyed_of_eq h hphase rfl rfl
  | recv =>
    dsimp only
    split
    · rename_i event rest hidle hchannel
      have hpushed : ({ s with channel := rest, buffer := s.buffer ++ [event] } :
          TelemetryState).WellKeyed c := wellKeyed_of_eq h hphase rfl rfl
      split
      · exact hpushed.startFlush (hc.idle hidle)
      · exact hpushed
    · exact h
  | tick =>
    dsimp only
    split
    · rename_i hidle
      exact h.startFlush (hc.idle hidle)
    · exact h
  | encode serialize =>
    dsimp only
    split
    · rename_i i shardBatch todo he
      unfold PhaseKeyed at hphase
      rw [he] at hphase
      have hbatch := hphase (i, shardBatch) List.mem_cons_self
      have htodo : c.ShardTodo todo := fun p hp => hphase p (List.mem_cons_of_mem _ hp)
      unfold encodeShard
      split
      · exact h.nextShard htodo
      · have hdrop : (s.drop (shardBatch.filter (fun event => (serialize event).isNone))).WellKeyed
            c := wellKeyed_of_eq h h.phase rfl rfl
        dsimp only
        split
        · exact hdrop.nextShard htodo
        · exact wellKeyed_of_eq h ⟨keyed_encodeBatch hbatch serialize, htodo⟩ rfl rfl
    · exact h
  | attempt ok now =>
    dsimp only
    split
    · rename_i pipe retry todo he
      unfold PhaseKeyed at hphase
      rw [he] at hphase
      obtain ⟨hpipe, htodo⟩ := hphase
      unfold attemptPipe
      cases retry <;> cases ok
      · exact wellKeyed_of_eq h ⟨hpipe, htodo⟩ rfl rfl
      · have hok : ({ s with redis := s.redis.markSinkOk now } : TelemetryState).WellKeyed c :=
          wellKeyed_of_eq h h.phase rfl rfl
        exact (hok.landPipe hpipe).nextShard htodo
      · have hdrop : (s.drop (pipe.map XAdd.event)).WellKeyed c :=
          wellKeyed_of_eq h h.phase rfl rfl
        exact hdrop.nextShard htodo
      · exact (h.landPipe hpipe).nextShard htodo
    · exact h

end TelemetryState

/-- Whatever the shard count and the hash: each event goes to one stream in every run, and that
stream is read by the breaker and by the sink exactly when there is a single shard. -/
theorem stream_keys_read_iff (c : TelemetryConfig) :
    (∀ event : TelemetryMessage, ReadByBoth (c.flushKey event) ↔ c.streamShards ≤ 1) ∧
      ∀ ops : List TelemetryOp, ∀ pipe ∈ (run (TelemetryState.step c) {} ops).sentPipes,
        ∀ x ∈ pipe, x.streamKey = c.flushKey x.event := by
  constructor
  · intro event
    rw [readByBoth_iff, TelemetryConfig.flushKey, streamKeyFor_eq_base_iff]
    change max c.streamShards 1 = 1 ↔ _
    omega
  · intro ops
    have hinit : ({} : TelemetryState).Conserved ∧ ({} : TelemetryState).WellKeyed c :=
      ⟨TelemetryState.conserved_initial, trivial, fun pipe hpipe => by
        simp [TelemetryState.sentPipes] at hpipe⟩
    have hstep : ∀ (s : TelemetryState) (op : TelemetryOp), s.Conserved ∧ s.WellKeyed c →
        (s.step c op).Conserved ∧ (s.step c op).WellKeyed c := fun s op h =>
      ⟨TelemetryState.conserved_step s op h.1, TelemetryState.wellKeyed_step s op h.1 h.2⟩
    exact (run_invariant hstep hinit ops).2.sent

/-- With `REDIS_STREAM_SHARDS=2` an event is written to a stream that nobody reads. -/
theorem two_shards_unread :
    ¬∀ (c : TelemetryConfig) (event : TelemetryMessage), 1 ≤ c.streamShards →
      ReadByBoth (c.flushKey event) := by
  intro hall
  have hshards : redisStreamShards (some "2") = 2 := by decide
  have h := hall ⟨telemetryChannelCap, telemetryBatchSize, redisStreamShards (some "2"), 7,
      String.length⟩
    ⟨⟨"a.com", "1.2.3.4", 200⟩, "1700000000000-7-1", "", "5.6.7.8", "p", "isp", "US", 10, 20, 0,
      none, none, 1700000000000⟩ (by decide)
  rw [readByBoth_iff, TelemetryConfig.flushKey, streamKeyFor_eq_base_iff] at h
  change max (redisStreamShards (some "2")) 1 = 1 at h
  omega

end IPProxyPool
