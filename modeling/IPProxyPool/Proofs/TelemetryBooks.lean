import IPProxyPool.Model.TelemetryPath
import IPProxyPool.Proofs.TelemetryConservation

/-!
# The books of a gateway process

Every event that `emit` was called with is, by its name, refused by the channel, held by the
process, given up by a flush or in a pipe that was reported as sent. Redis takes each event at most
twice: the retry of a pipe can double its entries, and nothing else can.
-/

namespace IPProxyPool
open AssocTable Transition

/-! ### The events of a bus -/

namespace TelemetryState

/-- The events that flushes have given up. -/
def gaveUp (s : TelemetryState) : List TelemetryMessage :=
  s.completed.flatMap FlushRecord.dropped ++ s.current.dropped

/-- The commands of the pipes that were reported as sent. -/
def confirmed (s : TelemetryState) : List XAdd :=
  s.completed.flatMap (fun r => r.pipes.flatten) ++ s.current.pipes.flatten

/-- The events in the channel and in the hands of the worker. -/
def holding (s : TelemetryState) : List TelemetryMessage := s.channel ++ s.buffer ++ s.unsettled

def sendingPipe (s : TelemetryState) : List XAdd :=
  match s.phase with
  | .sending pipe _ _ => pipe
  | _ => []

/-- How often an event is on the books of a state whose running flush has `rest` left to settle. -/
def tallyWith (s : TelemetryState) (rest : List TelemetryMessage) (e : TelemetryMessage) : Nat :=
  (s.channel ++ s.buffer ++ rest).count e + s.gaveUp.count e + (s.confirmed.map XAdd.event).count e

def tally (s : TelemetryState) (e : TelemetryMessage) : Nat := s.tallyWith s.unsettled e

/-- How many entries an event can still have: two for each pipe that is to be sent, one for a pipe
that is sent again. -/
def credit (s : TelemetryState) (e : TelemetryMessage) : Nat :=
  2 * (s.channel ++ s.buffer).count e +
    match s.phase with
    | .idle => 0
    | .encoding todo => 2 * (eventsOf todo).count e
    | .sending pipe retry todo =>
      (if retry then 1 else 2) * (pipe.map XAdd.event).count e + 2 * (eventsOf todo).count e

/-- A step of the worker during which Redis takes `taken`. -/
structure Moves (serialize : TelemetryMessage → Option String) (s s' : TelemetryState)
    (taken : List XAdd) : Prop where
  tally_eq : ∀ e, s'.tally e = s.tally e
  credit_le : ∀ e, (taken.map XAdd.event).count e + s'.credit e ≤ s.credit e
  confirmed_eq : ∃ pipe, s'.confirmed = s.confirmed ++ pipe ∧ pipe.Sublist taken
  encoded : ∀ x ∈ s'.sendingPipe, x ∈ s.sendingPipe ∨
    encodeEvent x.streamKey serialize x.event = some x

variable {c : TelemetryConfig} {s : TelemetryState} {rest : List TelemetryMessage}
  {todo : List (Nat × List TelemetryMessage)} {pipe : List XAdd}
  {serialize : TelemetryMessage → Option String}

/-- A step that changes neither the flush nor what waits for one. -/
lemma moves_of_eq {s' : TelemetryState} (hphase : s'.phase = s.phase)
    (hwaiting : ∀ e, (s'.channel ++ s'.buffer).count e = (s.channel ++ s.buffer).count e)
    (hgaveUp : ∀ e, s'.gaveUp.count e = s.gaveUp.count e)
    (hconfirmed : s'.confirmed = s.confirmed) :
    Moves serialize s s' [] := by
  refine ⟨fun e => ?_, fun e => ?_, ⟨[], by rw [hconfirmed, List.append_nil],
    List.Sublist.refl _⟩, fun x hx => .inl ?_⟩
  · have he := hwaiting e
    have hunsettled : s'.unsettled = s.unsettled := by
      unfold unsettled
      rw [hphase]
    unfold tally tallyWith
    rw [hunsettled, hgaveUp, hconfirmed, List.count_append, he, ← List.count_append]
  · unfold credit
    rw [hwaiting, hphase, List.map_nil, List.count_nil, Nat.zero_add]
  · unfold sendingPipe at hx ⊢
    rwa [hphase] at hx

lemma moves_self (s : TelemetryState) : Moves serialize s s [] :=
  moves_of_eq rfl (fun _ => rfl) (fun _ => rfl) rfl

lemma Moves.trans {s' s'' : TelemetryState} (h : Moves serialize s s' [])
    (h' : Moves serialize s' s'' []) : Moves serialize s s'' [] := by
  obtain ⟨pipe, hpipe, hsub⟩ := h.confirmed_eq
  obtain ⟨pipe', hpipe', hsub'⟩ := h'.confirmed_eq
  refine ⟨fun e => (h'.tally_eq e).trans (h.tally_eq e), fun e => ?_,
    ⟨pipe ++ pipe', by rw [hpipe', hpipe, List.append_assoc], hsub.append hsub'⟩, fun x hx => ?_⟩
  · have hfirst := h.credit_le e
    have hsecond := h'.credit_le e
    omega
  · rcases h'.encoded x hx with hmid | hnew
    · exact h.encoded x hmid
    · exact .inr hnew

lemma tallyWith_drop (s : TelemetryState) (events rest : List TelemetryMessage)
    (e : TelemetryMessage) : (s.drop events).tallyWith rest e = s.tallyWith (events ++ rest) e := by
  unfold tallyWith gaveUp confirmed drop
  simp only [List.count_append]
  omega

lemma tallyWith_landPipe (s : TelemetryState) (pipe : List XAdd) (rest : List TelemetryMessage)
    (e : TelemetryMessage) :
    (s.landPipe pipe).tallyWith rest e = s.tallyWith (pipe.map XAdd.event ++ rest) e := by
  unfold tallyWith gaveUp confirmed landPipe
  simp only [List.count_append, List.flatten_append, List.flatten_singleton, List.map_append]
  omega

lemma confirmed_landPipe (s : TelemetryState) (pipe : List XAdd) :
    (s.landPipe pipe).confirmed = s.confirmed ++ pipe := by
  simp [confirmed, landPipe]

/-- The next shard, or the end of the flush, changes no book. -/
lemma books_nextShard (s : TelemetryState) (todo : List (Nat × List TelemetryMessage)) :
    (∀ e, (s.nextShard todo).tally e = s.tallyWith (eventsOf todo) e) ∧
      (∀ e, (s.nextShard todo).credit e =
        2 * (s.channel ++ s.buffer).count e + 2 * (eventsOf todo).count e) ∧
      (s.nextShard todo).confirmed = s.confirmed ∧ (s.nextShard todo).sendingPipe = [] := by
  cases todo with
  | nil =>
    refine ⟨fun e => ?_, fun e => rfl, ?_, rfl⟩
    · simp [tally, tallyWith, nextShard, gaveUp, confirmed, unsettled, eventsOf]
    · simp [nextShard, confirmed]
  | cons p todo => exact ⟨fun e => rfl, fun e => rfl, rfl, rfl⟩

lemma fillEventIds_of_named {events : List TelemetryMessage}
    (h : ∀ e ∈ events, e.eventId ≠ "") (n : Nat) : fillEventIds n events = (n, events) := by
  induction events with
  | nil => rfl
  | cons e events ih =>
    unfold fillEventIds
    rw [if_neg (h e List.mem_cons_self), ih (fun e' he => h e' (List.mem_cons_of_mem e he))]

lemma moves_startFlush (hcurrent : s.current = {}) (hidle : s.phase = .idle)
    (hnamed : ∀ e ∈ s.buffer, e.eventId ≠ "") : Moves serialize s (s.startFlush c) [] := by
  unfold startFlush
  split
  · exact moves_self s
  · rw [fillEventIds_of_named hnamed]
    have hperm := eventsOf_zip_perm c.sharder c.hash s.buffer
    refine ⟨fun e => ?_, fun e => ?_, ⟨[], ?_, List.Sublist.refl _⟩, fun x hx => ?_⟩
    · have hcount := hperm.count_eq e
      simp only [tally, tallyWith, unsettled, gaveUp, confirmed, hidle, hcurrent, List.count_append,
        List.count_nil, hcount]
      omega
    · have hcount := hperm.count_eq e
      simp only [credit, hidle, List.count_append, List.count_nil, List.map_nil, hcount]
      omega
    · simp [confirmed, hcurrent]
    · cases hx

lemma mem_encodeBatch {batch : List TelemetryMessage} {key : String} {x : XAdd}
    (h : x ∈ encodeBatch batch key serialize) :
    encodeEvent x.streamKey serialize x.event = some x := by
  obtain ⟨event, -, hx⟩ := List.mem_filterMap.mp h
  obtain ⟨json, hjson, rfl⟩ := Option.map_eq_some_iff.mp hx
  simp [encodeEvent, hjson]

lemma moves_encodeShard {i : Nat} {shardBatch : List TelemetryMessage}
    (hphase : s.phase = .encoding ((i, shardBatch) :: todo)) :
    Moves serialize s (s.encodeShard c i shardBatch todo serialize) [] := by
  have htally : ∀ e, s.tally e = s.tallyWith (shardBatch ++ eventsOf todo) e := by
    intro e
    unfold tally unsettled
    rw [hphase]
    rfl
  have hcredit : ∀ e, s.credit e = 2 * (s.channel ++ s.buffer).count e +
      2 * (shardBatch ++ eventsOf todo).count e := by
    intro e
    unfold credit
    rw [hphase]
    rfl
  unfold encodeShard
  split
  · rename_i hempty
    obtain ⟨ht, hc, hconf, hsend⟩ := books_nextShard s todo
    rw [List.isEmpty_iff.mp hempty] at htally hcredit
    refine ⟨fun e => ?_, fun e => ?_, ⟨[], by simp [hconf], List.Sublist.refl _⟩,
      fun x hx => ?_⟩
    · rw [ht, htally, List.nil_append]
    · rw [hc, hcredit, List.nil_append]
      simp
    · rw [hsend] at hx
      cases hx
  · have hsplit := encodeBatch_perm shardBatch (c.sharder.streamKeyFor i) serialize
    have hcount := fun e => hsplit.count_eq e
    dsimp only
    split
    · rename_i hempty
      rw [List.isEmpty_iff.mp hempty] at hcount
      obtain ⟨ht, hc, hconf, hsend⟩ := books_nextShard
        (s.drop (shardBatch.filter (fun event => (serialize event).isNone))) todo
      refine ⟨fun e => ?_, fun e => ?_, ⟨[], ?_, List.Sublist.refl _⟩, fun x hx => ?_⟩
      · have he := hcount e
        rw [ht, htally, tallyWith_drop]
        simp only [tallyWith, List.count_append, List.map_nil, List.count_nil] at he ⊢
        omega
      · rw [hc, hcredit]
        simp only [drop, List.count_append, List.map_nil, List.count_nil]
        omega
      · rw [hconf, List.append_nil]
        rfl
      · rw [hsend] at hx
        cases hx
    · refine ⟨fun e => ?_, fun e => ?_, ⟨[], ?_, List.Sublist.refl _⟩, fun x hx => ?_⟩
      · have he := hcount e
        have hdrop := tallyWith_drop s (shardBatch.filter (fun event => (serialize event).isNone))
          ((encodeBatch shardBatch (c.sharder.streamKeyFor i) serialize).map XAdd.event ++
            eventsOf todo) e
        rw [htally]
        refine (Eq.trans rfl hdrop).trans ?_
        simp only [tallyWith, List.count_append] at he ⊢
        omega
      · have he := hcount e
        rw [hcredit]
        simp only [credit, drop, List.count_append, List.map_nil, List.count_nil] at he ⊢
        simp only [Bool.false_eq_true, if_false]
        omega
      · rw [List.append_nil]
        rfl
      · exact .inr (mem_encodeBatch hx)

lemma moves_attemptPipe {retry ok : Bool} {now : Nat} {stored : List Bool}
    (hphase : s.phase = .sending pipe retry todo) :
    Moves serialize s (s.attemptPipe pipe retry todo ok now)
      (if ok then pipe else executedXAdds stored pipe) := by
  have htally : ∀ e, s.tally e = s.tallyWith (pipe.map XAdd.event ++ eventsOf todo) e := by
    intro e
    unfold tally unsettled
    rw [hphase]
  have hcredit : ∀ e, s.credit e = 2 * (s.channel ++ s.buffer).count e +
      ((if retry then 1 else 2) * (pipe.map XAdd.event).count e + 2 * (eventsOf todo).count e) := by
    intro e
    unfold credit
    rw [hphase]
  have htake : ∀ e, ((executedXAdds stored pipe).map XAdd.event).count e ≤
      (pipe.map XAdd.event).count e :=
    fun e => ((executedXAdds_sublist stored pipe).map XAdd.event).count_le e
  unfold attemptPipe
  cases ok with
  | true =>
    have hland : ∀ h : SinkHealth, Moves serialize s
        (({ s with redis := h }.landPipe pipe).nextShard todo) pipe := by
      intro h
      obtain ⟨ht, hc, hconf, hsend⟩ := books_nextShard
        ({ s with redis := h }.landPipe pipe) todo
      refine ⟨fun e => ?_, fun e => ?_, ⟨pipe, ?_, List.Sublist.refl _⟩, fun x hx => ?_⟩
      · rw [ht, htally, tallyWith_landPipe]
        rfl
      · rw [hc, hcredit]
        simp only [landPipe, List.count_append]
        cases retry with
        | true => simp only [if_true]; omega
        | false => simp only [Bool.false_eq_true, if_false]; omega
      · rw [hconf, confirmed_landPipe]
        rfl
      · rw [hsend] at hx
        cases hx
    cases retry with
    | true => exact hland s.redis
    | false => exact hland (s.redis.markSinkOk now)
  | false =>
    cases retry with
    | true =>
      obtain ⟨ht, hc, hconf, hsend⟩ := books_nextShard (s.drop (pipe.map XAdd.event)) todo
      refine ⟨fun e => ?_, fun e => ?_, ⟨[], ?_, List.nil_sublist _⟩, fun x hx => ?_⟩
      · simp only [if_true, Bool.false_eq_true, if_false]
        rw [ht, htally, tallyWith_drop]
      · have hle := htake e
        simp only [if_true, Bool.false_eq_true, if_false] at hcredit ⊢
        rw [hc, hcredit]
        simp only [drop, List.count_append]
        omega
      · simp only [if_true, Bool.false_eq_true, if_false]
        rw [hconf, List.append_nil]
        rfl
      · simp only [if_true, Bool.false_eq_true, if_false] at hx
        rw [hsend] at hx
        cases hx
    | false =>
      refine ⟨fun e => ?_, fun e => ?_, ⟨[], ?_, List.nil_sublist _⟩, fun x hx => .inl ?_⟩
      · rw [htally]
        rfl
      · have hle := htake e
        rw [hcredit]
        simp only [credit, Bool.false_eq_true, if_false, if_true, List.count_append]
        omega
      · rw [List.append_nil]
        rfl
      · unfold sendingPipe
        rw [hphase]
        exact hx

lemma moves_recv {event : TelemetryMessage} {rest : List TelemetryMessage}
    (hphase : s.phase = .idle) (hchannel : s.channel = event :: rest) (hcurrent : s.current = {})
    (hnamed : ∀ e ∈ s.holding, e.eventId ≠ "") :
    let pushed := { s with channel := rest, buffer := s.buffer ++ [event] }
    Moves serialize s (if c.batchSize ≤ pushed.buffer.length then pushed.startFlush c else pushed)
      [] := by
  intro pushed
  have hcount : ∀ e, (pushed.channel ++ pushed.buffer).count e =
      (s.channel ++ s.buffer).count e := by
    intro e
    simp only [pushed, hchannel, List.count_append, List.count_cons, List.count_nil]
    omega
  have hpushed : Moves serialize s pushed [] :=
    moves_of_eq rfl hcount (fun _ => rfl) rfl
  split
  · refine hpushed.trans (moves_startFlush hcurrent hphase (fun e he => hnamed e ?_))
    unfold holding
    rcases List.mem_append.mp he with hold | hnew
    · simp [hold]
    · simp [hchannel, List.mem_singleton.mp hnew]
  · exact hpushed

end TelemetryState

/-! ### The books of a process -/

namespace GatewayProcess
open TelemetryState

variable {c : TelemetryConfig} {serialize : TelemetryMessage → Option String}

/-- Every event handed in is accounted for, and what Redis has taken is what flushes have sent. -/
structure Booked (serialize : TelemetryMessage → Option String) (p : GatewayProcess) : Prop where
  conserved : p.bus.Conserved
  named : ∀ e ∈ p.handed, e.eventId ≠ ""
  balance : ∀ e, p.handed.count e = p.refused.count e + p.bus.tally e
  copies : ∀ e, (p.appended.map XAdd.event).count e + p.bus.credit e ≤ 2 * p.handed.count e
  confirmed : p.bus.confirmed.Sublist p.appended
  encoded : ∀ x ∈ p.appended ++ p.bus.sendingPipe,
    encodeEvent x.streamKey serialize x.event = some x

lemma booked_new : Booked serialize {} where
  conserved := conserved_initial
  named _ he := absurd he List.not_mem_nil
  balance _ := rfl
  copies _ := le_rfl
  confirmed := List.Sublist.refl _
  encoded _ hx := absurd hx List.not_mem_nil

/-- What the process holds was handed in, so it has a name. -/
lemma Booked.holding_named {p : GatewayProcess} (h : p.Booked serialize) :
    ∀ e ∈ p.bus.holding, e.eventId ≠ "" := by
  intro e he
  apply h.named
  have hcount : 0 < p.bus.holding.count e := List.count_pos_iff.mpr he
  have hbalance := h.balance e
  unfold tally tallyWith at hbalance
  unfold holding at hcount
  exact List.count_pos_iff.mp (by omega)

lemma taken_subset {p : GatewayProcess} (op : ProcessOp) : p.taken op ⊆ p.bus.sendingPipe := by
  intro x h
  unfold taken at h
  split at h
  · split at h
    · rename_i pipe retry todo hphase
      have hpipe : x ∈ pipe := by
        split at h
        · exact h
        · exact (executedXAdds_sublist _ _).subset h
      unfold sendingPipe
      rw [hphase]
      exact hpipe
    · cases h
  · cases h

/-- A step of the worker keeps the books. -/
lemma Booked.moves {p : GatewayProcess} (h : p.Booked serialize) {bus : TelemetryState}
    {taken : List XAdd} (htaken : taken ⊆ p.bus.sendingPipe)
    (hmoves : Moves serialize p.bus bus taken) (hconserved : bus.Conserved) :
    ({ p with bus := bus, appended := p.appended ++ taken } : GatewayProcess).Booked
      serialize where
  conserved := hconserved
  named := h.named
  balance e := by rw [h.balance e, ← hmoves.tally_eq e]
  copies e := by
    have hold := h.copies e
    have hnew := hmoves.credit_le e
    simp only [List.map_append, List.count_append]
    omega
  confirmed := by
    obtain ⟨pipe, hpipe, hsub⟩ := hmoves.confirmed_eq
    dsimp only
    rw [hpipe]
    exact h.confirmed.append hsub
  encoded x hx := by
    rcases List.mem_append.mp hx with happended | hsending
    · rcases List.mem_append.mp happended with hold | hnew
      · exact h.encoded x (List.mem_append_left _ hold)
      · exact h.encoded x (List.mem_append_right _ (htaken hnew))
    · rcases hmoves.encoded x hsending with hold | hnew
      · exact h.encoded x (List.mem_append_right _ hold)
      · exact hnew

lemma Booked.worker {p : GatewayProcess} (h : p.Booked serialize) {bus : TelemetryState}
    (hmoves : Moves serialize p.bus bus []) (hconserved : bus.Conserved) :
    ({ p with bus := bus } : GatewayProcess).Booked serialize := by
  have hbooked := h.moves (List.nil_subset _) hmoves hconserved
  rwa [List.append_nil] at hbooked

lemma assignId_named (c : TelemetryConfig) (s : TelemetryState) (event : TelemetryMessage)
    (nowMs : Nat) : (s.assignId c event nowMs).1.eventId ≠ "" := by
  unfold assignId
  split
  · simp
  · assumption

/-- What the call of `emit` does to the bus, apart from its counters. -/
lemma step_trySend (c : TelemetryConfig) (s : TelemetryState) (event : TelemetryMessage)
    (nowMs : Nat) : ∃ seq emitted failing, s.step c (.trySend event nowMs) =
      { s with
        seq := seq
        emitted := emitted
        failing := failing
        channel := if s.channel.length < c.capacity then
            s.channel ++ [(s.assignId c event nowMs).1] else s.channel } := by
  have hseq : ∃ seq, (s.assignId c event nowMs).2 = { s with seq := seq } := by
    unfold assignId
    split
    · exact ⟨_, rfl⟩
    · exact ⟨s.seq, rfl⟩
  obtain ⟨seq, hseq⟩ := hseq
  unfold TelemetryState.step
  dsimp only
  rw [hseq]
  dsimp only
  split
  · exact ⟨_, _, _, rfl⟩
  · exact ⟨_, _, _, rfl⟩

lemma booked_emit {p : GatewayProcess} (h : p.Booked serialize) (event : TelemetryMessage)
    (nowMs : Nat) : (p.emit c event nowMs).Booked serialize := by
  have hconserved := conserved_step (c := c) p.bus (.trySend event nowMs) h.conserved
  obtain ⟨seq, emitted, failing, hbus⟩ := step_trySend c p.bus event nowMs
  have hnamed := assignId_named c p.bus event nowMs
  unfold emit
  dsimp only
  rw [hbus] at hconserved ⊢
  generalize (p.bus.assignId c event nowMs).1 = named at hnamed hconserved ⊢
  refine ⟨hconserved, fun e he => ?_, fun e => ?_, fun e => ?_, h.confirmed, h.encoded⟩
  · rcases List.mem_append.mp he with hold | hnew
    · exact h.named e hold
    · exact List.mem_singleton.mp hnew ▸ hnamed
  · have hold := h.balance e
    by_cases hroom : p.bus.channel.length < c.capacity
    · simp only [if_pos hroom]
      unfold tally tallyWith at hold ⊢
      change _ = _ + ((_ ++ _ ++ p.bus.unsettled).count e + p.bus.gaveUp.count e +
        (p.bus.confirmed.map XAdd.event).count e)
      simp only [List.count_append] at hold ⊢
      omega
    · simp only [if_neg hroom]
      change _ = _ + p.bus.tally e
      simp only [List.count_append]
      omega
  · have hold := h.copies e
    by_cases hroom : p.bus.channel.length < c.capacity
    · simp only [if_pos hroom]
      unfold credit at hold ⊢
      dsimp only
      simp only [List.count_append] at hold ⊢
      omega
    · simp only [if_neg hroom]
      change _ + p.bus.credit e ≤ _
      simp only [List.count_append]
      omega

lemma booked_step {p : GatewayProcess} (h : p.Booked serialize) (op : ProcessOp) :
    (p.step c serialize op).Booked serialize := by
  unfold step
  split
  · cases op with
    | emit event nowMs => exact booked_emit h event nowMs
    | kill => exact ⟨h.conserved, h.named, h.balance, h.copies, h.confirmed, h.encoded⟩
    | countDropped =>
      refine h.worker ?_ (conserved_step p.bus .countDropped h.conserved)
      unfold TelemetryState.step
      dsimp only
      split
      · exact moves_self p.bus
      · exact moves_of_eq rfl (fun _ => rfl) (fun _ => rfl) rfl
    | recv =>
      refine h.worker ?_ (conserved_step p.bus .recv h.conserved)
      unfold TelemetryState.step
      dsimp only
      split
      · rename_i event rest hphase hchannel
        exact moves_recv hphase hchannel (h.conserved.idle hphase) h.holding_named
      · exact moves_self p.bus
    | tick =>
      refine h.worker ?_ (conserved_step p.bus .tick h.conserved)
      unfold TelemetryState.step
      dsimp only
      split
      · rename_i hphase
        exact moves_startFlush (h.conserved.idle hphase) hphase (fun e he => h.holding_named e (by
          simp [holding, he]))
      · exact moves_self p.bus
    | encode =>
      refine h.worker ?_ (conserved_step p.bus (.encode serialize) h.conserved)
      unfold TelemetryState.step
      dsimp only
      split
      · rename_i i shardBatch todo hphase
        exact moves_encodeShard hphase
      · exact moves_self p.bus
    | attempt stored ok now =>
      refine h.moves (taken_subset (.attempt stored ok now)) ?_ (conserved_step p.bus _ h.conserved)
      unfold TelemetryState.step taken
      cases hphase : p.bus.phase with
      | idle | encoding => exact moves_self p.bus
      | sending pipe retry todo => exact moves_attemptPipe hphase
  · exact h

end GatewayProcess

end IPProxyPool
