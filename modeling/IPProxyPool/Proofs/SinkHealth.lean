import IPProxyPool.Model.SinkSystem

/-!
# The health of the backends

`telemetry_sink_up` and its companions against the attempts that were made. The second attempt of a
pipe is never reported, and a successful insert only when its entries have been acknowledged. So the
series of Redis are right for as long as no pipe is sent again, and those of ClickHouse except
between an insert and its report.
-/

namespace IPProxyPool
open Transition

/-! ### Series and attempts -/

def latestSuccess (attempts : List WriteAttempt) : Option Nat :=
  (attempts.filter WriteAttempt.ok).getLast?.map WriteAttempt.time

/-- The gauge is the outcome of the last attempt, the time that of the last success (0 before it),
and the counter the number of failures; nothing is there before the first attempt. -/
structure Reflects (attempts : List WriteAttempt) (h : SinkHealth) : Prop where
  up : h.up = attempts.getLast?.map (fun a => if a.ok then 1 else 0)
  last_ok : h.lastOk = if attempts = [] then none else some ((latestSuccess attempts).getD 0)
  failures : h.failures.getD 0 = (attempts.filter (fun a => !a.ok)).length

lemma reflects_nil : Reflects [] {} := ⟨rfl, rfl, rfl⟩

lemma latestSuccess_append (attempts : List WriteAttempt) (a : WriteAttempt) :
    latestSuccess (attempts ++ [a]) = if a.ok then some a.time else latestSuccess attempts := by
  unfold latestSuccess
  rw [List.filter_append]
  cases h : a.ok with
  | true => simp [h]
  | false => simp [h]

/-- A report keeps the series right. -/
lemma reflects_mark {attempts : List WriteAttempt} {h : SinkHealth} (hr : Reflects attempts h)
    (a : WriteAttempt) : Reflects (attempts ++ [a]) (Delivery.mark h a) := by
  unfold Delivery.mark
  cases hok : a.ok with
  | true =>
    refine ⟨?_, ?_, ?_⟩
    · simp [SinkHealth.markSinkOk, hok]
    · simp [SinkHealth.markSinkOk, latestSuccess_append, hok]
    · simp [SinkHealth.markSinkOk, hok, hr.failures]
  | false =>
    refine ⟨?_, ?_, ?_⟩
    · simp [SinkHealth.markSinkFailed, hok]
    · rw [if_neg (by simp), latestSuccess_append, hok]
      have hlast := hr.last_ok
      by_cases hnil : attempts = []
      · subst hnil
        simp [SinkHealth.markSinkFailed, hlast, latestSuccess]
      · rw [if_neg hnil] at hlast
        simp [SinkHealth.markSinkFailed, hlast]
    · simp [SinkHealth.markSinkFailed, hok, hr.failures]

/-- Without a report the series are wrong, if the last attempt before had failed. -/
lemma not_reflects_append {attempts : List WriteAttempt} {h : SinkHealth}
    (hr : Reflects attempts h) (hfail : ∀ b ∈ attempts.getLast?, b.ok = false) (a : WriteAttempt) :
    ¬Reflects (attempts ++ [a]) h := by
  intro hr'
  cases hok : a.ok with
  | true =>
    have hup := hr'.up
    rw [hr.up, List.getLast?_append, List.getLast?_singleton] at hup
    cases hlast : attempts.getLast? with
    | none => simp [hlast] at hup
    | some b =>
      have hb : b.ok = false := hfail b hlast
      simp [hlast, hok, hb] at hup
  | false =>
    have hfailures := hr'.failures
    rw [hr.failures] at hfailures
    simp [hok] at hfailures

lemma latestSuccess_of_getLast {attempts : List WriteAttempt} {t : Nat}
    (h : attempts.getLast? = some ⟨true, t⟩) : latestSuccess attempts = some t := by
  obtain ⟨earlier, rfl⟩ := List.getLast?_eq_some_iff.mp h
  exact latestSuccess_append earlier ⟨true, t⟩

/-- A success that is not reported leaves the series right exactly when they tell of another success
at the same time. -/
lemma reflects_append_success_iff {attempts : List WriteAttempt} {h : SinkHealth}
    (hr : Reflects attempts h) (now : Nat) :
    Reflects (attempts ++ [⟨true, now⟩]) h ↔ attempts.getLast? = some ⟨true, now⟩ := by
  constructor
  · intro hr'
    have hup := hr'.up
    rw [hr.up, List.getLast?_append, List.getLast?_singleton] at hup
    have hlast := hr'.last_ok
    have hnil : attempts ++ [(⟨true, now⟩ : WriteAttempt)] ≠ [] := by simp
    rw [hr.last_ok, if_neg hnil, latestSuccess_append] at hlast
    cases ha : attempts.getLast? with
    | none => simp [ha] at hup
    | some a =>
      obtain ⟨ok, t⟩ := a
      obtain rfl : ok = true := by simpa [ha] using hup
      have hne : attempts ≠ [] := by
        rintro rfl
        cases ha
      rw [if_neg hne, latestSuccess_of_getLast ha] at hlast
      simpa using hlast
  · intro ha
    have hne : attempts ≠ [] := by
      rintro rfl
      cases ha
    refine ⟨?_, ?_, ?_⟩
    · rw [hr.up, ha, List.getLast?_append, List.getLast?_singleton]
      rfl
    · rw [hr.last_ok, if_neg hne, if_neg (by simp), latestSuccess_append,
        latestSuccess_of_getLast ha]
      rfl
    · simp [hr.failures]

/-- A success that is reported again is told right exactly when the time is the same. -/
lemma reflects_markSinkOk_iff {attempts : List WriteAttempt} {h : SinkHealth} {t : Nat}
    (hr : Reflects attempts h) (ha : attempts.getLast? = some ⟨true, t⟩) (now : Nat) :
    Reflects attempts (h.markSinkOk now) ↔ attempts.getLast? = some ⟨true, now⟩ := by
  have hne : attempts ≠ [] := by
    rintro rfl
    cases ha
  constructor
  · intro hr'
    have hlast := hr'.last_ok
    rw [if_neg hne, latestSuccess_of_getLast ha] at hlast
    obtain rfl : now = t := Option.some.inj hlast
    exact ha
  · intro hnow
    refine ⟨?_, ?_, hr.failures⟩
    · rw [ha]
      rfl
    · rw [if_neg hne, latestSuccess_of_getLast hnow]
      rfl

/-! ### Runs -/

namespace Delivery

/-- The series of both backends are right. -/
structure Reported (s : Delivery) : Prop where
  redis : Reflects s.redisAttempts s.telemetry.redis
  clickhouse : Reflects s.clickhouseAttempts s.clickhouse

/-- The operation sends a pipe for the second time. -/
def SecondAttempt (s : Delivery) : DeliveryOp → Prop
  | .flush (.attempt _ _) => ∃ pipe todo, s.telemetry.phase = .sending pipe true todo
  | _ => False

/-- An insert succeeds, and the series do not say already what its report will say: the attempt
before it failed, or was made in another second. -/
def AwaitsReport (s : Delivery) : DeliveryOp → Prop
  | .pump (.insert true) now =>
    s.sink.worker.phase = .inserting ∧ s.clickhouseAttempts.getLast? ≠ some ⟨true, now⟩
  | _ => False

/-- The report of an insert carries another second than the insert. -/
def ReportsLate (s : Delivery) : DeliveryOp → Prop
  | .pump (.xackValid _) now =>
    s.sink.worker.phase = .acking ∧ s.clickhouseAttempts.getLast? ≠ some ⟨true, now⟩
  | _ => False

/-- The series of ClickHouse are right up to an insert that waits for its report. -/
def ClickhouseReported (s : Delivery) : Prop :=
  Reflects (if s.sink.worker.phase = .acking then s.clickhouseAttempts.dropLast
    else s.clickhouseAttempts) s.clickhouse

/-- The entries that are acknowledged have just been inserted. -/
def AcksAfterSuccess (s : Delivery) : Prop :=
  s.sink.worker.phase = .acking → ∃ t, s.clickhouseAttempts.getLast? = some ⟨true, t⟩

/-- A pipe that waits for its second attempt has just failed. -/
def RetryAfterFailure (s : Delivery) : Prop :=
  ∀ pipe todo, s.telemetry.phase = .sending pipe true todo →
    ∀ b ∈ s.redisAttempts.getLast?, b.ok = false

variable {c : TelemetryConfig} {s : TelemetryState}

/-- No pipe waits for its second attempt. -/
def NoRetry (s : TelemetryState) : Prop := ∀ pipe todo, s.phase ≠ .sending pipe true todo

lemma nextShard_health (todo : List (Nat × List TelemetryMessage)) :
    (s.nextShard todo).redis = s.redis ∧ NoRetry (s.nextShard todo) := by
  unfold TelemetryState.nextShard NoRetry
  split
  · exact ⟨rfl, fun _ _ h => by cases h⟩
  · exact ⟨rfl, fun _ _ h => by cases h⟩

lemma startFlush_health :
    (s.startFlush c).redis = s.redis ∧ (NoRetry s → NoRetry (s.startFlush c)) := by
  unfold TelemetryState.startFlush
  split
  · exact ⟨rfl, id⟩
  · exact ⟨rfl, fun _ _ _ h => by cases h⟩

lemma encodeShard_health {i : Nat} {shardBatch : List TelemetryMessage}
    {todo : List (Nat × List TelemetryMessage)} {serialize : TelemetryMessage → Option String} :
    (s.encodeShard c i shardBatch todo serialize).redis = s.redis ∧
      NoRetry (s.encodeShard c i shardBatch todo serialize) := by
  unfold TelemetryState.encodeShard
  split
  · exact nextShard_health todo
  · dsimp only
    split
    · exact nextShard_health todo
    · exact ⟨rfl, fun _ _ h => by cases h⟩

/-- What a step does to the series: nothing, the report of a first attempt, or a second attempt
that goes unreported. -/
inductive HealthStep (s s' : TelemetryState) (op : TelemetryOp) : Prop where
  | other (hop : ∀ ok now, op = .attempt ok now → ∀ pipe retry todo,
      s.phase ≠ .sending pipe retry todo) (hredis : s'.redis = s.redis)
      (hphase : ∀ pipe todo, s'.phase = .sending pipe true todo → s.phase = s'.phase)
  | first (ok : Bool) (now : Nat) (hop : op = .attempt ok now) {pipe : List XAdd}
      {todo : List (Nat × List TelemetryMessage)} (hphase : s.phase = .sending pipe false todo)
      (hredis : s'.redis = mark s.redis ⟨ok, now⟩) (hfail : ok = true → NoRetry s')
  | second (ok : Bool) (now : Nat) (hop : op = .attempt ok now) {pipe : List XAdd}
      {todo : List (Nat × List TelemetryMessage)} (hphase : s.phase = .sending pipe true todo)
      (hredis : s'.redis = s.redis) (hdone : NoRetry s')

lemma healthStep_of_noRetry {s' : TelemetryState} {op : TelemetryOp}
    (hop : ∀ ok now, op ≠ .attempt ok now) (h : s'.redis = s.redis ∧ NoRetry s') :
    HealthStep s s' op :=
  .other (fun ok now hop' => absurd hop' (hop ok now)) h.1
    (fun pipe todo hphase => absurd hphase (h.2 pipe todo))

lemma healthStep (c : TelemetryConfig) (s : TelemetryState) (op : TelemetryOp) :
    HealthStep s (s.step c op) op := by
  cases op with
  | trySend event nowMs =>
    refine .other (fun _ _ h => by cases h) ?_ (fun _ _ h => ?_)
    · unfold TelemetryState.step TelemetryState.assignId
      dsimp only
      split <;> split <;> rfl
    · unfold TelemetryState.step TelemetryState.assignId
      dsimp only
      split <;> split <;> rfl
  | countDropped =>
    refine .other (fun _ _ h => by cases h) ?_ (fun _ _ h => ?_)
    · unfold TelemetryState.step
      dsimp only
      split <;> rfl
    · unfold TelemetryState.step
      dsimp only
      split <;> rfl
  | recv =>
    unfold TelemetryState.step
    dsimp only
    split
    · rename_i event rest hidle hchannel
      refine healthStep_of_noRetry (fun _ _ h => by cases h) ?_
      have hnone : NoRetry { s with channel := rest, buffer := s.buffer ++ [event] } :=
        fun _ _ h => by cases hidle.symm.trans h
      split
      · obtain ⟨hredis, hphase⟩ := startFlush_health (c := c)
          (s := { s with channel := rest, buffer := s.buffer ++ [event] })
        exact ⟨hredis, hphase hnone⟩
      · exact ⟨rfl, hnone⟩
    · exact .other (fun _ _ h => by cases h) rfl (fun _ _ _ => rfl)
  | tick =>
    unfold TelemetryState.step
    dsimp only
    split
    · rename_i hidle
      refine healthStep_of_noRetry (fun _ _ h => by cases h) ⟨startFlush_health.1, ?_⟩
      exact startFlush_health.2 (fun _ _ h => by cases hidle.symm.trans h)
    · exact .other (fun _ _ h => by cases h) rfl (fun _ _ _ => rfl)
  | encode serialize =>
    unfold TelemetryState.step
    dsimp only
    split
    · exact healthStep_of_noRetry (fun _ _ h => by cases h) encodeShard_health
    · exact .other (fun _ _ h => by cases h) rfl (fun _ _ _ => rfl)
  | attempt ok now =>
    unfold TelemetryState.step
    dsimp only
    split
    · rename_i pipe retry todo hphase
      unfold TelemetryState.attemptPipe
      cases retry with
      | true =>
        rw [if_pos rfl]
        split
        · exact .second ok now rfl hphase (nextShard_health todo).1 (nextShard_health todo).2
        · exact .second ok now rfl hphase (nextShard_health todo).1 (nextShard_health todo).2
      | false =>
        rw [if_neg Bool.false_ne_true]
        cases ok with
        | true =>
          rw [if_pos rfl]
          exact .first true now rfl hphase (nextShard_health todo).1
            (fun _ => (nextShard_health todo).2)
        | false =>
          rw [if_neg Bool.false_ne_true]
          exact .first false now rfl hphase rfl (fun h => by cases h)
    · rename_i hphase
      exact .other (fun _ _ _ pipe retry todo h => hphase pipe retry todo h) rfl (fun _ _ _ => rfl)

variable {f : WireFormat} {stream : Nat → Fields}

lemma answeredPipe_of_other {s : Delivery} {op : TelemetryOp}
    (h : ∀ ok now, op = .attempt ok now → ∀ pipe retry todo,
      s.telemetry.phase ≠ .sending pipe retry todo) : s.answeredPipe op = [] := by
  unfold answeredPipe
  split
  · rename_i ok now
    split
    · rename_i pipe retry todo hphase
      exact absurd hphase (h ok now rfl pipe retry todo)
    · rfl
  · rfl

lemma answeredPipe_sending {s : Delivery} {pipe : List XAdd} {retry : Bool}
    {todo : List (Nat × List TelemetryMessage)}
    (h : s.telemetry.phase = .sending pipe retry todo) (ok : Bool) (now : Nat) :
    s.answeredPipe (.attempt ok now) = [⟨ok, now⟩] := by
  simp [answeredPipe, h]

lemma retryAfterFailure_step {s : Delivery} (h : s.RetryAfterFailure) (op : DeliveryOp) :
    (s.step c f stream op).RetryAfterFailure := by
  intro pipe todo hphase b hb
  cases op with
  | pump event now => exact h pipe todo hphase b hb
  | flush op =>
    change (s.telemetry.step c op).phase = _ at hphase
    change b ∈ (s.redisAttempts ++ s.answeredPipe op).getLast? at hb
    cases healthStep c s.telemetry op with
    | other hop hredis hkeep =>
      rw [answeredPipe_of_other hop, List.append_nil] at hb
      exact h pipe todo ((hkeep pipe todo hphase).trans hphase) b hb
    | first ok now hop hsending hredis hfail =>
      subst hop
      rw [answeredPipe_sending hsending, List.getLast?_append, List.getLast?_singleton] at hb
      cases hb
      cases ok with
      | true => exact absurd hphase (hfail rfl pipe todo)
      | false => rfl
    | second ok now hop hsending hredis hdone => exact absurd hphase (hdone pipe todo)

/-! ### ClickHouse -/

/-- What a step of the sink does to the series and the attempts. -/
inductive InsertStep (s s' : Delivery) (op : DeliveryOp) : Prop where
  | other (hawaits : ¬s.AwaitsReport op) (hlate : ¬s.ReportsLate op)
      (hattempts : s'.clickhouseAttempts = s.clickhouseAttempts)
      (hsame : s'.clickhouse = s.clickhouse)
      (hphase : s'.sink.worker.phase = .acking ↔ s.sink.worker.phase = .acking)
  | failed (now : Nat) (hop : op = .pump (.insert false) now)
      (hphase : s.sink.worker.phase = .inserting)
      (hattempts : s'.clickhouseAttempts = s.clickhouseAttempts ++ [⟨false, now⟩])
      (hmark : s'.clickhouse = s.clickhouse.markSinkFailed)
      (hnext : s'.sink.worker.phase ≠ .acking)
  | inserted (now : Nat) (hop : op = .pump (.insert true) now)
      (hphase : s.sink.worker.phase = .inserting)
      (hattempts : s'.clickhouseAttempts = s.clickhouseAttempts ++ [⟨true, now⟩])
      (hsame : s'.clickhouse = s.clickhouse) (hnext : s'.sink.worker.phase = .acking)
  | reported (ok : Bool) (now : Nat) (hop : op = .pump (.xackValid ok) now)
      (hphase : s.sink.worker.phase = .acking)
      (hattempts : s'.clickhouseAttempts = s.clickhouseAttempts)
      (hmark : s'.clickhouse = s.clickhouse.markSinkOk now)
      (hnext : s'.sink.worker.phase ≠ .acking)

lemma phase_step_of_ne {l : SinkLifetime} {event : SinkEvent}
    (hinsert : ∀ ok, event = .insert ok → l.worker.phase ≠ .inserting)
    (hxack : ∀ ok, event = .xackValid ok → l.worker.phase ≠ .acking) :
    (l.step f stream event).worker.phase = .acking ↔ l.worker.phase = .acking := by
  cases event with
  | reclaim ids =>
    unfold SinkLifetime.step
    dsimp only
    split
    · rename_i hphase
      rw [hphase]
      exact iff_of_false (fun h => by cases h) (fun h => by cases h)
    · rfl
  | read ids =>
    unfold SinkLifetime.step
    dsimp only
    split
    · rename_i hphase
      rw [hphase]
      exact iff_of_false (fun h => by cases h) (fun h => by cases h)
    · rfl
  | xackSkips ok =>
    unfold SinkLifetime.step
    dsimp only
    split
    · rename_i hphase
      rw [hphase]
      refine iff_of_false (fun h => ?_) (fun h => by cases h)
      unfold ChSinkWorker.afterSkips at h
      split at h
      · cases h
      · cases h
    · rfl
  | insert ok =>
    unfold SinkLifetime.step
    dsimp only
    rw [if_neg (hinsert ok rfl)]
  | xackValid ok =>
    unfold SinkLifetime.step
    dsimp only
    rw [if_neg (hxack ok rfl)]

lemma answeredInsert_of_ne {s : Delivery} {event : SinkEvent}
    (hinsert : ∀ ok, event = .insert ok → s.sink.worker.phase ≠ .inserting) (now : Nat) :
    s.answeredInsert event now = [] := by
  unfold answeredInsert
  split
  · rename_i hphase
    exact absurd hphase (hinsert _ rfl)
  · rfl

lemma reportedInsert_of_ne {s : Delivery} {event : SinkEvent}
    (hinsert : ∀ ok, event = .insert ok → s.sink.worker.phase ≠ .inserting)
    (hxack : ∀ ok, event = .xackValid ok → s.sink.worker.phase ≠ .acking) (now : Nat) :
    s.reportedInsert event now = [] := by
  unfold reportedInsert
  split
  · rename_i hphase
    exact absurd hphase (hinsert false rfl)
  · rename_i hphase
    exact absurd hphase (hxack _ rfl)
  · rfl

variable (f stream) in
lemma insertStep (c : TelemetryConfig) (s : Delivery) (op : DeliveryOp) :
    InsertStep s (s.step c f stream op) op := by
  cases op with
  | flush op => exact .other id id rfl rfl Iff.rfl
  | pump event now =>
    by_cases hinsert : ∃ ok, event = .insert ok ∧ s.sink.worker.phase = .inserting
    · obtain ⟨ok, rfl, hphase⟩ := hinsert
      have hattempts : (s.step c f stream (.pump (.insert ok) now)).clickhouseAttempts =
          s.clickhouseAttempts ++ [⟨ok, now⟩] := by
        simp [step, answeredInsert, hphase]
      have hworker : ((s.step c f stream (.pump (.insert ok) now)).sink).worker =
          s.sink.worker.afterInsert ok := by
        simp [step, SinkLifetime.step, hphase]
      cases ok with
      | true =>
        refine .inserted now rfl hphase hattempts ?_ (by rw [hworker]; rfl)
        simp [step, reportedInsert, hphase]
      | false =>
        refine .failed now rfl hphase hattempts ?_ (by rw [hworker]; exact fun h => by cases h)
        simp [step, reportedInsert, hphase, mark]
    · by_cases hxack : ∃ ok, event = .xackValid ok ∧ s.sink.worker.phase = .acking
      · obtain ⟨ok, rfl, hphase⟩ := hxack
        refine .reported ok now rfl hphase ?_ ?_ ?_
        · simp [step, answeredInsert]
        · simp [step, reportedInsert, hphase, mark]
        · simp [step, SinkLifetime.step, hphase, ChSinkWorker.newCycle]
      · have hinsert' : ∀ ok, event = .insert ok → s.sink.worker.phase ≠ .inserting :=
          fun ok hevent hphase => hinsert ⟨ok, hevent, hphase⟩
        have hxack' : ∀ ok, event = .xackValid ok → s.sink.worker.phase ≠ .acking :=
          fun ok hevent hphase => hxack ⟨ok, hevent, hphase⟩
        refine .other ?_ ?_ ?_ ?_ (phase_step_of_ne hinsert' hxack')
        · cases event with
          | insert ok =>
            cases ok with
            | true => exact fun h => hinsert' true rfl h.1
            | false => exact id
          | _ => exact id
        · cases event with
          | xackValid ok => exact fun h => hxack' ok rfl h.1
          | _ => exact id
        · simp [step, answeredInsert_of_ne hinsert']
        · simp [step, reportedInsert_of_ne hinsert' hxack']

lemma acksAfterSuccess_step {s : Delivery} (h : s.AcksAfterSuccess) (op : DeliveryOp) :
    (s.step c f stream op).AcksAfterSuccess := by
  intro hphase
  cases insertStep f stream c s op with
  | other hawaits hlate hattempts hsame hkeep =>
    rw [hattempts]
    exact h (hkeep.mp hphase)
  | failed now hop hold hattempts hmark hnext => exact absurd hphase hnext
  | inserted now hop hold hattempts hsame hnext => exact ⟨now, by rw [hattempts]; simp⟩
  | reported ok now hop hold hattempts hmark hnext => exact absurd hphase hnext

/-- A step keeps the series of ClickHouse right exactly when it is no insert that waits for its
report and no late report. -/
lemma clickhouse_step_iff {s : Delivery} (hack : s.AcksAfterSuccess)
    (h : Reflects s.clickhouseAttempts s.clickhouse) (op : DeliveryOp) :
    Reflects (s.step c f stream op).clickhouseAttempts (s.step c f stream op).clickhouse ↔
      ¬s.AwaitsReport op ∧ ¬s.ReportsLate op := by
  cases insertStep f stream c s op with
  | other hawaits hlate hattempts hsame hkeep =>
    rw [hattempts, hsame]
    exact iff_of_true h ⟨hawaits, hlate⟩
  | failed now hop hphase hattempts hmark hnext =>
    subst hop
    rw [hattempts, hmark]
    exact iff_of_true (reflects_mark h ⟨false, now⟩) ⟨id, id⟩
  | inserted now hop hphase hattempts hsame hnext =>
    subst hop
    rw [hattempts, hsame, reflects_append_success_iff h now]
    exact ⟨fun hlast => ⟨fun hawaits => hawaits.2 hlast, id⟩,
      fun hnot => not_not.mp (fun hlast => hnot.1 ⟨hphase, hlast⟩)⟩
  | reported ok now hop hphase hattempts hmark hnext =>
    subst hop
    obtain ⟨t, ht⟩ := hack hphase
    rw [hattempts, hmark, reflects_markSinkOk_iff h ht now]
    exact ⟨fun hlast => ⟨id, fun hlate => hlate.2 hlast⟩,
      fun hnot => not_not.mp (fun hlast => hnot.2 ⟨hphase, hlast⟩)⟩

lemma clickhouseReported_step {s : Delivery} (h : s.ClickhouseReported) {op : DeliveryOp}
    (hlate : ¬s.ReportsLate op) : (s.step c f stream op).ClickhouseReported := by
  unfold ClickhouseReported at h ⊢
  cases insertStep f stream c s op with
  | other hawaits hlate hattempts hsame hkeep =>
    rw [hattempts, hsame]
    simp only [hkeep]
    exact h
  | failed now hop hphase hattempts hmark hnext =>
    rw [hphase, if_neg (fun h => by cases h)] at h
    rw [if_neg hnext, hattempts, hmark]
    exact reflects_mark h ⟨false, now⟩
  | inserted now hop hphase hattempts hsame hnext =>
    rw [hphase, if_neg (fun h => by cases h)] at h
    rw [if_pos hnext, hattempts, hsame, List.dropLast_concat]
    exact h
  | reported ok now hop hphase hattempts hmark hnext =>
    subst hop
    have hlast : s.clickhouseAttempts.getLast? = some ⟨true, now⟩ :=
      not_not.mp (fun hne => hlate ⟨hphase, hne⟩)
    obtain ⟨earlier, hsplit⟩ := List.getLast?_eq_some_iff.mp hlast
    rw [if_pos hphase, hsplit, List.dropLast_concat] at h
    rw [if_neg hnext, hattempts, hmark, hsplit]
    exact reflects_mark h ⟨true, now⟩

/-- A step keeps the series of Redis right exactly when it is no second attempt. -/
lemma redis_step_iff {s : Delivery} (hretry : s.RetryAfterFailure)
    (h : Reflects s.redisAttempts s.telemetry.redis) (op : DeliveryOp) :
    Reflects (s.step c f stream op).redisAttempts (s.step c f stream op).telemetry.redis ↔
      ¬s.SecondAttempt op := by
  cases op with
  | pump event now => exact iff_of_true h id
  | flush op =>
    change Reflects (s.redisAttempts ++ s.answeredPipe op) (s.telemetry.step c op).redis ↔ _
    cases healthStep c s.telemetry op with
    | other hop hsame hkeep =>
      rw [answeredPipe_of_other hop, List.append_nil, hsame]
      refine iff_of_true h (fun hsecond => ?_)
      cases op with
      | attempt ok now =>
        obtain ⟨pipe, todo, hphase⟩ := hsecond
        exact hop ok now rfl pipe true todo hphase
      | _ => exact hsecond
    | first ok now hop hsending hmark hfail =>
      subst hop
      rw [answeredPipe_sending hsending, hmark]
      refine iff_of_true (reflects_mark h _) (fun hsecond => ?_)
      obtain ⟨pipe, todo, hphase⟩ := hsecond
      cases hsending.symm.trans hphase
    | second ok now hop hsending hsame hdone =>
      subst hop
      rw [answeredPipe_sending hsending, hsame]
      exact iff_of_false (not_reflects_append h (hretry _ _ hsending) _)
        (fun hno => hno ⟨_, _, hsending⟩)

end Delivery

/-- The series of both backends are right after every step of a run exactly when the run sends no
pipe for the second time, and its successful inserts and their reports find another success of the
same second. Where every report is made in the second of its insert, the series of ClickHouse are
right in every state but those between the two, and there they tell of the attempts before. -/
theorem Delivery.sink_health_iff (c : TelemetryConfig) (f : WireFormat) (stream : Nat → Fields)
    (batchSize : Nat) (ops : List DeliveryOp) :
    (start batchSize).Reported ∧
    (Along (step c f stream) (fun s op => (s.step c f stream op).Reported) (start batchSize) ops ↔
      Along (step c f stream)
        (fun s op => ¬s.SecondAttempt op ∧ ¬s.AwaitsReport op ∧ ¬s.ReportsLate op)
        (start batchSize) ops) ∧
    (Along (step c f stream) (fun s op => ¬s.ReportsLate op) (start batchSize) ops →
      Along (step c f stream) (fun s op => (s.step c f stream op).ClickhouseReported)
        (start batchSize) ops) := by
  have hstart : (start batchSize).Reported := ⟨reflects_nil, reflects_nil⟩
  have hretry : (start batchSize).RetryAfterFailure := fun _ _ h => by cases h
  have hacks : (start batchSize).AcksAfterSuccess := fun h => by cases h
  refine ⟨hstart, ?_, ?_⟩
  · refine Iff.trans ?_ (along_keeps_iff
      (J := fun s => (s.RetryAfterFailure ∧ s.AcksAfterSuccess) ∧ s.Reported)
      (fun s op hs => ?_) ⟨⟨hretry, hacks⟩, hstart⟩ ops)
    · refine along_congr (J := fun s => s.RetryAfterFailure ∧ s.AcksAfterSuccess)
        (fun s op hs => ⟨retryAfterFailure_step hs.1 op, acksAfterSuccess_step hs.2 op⟩)
        (fun s op hs => ?_) ⟨hretry, hacks⟩ ops
      exact (and_iff_right ⟨retryAfterFailure_step hs.1 op, acksAfterSuccess_step hs.2 op⟩).symm
    · obtain ⟨⟨hretry, hacks⟩, hredis, hclickhouse⟩ := hs
      have hredis' : Reflects (s.step c f stream op).redisAttempts
          (s.step c f stream op).telemetry.redis ↔ ¬s.SecondAttempt op :=
        redis_step_iff hretry hredis op
      have hclickhouse' : Reflects (s.step c f stream op).clickhouseAttempts
          (s.step c f stream op).clickhouse ↔ ¬s.AwaitsReport op ∧ ¬s.ReportsLate op :=
        clickhouse_step_iff hacks hclickhouse op
      rw [← hredis', ← hclickhouse']
      exact ⟨fun h => ⟨h.2.redis, h.2.clickhouse⟩, fun h =>
        ⟨⟨retryAfterFailure_step hretry op, acksAfterSuccess_step hacks op⟩, h.1, h.2⟩⟩
  · have hreported : (start batchSize).ClickhouseReported := reflects_nil
    exact fun hlate => along_of_along (J := ClickhouseReported)
      (fun s op hs hop => clickhouseReported_step hs hop)
      (fun s op hs hop => clickhouseReported_step hs hop) hreported hlate

namespace Delivery

/-- One event, and a pipe that fails at time 5 and is sent again at time 6. -/
def retriedFlush (ok : Bool) : List DeliveryOp :=
  let event : TelemetryMessage := ⟨⟨"example.com", "10.0.0.1", 200⟩, "e", "t", "10.0.0.2", "acme",
    "residential", "US", 10, 0, 0, none, none, 0⟩
  [.flush (.trySend event 0), .flush .recv, .flush (.encode (fun _ => some "{}")),
    .flush (.attempt false 5), .flush (.attempt ok 6)]

/-- A second attempt that succeeds leaves the gauge at 0; one that fails is not counted. -/
theorem second_attempt_unreported :
    let final := fun ok => run (step ⟨10, 1, 1, 7, fun _ => 0⟩ ⟨fun _ => none, fun _ => none⟩
      (fun _ => ∅)) (start 1) (retriedFlush ok)
    ((final true).redisAttempts = [⟨false, 5⟩, ⟨true, 6⟩] ∧
      (final true).telemetry.redis.up = some 0 ∧ ¬(final true).Reported) ∧
    ((final false).redisAttempts = [⟨false, 5⟩, ⟨false, 6⟩] ∧
      (final false).telemetry.redis.failures = some 1 ∧ ¬(final false).Reported) := by
  refine ⟨⟨rfl, rfl, fun h => ?_⟩, ⟨rfl, rfl, fun h => ?_⟩⟩
  · exact absurd h.redis.up (by decide)
  · exact absurd h.redis.failures (by decide)

end Delivery

end IPProxyPool
