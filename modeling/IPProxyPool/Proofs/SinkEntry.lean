import IPProxyPool.Model.Sink

/-!
# One entry of the sink

What `classify_entry` does to the window and to the three vectors, stated once for the proofs about
acknowledgements, about landing once and about restarts.
-/

namespace IPProxyPool
open AssocTable

namespace SinkCycle

variable {c : SinkCycle} {row : TelemetryRow} {id rowsCap : Nat}

lemma admitRow_cases (c : SinkCycle) (row : TelemetryRow) (id rowsCap : Nat) :
    c.admitRow row id rowsCap = c.push row id ∨ c.admitRow row id rowsCap = c.hold id := by
  unfold admitRow
  split
  · exact .inl rfl
  · exact .inr rfl

lemma skipIds_admitRow : (c.admitRow row id rowsCap).skipIds = c.skipIds := by
  rcases admitRow_cases c row id rowsCap with h | h <;> rw [h] <;> rfl

lemma duplicateIds_admitRow : (c.admitRow row id rowsCap).duplicateIds = c.duplicateIds := by
  rcases admitRow_cases c row id rowsCap with h | h <;> rw [h] <;> rfl

/-- What the cap holds back is on no list of acknowledgements. -/
def HeldApart (c : SinkCycle) : Prop := ∀ id ∈ c.heldIds, id ∉ c.skipIds ∧ id ∉ c.validIds

lemma mem_ids {x : Nat} : x ∈ c.ids ↔ x ∈ c.skipIds ∨ x ∈ c.validIds ∨ x ∈ c.heldIds := by
  simp [ids]

/-- The cycle after one more entry: its lists grow by that entry only. -/
structure Grown (c c' : SinkCycle) (id : Nat) : Prop where
  ids_sub : ∀ x ∈ c'.ids, x ∈ c.ids ∨ x = id
  apart : c.HeldApart → id ∉ c.ids → c'.HeldApart

lemma grown_skip : Grown c (c.skip id) id := by
  refine ⟨fun x hx => ?_, fun hc hid x hx => ?_⟩
  · simp only [mem_ids, skip, List.mem_append, List.mem_singleton] at hx ⊢
    tauto
  · rw [mem_ids] at hid
    have hne : x ≠ id := fun he => hid (.inr (.inr (he ▸ hx)))
    refine ⟨fun hs => ?_, (hc x hx).2⟩
    rcases List.mem_append.mp hs with hs | hs
    · exact (hc x hx).1 hs
    · exact hne (List.mem_singleton.mp hs)

lemma grown_duplicate : Grown c (c.duplicate id) id := ⟨grown_skip.ids_sub, grown_skip.apart⟩

lemma grown_admitRow : Grown c (c.admitRow row id rowsCap) id := by
  rcases admitRow_cases c row id rowsCap with h | h
  · rw [h]
    refine ⟨fun x hx => ?_, fun hc hid x hx => ?_⟩
    · simp only [mem_ids, push, List.mem_append, List.mem_singleton] at hx ⊢
      tauto
    · rw [mem_ids] at hid
      have hne : x ≠ id := fun he => hid (.inr (.inr (he ▸ hx)))
      refine ⟨(hc x hx).1, fun hv => ?_⟩
      rcases List.mem_append.mp hv with hv | hv
      · exact (hc x hx).2 hv
      · exact hne (List.mem_singleton.mp hv)
  · rw [h]
    refine ⟨fun x hx => ?_, fun hc hid x hx => ?_⟩
    · simp only [mem_ids, hold, List.mem_append, List.mem_singleton] at hx ⊢
      tauto
    · rw [mem_ids, not_or, not_or] at hid
      rcases List.mem_append.mp hx with hx | hx
      · exact hc x hx
      · rw [List.mem_singleton.mp hx]
        exact ⟨hid.1, hid.2.1⟩

end SinkCycle

/-- The event id of an entry; none for poison. -/
def eventIdOf (f : WireFormat) (stream : Nat → Fields) (id : Nat) : Option String :=
  (parseEntry f (stream id)).map Prod.snd

/-- The window after a valid entry with event id `eventId` that was not a duplicate. -/
def SeenIds.Noted (s : SeenIds) (isRedelivery : Bool) (eventId : String) (s' : SeenIds) : Prop :=
  (isRedelivery = true ∨ eventId = "") ∧ s' = s ∨
    isRedelivery = false ∧ eventId ≠ "" ∧ ∃ h : eventId ∉ s.set, s' = s.insert eventId h

/-- An entry is poison, a duplicate of an id in the window, or noted and admitted. -/
theorem classify_cases (f : WireFormat) (stream : Nat → Fields) (isRedelivery : Bool)
    (w : ChSinkWorker) (id : Nat) :
    (parseEntry f (stream id) = none ∧
        w.classify f stream isRedelivery id = { w with cycle := w.cycle.skip id }) ∨
      (∃ row eventId, parseEntry f (stream id) = some (row, eventId) ∧ isRedelivery = false ∧
        eventId ≠ "" ∧ eventId ∈ w.seen.set ∧
        w.classify f stream isRedelivery id = { w with cycle := w.cycle.duplicate id }) ∨
      ∃ row eventId seen, parseEntry f (stream id) = some (row, eventId) ∧
        w.seen.Noted isRedelivery eventId seen ∧
        w.classify f stream isRedelivery id =
          { w with seen := seen, cycle := w.cycle.admitRow row id w.rowsCap } := by
  unfold ChSinkWorker.classify classifyEntry
  rcases hp : parseEntry f (stream id) with _ | ⟨row, eventId⟩
  · exact .inl ⟨rfl, rfl⟩
  · refine .inr ?_
    dsimp only
    by_cases hlook : isRedelivery = false ∧ eventId ≠ ""
    · obtain ⟨hfresh, hne⟩ := hlook
      by_cases hmem : eventId ∈ w.seen.set
      · refine .inl ⟨row, eventId, rfl, hfresh, hne, hmem, ?_⟩
        simp [hfresh, hne, SeenIds.checkAndInsert, hmem]
      · refine .inr ⟨row, eventId, _, rfl, .inr ⟨hfresh, hne, hmem, rfl⟩, ?_⟩
        simp [hfresh, hne, SeenIds.checkAndInsert, hmem]
    · have hskip : isRedelivery = true ∨ eventId = "" := by
        rcases Bool.eq_false_or_eq_true isRedelivery with h | h
        · exact .inl h
        · exact .inr (by_contra (fun hne => hlook ⟨h, hne⟩))
      refine .inr ⟨row, eventId, w.seen, rfl, .inl ⟨hskip, rfl⟩, ?_⟩
      rcases hskip with hskip | hskip
      · simp [hskip]
      · simp [hskip]

/-- All that one entry changes, as the invariants of the sink need it. -/
structure Classified (f : WireFormat) (stream : Nat → Fields) (isRedelivery : Bool)
    (w w' : ChSinkWorker) (id : Nat) : Prop where
  phase_eq : w'.phase = w.phase
  grown : SinkCycle.Grown w.cycle w'.cycle id
  skips : ∀ x ∈ w'.cycle.skipIds, x ∈ w.cycle.skipIds ∨ x = id ∧
    (eventIdOf f stream id = none ∨ isRedelivery = false ∧ id ∈ w'.cycle.duplicateIds ∧
      ∃ eventId, eventId ≠ "" ∧ eventIdOf f stream id = some eventId ∧ eventId ∈ w.seen.order)
  duplicates_kept : ∀ x ∈ w.cycle.duplicateIds, x ∈ w'.cycle.duplicateIds
  duplicates : ∀ x ∈ w'.cycle.duplicateIds, x ∈ w.cycle.duplicateIds ∨ x = id ∧
    ∃ eventId, eventId ≠ "" ∧ eventIdOf f stream id = some eventId ∧ eventId ∈ w.seen.order
  window : ∀ eventId ∈ w'.seen.order, eventId ∈ w.seen.order ∨ isRedelivery = false ∧
    eventIdOf f stream id = some eventId ∧ w'.cycle.skipIds = w.cycle.skipIds

lemma eventIdOf_eq_none {f : WireFormat} {stream : Nat → Fields} {id : Nat} :
    eventIdOf f stream id = none ↔ parseEntry f (stream id) = none := by
  simp [eventIdOf]

theorem classified (f : WireFormat) (stream : Nat → Fields) (isRedelivery : Bool)
    (w : ChSinkWorker) (id : Nat) :
    Classified f stream isRedelivery w (w.classify f stream isRedelivery id) id := by
  rcases classify_cases f stream isRedelivery w id with
    ⟨hpoison, hw⟩ | ⟨row, eventId, hparse, hfresh, hne, hseen, hw⟩ |
      ⟨row, eventId, seen, hparse, hnoted, hw⟩
  · rw [hw]
    refine ⟨rfl, SinkCycle.grown_skip, fun x hx => ?_, fun x hx => hx, fun x hx => .inl hx,
      fun e he => .inl he⟩
    rcases List.mem_append.mp hx with hx | hx
    · exact .inl hx
    · exact .inr ⟨List.mem_singleton.mp hx, .inl (eventIdOf_eq_none.mpr hpoison)⟩
  · rw [hw]
    rw [w.seen.set_eq, List.mem_toFinset] at hseen
    have hcopy : ∃ e, e ≠ "" ∧ eventIdOf f stream id = some e ∧ e ∈ w.seen.order :=
      ⟨eventId, hne, by simp [eventIdOf, hparse], hseen⟩
    refine ⟨rfl, SinkCycle.grown_duplicate, fun x hx => ?_, fun x hx => List.mem_append_left _ hx,
      fun x hx => ?_, fun e he => .inl he⟩
    · rcases List.mem_append.mp hx with hx | hx
      · exact .inl hx
      · exact .inr ⟨List.mem_singleton.mp hx,
          .inr ⟨hfresh, by simp [SinkCycle.duplicate], hcopy⟩⟩
    · rcases List.mem_append.mp hx with hx | hx
      · exact .inl hx
      · exact .inr ⟨List.mem_singleton.mp hx, hcopy⟩
  · rw [hw]
    refine ⟨rfl, SinkCycle.grown_admitRow, fun x hx => ?_, fun x hx => ?_, fun x hx => ?_,
      fun e he => ?_⟩
    · rw [SinkCycle.skipIds_admitRow] at hx
      exact .inl hx
    · rwa [SinkCycle.duplicateIds_admitRow]
    · rw [SinkCycle.duplicateIds_admitRow] at hx
      exact .inl hx
    · rw [SinkCycle.skipIds_admitRow]
      rcases hnoted with ⟨-, rfl⟩ | ⟨hfresh, -, hmem, rfl⟩
      · exact .inl he
      · rcases List.mem_append.mp he with he | he
        · exact .inl (w.seen.roomFor_makeRoom.sublist.mem he)
        · rw [List.mem_singleton.mp he]
          exact .inr ⟨hfresh, by simp [eventIdOf, hparse], rfl⟩

/-! ### A concrete stream -/

def sampleMessage : TelemetryMessage where
  targetDomain := "a.com"
  outIp := "1.2.3.4"
  statusCode := 200
  eventId := "1700000000000-7-1"
  traceId := ""
  clientIp := "5.6.7.8"
  provider := "p"
  tier := "isp"
  country := "US"
  latencyMs := 10
  transferredBytes := 20
  retryCount := 0
  tenantId := none
  errorType := none
  timestamp := 1700000000000

def samplePayload : String :=
  "\x7b\"event_id\":\"1700000000000-7-1\",\"trace_id\":\"\",\"client_ip\":\"5.6.7.8\"," ++
  "\"target_domain\":\"a.com\",\"out_ip\":\"1.2.3.4\",\"provider\":\"p\",\"tier\":\"isp\"," ++
  "\"country\":\"US\",\"status_code\":200,\"latency_ms\":10,\"transferred_bytes\":20," ++
  "\"retry_count\":0,\"tenant_id\":null,\"error_type\":null,\"timestamp\":1700000000000\x7d"

/-- What the third-party conversions make of the sample payload. -/
def sampleFormat : WireFormat where
  fromStr s := if s = samplePayload then some sampleMessage else none
  fromTimestampMillis n := some n

/-- Entries 0 and 1 are copies of one event, the others are poison. -/
def sampleStream (id : Nat) : Fields :=
  if id < 2 then (∅ : Fields).insert "payload" (.bulkString samplePayload.toByteArray.data.toList)
  else ∅

lemma stringFromUtf8_toByteArray (s : String) :
    stringFromUtf8 s.toByteArray.data.toList = some s := by
  have h : (⟨s.toByteArray.data.toList.toArray⟩ : ByteArray) = s.toByteArray := by simp
  unfold stringFromUtf8 String.fromUTF8?
  rw [h, dif_pos s.isValidUTF8]
  rfl

lemma fieldText_payload (json : String) :
    fieldText ((∅ : Fields).insert "payload" (.bulkString json.toByteArray.data.toList)) "payload" =
      some json := by
  unfold fieldText
  rw [AList.lookup_insert]
  exact stringFromUtf8_toByteArray json

lemma parseEntry_of_payload {f : WireFormat} {fields : Fields} {json : String}
    {event : TelemetryMessage} (htext : fieldText fields "payload" = some json)
    (hjson : f.fromStr json = some event) :
    parseEntry f fields = some (.ofMessage f event, event.eventId) := by
  unfold parseEntry
  rw [htext]
  simp [hjson]

lemma parseEntry_sampleStream (id : Nat) : parseEntry sampleFormat (sampleStream id) =
    if id < 2 then some (.ofMessage sampleFormat sampleMessage, sampleMessage.eventId)
    else none := by
  unfold sampleStream
  split
  · refine parseEntry_of_payload (fieldText_payload samplePayload) ?_
    simp [sampleFormat]
  · rfl

end IPProxyPool
