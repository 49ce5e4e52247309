import IPProxyPool.Lib.Run
import IPProxyPool.Proofs.SinkEntry

/-!
# Acknowledgements of the sink

Within one lifetime of the worker an entry is passed to `XACK` only if it is poison, has landed, or
is a duplicate of an entry that keeps its event. The invariant is that every id in the dedupe window
was put there by an entry that has landed or is not on any list of acknowledgements.
-/

namespace IPProxyPool
open Transition

/-- The first of two entries was handed out before the second one first was. -/
def Before (delivered : List Nat) (earlier id : Nat) : Prop :=
  ∃ front back, delivered = front ++ id :: back ∧ earlier ∈ front

lemma Before.append {delivered : List Nat} {earlier id : Nat} (h : Before delivered earlier id)
    (more : List Nat) : Before (delivered ++ more) earlier id := by
  obtain ⟨front, back, rfl, hmem⟩ := h
  exact ⟨front, back ++ more, by simp, hmem⟩

lemma Before.last {delivered : List Nat} {earlier : Nat} (h : earlier ∈ delivered) (id : Nat) :
    Before (delivered ++ [id]) earlier id := ⟨delivered, [], rfl, h⟩

lemma Before.mem {delivered : List Nat} {earlier id : Nat} (h : Before delivered earlier id) :
    earlier ∈ delivered := by
  obtain ⟨front, back, rfl, hmem⟩ := h
  exact List.mem_append_left _ hmem

/-- What the stream promises: a read returns entries that were never handed out before, and neither
a read nor a claim returns an entry twice. -/
def SinkLifetime.Delivers (l : SinkLifetime) : SinkEvent → Prop
  | .read ids => ids.Nodup ∧ ∀ id ∈ ids, id ∉ l.delivered
  | .reclaim ids => ids.Nodup
  | _ => True

section Lifetime

variable (f : WireFormat) (stream : Nat → Fields)

namespace SinkLifetime

/-- The entry has landed, or it is not acknowledged and will not be in this cycle as skipped. -/
def Safe (l : SinkLifetime) (id : Nat) : Prop :=
  id ∈ l.landed ∨ id ∉ l.xacked ∧ id ∉ l.worker.cycle.skipIds

/-- The entry is a copy of an earlier one, which keeps the event. -/
def CopyOf (l : SinkLifetime) (id : Nat) : Prop :=
  ∃ eventId, eventId ≠ "" ∧ eventIdOf f stream id = some eventId ∧
    ∃ earlier, Before l.delivered earlier id ∧ eventIdOf f stream earlier = some eventId ∧
      l.Safe earlier

structure AckInv (l : SinkLifetime) : Prop where
  window : ∀ eventId ∈ l.worker.seen.order,
    ∃ id ∈ l.delivered, eventIdOf f stream id = some eventId ∧ l.Safe id
  cycle_delivered : ∀ id ∈ l.worker.cycle.ids, id ∈ l.delivered
  skips : ∀ id ∈ l.worker.cycle.skipIds,
    eventIdOf f stream id = none ∨ id ∈ l.worker.cycle.duplicateIds
  copies : ∀ id, id ∈ l.duplicates ∨ id ∈ l.worker.cycle.duplicateIds → l.CopyOf f stream id
  xacked_delivered : ∀ id ∈ l.xacked, id ∈ l.delivered
  xacked : ∀ id ∈ l.xacked,
    eventIdOf f stream id = none ∨ id ∈ l.landed ∨ id ∈ l.duplicates
  apart : l.worker.cycle.HeldApart

/-- What the stage of the cycle adds to the invariant. -/
structure StageInv (l : SinkLifetime) : Prop where
  acking : l.worker.phase = .acking → ∀ id ∈ l.worker.cycle.validIds, id ∈ l.landed
  reclaiming : l.worker.phase = .reclaiming → l.worker.cycle = {}

/-- The discipline in one state: why each id was passed to `XACK`, and what was not. -/
structure AckDiscipline (l : SinkLifetime) : Prop where
  acked : ∀ id ∈ l.xacked, parseEntry f (stream id) = none ∨ id ∈ l.landed ∨ id ∈ l.duplicates
  duplicate : ∀ id ∈ l.duplicates, ∃ eventId, eventId ≠ "" ∧
    eventIdOf f stream id = some eventId ∧ ∃ earlier, Before l.delivered earlier id ∧
      eventIdOf f stream earlier = some eventId ∧ (earlier ∈ l.landed ∨ earlier ∉ l.xacked)
  unlanded_kept : ∀ id ∈ l.delivered, parseEntry f (stream id) ≠ none → id ∉ l.duplicates →
    id ∉ l.landed → id ∉ l.xacked
  capped : ∀ id ∈ l.worker.cycle.heldIds,
    id ∉ l.worker.cycle.skipIds ∧ id ∉ l.worker.cycle.validIds

variable {f stream} {l : SinkLifetime}

/-- The entries that are safe stay so, while the lists they could be on do not take them in. -/
lemma Safe.mono {l' : SinkLifetime} {id : Nat} (h : l.Safe id)
    (hlanded : ∀ x ∈ l.landed, x ∈ l'.landed)
    (hxacked : id ∈ l'.xacked → id ∈ l'.landed ∨ id ∈ l.xacked ∨ id ∈ l.worker.cycle.skipIds)
    (hskip : id ∈ l'.worker.cycle.skipIds → id ∈ l.worker.cycle.skipIds) : l'.Safe id := by
  rcases h with h | ⟨hx, hs⟩
  · exact .inl (hlanded id h)
  · by_cases hl : id ∈ l'.landed
    · exact .inl hl
    · refine .inr ⟨fun hx' => ?_, fun hs' => hs (hskip hs')⟩
      rcases hxacked hx' with h' | h' | h'
      · exact hl h'
      · exact hx h'
      · exact hs h'

lemma CopyOf.mono {l' : SinkLifetime} {id : Nat} (h : l.CopyOf f stream id)
    (hbefore : ∀ earlier, Before l.delivered earlier id → Before l'.delivered earlier id)
    (hsafe : ∀ y, Before l.delivered y id → eventIdOf f stream y ≠ none → l.Safe y → l'.Safe y) :
    l'.CopyOf f stream id := by
  obtain ⟨eventId, hne, hid, earlier, hb, he, hs⟩ := h
  exact ⟨eventId, hne, hid, earlier, hbefore earlier hb, he,
    hsafe earlier hb (by simp [he]) hs⟩

/-! ### One entry -/

variable {isRedelivery : Bool} {id : Nat}

/-- An entry that is safe is not skipped: poison has no event, and a duplicate is new. -/
lemma Safe.deliver {y : Nat} (h : l.Safe y) (hmem : y ∈ l.delivered)
    (hy : eventIdOf f stream y ≠ none) (hnew : isRedelivery = false → id ∉ l.delivered) :
    (l.deliver f stream isRedelivery id).Safe y := by
  refine h.mono (fun x hx => hx) (fun hx => .inr (.inl hx)) (fun hs => ?_)
  change y ∈ (l.worker.classify f stream isRedelivery id).cycle.skipIds at hs
  rcases (classified f stream isRedelivery l.worker id).skips y hs with hs | ⟨rfl, hs⟩
  · exact hs
  · rcases hs with hpoison | ⟨hfresh, -⟩
    · exact absurd hpoison hy
    · exact absurd hmem (hnew hfresh)

lemma AckInv.deliver (h : l.AckInv f stream) (hcycle : id ∉ l.worker.cycle.ids)
    (hnew : isRedelivery = false → id ∉ l.delivered) :
    (l.deliver f stream isRedelivery id).AckInv f stream := by
  have hclass := classified f stream isRedelivery l.worker id
  have hsafe : ∀ y, y ∈ l.delivered → eventIdOf f stream y ≠ none → l.Safe y →
      (l.deliver f stream isRedelivery id).Safe y := fun y hmem hy hs => hs.deliver hmem hy hnew
  have hold : ∀ x, l.CopyOf f stream x → (l.deliver f stream isRedelivery id).CopyOf f stream x :=
    fun x hx => hx.mono (fun earlier hb => hb.append [id])
      (fun y hb hy hs => hsafe y hb.mem hy hs)
  refine ⟨fun e he => ?_, fun x hx => ?_, fun x hx => ?_, fun x hx => ?_,
    fun x hx => List.mem_append_left _ (h.xacked_delivered x hx), h.xacked,
    hclass.grown.apart h.apart hcycle⟩
  · rcases hclass.window e he with he | ⟨hfresh, hid, hskips⟩
    · obtain ⟨y, hy, hye, hs⟩ := h.window e he
      exact ⟨y, List.mem_append_left _ hy, hye, hsafe y hy (by simp [hye]) hs⟩
    · -- the entry itself keeps the event that it puts into the window
      refine ⟨id, List.mem_append_right _ (List.mem_singleton_self id), hid, .inr ⟨?_, ?_⟩⟩
      · exact fun hx => hnew hfresh (h.xacked_delivered id hx)
      · change id ∉ (l.worker.classify f stream isRedelivery id).cycle.skipIds
        rw [hskips]
        exact fun hs => hcycle (SinkCycle.mem_ids.mpr (.inl hs))
  · rcases hclass.grown.ids_sub x hx with hx | rfl
    · exact List.mem_append_left _ (h.cycle_delivered x hx)
    · exact List.mem_append_right _ (List.mem_singleton_self x)
  · rcases hclass.skips x hx with hx | ⟨rfl, hx⟩
    · exact (h.skips x hx).imp_right (hclass.duplicates_kept x)
    · exact hx.imp_right (fun hdup => hdup.2.1)
  · rcases hx with hx | hx
    · exact hold x (h.copies x (.inl hx))
    · rcases hclass.duplicates x hx with hx | ⟨rfl, e, hne, hid, hseen⟩
      · exact hold x (h.copies x (.inr hx))
      · -- the new duplicate is a copy of the entry that put its event into the window
        obtain ⟨y, hy, hye, hs⟩ := h.window e hseen
        exact ⟨e, hne, hid, y, Before.last hy x, hye, hsafe y hy (by simp [hye]) hs⟩

/-! ### The stages of a cycle -/

lemma AckInv.deliverAll (h : l.AckInv f stream) {ids : List Nat} (hnodup : ids.Nodup)
    (hcycle : ∀ x ∈ ids, x ∉ l.worker.cycle.ids)
    (hnew : isRedelivery = false → ∀ x ∈ ids, x ∉ l.delivered) :
    (ids.foldl (SinkLifetime.deliver f stream isRedelivery) l).AckInv f stream := by
  refine (run_rest (SinkLifetime.deliver f stream isRedelivery)
    (J := fun l rest => l.AckInv f stream ∧ rest.Nodup ∧ (∀ x ∈ rest, x ∉ l.worker.cycle.ids) ∧
      (isRedelivery = false → ∀ x ∈ rest, x ∉ l.delivered)) ?_ ids ⟨h, hnodup, hcycle, hnew⟩).1
  rintro l id rest ⟨h, hnodup, hcycle, hnew⟩
  obtain ⟨hid, hrest⟩ := List.nodup_cons.mp hnodup
  refine ⟨h.deliver (hcycle id List.mem_cons_self)
    (fun hfresh => hnew hfresh id List.mem_cons_self), hrest, fun x hx hmem => ?_,
    fun hfresh x hx hmem => ?_⟩
  · rcases (classified f stream isRedelivery l.worker id).grown.ids_sub x hmem with hmem | rfl
    · exact hcycle x (List.mem_cons_of_mem id hx) hmem
    · exact hid hx
  · rcases List.mem_append.mp hmem with hmem | hmem
    · exact hnew hfresh x (List.mem_cons_of_mem id hx) hmem
    · rw [List.mem_singleton.mp hmem] at hx
      exact hid hx

/-- A stage that looks at no entry: it may end the cycle, pass ids that are skipped or landed to
`XACK`, and land rows. -/
lemma AckInv.of_stage {l' : SinkLifetime} (h : l.AckInv f stream)
    (hdelivered : l'.delivered = l.delivered) (hseen : l'.worker.seen = l.worker.seen)
    (hcycle : l'.worker.cycle = l.worker.cycle ∨ l'.worker.cycle = {})
    (hlanded : ∀ x ∈ l.landed, x ∈ l'.landed)
    (hkept : ∀ x ∈ l.duplicates, x ∈ l'.duplicates)
    (hdup : ∀ x ∈ l'.duplicates, x ∈ l.duplicates ∨ x ∈ l.worker.cycle.duplicateIds)
    (hxacked : ∀ x ∈ l'.xacked, x ∈ l.xacked ∨
      (x ∈ l.worker.cycle.skipIds ∧ (x ∈ l.worker.cycle.duplicateIds → x ∈ l'.duplicates)) ∨
      (x ∈ l.worker.cycle.validIds ∧ x ∈ l'.landed)) : l'.AckInv f stream := by
  have hskips : ∀ x ∈ l'.worker.cycle.skipIds, x ∈ l.worker.cycle.skipIds := by
    rcases hcycle with hc | hc
    · rw [hc]
      exact fun x hx => hx
    · rw [hc]
      exact fun x hx => absurd hx List.not_mem_nil
  have hsafe : ∀ y, l.Safe y → l'.Safe y := fun y hy =>
    hy.mono hlanded (fun hx => by
      rcases hxacked y hx with hx | hx | hx
      · exact .inr (.inl hx)
      · exact .inr (.inr hx.1)
      · exact .inl hx.2) (hskips y)
  have hcopies : ∀ x, l.CopyOf f stream x → l'.CopyOf f stream x := fun x hx =>
    hx.mono (fun earlier hb => by rwa [hdelivered]) (fun y _ _ hy => hsafe y hy)
  refine ⟨fun e he => ?_, fun x hx => ?_, fun x hx => ?_, fun x hx => hcopies x ?_, fun x hx => ?_,
    fun x hx => ?_, ?_⟩
  · rw [hseen] at he
    obtain ⟨y, hy, hye, hs⟩ := h.window e he
    exact ⟨y, by rwa [hdelivered], hye, hsafe y hs⟩
  · rw [hdelivered]
    rcases hcycle with hc | hc
    · rw [hc] at hx
      exact h.cycle_delivered x hx
    · rw [hc] at hx
      exact absurd hx List.not_mem_nil
  · rcases hcycle with hc | hc
    · rw [hc] at hx ⊢
      exact h.skips x hx
    · rw [hc] at hx
      exact absurd hx List.not_mem_nil
  · rcases hx with hx | hx
    · exact h.copies x (hdup x hx)
    · rcases hcycle with hc | hc
      · rw [hc] at hx
        exact h.copies x (.inr hx)
      · rw [hc] at hx
        exact absurd hx List.not_mem_nil
  · rw [hdelivered]
    rcases hxacked x hx with hx | hx | hx
    · exact h.xacked_delivered x hx
    · exact h.cycle_delivered x (SinkCycle.mem_ids.mpr (.inl hx.1))
    · exact h.cycle_delivered x (SinkCycle.mem_ids.mpr (.inr (.inl hx.1)))
  · rcases hxacked x hx with hx | ⟨hx, hd⟩ | hx
    · exact (h.xacked x hx).imp_right (Or.imp (hlanded x) (hkept x))
    · exact (h.skips x hx).imp_right (fun hd' => .inr (hd hd'))
    · exact .inr (.inl hx.2)
  · rcases hcycle with hc | hc
    · rw [hc]
      exact h.apart
    · rw [hc]
      exact fun x hx => absurd hx List.not_mem_nil

lemma stageInv_of_ne (hacking : l.worker.phase ≠ .acking)
    (hreclaiming : l.worker.phase ≠ .reclaiming) : l.StageInv :=
  ⟨fun h => absurd h hacking, fun h => absurd h hreclaiming⟩

lemma stageInv_new (hphase : l.worker.phase = .reclaiming) (hcycle : l.worker.cycle = {}) :
    l.StageInv := by
  refine ⟨fun h => ?_, fun _ => hcycle⟩
  rw [hphase] at h
  cases h

lemma ackInv_step (l : SinkLifetime) (e : SinkEvent) (h : l.AckInv f stream ∧ l.StageInv)
    (hdelivers : l.Delivers e) :
    (l.step f stream e).AckInv f stream ∧ (l.step f stream e).StageInv := by
  obtain ⟨hack, hstage⟩ := h
  have hnote : ∀ claimed fresh window, SinkLifetime.AckInv f stream
      { l with claimed := claimed, fresh := fresh, window := window } :=
    fun _ _ _ => hack.of_stage rfl rfl (.inl rfl) (fun _ hx => hx) (fun _ hx => hx)
      (fun _ hx => .inl hx) (fun _ hx => .inl hx)
  have hgoto : ∀ (l' : SinkLifetime) (p : SinkPhase), l'.AckInv f stream →
      (l'.goto p).AckInv f stream :=
    fun l' p h' => h'.of_stage rfl rfl (.inl rfl) (fun _ hx => hx) (fun _ hx => hx)
      (fun _ hx => .inl hx) (fun _ hx => .inl hx)
  unfold step
  cases e with
  | reclaim ids =>
    dsimp only
    split
    · rename_i hphase
      have hcycle : ∀ x ∈ ids, x ∉ l.worker.cycle.ids := by
        rw [hstage.reclaiming hphase]
        exact fun x _ => List.not_mem_nil
      exact ⟨hgoto _ _ ((hnote ids [] l.window).deliverAll hdelivers hcycle
        (fun hf => by cases hf)), stageInv_of_ne (by simp [goto]) (by simp [goto])⟩
    · exact ⟨hack, hstage⟩
  | read ids =>
    dsimp only
    split
    · have hcycle : ∀ x ∈ ids, x ∉ l.worker.cycle.ids :=
        fun x hx hc => hdelivers.2 x hx (hack.cycle_delivered x hc)
      exact ⟨hgoto _ _ ((hnote l.claimed ids l.worker.seen.order).deliverAll hdelivers.1 hcycle
        (fun _ => hdelivers.2)),
        stageInv_of_ne (by simp [goto]) (by simp [goto])⟩
    · exact ⟨hack, hstage⟩
  | xackSkips ok =>
    dsimp only
    split
    · have hcycle : l.worker.afterSkips.seen = l.worker.seen ∧
          (l.worker.afterSkips.cycle = l.worker.cycle ∨ l.worker.afterSkips.cycle = {}) ∧
          l.worker.afterSkips.phase ≠ .acking ∧
          (l.worker.afterSkips.phase = .reclaiming → l.worker.afterSkips.cycle = {}) := by
        unfold ChSinkWorker.afterSkips
        split
        · exact ⟨rfl, .inr rfl, by simp [ChSinkWorker.newCycle], fun _ => rfl⟩
        · exact ⟨rfl, .inl rfl, by simp, by simp⟩
      obtain ⟨hseen, hcyc, hacking, hreclaiming⟩ := hcycle
      refine ⟨hack.of_stage rfl hseen hcyc (fun _ hx => hx) (fun _ hx => List.mem_append_left _ hx)
        (fun _ hx => List.mem_append.mp hx) (fun x hx => ?_),
        ⟨fun hp => absurd hp hacking, hreclaiming⟩⟩
      exact (List.mem_append.mp hx).imp_right
        (fun hs => .inl ⟨hs, fun hd => List.mem_append_right _ hd⟩)
    · exact ⟨hack, hstage⟩
  | insert ok =>
    dsimp only
    split
    · cases ok with
      | true =>
        refine ⟨hack.of_stage rfl rfl (.inl rfl) (fun _ hx => List.mem_append_left _ hx)
          (fun _ hx => hx) (fun _ hx => .inl hx) (fun _ hx => .inl hx),
          ⟨fun _ x hx => List.mem_append_right _ hx, fun hp => ?_⟩⟩
        cases hp
      | false =>
        exact ⟨hack.of_stage rfl rfl (.inr rfl) (fun _ hx => hx) (fun _ hx => hx)
          (fun _ hx => .inl hx) (fun _ hx => .inl hx), stageInv_new rfl rfl⟩
    · exact ⟨hack, hstage⟩
  | xackValid ok =>
    dsimp only
    split
    · rename_i hphase
      refine ⟨hack.of_stage rfl rfl (.inr rfl) (fun _ hx => hx) (fun _ hx => hx)
        (fun _ hx => .inl hx) (fun x hx => ?_), stageInv_new rfl rfl⟩
      exact (List.mem_append.mp hx).imp_right
        (fun hv => .inr ⟨hv, hstage.acking hphase x hv⟩)
    · exact ⟨hack, hstage⟩

lemma ackInv_start (f : WireFormat) (stream : Nat → Fields) (batchSize : Nat) :
    (start batchSize).AckInv f stream ∧ (start batchSize).StageInv := by
  refine ⟨⟨fun e he => ?_, fun x hx => ?_, fun x hx => ?_, fun x hx => ?_, fun x hx => ?_,
    fun x hx => ?_, fun x hx => ?_⟩, stageInv_new rfl rfl⟩
  · exact absurd he List.not_mem_nil
  · exact absurd hx List.not_mem_nil
  · exact absurd hx List.not_mem_nil
  · rcases hx with hx | hx <;> exact absurd hx List.not_mem_nil
  · exact absurd hx List.not_mem_nil
  · exact absurd hx List.not_mem_nil
  · exact absurd hx List.not_mem_nil

lemma AckInv.discipline (h : l.AckInv f stream) : l.AckDiscipline f stream := by
  have hacked : ∀ id ∈ l.xacked, parseEntry f (stream id) = none ∨ id ∈ l.landed ∨
      id ∈ l.duplicates := fun id hid => (h.xacked id hid).imp_left eventIdOf_eq_none.mp
  refine ⟨hacked, fun id hid => ?_, fun id _ hvalid hdup hland hx => ?_, h.apart⟩
  · obtain ⟨e, hne, he, earlier, hb, hye, hs⟩ := h.copies id (.inl hid)
    exact ⟨e, hne, he, earlier, hb, hye, hs.imp_right And.left⟩
  · rcases hacked id hx with hp | hp | hp
    · exact hvalid hp
    · exact hland hp
    · exact hdup hp

end SinkLifetime

end Lifetime

/-- In every run of cycles, with any batches that the stream may hand out and any outcomes of the
inserts and acknowledgements, the discipline holds in every state. -/
theorem ack_discipline (f : WireFormat) (stream : Nat → Fields) (batchSize : Nat)
    (events : List SinkEvent)
    (hdelivers : Along (SinkLifetime.step f stream) SinkLifetime.Delivers (.start batchSize)
      events) :
    (run (SinkLifetime.step f stream) (.start batchSize) events).AckDiscipline f stream :=
  (run_of_along (fun l e h hd => SinkLifetime.ackInv_step l e h hd)
    (SinkLifetime.ackInv_start f stream batchSize) hdelivers).1.discipline

/-- A valid entry whose first insert fails, a copy of it and poison. -/
theorem ack_discipline_sample :
    (run (SinkLifetime.step sampleFormat sampleStream) (.start 1)
      [.reclaim [], .read [0, 1, 2], .xackSkips true, .insert false, .reclaim [0], .read [],
        .xackSkips true, .insert true, .xackValid true]).AckDiscipline
      sampleFormat sampleStream := by
  have hfirst : ∀ id ∈ [0, 1, 2], id ∉ ((SinkLifetime.start 1).step sampleFormat sampleStream
      (.reclaim [])).delivered := fun _ _ => List.not_mem_nil
  exact ack_discipline sampleFormat sampleStream 1 _
    ⟨List.nodup_nil, ⟨by decide, hfirst⟩, trivial, trivial, List.nodup_singleton 0,
      ⟨List.nodup_nil, List.forall_mem_nil _⟩, trivial, trivial, trivial, trivial⟩

end IPProxyPool
