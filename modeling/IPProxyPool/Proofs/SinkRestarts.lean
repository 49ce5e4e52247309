import IPProxyPool.Lib.Run
import IPProxyPool.Model.SinkSystem
import IPProxyPool.Proofs.SinkEntry

/-!
# Restarts of the sink

An entry that was delivered and is still in the stream can be lost in one way only: it is removed
from the pending list before its event is in ClickHouse. Redis does that when a stale consumer is
deleted, and when the entry that keeps an event for its copies is gone from the stream. In every
other step of any number of processes, crashes included, each event keeps an entry that has landed
or is pending and on no list of skipped entries.
-/

namespace IPProxyPool
open Transition AssocTable

namespace SinkSystem

section Restarts

variable (f : WireFormat) (stream : Nat → Fields)

def Live (s : SinkSystem) (w : ChSinkWorker) : Prop := ∃ name, s.workers.lookup name = some w

/-- Entry `y` of event `e` has landed, or it is pending and no process will acknowledge it unless
it lands. -/
structure Keeps (s : SinkSystem) (e : String) (y : Nat) : Prop where
  event : eventIdOf f stream y = some e
  delivered : y ∈ s.group.delivered
  kept : y ∈ s.landed ∨ y ∈ s.group.pending ∧ ∀ w, s.Live w → y ∉ w.cycle.skipIds

def Kept (s : SinkSystem) (e : String) : Prop := ∃ y, s.Keeps f stream e y

/-- The event of the entry is kept, by the entry itself or by another one. -/
def Copied (s : SinkSystem) (x : Nat) : Prop :=
  ∃ e, e ≠ "" ∧ eventIdOf f stream x = some e ∧ s.Kept f stream e

structure RestartInv (s : SinkSystem) : Prop where
  ordered : s.group.Ordered
  pending_delivered : ∀ x ∈ s.group.pending, x ∈ s.group.delivered
  window : ∀ w, s.Live w → ∀ e ∈ w.seen.order, s.Kept f stream e
  skip_delivered : ∀ w, s.Live w → ∀ x ∈ w.cycle.skipIds, x ∈ s.group.delivered
  skips : ∀ w, s.Live w → ∀ x ∈ w.cycle.skipIds, s.group.trimmed ≤ x →
    eventIdOf f stream x = none ∨ s.Copied f stream x
  acking : ∀ w, s.Live w → w.phase = .acking → ∀ x ∈ w.cycle.validIds, x ∈ s.landed
  covered : ∀ x ∈ s.group.delivered, s.group.trimmed ≤ x → x ∈ s.landed ∨ x ∈ s.group.pending ∨
    x ∈ s.acked ∧ (eventIdOf f stream x = none ∨ s.Copied f stream x)

/-! ### What the property says and what it needs -/

/-- Every delivered entry of the stream has landed, or was acknowledged as poison or as a copy of an
event that landed or is pending, or can be claimed back. -/
def NothingLost (s : SinkSystem) : Prop :=
  ∀ x ∈ s.group.delivered, s.group.trimmed ≤ x →
    x ∈ s.landed ∨
    (x ∈ s.acked ∧ (parseEntry f (stream x) = none ∨
      ∃ e, e ≠ "" ∧ eventIdOf f stream x = some e ∧
        ∃ y, eventIdOf f stream y = some e ∧ (y ∈ s.landed ∨ y ∈ s.group.pending))) ∨
    s.group.Claimable x

/-- A process that claims entries back is offered every pending entry of the stream. -/
def Offered (s : SinkSystem) : Prop :=
  ∀ name w x, s.workers.lookup name = some w → w.phase = .reclaiming → s.group.Claimable x →
    ∃ w', (s.step f stream (.reclaim name [x] true)).workers.lookup name = some w' ∧
      x ∈ w'.cycle.ids

/-- Another entry may be skipped, or has been, because of this one. -/
def Needed (s : SinkSystem) (x : Nat) : Prop :=
  ∃ e, eventIdOf f stream x = some e ∧ ((∃ w, s.Live w ∧ e ∈ w.seen.order) ∨
    e ≠ "" ∧ ∃ y ∈ s.group.delivered, y ≠ x ∧ s.group.trimmed ≤ y ∧ eventIdOf f stream y = some e)

/-- The entry has landed, or it is gone from the stream and no other entry depends on it. -/
def Spare (s : SinkSystem) (x : Nat) : Prop :=
  x ∈ s.landed ∨ x < s.group.trimmed ∧ ¬ s.Needed f stream x

/-- The pending entries that a step discards can be spared. -/
def DiscardsSpare (s : SinkSystem) : SinkSystemEvent → Prop
  | .delConsumer name true => ∀ w victim victims, s.workers.lookup name = some w →
    w.phase = .cleaning (victim :: victims) →
      ∀ x, s.group.pending.lookup x = some victim → s.Spare f stream x
  | .purge ids => ∀ x ∈ ids, x ∈ s.group.pending → x < s.group.trimmed → s.Spare f stream x
  | _ => True

variable {f stream} {s s' : SinkSystem}

/-! ### Steps that look at no entry -/

/-- A process after such a step: its window and its skipped entries are those of a process before,
and what it is about to acknowledge has landed. -/
structure Derived (s s' : SinkSystem) (w' : ChSinkWorker) : Prop where
  seen : ∀ e ∈ w'.seen.order, ∃ w, s.Live w ∧ e ∈ w.seen.order
  skips : ∀ x ∈ w'.cycle.skipIds, ∃ w, s.Live w ∧ x ∈ w.cycle.skipIds
  acking : w'.phase = .acking → ∀ x ∈ w'.cycle.validIds, x ∈ s'.landed

/-- The step takes an entry off the pending list only if it has landed or was skipped. -/
structure Stage (s s' : SinkSystem) : Prop where
  delivered : s'.group.delivered = s.group.delivered
  last : s.group.last ≤ s'.group.last
  trimmed : s.group.trimmed ≤ s'.group.trimmed
  landed : ∀ x ∈ s.landed, x ∈ s'.landed
  acked : ∀ x ∈ s.acked, x ∈ s'.acked
  pending_sub : ∀ x ∈ s'.group.pending, x ∈ s.group.pending
  pending : ∀ x ∈ s.group.pending, x ∈ s'.group.pending ∨ x ∈ s'.landed ∨
    x ∈ s'.acked ∧ ∃ w, s.Live w ∧ x ∈ w.cycle.skipIds
  workers : ∀ w', s'.Live w' → s.Live w' ∨ Derived s s' w'

lemma Keeps.stage {e : String} {y : Nat} (h : s.Keeps f stream e y) (hst : Stage s s') :
    s'.Keeps f stream e y := by
  refine ⟨h.event, hst.delivered ▸ h.delivered, ?_⟩
  rcases h.kept with hl | ⟨hp, hskip⟩
  · exact .inl (hst.landed y hl)
  · rcases hst.pending y hp with hp' | hl | ⟨-, w, hw, hmem⟩
    · refine .inr ⟨hp', fun w' hw' hmem => ?_⟩
      rcases hst.workers w' hw' with hold | hnew
      · exact hskip w' hold hmem
      · obtain ⟨w, hw, hmem'⟩ := hnew.skips y hmem
        exact hskip w hw hmem'
    · exact .inl hl
    · exact absurd hmem (hskip w hw)

lemma Kept.stage {e : String} (h : s.Kept f stream e) (hst : Stage s s') : s'.Kept f stream e := by
  obtain ⟨y, hy⟩ := h
  exact ⟨y, hy.stage hst⟩

lemma Copied.stage {x : Nat} (h : s.Copied f stream x) (hst : Stage s s') :
    s'.Copied f stream x := by
  obtain ⟨e, hne, hx, hk⟩ := h
  exact ⟨e, hne, hx, hk.stage hst⟩

theorem RestartInv.stage (h : s.RestartInv f stream) (hst : Stage s s') :
    s'.RestartInv f stream := by
  refine ⟨fun i hi => ?_, fun x hx => ?_, fun w' hw' e he => ?_, fun w' hw' x hx => ?_,
    fun w' hw' x hx htrim => ?_, fun w' hw' hphase x hx => ?_, fun x hx htrim => ?_⟩
  · rw [hst.delivered] at hi
    exact lt_of_lt_of_le (h.ordered i hi) hst.last
  · rw [hst.delivered]
    exact h.pending_delivered x (hst.pending_sub x hx)
  · rcases hst.workers w' hw' with hold | hnew
    · exact (h.window w' hold e he).stage hst
    · obtain ⟨w, hw, he'⟩ := hnew.seen e he
      exact (h.window w hw e he').stage hst
  · rw [hst.delivered]
    rcases hst.workers w' hw' with hold | hnew
    · exact h.skip_delivered w' hold x hx
    · obtain ⟨w, hw, hx'⟩ := hnew.skips x hx
      exact h.skip_delivered w hw x hx'
  · have htrim' := hst.trimmed.trans htrim
    rcases hst.workers w' hw' with hold | hnew
    · exact (h.skips w' hold x hx htrim').imp_right (fun hc => hc.stage hst)
    · obtain ⟨w, hw, hx'⟩ := hnew.skips x hx
      exact (h.skips w hw x hx' htrim').imp_right (fun hc => hc.stage hst)
  · rcases hst.workers w' hw' with hold | hnew
    · exact hst.landed x (h.acking w' hold hphase x hx)
    · exact hnew.acking hphase x hx
  · have htrim' := hst.trimmed.trans htrim
    rw [hst.delivered] at hx
    rcases h.covered x hx htrim' with hl | hp | ⟨ha, hwhy⟩
    · exact .inl (hst.landed x hl)
    · rcases hst.pending x hp with hp' | hl | ⟨ha, w, hw, hskip⟩
      · exact .inr (.inl hp')
      · exact .inl hl
      · exact .inr (.inr ⟨ha, (h.skips w hw x hskip htrim').imp_right (fun hc => hc.stage hst)⟩)
    · exact .inr (.inr ⟨hst.acked x ha, hwhy.imp_right (fun hc => hc.stage hst)⟩)

/-! ### Discarded entries -/

/-- An event that a window or another entry of the stream relies on survives the loss of entries
that can be spared. -/
lemma Kept.discard {e : String} (h : s.Kept f stream e)
    (hneed : (∃ w, s.Live w ∧ e ∈ w.seen.order) ∨
      e ≠ "" ∧ ∃ x ∈ s.group.delivered, s.group.trimmed ≤ x ∧ eventIdOf f stream x = some e)
    {pending : Table Nat String}
    (hspare : ∀ x ∈ s.group.pending, x ∈ pending ∨ s.Spare f stream x) :
    SinkSystem.Kept f stream { s with group := { s.group with pending := pending } } e := by
  obtain ⟨y, hy⟩ := h
  refine ⟨y, hy.event, hy.delivered, ?_⟩
  rcases hy.kept with hl | ⟨hp, hskip⟩
  · exact .inl hl
  · rcases hspare y hp with hp' | hl | ⟨hgone, hneeded⟩
    · exact .inr ⟨hp', hskip⟩
    · exact .inl hl
    · refine absurd ⟨e, hy.event, hneed.imp_right (fun ⟨hne, x, hx, htrim, hxe⟩ => ?_)⟩ hneeded
      refine ⟨hne, x, hx, fun hxy => ?_, htrim, hxe⟩
      omega

theorem RestartInv.discard (h : s.RestartInv f stream) {pending : Table Nat String}
    (hsub : ∀ x ∈ pending, x ∈ s.group.pending)
    (hspare : ∀ x ∈ s.group.pending, x ∈ pending ∨ s.Spare f stream x) :
    SinkSystem.RestartInv f stream { s with group := { s.group with pending := pending } } := by
  have hcopied : ∀ x ∈ s.group.delivered, s.group.trimmed ≤ x → s.Copied f stream x →
      SinkSystem.Copied f stream { s with group := { s.group with pending := pending } } x := by
    rintro x hx htrim ⟨e, hne, hxe, hk⟩
    exact ⟨e, hne, hxe, hk.discard (.inr ⟨hne, x, hx, htrim, hxe⟩) hspare⟩
  refine ⟨h.ordered, fun x hx => h.pending_delivered x (hsub x hx),
    fun w hw e he => (h.window w hw e he).discard (.inl ⟨w, hw, he⟩) hspare, h.skip_delivered,
    fun w hw x hx htrim => ?_, h.acking, fun x hx htrim => ?_⟩
  · exact (h.skips w hw x hx htrim).imp_right (hcopied x (h.skip_delivered w hw x hx) htrim)
  · rcases h.covered x hx htrim with hl | hp | ⟨ha, hwhy⟩
    · exact .inl hl
    · rcases hspare x hp with hp' | hl | ⟨hgone, -⟩
      · exact .inr (.inl hp')
      · exact .inl hl
      · exact absurd htrim (Nat.not_le.mpr hgone)
    · exact .inr (.inr ⟨ha, hwhy.imp_right (hcopied x hx htrim)⟩)

/-! ### Entries that are handed out -/

/-- Redis hands entry `x` to a process: a read hands out an entry for the first time, a claim one
that is pending. The process that gets the answer classifies the entry. -/
structure Handed (f : WireFormat) (stream : Nat → Fields) (isRedelivery : Bool) (s s' : SinkSystem)
    (x : Nat) : Prop where
  ordered : s'.group.Ordered
  trimmed : s'.group.trimmed = s.group.trimmed
  landed : s'.landed = s.landed
  acked : s'.acked = s.acked
  delivered : ∀ y, y ∈ s'.group.delivered ↔ y ∈ s.group.delivered ∨ y = x
  pending : ∀ y, y ∈ s'.group.pending ↔ y ∈ s.group.pending ∨ y = x
  fresh : isRedelivery = false → x ∉ s.group.delivered
  workers : ∀ w', s'.Live w' → s.Live w' ∨
    ∃ w, s.Live w ∧ w.phase ≠ .acking ∧ Classified f stream isRedelivery w w' x ∧
      ∀ v, s'.Live v → s.Live v ∨ v = w'

variable {isRedelivery : Bool} {x : Nat}

/-- An entry that keeps an event is not skipped: poison has no event, and a duplicate is new. -/
lemma Keeps.handed {e : String} {y : Nat} (h : s.Keeps f stream e y)
    (hh : Handed f stream isRedelivery s s' x) : s'.Keeps f stream e y := by
  refine ⟨h.event, (hh.delivered y).mpr (.inl h.delivered), ?_⟩
  rcases h.kept with hl | ⟨hp, hskip⟩
  · rw [hh.landed]
    exact .inl hl
  · refine .inr ⟨(hh.pending y).mpr (.inl hp), fun w' hw' hmem => ?_⟩
    rcases hh.workers w' hw' with hold | ⟨w, hw, -, hclass, -⟩
    · exact hskip w' hold hmem
    · rcases hclass.skips y hmem with hmem' | ⟨rfl, hpoison | ⟨hfresh, -⟩⟩
      · exact hskip w hw hmem'
      · rw [h.event] at hpoison
        cases hpoison
      · exact hh.fresh hfresh h.delivered

lemma Kept.handed {e : String} (h : s.Kept f stream e)
    (hh : Handed f stream isRedelivery s s' x) : s'.Kept f stream e := by
  obtain ⟨y, hy⟩ := h
  exact ⟨y, hy.handed hh⟩

lemma Copied.handed {y : Nat} (h : s.Copied f stream y)
    (hh : Handed f stream isRedelivery s s' x) : s'.Copied f stream y := by
  obtain ⟨e, hne, hy, hk⟩ := h
  exact ⟨e, hne, hy, hk.handed hh⟩

/-- A fresh entry that goes into a window keeps its event. -/
lemma Handed.keeps {e : String} {w w' : ChSinkWorker} (h : s.RestartInv f stream)
    (hh : Handed f stream isRedelivery s s' x) (hfresh : isRedelivery = false)
    (hevent : eventIdOf f stream x = some e) (hw : s.Live w)
    (hskips : w'.cycle.skipIds = w.cycle.skipIds) (hlive : ∀ v, s'.Live v → s.Live v ∨ v = w') :
    s'.Keeps f stream e x := by
  have hnew := hh.fresh hfresh
  refine ⟨hevent, (hh.delivered x).mpr (.inr rfl), .inr ⟨(hh.pending x).mpr (.inr rfl), ?_⟩⟩
  intro v hv hmem
  rcases hlive v hv with hold | rfl
  · exact hnew (h.skip_delivered v hold x hmem)
  · rw [hskips] at hmem
    exact hnew (h.skip_delivered w hw x hmem)

theorem RestartInv.handed (h : s.RestartInv f stream)
    (hh : Handed f stream isRedelivery s s' x) : s'.RestartInv f stream := by
  refine ⟨hh.ordered, fun y hy => ?_, fun w' hw' e he => ?_, fun w' hw' y hy => ?_,
    fun w' hw' y hy htrim => ?_, fun w' hw' hphase y hy => ?_, fun y hy htrim => ?_⟩
  · exact (hh.delivered y).mpr (((hh.pending y).mp hy).imp_left (h.pending_delivered y))
  · rcases hh.workers w' hw' with hold | ⟨w, hw, -, hclass, hlive⟩
    · exact (h.window w' hold e he).handed hh
    · rcases hclass.window e he with he | ⟨hfresh, hevent, hskips⟩
      · exact (h.window w hw e he).handed hh
      · exact ⟨x, hh.keeps h hfresh hevent hw hskips hlive⟩
  · rcases hh.workers w' hw' with hold | ⟨w, hw, -, hclass, -⟩
    · exact (hh.delivered y).mpr (.inl (h.skip_delivered w' hold y hy))
    · exact (hh.delivered y).mpr ((hclass.skips y hy).imp (h.skip_delivered w hw y) And.left)
  · rw [hh.trimmed] at htrim
    rcases hh.workers w' hw' with hold | ⟨w, hw, -, hclass, -⟩
    · exact (h.skips w' hold y hy htrim).imp_right (fun hc => hc.handed hh)
    · rcases hclass.skips y hy with hy | ⟨rfl, hpoison | ⟨-, -, e, hne, hevent, hseen⟩⟩
      · exact (h.skips w hw y hy htrim).imp_right (fun hc => hc.handed hh)
      · exact .inl hpoison
      · exact .inr ⟨e, hne, hevent, (h.window w hw e hseen).handed hh⟩
  · rw [hh.landed]
    rcases hh.workers w' hw' with hold | ⟨w, hw, hacking, hclass, -⟩
    · exact h.acking w' hold hphase y hy
    · rw [hclass.phase_eq] at hphase
      exact absurd hphase hacking
  · rw [hh.trimmed] at htrim
    rw [hh.landed, hh.acked]
    rcases (hh.delivered y).mp hy with hy | rfl
    · rcases h.covered y hy htrim with hl | hp | ⟨ha, hwhy⟩
      · exact .inl hl
      · exact .inr (.inl ((hh.pending y).mpr (.inl hp)))
      · exact .inr (.inr ⟨ha, hwhy.imp_right (fun hc => hc.handed hh)⟩)
    · exact .inr (.inl ((hh.pending y).mpr (.inr rfl)))

/-! ### One process -/

lemma live_setWorker {name : String} {w v : ChSinkWorker} (h : (s.setWorker name w).Live v) :
    s.Live v ∨ v = w := by
  obtain ⟨name', hv⟩ := h
  change (s.workers.insert name w).lookup name' = some v at hv
  rw [lookup_insert_eq] at hv
  split at hv
  · exact .inr (Option.some.inj hv).symm
  · exact .inl ⟨name', hv⟩

variable (f stream isRedelivery x) in
lemma classifyFor_cases {name : String} {w : ChSinkWorker} (answered : Bool)
    (hw : s.workers.lookup name = some w) :
    s.classifyFor f stream name isRedelivery answered x = s ∨
      s.classifyFor f stream name isRedelivery answered x =
        s.setWorker name (w.classify f stream isRedelivery x) := by
  unfold classifyFor
  rw [hw]
  cases answered
  · exact .inl rfl
  · exact .inr rfl

/-- The process `name` is in phase `p`. -/
def At (s : SinkSystem) (name : String) (p : SinkPhase) : Prop :=
  ∃ w, s.workers.lookup name = some w ∧ w.phase = p

lemma at_setWorker {name : String} {w : ChSinkWorker} {p : SinkPhase} (hp : w.phase = p) :
    (s.setWorker name w).At name p := ⟨w, AList.lookup_insert _, hp⟩

variable (f stream isRedelivery x) in
lemma handed_classifyFor {name : String} {p : SinkPhase} (answered : Bool)
    (group : ConsumerGroup.Group String) (hat : s.At name p) (hp : p ≠ .acking)
    (hordered : group.Ordered) (htrimmed : group.trimmed = s.group.trimmed)
    (hdelivered : ∀ y, y ∈ group.delivered ↔ y ∈ s.group.delivered ∨ y = x)
    (hpending : ∀ y, y ∈ group.pending ↔ y ∈ s.group.pending ∨ y = x)
    (hfresh : isRedelivery = false → x ∉ s.group.delivered) :
    Handed f stream isRedelivery s
      (classifyFor f stream name isRedelivery answered { s with group := group } x) x ∧
    (classifyFor f stream name isRedelivery answered { s with group := group } x).At name p := by
  obtain ⟨w, hw, hphase⟩ := hat
  have hcases := classifyFor_cases (s := { s with group := group }) f stream isRedelivery x
    answered hw
  rcases hcases with hc | hc
  · rw [hc]
    exact ⟨⟨hordered, htrimmed, rfl, rfl, hdelivered, hpending, hfresh, fun _ => .inl⟩,
      w, hw, hphase⟩
  · rw [hc]
    have hclass := classified f stream isRedelivery w x
    refine ⟨⟨hordered, htrimmed, rfl, rfl, hdelivered, hpending, hfresh, fun w' hw' => ?_⟩,
      at_setWorker (hclass.phase_eq.trans hphase)⟩
    refine (live_setWorker hw').imp_right (fun heq => ?_)
    rw [heq]
    exact ⟨w, ⟨name, hw⟩, fun h => hp (hphase.symm.trans h), hclass, fun v => live_setWorker⟩

lemma RestartInv.reclaimOne {name : String} {answered : Bool} (h : s.RestartInv f stream)
    (hat : s.At name .reclaiming) :
    (s.reclaimOne f stream name answered x).RestartInv f stream ∧
      (s.reclaimOne f stream name answered x).At name .reclaiming := by
  unfold SinkSystem.reclaimOne
  split
  · rename_i hclaim
    have hgroup : s.group.claim name x =
        { s.group with pending := s.group.pending.insert x name } := if_pos hclaim
    have hmem := hclaim.1
    obtain ⟨hh, hat'⟩ := handed_classifyFor f stream true x answered
      (s.group.claim name x) hat (by simp)
      (by rw [hgroup]; exact h.ordered) (by rw [hgroup])
      (fun y => by
        rw [hgroup]
        refine (or_iff_left_of_imp (fun hy => ?_)).symm
        rw [hy]
        exact h.pending_delivered x hmem)
      (fun y => by
        rw [ConsumerGroup.Group.mem_pending_claim]
        refine (or_iff_left_of_imp (fun hy => ?_)).symm
        rw [hy]
        exact hmem) (fun hf => by cases hf)
    exact ⟨h.handed hh, hat'⟩
  · exact ⟨h, hat⟩

lemma RestartInv.readOne {name : String} {answered : Bool} (h : s.RestartInv f stream)
    (hat : s.At name .reading) (hnew : s.group.last ≤ x) :
    (s.readOne f stream name answered x).RestartInv f stream ∧
      (s.readOne f stream name answered x).At name .reading := by
  obtain ⟨hh, hat'⟩ := handed_classifyFor f stream false x answered
    (s.group.deliver name x) hat (by simp)
    (ConsumerGroup.Group.ordered_deliver h.ordered name x) rfl
    (fun y => by simp [ConsumerGroup.Group.deliver])
    (fun y => (ConsumerGroup.Group.mem_pending_deliver _ _ _ _).trans or_comm)
    (fun _ hmem => absurd (h.ordered x hmem) (Nat.not_lt.mpr hnew))
  exact ⟨h.handed hh, hat'⟩

lemma group_classifyFor (name : String) (answered : Bool) :
    (s.classifyFor f stream name isRedelivery answered x).group = s.group := by
  unfold classifyFor
  split
  · split <;> rfl
  · rfl

lemma RestartInv.reclaimAll {name : String} (answered : Bool) (h : s.RestartInv f stream)
    (hat : s.At name .reclaiming) (ids : List Nat) :
    let s' := ids.foldl (SinkSystem.reclaimOne f stream name answered) s
    s'.RestartInv f stream ∧ s'.At name .reclaiming := by
  induction ids generalizing s with
  | nil => exact ⟨h, hat⟩
  | cons x ids ih => exact ih (h.reclaimOne hat).1 (h.reclaimOne hat).2

lemma RestartInv.readAll {name : String} (answered : Bool) (h : s.RestartInv f stream)
    (hat : s.At name .reading) {ids : List Nat} (hsorted : ids.Pairwise (· < ·))
    (hnew : ∀ i ∈ ids, s.group.last ≤ i) :
    let s' := ids.foldl (SinkSystem.readOne f stream name answered) s
    s'.RestartInv f stream ∧ s'.At name .reading := by
  have hrun := run_rest (SinkSystem.readOne f stream name answered)
    (J := fun s rest => (s.RestartInv f stream ∧ s.At name .reading) ∧ rest.Pairwise (· < ·) ∧
      ∀ i ∈ rest, s.group.last ≤ i) ?_ ids ⟨⟨h, hat⟩, hsorted, hnew⟩
  · exact hrun.1
  · rintro s x rest ⟨⟨h, hat⟩, hsorted, hnew⟩
    obtain ⟨hx, hrest⟩ := List.pairwise_cons.mp hsorted
    refine ⟨h.readOne hat (hnew x List.mem_cons_self), hrest, fun i hi => ?_⟩
    have hi' := hnew i (List.mem_cons_of_mem x hi)
    have hlt := hx i hi
    unfold SinkSystem.readOne
    rw [group_classifyFor]
    exact max_le hi' hlt

/-! ### Steps -/

lemma derived_of {w w' : ChSinkWorker} (hw : s.Live w) (hseen : w'.seen = w.seen)
    (hcycle : w'.cycle = w.cycle ∨ w'.cycle = {})
    (hacking : w'.phase = .acking → ∀ x ∈ w'.cycle.validIds, x ∈ s'.landed) : Derived s s' w' := by
  refine ⟨fun e he => ⟨w, hw, hseen ▸ he⟩, fun x hx => ?_, hacking⟩
  rcases hcycle with hc | hc
  · rw [hc] at hx
    exact ⟨w, hw, hx⟩
  · rw [hc] at hx
    exact absurd hx List.not_mem_nil

lemma live_or_derived {t : SinkSystem} {name : String} {w' : ChSinkWorker}
    (hold : ∀ v, t.Live v → s.Live v) (hnew : Derived s s' w') (v : ChSinkWorker)
    (hv : (t.setWorker name w').Live v) : s.Live v ∨ Derived s s' v := by
  rcases live_setWorker hv with hv | rfl
  · exact .inl (hold v hv)
  · exact .inr hnew

/-- A process acknowledges entries that it skipped or that have landed, and goes on. -/
lemma stage_xack {name : String} {w w' : ChSinkWorker} (ids : List Nat) (ok : Bool)
    (hids : ∀ x ∈ ids, x ∈ s.landed ∨ ∃ w, s.Live w ∧ x ∈ w.cycle.skipIds)
    (hw : s.Live w) (hseen : w'.seen = w.seen) (hcycle : w'.cycle = w.cycle ∨ w'.cycle = {})
    (hacking : w'.phase ≠ .acking) :
    Stage s ((if ok then s.xack ids else s).setWorker name w') := by
  have hderived : Derived s ((if ok then s.xack ids else s).setWorker name w') w' :=
    derived_of hw hseen hcycle (fun h => absurd h hacking)
  cases ok with
  | false =>
    exact ⟨rfl, le_rfl, le_rfl, fun _ hx => hx, fun _ hx => hx, fun _ hx => hx,
      fun _ hx => .inl hx, live_or_derived (fun _ hv => hv) hderived⟩
  | true =>
    refine ⟨rfl, le_rfl, le_rfl, fun _ hx => hx, fun x hx => List.mem_append_left _ hx,
      fun x hx => ((ConsumerGroup.Group.mem_pending_ack _ _ _).mp hx).1, fun x hx => ?_,
      live_or_derived (fun _ hv => hv) hderived⟩
    by_cases hmem : x ∈ ids
    · rcases hids x hmem with hl | hskip
      · exact .inr (.inl hl)
      · exact .inr (.inr ⟨List.mem_append_right _ hmem, hskip⟩)
    · exact .inl ((ConsumerGroup.Group.mem_pending_ack _ _ _).mpr ⟨hx, hmem⟩)

/-- A process that only changes its phase or begins a new cycle. -/
lemma stage_setWorker {name : String} {w w' : ChSinkWorker} (hw : s.Live w)
    (hseen : w'.seen = w.seen) (hcycle : w'.cycle = w.cycle ∨ w'.cycle = {})
    (hacking : w'.phase ≠ .acking) : Stage s (s.setWorker name w') :=
  stage_xack [] false (fun _ hx => absurd hx List.not_mem_nil) hw hseen hcycle hacking

lemma RestartInv.goto {name : String} {p : SinkPhase} (h : s.RestartInv f stream)
    (hp : p ≠ .acking) : (s.goto name p).RestartInv f stream := by
  unfold SinkSystem.goto
  split
  · rename_i w hw
    exact h.stage (stage_setWorker ⟨name, hw⟩ rfl (.inl rfl) hp)
  · exact h

lemma stage_group {group : ConsumerGroup.Group String}
    (hdelivered : group.delivered = s.group.delivered)
    (hpending : group.pending = s.group.pending) (hlast : s.group.last ≤ group.last)
    (htrimmed : s.group.trimmed ≤ group.trimmed) : Stage s { s with group := group } :=
  ⟨hdelivered, hlast, htrimmed, fun _ hx => hx, fun _ hx => hx, fun _ hx => hpending ▸ hx,
    fun _ hx => .inl (hpending.symm ▸ hx), fun _ => .inl⟩

lemma stage_start (name : String) (batchSize : Nat) (ok : Bool) :
    Stage s (s.startWorker name batchSize ok) := by
  unfold startWorker
  split
  · exact stage_group rfl rfl le_rfl le_rfl
  · have hnew : ∀ s', Derived s s' (ChSinkWorker.new batchSize) := fun _ =>
      ⟨fun e he => absurd he List.not_mem_nil, fun x hx => absurd hx List.not_mem_nil,
        (by rintro ⟨⟩)⟩
    refine ⟨?_, ?_, ?_, fun _ hx => hx, fun _ hx => hx, fun x hx => ?_, fun x hx => .inl ?_,
      live_or_derived (fun _ hv => hv) (hnew _)⟩
    · dsimp only
      split <;> rfl
    · dsimp only
      split
      · exact le_max_left _ _
      · exact le_rfl
    · dsimp only
      split <;> exact le_rfl
    · dsimp only at hx
      split at hx <;> exact hx
    · dsimp only
      split <;> exact hx

lemma stage_crash (name : String) : Stage s { s with workers := s.workers.erase name } := by
  refine ⟨rfl, le_rfl, le_rfl, fun _ hx => hx, fun _ hx => hx, fun _ hx => hx,
    fun _ hx => .inl hx, ?_⟩
  rintro w ⟨name', hw⟩
  dsimp only at hw
  rw [lookup_erase_eq] at hw
  split at hw
  · cases hw
  · exact .inl ⟨name', hw⟩

/-- The rows of a batch are stored, whatever the process learns of it. -/
lemma stage_insert {name : String} {w : ChSinkWorker} (hw : s.Live w)
    (stored answered : Bool) :
    Stage s { s with
      landed := if stored then s.landed ++ w.cycle.validIds else s.landed
      workers := s.workers.insert name (w.afterInsert (stored && answered)) } := by
  refine ⟨rfl, le_rfl, le_rfl, fun x hx => ?_, fun _ hx => hx, fun _ hx => hx,
    fun _ hx => .inl hx, live_or_derived (t := s) (fun _ hv => hv) ?_⟩
  · dsimp only
    split
    · exact List.mem_append_left _ hx
    · exact hx
  · cases stored with
    | false => exact derived_of hw rfl (.inr rfl) (by rintro ⟨⟩)
    | true =>
      cases answered with
      | false => exact derived_of hw rfl (.inr rfl) (by rintro ⟨⟩)
      | true => exact derived_of hw rfl (.inl rfl) (fun _ x hx => List.mem_append_right _ hx)

lemma RestartInv.inPhase {name : String} {p : SinkPhase} {k : ChSinkWorker → SinkSystem}
    (h : s.RestartInv f stream)
    (hk : ∀ w, s.workers.lookup name = some w → w.phase = p → (k w).RestartInv f stream) :
    (s.inPhase name p k).RestartInv f stream := by
  unfold SinkSystem.inPhase
  split
  · rename_i w hw
    split
    · rename_i hp
      exact hk w hw hp
    · exact h
  · exact h

lemma cleanNext_cases (w : ChSinkWorker) (victims : List String) :
    (w.cleanNext victims).seen = w.seen ∧
      ((w.cleanNext victims).cycle = w.cycle ∨ (w.cleanNext victims).cycle = {}) ∧
      (w.cleanNext victims).phase ≠ .acking := by
  unfold ChSinkWorker.cleanNext
  split
  · exact ⟨rfl, .inr rfl, by simp [ChSinkWorker.newCycle]⟩
  · exact ⟨rfl, .inl rfl, by simp⟩

lemma afterSkips_cases (w : ChSinkWorker) :
    w.afterSkips.seen = w.seen ∧ (w.afterSkips.cycle = w.cycle ∨ w.afterSkips.cycle = {}) ∧
      w.afterSkips.phase ≠ .acking := by
  unfold ChSinkWorker.afterSkips
  split
  · exact ⟨rfl, .inr rfl, by simp [ChSinkWorker.newCycle]⟩
  · exact ⟨rfl, .inl rfl, by simp⟩

lemma RestartInv.delConsumer {victim : String} (h : s.RestartInv f stream)
    (hspare : ∀ x, s.group.pending.lookup x = some victim → s.Spare f stream x) :
    SinkSystem.RestartInv f stream { s with group := s.group.delConsumer victim } := by
  refine h.discard (fun x hx => ?_) (fun x hx => ?_)
  · obtain ⟨owner, howner, -⟩ := (ConsumerGroup.Group.mem_pending_delConsumer _ _ _).mp hx
    exact (ConsumerGroup.Group.mem_pending_iff _ _).mpr ⟨owner, howner⟩
  · obtain ⟨owner, howner⟩ := (ConsumerGroup.Group.mem_pending_iff _ _).mp hx
    by_cases hv : owner = victim
    · exact .inr (hspare x (hv ▸ howner))
    · exact .inl ((ConsumerGroup.Group.mem_pending_delConsumer _ _ _).mpr ⟨owner, howner, hv⟩)

lemma RestartInv.purge {ids : List Nat} (h : s.RestartInv f stream)
    (hspare : ∀ x ∈ ids, x ∈ s.group.pending → x < s.group.trimmed → s.Spare f stream x) :
    SinkSystem.RestartInv f stream { s with group := s.group.purge ids } := by
  refine h.discard (fun x hx => ((ConsumerGroup.Group.mem_pending_purge _ _ _).mp hx).1)
    (fun x hx => ?_)
  by_cases hgone : x ∈ ids ∧ x < s.group.trimmed
  · exact .inr (hspare x hgone.1 hx hgone.2)
  · refine .inl ((ConsumerGroup.Group.mem_pending_purge _ _ _).mpr ⟨hx, ?_⟩)
    by_cases hmem : x ∈ ids
    · exact .inr (Nat.not_lt.mp (fun hlt => hgone ⟨hmem, hlt⟩))
    · exact .inl hmem

theorem restartInv_step (s : SinkSystem) (e : SinkSystemEvent) (h : s.RestartInv f stream)
    (hd : s.DiscardsSpare f stream e) : (s.step f stream e).RestartInv f stream := by
  unfold step
  cases e with
  | append => exact h.stage (stage_group rfl rfl le_rfl le_rfl)
  | trim n => exact h.stage (stage_group rfl rfl le_rfl (le_max_left _ _))
  | purge ids => exact h.purge hd
  | start name batchSize ok => exact h.stage (stage_start name batchSize ok)
  | crash name => exact h.stage (stage_crash name)
  | xinfo name info =>
    refine h.inPhase (fun w hw _ => ?_)
    obtain ⟨hseen, hcycle, hphase⟩ :=
      cleanNext_cases w ((info.map (staleConsumers name)).getD [])
    exact h.stage (stage_setWorker ⟨name, hw⟩ hseen hcycle hphase)
  | delConsumer name ok =>
    dsimp only
    split
    · rename_i w hw
      split
      · rename_i victim victims hphase
        obtain ⟨hseen, hcycle, hnext⟩ := cleanNext_cases w victims
        cases ok with
        | true =>
          exact (h.delConsumer (hd w victim victims hw hphase)).stage
            (stage_setWorker ⟨name, hw⟩ hseen hcycle hnext)
        | false => exact h.stage (stage_setWorker ⟨name, hw⟩ hseen hcycle hnext)
      · exact h
    · exact h
  | reclaim name ids answered =>
    exact h.inPhase (fun w hw hp =>
      (h.reclaimAll answered ⟨w, hw, hp⟩ ids).1.goto (by simp))
  | read name count answered =>
    refine h.inPhase (fun w hw hp => ?_)
    have hall : ∀ ids : List Nat, ids.Pairwise (· < ·) → (∀ i ∈ ids, s.group.last ≤ i) →
        ((ids.foldl (SinkSystem.readOne f stream name answered) s).goto name
          .skipping).RestartInv f stream :=
      fun ids hsorted hnew => (h.readAll answered ⟨w, hw, hp⟩ hsorted hnew).1.goto (by simp)
    split
    · exact hall _ (ConsumerGroup.Group.sorted_readable _ _)
        (fun i hi => (ConsumerGroup.Group.mem_readable hi).1)
    · exact hall [] List.Pairwise.nil (fun i hi => absurd hi List.not_mem_nil)
  | xackSkips name ok =>
    refine h.inPhase (fun w hw _ => ?_)
    obtain ⟨hseen, hcycle, hphase⟩ := afterSkips_cases w
    exact h.stage (stage_xack _ ok (fun x hx => .inr ⟨w, ⟨name, hw⟩, hx⟩) ⟨name, hw⟩ hseen hcycle
      hphase)
  | insert name stored answered =>
    exact h.inPhase (fun w hw _ => h.stage (stage_insert ⟨name, hw⟩ stored answered))
  | xackValid name ok =>
    exact h.inPhase (fun w hw hp => h.stage (stage_xack _ ok
      (fun x hx => .inl (h.acking w ⟨name, hw⟩ hp x hx)) ⟨name, hw⟩ rfl (.inr rfl)
      (by simp [ChSinkWorker.newCycle])))

lemma restartInv_init : init.RestartInv f stream := by
  refine ⟨fun i hi => absurd hi List.not_mem_nil, fun x hx => ?_, fun w hw => ?_, fun w hw => ?_,
    fun w hw => ?_, fun w hw => ?_, fun x hx => absurd hx List.not_mem_nil⟩
  · exact absurd hx (AList.notMem_empty x)
  all_goals
    obtain ⟨name, hname⟩ := hw
    cases hname

lemma RestartInv.nothingLost (h : s.RestartInv f stream) : s.NothingLost f stream := by
  intro x hx htrim
  rcases h.covered x hx htrim with hl | hp | ⟨ha, hwhy⟩
  · exact .inl hl
  · exact .inr (.inr ⟨hp, htrim⟩)
  · refine .inr (.inl ⟨ha, ?_⟩)
    rcases hwhy with hpoison | ⟨e, hne, hxe, y, hy⟩
    · exact .inl (eventIdOf_eq_none.mp hpoison)
    · exact .inr ⟨e, hne, hxe, y, hy.event, hy.kept.imp_right And.left⟩

/-- What a process is given is on one of the lists of its cycle. -/
lemma mem_ids_classify (w : ChSinkWorker) (x : Nat) :
    x ∈ (w.classify f stream isRedelivery x).cycle.ids := by
  rw [SinkCycle.mem_ids]
  rcases classify_cases f stream isRedelivery w x with
    ⟨-, hw⟩ | ⟨row, e, -, -, -, -, hw⟩ | ⟨row, e, seen, -, -, hw⟩
  · rw [hw]
    exact .inl (by simp [SinkCycle.skip])
  · rw [hw]
    exact .inl (by simp [SinkCycle.duplicate])
  · rw [hw]
    rcases SinkCycle.admitRow_cases w.cycle row x w.rowsCap with hc | hc
    · exact .inr (.inl (by simp [hc, SinkCycle.push]))
    · exact .inr (.inr (by simp [hc, SinkCycle.hold]))

lemma offered (f : WireFormat) (stream : Nat → Fields) (s : SinkSystem) : s.Offered f stream := by
  intro name w x hw hphase hclaim
  refine ⟨{ w.classify f stream true x with phase := .reading }, ?_, mem_ids_classify w x⟩
  have hgive : s.reclaimOne f stream name true x =
      { s with group := s.group.claim name x }.setWorker name (w.classify f stream true x) := by
    unfold SinkSystem.reclaimOne classifyFor
    rw [if_pos hclaim]
    dsimp only
    rw [hw]
    rfl
  unfold step inPhase
  dsimp only
  rw [hw]
  dsimp only
  rw [if_pos hphase, List.foldl_cons, List.foldl_nil, hgive]
  unfold SinkSystem.goto setWorker
  dsimp only
  rw [AList.lookup_insert]
  exact AList.lookup_insert _

end Restarts

end SinkSystem

/-- In every run in which each pending entry that Redis discards can be spared, nothing is lost. -/
theorem nothing_lost_of_spare (f : WireFormat) (stream : Nat → Fields)
    (events : List SinkSystemEvent)
    (hspare : Along (SinkSystem.step f stream) (SinkSystem.DiscardsSpare f stream) .init events) :
    let s := run (SinkSystem.step f stream) .init events
    s.NothingLost f stream ∧ s.Offered f stream :=
  ⟨(run_of_along SinkSystem.restartInv_step SinkSystem.restartInv_init hspare).nothingLost,
    SinkSystem.offered f stream _⟩

/-- A stale consumer is deleted after a restarted process has claimed its entry back. -/
theorem claimed_entry_survives_cleanup :
    (run (SinkSystem.step sampleFormat sampleStream) .init
      [.start "sink_7" 1 true, .xinfo "sink_7" (some []), .append, .reclaim "sink_7" [] true,
        .read "sink_7" 1 false, .crash "sink_7", .start "sink_8" 1 true,
        .xinfo "sink_8" (some [⟨"sink_7", 60000⟩]), .reclaim "sink_8" [0] false, .crash "sink_8",
        .start "sink_9" 1 true, .xinfo "sink_9" (some [⟨"sink_7", 120000⟩, ⟨"sink_8", 60000⟩]),
        .delConsumer "sink_9" true]).NothingLost sampleFormat sampleStream := by
  refine (nothing_lost_of_spare sampleFormat sampleStream _ ?_).1
  refine ⟨trivial, trivial, trivial, trivial, trivial, trivial, trivial, trivial, trivial, trivial,
    trivial, trivial, fun w victim victims hw hphase x hx => ?_, trivial⟩
  obtain rfl := Option.some.inj hw
  obtain rfl := (List.cons.inj (SinkPhase.cleaning.inj hphase)).1
  change (AList.singleton 0 "sink_8" : Table Nat String).lookup x = some "sink_7" at hx
  rw [lookup_singleton_eq] at hx
  split at hx
  · exact absurd (Option.some.inj hx) (by decide)
  · cases hx

/-- The process crashes with the entry it read; its successor deletes it as a stale consumer. -/
theorem crashed_entry_lost :
    ¬ ∀ (f : WireFormat) (stream : Nat → Fields) (events : List SinkSystemEvent),
      (run (SinkSystem.step f stream) .init events).NothingLost f stream := by
  intro hall
  have hlost := hall sampleFormat sampleStream
    [.start "sink_7" 1 true, .xinfo "sink_7" (some []), .append, .reclaim "sink_7" [] true,
      .read "sink_7" 1 true, .crash "sink_7", .start "sink_8" 1 true,
      .xinfo "sink_8" (some [⟨"sink_7", 60001⟩]), .delConsumer "sink_8" true] 0
    (List.mem_singleton_self 0) le_rfl
  rcases hlost with hl | ⟨ha, -⟩ | ⟨hp, -⟩
  · exact absurd hl List.not_mem_nil
  · exact absurd ha List.not_mem_nil
  · exact absurd hp (AList.notMem_empty 0)

end IPProxyPool
