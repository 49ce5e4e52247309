import IPProxyPool.Proofs.SeenWindow
import IPProxyPool.Proofs.SinkEntry

/-!
# Events that land once

The dedupe window is asked about fresh entries only. While it does not overflow, an event can land
twice only through an entry that was claimed back: a second copy of an event that has landed, two
copies in one cycle, or a fresh copy of an event that came from a claim.
-/

namespace IPProxyPool
open Transition

namespace SeenIds

lemma order_insert_of_room {s : SeenIds} {id : String} (hid : id ∉ s.set)
    (hroom : s.order.length < s.cap) : (s.insert id hid).order = s.order ++ [id] := by
  rw [order_insert, Recency.enqueue, if_neg (Nat.not_le.mpr hroom)]

/-- A window whose ids are among at most `cap` ids has room for a new one of them. -/
lemma room_of_subset {s : SeenIds} {ids : Finset String} (hsub : ∀ x ∈ s.order, x ∈ ids)
    (hcap : ids.card ≤ s.cap) {id : String} (hmem : id ∈ ids) (hid : id ∉ s.set) :
    s.order.length < s.cap := by
  have hlen := s.card_set
  have hins : Insert.insert id s.set ⊆ ids := by
    intro x hx
    rcases Finset.mem_insert.mp hx with rfl | hx
    · exact hmem
    · exact hsub x ((s.mem_set_iff x).mp hx)
  have hcard := Finset.card_le_card hins
  rw [Finset.card_insert_of_notMem hid] at hcard
  omega

end SeenIds

/-- The entries that an event of the run hands to the worker. -/
def SinkEvent.handed : SinkEvent → List Nat
  | .reclaim ids => ids
  | .read ids => ids
  | _ => []

section Land

variable (f : WireFormat) (stream : Nat → Fields)

/-- The event of an entry, if it carries an id. -/
def landEvent (id : Nat) : Option String := (eventIdOf f stream id).filter (fun e => e ≠ "")

def eventsOfIds (ids : List Nat) : List String := ids.filterMap (landEvent f stream)

def rowOf (id : Nat) : Option TelemetryRow := (parseEntry f (stream id)).map Prod.fst

namespace SinkLifetime

def LandsOnce (l : SinkLifetime) : Prop := (eventsOfIds f stream l.landed).Nodup

/-- The entries that the current cycle claimed back are of different events that have not landed,
and no fresh entry unknown to the window is of an event that has landed or was claimed back. -/
structure CleanCycle (l : SinkLifetime) : Prop where
  claimed_nodup : (eventsOfIds f stream l.claimed).Nodup
  claimed_new : ∀ e ∈ eventsOfIds f stream l.claimed, e ∉ eventsOfIds f stream l.landed
  fresh_new : ∀ e ∈ eventsOfIds f stream l.fresh, e ∉ l.window →
    e ∉ eventsOfIds f stream l.landed ∧ e ∉ eventsOfIds f stream l.claimed

/-- The condition is on the cycles whose insert succeeds. -/
def LandsClean (l : SinkLifetime) : SinkEvent → Prop
  | .insert true => l.worker.phase = .inserting → l.CleanCycle f stream
  | _ => True

/-- The entries in `rows` are some of those claimed back, then fresh ones of different events that
the window did not know. -/
def Split (l : SinkLifetime) : Prop :=
  ∃ A B, l.worker.cycle.validIds = A ++ B ∧ A.Sublist l.claimed ∧
    (eventsOfIds f stream B).Nodup ∧
    ∀ e ∈ eventsOfIds f stream B, e ∈ eventsOfIds f stream l.fresh ∧ e ∉ l.window

/-- `ids` are the event ids that occur in the run. -/
structure LandInv (ids : Finset String) (l : SinkLifetime) : Prop where
  once : l.LandsOnce f stream
  window : ∀ e ∈ l.worker.seen.order, e ∈ ids
  cap : ids.card ≤ l.worker.seen.cap
  reclaiming : l.worker.phase = .reclaiming → l.worker.cycle = {}
  reading : l.worker.phase = .reading → l.worker.cycle.validIds.Sublist l.claimed
  split : l.worker.phase = .skipping ∨ l.worker.phase = .inserting → l.Split f stream

variable {f stream} {l : SinkLifetime}

lemma eventsOfIds_append (a b : List Nat) :
    eventsOfIds f stream (a ++ b) = eventsOfIds f stream a ++ eventsOfIds f stream b :=
  List.filterMap_append

/-- A clean cycle lands events that are new and all different. -/
lemma Split.land (hsplit : l.Split f stream) (honce : l.LandsOnce f stream)
    (hclean : l.CleanCycle f stream) :
    (eventsOfIds f stream (l.landed ++ l.worker.cycle.validIds)).Nodup := by
  obtain ⟨A, B, hvalid, hA, hB, hfresh⟩ := hsplit
  have hAsub : (eventsOfIds f stream A).Sublist (eventsOfIds f stream l.claimed) :=
    hA.filterMap _
  rw [hvalid, eventsOfIds_append, eventsOfIds_append]
  have hAB : (eventsOfIds f stream A ++ eventsOfIds f stream B).Nodup := by
    refine List.nodup_append.mpr ⟨hclean.claimed_nodup.sublist hAsub, hB, ?_⟩
    rintro e heA e' heB rfl
    obtain ⟨hin, hout⟩ := hfresh e heB
    exact (hclean.fresh_new e hin hout).2 (hAsub.mem heA)
  refine List.nodup_append.mpr ⟨honce, hAB, ?_⟩
  rintro e hland e' he rfl
  rcases List.mem_append.mp he with he | he
  · exact hclean.claimed_new e (hAsub.mem he) hland
  · obtain ⟨hin, hout⟩ := hfresh e he
    exact (hclean.fresh_new e hin hout).1 hland

/-! ### A batch -/

variable (f stream) in
lemma frame_deliverAll (isRedelivery : Bool) (l : SinkLifetime) (ids : List Nat) :
    let l' := ids.foldl (SinkLifetime.deliver f stream isRedelivery) l
    l'.landed = l.landed ∧ l'.claimed = l.claimed ∧ l'.fresh = l.fresh ∧ l'.window = l.window := by
  induction ids generalizing l with
  | nil => exact ⟨rfl, rfl, rfl, rfl⟩
  | cons id ids ih => exact ih (l.deliver f stream isRedelivery id)

lemma validIds_admitRow (c : SinkCycle) (row : TelemetryRow) (id rowsCap : Nat) :
    (c.admitRow row id rowsCap).validIds = c.validIds ++ [id] ∨
      (c.admitRow row id rowsCap).validIds = c.validIds := by
  rcases SinkCycle.admitRow_cases c row id rowsCap with h | h
  · exact .inl (by rw [h]; rfl)
  · exact .inr (by rw [h]; rfl)

variable (f stream) in
/-- Claimed entries leave the window alone. -/
lemma classify_claimed (w : ChSinkWorker) (id : Nat) :
    (w.classify f stream true id).seen = w.seen ∧
      ((w.classify f stream true id).cycle.validIds = w.cycle.validIds ++ [id] ∨
        (w.classify f stream true id).cycle.validIds = w.cycle.validIds) := by
  rcases classify_cases f stream true w id with
    ⟨-, hw⟩ | ⟨row, e, -, hfresh, -⟩ | ⟨row, e, seen, -, hnoted, hw⟩
  · rw [hw]
    exact ⟨rfl, .inr rfl⟩
  · cases hfresh
  · rw [hw]
    rcases hnoted with ⟨-, rfl⟩ | ⟨hfresh, -⟩
    · exact ⟨rfl, validIds_admitRow w.cycle row id w.rowsCap⟩
    · cases hfresh

variable (f stream) in
lemma deliverAll_claimed (l : SinkLifetime) (ids : List Nat) :
    let l' := ids.foldl (SinkLifetime.deliver f stream true) l
    l'.worker.seen = l.worker.seen ∧
      l'.worker.cycle.validIds.Sublist (l.worker.cycle.validIds ++ ids) := by
  have h := run_rest (SinkLifetime.deliver f stream true) (s := l)
    (J := fun l' rest => l'.worker.seen = l.worker.seen ∧
      (l'.worker.cycle.validIds ++ rest).Sublist (l.worker.cycle.validIds ++ ids)) ?_ ids
    ⟨rfl, List.Sublist.refl _⟩
  · rw [List.append_nil] at h
    exact h
  · rintro l' id rest ⟨hseen, hsub⟩
    obtain ⟨hkeep, hvalid⟩ := classify_claimed f stream l'.worker id
    refine ⟨hkeep.trans hseen, ?_⟩
    change ((l'.worker.classify f stream true id).cycle.validIds ++ rest).Sublist _
    rcases hvalid with hv | hv
    · rw [hv, List.append_assoc]
      exact hsub
    · rw [hv]
      exact ((List.sublist_cons_self id rest).append_left _).trans hsub

/-- The reading of a fresh batch `all`, begun with the window `order₀` and the valid entries
`valid₀`, when `rest` is still to be looked at. -/
structure ReadInv (f : WireFormat) (stream : Nat → Fields) (ids : Finset String)
    (order₀ : List String) (valid₀ all : List Nat) (l : SinkLifetime) (rest : List Nat) : Prop where
  grown : ∀ e ∈ order₀, e ∈ l.worker.seen.order
  window : ∀ e ∈ l.worker.seen.order, e ∈ ids
  cap : ids.card ≤ l.worker.seen.cap
  rest_all : ∀ id ∈ rest, id ∈ all
  all_ids : ∀ e ∈ eventsOfIds f stream all, e ∈ ids
  valid : ∃ B, l.worker.cycle.validIds = valid₀ ++ B ∧ (eventsOfIds f stream B).Nodup ∧
    ∀ e ∈ eventsOfIds f stream B, e ∈ l.worker.seen.order ∧ e ∈ eventsOfIds f stream all ∧
      e ∉ order₀

variable {ids : Finset String} {order₀ : List String} {valid₀ all rest : List Nat} {id : Nat}

lemma eventsOfIds_append_none {B : List Nat} (h : landEvent f stream id = none) :
    eventsOfIds f stream (B ++ [id]) = eventsOfIds f stream B := by
  rw [eventsOfIds_append]
  simp [eventsOfIds, h]

lemma eventsOfIds_append_some {B : List Nat} {e : String} (h : landEvent f stream id = some e) :
    eventsOfIds f stream (B ++ [id]) = eventsOfIds f stream B ++ [e] := by
  rw [eventsOfIds_append]
  simp [eventsOfIds, h]

lemma ReadInv.tail (h : ReadInv f stream ids order₀ valid₀ all l (id :: rest)) :
    ReadInv f stream ids order₀ valid₀ all l rest :=
  ⟨h.grown, h.window, h.cap, fun x hx => h.rest_all x (List.mem_cons_of_mem id hx), h.all_ids,
    h.valid⟩

/-- The window stays, and no event joins the valid entries. -/
lemma ReadInv.same {l' : SinkLifetime} (h : ReadInv f stream ids order₀ valid₀ all l rest)
    (hseen : l'.worker.seen = l.worker.seen)
    (hvalid : l'.worker.cycle.validIds = l.worker.cycle.validIds ∨
      ∃ id, l'.worker.cycle.validIds = l.worker.cycle.validIds ++ [id] ∧
        landEvent f stream id = none) :
    ReadInv f stream ids order₀ valid₀ all l' rest := by
  obtain ⟨B, hB, hnodup, hmem⟩ := h.valid
  refine ⟨?_, ?_, ?_, h.rest_all, h.all_ids, ?_⟩
  · rw [hseen]
    exact h.grown
  · rw [hseen]
    exact h.window
  · rw [hseen]
    exact h.cap
  · rw [hseen]
    rcases hvalid with hv | ⟨id, hv, hnone⟩
    · exact ⟨B, hv.trans hB, hnodup, hmem⟩
    · refine ⟨B ++ [id], ?_, ?_, ?_⟩
      · rw [hv, hB, List.append_assoc]
      · rw [eventsOfIds_append_none hnone]
        exact hnodup
      · rw [eventsOfIds_append_none hnone]
        exact hmem

/-- The event of the entry goes into the window, and perhaps the entry among the valid ones. -/
lemma ReadInv.record {l' : SinkLifetime} {e : String}
    (h : ReadInv f stream ids order₀ valid₀ all l rest)
    (hsome : landEvent f stream id = some e) (hid : id ∈ all) (hout : e ∉ l.worker.seen.order)
    (horder : l'.worker.seen.order = l.worker.seen.order ++ [e])
    (hcap : l'.worker.seen.cap = l.worker.seen.cap)
    (hvalid : l'.worker.cycle.validIds = l.worker.cycle.validIds ++ [id] ∨
      l'.worker.cycle.validIds = l.worker.cycle.validIds) :
    ReadInv f stream ids order₀ valid₀ all l' rest := by
  obtain ⟨B, hB, hnodup, hmem⟩ := h.valid
  have heall : e ∈ eventsOfIds f stream all := List.mem_filterMap.mpr ⟨id, hid, hsome⟩
  have hkept : ∀ x ∈ eventsOfIds f stream B, x ∈ l.worker.seen.order ++ [e] ∧
      x ∈ eventsOfIds f stream all ∧ x ∉ order₀ := fun x hx =>
    ⟨List.mem_append_left _ (hmem x hx).1, (hmem x hx).2⟩
  refine ⟨?_, ?_, ?_, h.rest_all, h.all_ids, ?_⟩
  · rw [horder]
    exact fun x hx => List.mem_append_left _ (h.grown x hx)
  · rw [horder]
    intro x hx
    rcases List.mem_append.mp hx with hx | hx
    · exact h.window x hx
    · rw [List.mem_singleton.mp hx]
      exact h.all_ids e heall
  · rw [hcap]
    exact h.cap
  · rw [horder]
    rcases hvalid with hv | hv
    · refine ⟨B ++ [id], by rw [hv, hB, List.append_assoc], ?_, ?_⟩
      · rw [eventsOfIds_append_some hsome]
        refine List.nodup_append.mpr ⟨hnodup, List.nodup_singleton e, ?_⟩
        rintro x hx y hy rfl
        rw [List.mem_singleton.mp hy] at hx
        exact hout (hmem e hx).1
      · rw [eventsOfIds_append_some hsome]
        intro x hx
        rcases List.mem_append.mp hx with hx | hx
        · exact hkept x hx
        · rw [List.mem_singleton.mp hx]
          exact ⟨List.mem_append_right _ (List.mem_singleton_self e), heall,
            fun h0 => hout (h.grown e h0)⟩
    · exact ⟨B, hv.trans hB, hnodup, hkept⟩

/-- A fresh entry that is kept has no id, or one that the window did not hold and now holds. -/
lemma readInv_deliver (h : ReadInv f stream ids order₀ valid₀ all l (id :: rest)) :
    ReadInv f stream ids order₀ valid₀ all (l.deliver f stream false id) rest := by
  have hidall := h.rest_all id List.mem_cons_self
  have hdeliver : (l.deliver f stream false id).worker =
      l.worker.classify f stream false id := rfl
  have hcycle := fun row => validIds_admitRow l.worker.cycle row id l.worker.rowsCap
  rcases classify_cases f stream false l.worker id with
    ⟨-, hw⟩ | ⟨row, e, -, -, -, -, hw⟩ | ⟨row, e, seen, hparse, hnoted, hw⟩
  · refine h.tail.same ?_ (.inl ?_)
    · rw [hdeliver, hw]
    · rw [hdeliver, hw]
      rfl
  · refine h.tail.same ?_ (.inl ?_)
    · rw [hdeliver, hw]
    · rw [hdeliver, hw]
      rfl
  · have hseen : (l.deliver f stream false id).worker.seen = seen := by
      rw [hdeliver, hw]
    have hvalid : (l.deliver f stream false id).worker.cycle.validIds =
        (l.worker.cycle.admitRow row id l.worker.rowsCap).validIds := by
      rw [hdeliver, hw]
    rcases hnoted with ⟨hempty, rfl⟩ | ⟨-, hne, hnew, rfl⟩
    · have hnone : landEvent f stream id = none := by
        have he : e = "" := hempty.resolve_left (by simp)
        simp [landEvent, eventIdOf, hparse, he, Option.filter]
      refine h.tail.same hseen ?_
      rw [hvalid]
      exact (hcycle row).symm.imp_right (fun hv => ⟨id, hv, hnone⟩)
    · have hsome : landEvent f stream id = some e := by
        simp [landEvent, eventIdOf, hparse, hne, Option.filter]
      have hout : e ∉ l.worker.seen.order := by
        rwa [l.worker.seen.set_eq, List.mem_toFinset] at hnew
      have heids := h.all_ids e (List.mem_filterMap.mpr ⟨id, hidall, hsome⟩)
      have hroom := SeenIds.room_of_subset h.window h.cap heids hnew
      refine h.tail.record hsome hidall hout ?_ (by rw [hseen]; rfl) ?_
      · rw [hseen]
        exact SeenIds.order_insert_of_room hnew hroom
      · rw [hvalid]
        exact hcycle row

/-! ### The stages of a cycle -/

lemma landInv_newCycle {l' : SinkLifetime} (h : l.LandInv f stream ids)
    (honce : l'.LandsOnce f stream) (hworker : l'.worker = l.worker.newCycle) :
    l'.LandInv f stream ids := by
  refine ⟨honce, ?_, ?_, ?_, ?_, ?_⟩ <;> rw [hworker]
  · exact h.window
  · exact h.cap
  · exact fun _ => rfl
  · rintro ⟨⟩
  · rintro (hp | hp) <;> cases hp

/-- The entries of a reclaim are delivered into an empty cycle. -/
lemma landInv_reclaim (h : l.LandInv f stream ids) (hphase : l.worker.phase = .reclaiming)
    (claimed : List Nat) :
    ((claimed.foldl (SinkLifetime.deliver f stream true)
      { l with claimed := claimed, fresh := [] }).goto .reading).LandInv f stream ids := by
  obtain ⟨hseen, hsub⟩ := deliverAll_claimed f stream
    { l with claimed := claimed, fresh := [] } claimed
  obtain ⟨hlanded, hclaimed, -, -⟩ := frame_deliverAll f stream true
    { l with claimed := claimed, fresh := [] } claimed
  dsimp only at hseen hsub hlanded hclaimed
  rw [h.reclaiming hphase] at hsub
  generalize List.foldl _ _ claimed = l' at hseen hsub hlanded hclaimed ⊢
  refine ⟨?_, ?_, ?_, (by rintro ⟨⟩), fun _ => ?_, fun hp => ?_⟩
  · change (eventsOfIds f stream l'.landed).Nodup
    rw [hlanded]
    exact h.once
  · change ∀ x ∈ l'.worker.seen.order, _
    rw [hseen]
    exact h.window
  · change ids.card ≤ l'.worker.seen.cap
    rw [hseen]
    exact h.cap
  · change l'.worker.cycle.validIds.Sublist l'.claimed
    rw [hclaimed]
    exact hsub
  · rcases hp with hp | hp <;> cases hp

/-- The entries of a read are delivered after those of the reclaim. -/
lemma landInv_read (h : l.LandInv f stream ids) (hphase : l.worker.phase = .reading)
    (fresh : List Nat) (hids : ∀ x ∈ eventsOfIds f stream fresh, x ∈ ids) :
    ((fresh.foldl (SinkLifetime.deliver f stream false)
      { l with fresh := fresh, window := l.worker.seen.order }).goto .skipping).LandInv
        f stream ids := by
  have hread := run_rest (SinkLifetime.deliver f stream false)
    (J := ReadInv f stream ids l.worker.seen.order l.worker.cycle.validIds fresh)
    (fun _ _ _ => readInv_deliver)
    (s := { l with fresh := fresh, window := l.worker.seen.order }) fresh
    ⟨fun _ hx => hx, h.window, h.cap, fun _ hx => hx, hids, [], (List.append_nil _).symm,
      List.nodup_nil, fun x hx => absurd hx List.not_mem_nil⟩
  obtain ⟨hlanded, hclaimed, hfresh, hwindow⟩ := frame_deliverAll f stream false
    { l with fresh := fresh, window := l.worker.seen.order } fresh
  dsimp only at hlanded hclaimed hfresh hwindow
  unfold run at hread
  generalize List.foldl _ _ fresh = l' at hread hlanded hclaimed hfresh hwindow ⊢
  obtain ⟨B, hvalid, hB, hmem⟩ := hread.valid
  refine ⟨?_, hread.window, hread.cap, (by rintro ⟨⟩), (by rintro ⟨⟩), fun _ => ?_⟩
  · change (eventsOfIds f stream l'.landed).Nodup
    rw [hlanded]
    exact h.once
  · refine ⟨l.worker.cycle.validIds, B, hvalid, ?_, hB, ?_⟩
    · change l.worker.cycle.validIds.Sublist l'.claimed
      rw [hclaimed]
      exact h.reading hphase
    · intro x hx
      change x ∈ eventsOfIds f stream l'.fresh ∧ x ∉ l'.window
      rw [hfresh, hwindow]
      exact (hmem x hx).2

lemma landInv_step (l : SinkLifetime) (e : SinkEvent) (h : l.LandInv f stream ids)
    (he : l.LandsClean f stream e ∧ ∀ x ∈ eventsOfIds f stream e.handed, x ∈ ids) :
    (l.step f stream e).LandInv f stream ids := by
  obtain ⟨hclean, hids⟩ := he
  unfold step
  cases e with
  | reclaim claimed =>
    dsimp only
    split
    · rename_i hphase
      exact landInv_reclaim h hphase claimed
    · exact h
  | read fresh =>
    dsimp only
    split
    · rename_i hphase
      exact landInv_read h hphase fresh hids
    · exact h
  | xackSkips ok =>
    dsimp only
    split
    · rename_i hphase
      unfold ChSinkWorker.afterSkips
      split
      · exact landInv_newCycle h h.once rfl
      · exact ⟨h.once, h.window, h.cap, (by rintro ⟨⟩), (by rintro ⟨⟩),
          fun _ => h.split (.inl hphase)⟩
    · exact h
  | insert ok =>
    dsimp only
    split
    · rename_i hphase
      cases ok with
      | true =>
        refine ⟨?_, h.window, h.cap, (by rintro ⟨⟩), (by rintro ⟨⟩), fun hp => ?_⟩
        · exact (h.split (.inr hphase)).land h.once (hclean hphase)
        · rcases hp with hp | hp <;> cases hp
      | false => exact landInv_newCycle h h.once rfl
    · exact h
  | xackValid ok =>
    dsimp only
    split
    · exact landInv_newCycle h h.once rfl
    · exact h

/-! ### Rows and entries -/

/-- The rows are those of the entries that are listed beside them. -/
structure RowsMatch (f : WireFormat) (stream : Nat → Fields) (l : SinkLifetime) : Prop where
  cycle : l.worker.cycle.rows = l.worker.cycle.validIds.filterMap (rowOf f stream)
  landed : l.landedRows = l.landed.filterMap (rowOf f stream)

lemma RowsMatch.deliver {isRedelivery : Bool} (h : l.RowsMatch f stream) :
    (l.deliver f stream isRedelivery id).RowsMatch f stream := by
  refine ⟨?_, h.landed⟩
  change (l.worker.classify f stream isRedelivery id).cycle.rows =
    (l.worker.classify f stream isRedelivery id).cycle.validIds.filterMap (rowOf f stream)
  rcases classify_cases f stream isRedelivery l.worker id with
    ⟨-, hw⟩ | ⟨row, e, -, -, -, -, hw⟩ | ⟨row, e, seen, hparse, -, hw⟩
  · rw [hw]
    exact h.cycle
  · rw [hw]
    exact h.cycle
  · rw [hw]
    dsimp only
    rcases SinkCycle.admitRow_cases l.worker.cycle row id l.worker.rowsCap with hc | hc
    · rw [hc]
      simp only [SinkCycle.push, List.filterMap_append, h.cycle]
      simp [rowOf, hparse]
    · rw [hc]
      exact h.cycle

lemma rowsMatch_step (l : SinkLifetime) (e : SinkEvent) (h : l.RowsMatch f stream) :
    (l.step f stream e).RowsMatch f stream := by
  have hall : ∀ (isRedelivery : Bool) (l : SinkLifetime) (ids : List Nat), l.RowsMatch f stream →
      (ids.foldl (SinkLifetime.deliver f stream isRedelivery) l).RowsMatch f stream :=
    fun _ _ ids h => run_invariant (J := RowsMatch f stream) (fun _ _ h => h.deliver) h ids
  unfold step
  cases e with
  | reclaim claimed =>
    dsimp only
    split
    · have h' := hall true { l with claimed := claimed, fresh := [] } claimed ⟨h.cycle, h.landed⟩
      exact ⟨h'.cycle, h'.landed⟩
    · exact h
  | read fresh =>
    dsimp only
    split
    · have h' := hall false { l with fresh := fresh, window := l.worker.seen.order } fresh
        ⟨h.cycle, h.landed⟩
      exact ⟨h'.cycle, h'.landed⟩
    · exact h
  | xackSkips ok =>
    dsimp only
    split
    · refine ⟨?_, h.landed⟩
      dsimp only
      unfold ChSinkWorker.afterSkips
      split
      · rfl
      · exact h.cycle
    · exact h
  | insert ok =>
    dsimp only
    split
    · cases ok with
      | true =>
        refine ⟨h.cycle, ?_⟩
        simp only [if_true, List.filterMap_append, h.landed, h.cycle]
      | false => exact ⟨rfl, h.landed⟩
    · exact h
  | xackValid ok =>
    dsimp only
    split
    · exact ⟨rfl, h.landed⟩
    · exact h

lemma landInv_start (batchSize : Nat) (hcap : ids.card ≤ seenIdsCap) :
    (start batchSize).LandInv f stream ids := by
  refine ⟨List.nodup_nil, fun x hx => absurd hx List.not_mem_nil, hcap, fun _ => rfl,
    (by rintro ⟨⟩), fun hp => ?_⟩
  rcases hp with hp | hp <;> cases hp

end SinkLifetime

/-- The distinct event ids that occur among the entries of a run. -/
def occurringEvents (events : List SinkEvent) : Finset String :=
  (eventsOfIds f stream (events.flatMap SinkEvent.handed)).toFinset

variable {f stream}

lemma mem_occurringEvents {events : List SinkEvent} {e : SinkEvent} (he : e ∈ events) :
    ∀ x ∈ eventsOfIds f stream e.handed, x ∈ occurringEvents f stream events := by
  intro x hx
  obtain ⟨id, hid, hev⟩ := List.mem_filterMap.mp hx
  exact List.mem_toFinset.mpr
    (List.mem_filterMap.mpr ⟨id, List.mem_flatMap.mpr ⟨e, he, hid⟩, hev⟩)

end Land

/-- In a lifetime with at most `seenIdsCap` event ids in which every cycle that lands is clean, the
rows of all successful inserts are of different events, in every state. -/
theorem land_once_of_clean (f : WireFormat) (stream : Nat → Fields) (batchSize : Nat)
    (events : List SinkEvent) (hcap : (occurringEvents f stream events).card ≤ seenIdsCap)
    (hclean : Along (SinkLifetime.step f stream) (SinkLifetime.LandsClean f stream)
      (.start batchSize) events) :
    let l := run (SinkLifetime.step f stream) (.start batchSize) events
    (eventsOfIds f stream l.landed).Nodup ∧
      l.landedRows = l.landed.filterMap (rowOf f stream) := by
  have halong := along_and_forall
    (R := fun e => ∀ x ∈ eventsOfIds f stream e.handed, x ∈ occurringEvents f stream events) hclean
    (fun _ he => mem_occurringEvents he)
  constructor
  · exact (run_of_along (J := SinkLifetime.LandInv f stream (occurringEvents f stream events))
      SinkLifetime.landInv_step (SinkLifetime.landInv_start batchSize hcap) halong).once
  · exact (run_invariant (J := SinkLifetime.RowsMatch f stream) SinkLifetime.rowsMatch_step
      ⟨rfl, rfl⟩ events).landed

section Samples

variable {f : WireFormat} {stream : Nat → Fields} {row : TelemetryRow} {e : String}

/-! The samples are run for any stream whose first two entries are copies of one event, so that no
payload is decoded on the way. -/

lemma eventIdOf_copies
    (hparse : ∀ id, parseEntry f (stream id) = if id < 2 then some (row, e) else none) (id : Nat) :
    eventIdOf f stream id = if id < 2 then some e else none := by
  unfold eventIdOf
  rw [hparse]
  split <;> rfl

lemma clean_claimed_back
    (hparse : ∀ id, parseEntry f (stream id) = if id < 2 then some (row, e) else none)
    (he : e ≠ "") :
    Along (SinkLifetime.step f stream) (SinkLifetime.LandsClean f stream) (.start 1)
      [.reclaim [], .read [0, 1], .xackSkips true, .insert false, .reclaim [0], .read [],
        .xackSkips true, .insert true] := by
  have hevent := eventIdOf_copies hparse
  simp [SinkLifetime.LandsClean, SinkLifetime.step, SinkLifetime.start, SinkLifetime.deliver,
    SinkLifetime.goto, ChSinkWorker.new, ChSinkWorker.newCycle, ChSinkWorker.classify,
    classifyEntry, hparse, he, ChSinkWorker.afterSkips, ChSinkWorker.afterInsert,
    SinkCycle.admitRow, SinkCycle.push, SinkCycle.duplicate, ChSinkWorker.rowsCap,
    SeenIds.checkAndInsert, SeenIds.new, SeenIds.insert, SeenIds.makeRoom, seenIdsCap]
  refine ⟨?_, ?_, ?_⟩
  all_goals simp [eventsOfIds, landEvent, hevent, he, Option.filter]

lemma landed_again
    (hparse : ∀ id, parseEntry f (stream id) = if id < 2 then some (row, e) else none)
    (he : e ≠ "") :
    ¬(eventsOfIds f stream (run (SinkLifetime.step f stream) (.start 1)
      [.reclaim [], .read [0], .xackSkips true, .insert true, .xackValid false, .reclaim [0],
        .read [], .xackSkips true, .insert true]).landed).Nodup := by
  have hevent := eventIdOf_copies hparse
  simp [eventsOfIds, landEvent, hevent, Option.filter, SinkLifetime.step, SinkLifetime.start,
    SinkLifetime.deliver, SinkLifetime.goto, ChSinkWorker.new, ChSinkWorker.newCycle,
    ChSinkWorker.classify, classifyEntry, hparse, he, ChSinkWorker.afterSkips,
    ChSinkWorker.afterInsert, SinkCycle.admitRow, SinkCycle.push, ChSinkWorker.rowsCap,
    SeenIds.checkAndInsert, SeenIds.new]

end Samples

/-- One event in two entries: the insert of the first one fails, and it lands when claimed back. -/
theorem claimed_back_lands_once :
    (eventsOfIds sampleFormat sampleStream
      (run (SinkLifetime.step sampleFormat sampleStream) (.start 1)
        [.reclaim [], .read [0, 1], .xackSkips true, .insert false, .reclaim [0], .read [],
          .xackSkips true, .insert true]).landed).Nodup := by
  refine (land_once_of_clean sampleFormat sampleStream 1 _ ?_
    (clean_claimed_back parseEntry_sampleStream (by decide))).1
  refine (List.toFinset_card_le _).trans ?_
  exact (List.length_filterMap_le _ _).trans (by decide)

/-- The insert succeeds and its acknowledgement is lost: the entry is claimed back and its event
lands again. -/
theorem lost_ack_lands_twice :
    ¬ ∀ (f : WireFormat) (stream : Nat → Fields) (batchSize : Nat) (events : List SinkEvent),
      (occurringEvents f stream events).card ≤ seenIdsCap →
        (eventsOfIds f stream
          (run (SinkLifetime.step f stream) (.start batchSize) events).landed).Nodup := by
  intro hall
  have honce := hall sampleFormat sampleStream 1
    [.reclaim [], .read [0], .xackSkips true, .insert true, .xackValid false, .reclaim [0],
      .read [], .xackSkips true, .insert true]
    ((List.toFinset_card_le _).trans ((List.length_filterMap_le _ _).trans (by decide)))
  exact landed_again parseEntry_sampleStream (by decide) honce

end IPProxyPool
