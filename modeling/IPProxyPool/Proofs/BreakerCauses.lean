import IPProxyPool.Lib.Run
import IPProxyPool.Model.BreakerSystem
import IPProxyPool.Proofs.DeltaWire
import IPProxyPool.Proofs.QuarantineKey

/-!
# Causes of the quarantines in a cluster

Whatever the interleaving of the workers, the subscriptions and the operators of any number of
instances, a quarantine that is in the table of an instance goes back to an entry of the stream with
a status that isolates, handled once by some instance, or to an operator of this instance.
-/

namespace IPProxyPool
open RustText AssocTable Transition

/-! ### What a step does -/

namespace BreakerPhase

/-- The entries of the batch that `process_entry` has not been called for. -/
def rest : BreakerPhase → List Nat
  | .processing id todo => id :: todo
  | .persisting _ _ _ todo => todo
  | .publishing _ _ _ todo => todo
  | .acking _ todo => todo
  | _ => []

/-- The entry that `process_entry` was called for and that is not acknowledged. -/
def current : BreakerPhase → List Nat
  | .persisting _ _ id _ => [id]
  | .publishing _ _ id _ => [id]
  | .acking id _ => [id]
  | _ => []

/-- The isolation that is in memory and that the others have not been told of. -/
def inHand : BreakerPhase → List Isolation
  | .persisting q _ _ _ => [q]
  | .publishing q _ _ _ => [q]
  | _ => []

@[simp] lemma rest_next (todo : List Nat) : (next todo).rest = todo := by cases todo <;> rfl

@[simp] lemma current_next (todo : List Nat) : (next todo).current = [] := by cases todo <;> rfl

@[simp] lemma inHand_next (todo : List Nat) : (next todo).inHand = [] := by cases todo <;> rfl

end BreakerPhase

namespace BreakerSystem

variable {ι : Type*} [DecidableEq ι] (f : WireFormat) (stream : Nat → Fields)

/-- The instance is not where the step could be its next. -/
def OutOfTurn (s : BreakerSystem ι) : BreakerStep ι → Prop
  | .boot i _ => (s.instances i).phase ≠ .down
  | .create i _ => (s.instances i).phase ≠ .starting
  | .panic i => (s.instances i).phase = .down
  | .read i _ => (s.instances i).phase ≠ .reading
  | .process i _ => ∀ id todo, (s.instances i).phase ≠ .processing id todo
  | .setEx i _ _ => ∀ q retry id todo, (s.instances i).phase ≠ .persisting q retry id todo
  | .publish i _ _ => ∀ q retry id todo, (s.instances i).phase ≠ .publishing q retry id todo
  | .xack i _ => ∀ id todo, (s.instances i).phase ≠ .acking id todo
  | .subscribe i => (s.instances i).phase = .down ∨ (s.instances i).inbox ≠ []
  | .delta i _ => (s.instances i).inbox = []
  | .router i _ => (s.instances i).phase = .down
  | _ => False

/-- What a step changes. A step that is out of turn changes nothing. -/
inductive Move (s : BreakerSystem ι) : BreakerStep ι → BreakerSystem ι → Prop where
  | idle (e : BreakerStep ι) (h : s.OutOfTurn e) : Move s e s
  | append : Move s .append { s with group := s.group.append }
  | trim (n : Nat) : Move s (.trim n) { s with group := s.group.trim n }
  | boot (i : ι) (nodes : List ProxyNode) (h : (s.instances i).phase = .down) :
    Move s (.boot i nodes)
      (s.setInstance i { s.instances i with router := .new nodes, phase := .starting })
  | kill (i : ι) : Move s (.kill i) (s.setInstance i .halted)
  | create (i : ι) (ok : Bool) (h : (s.instances i).phase = .starting) :
    Move s (.create i ok)
      (BreakerSystem.setInstance { s with
        created := s.created || ok
        group := if ok && !s.created then s.group.seekEnd else s.group }
        i { s.instances i with phase := .reading })
  | panic (i : ι) : Move s (.panic i) (s.setInstance i (s.instances i).restart)
  | read (i : ι) (answered : Bool) (h : (s.instances i).phase = .reading) :
    Move s (.read i answered)
      (BreakerSystem.setInstance { s with
        group := s.readBatch.foldl (fun g id => g.deliver breakerConsumer id) s.group }
        i { s.instances i with phase := if answered then .next s.readBatch else .reading })
  | ignored (i : ι) (now : Instant) (id : Nat) (todo : List Nat)
      (h : (s.instances i).phase = .processing id todo) (htrigger : trigger f (stream id) = none) :
    Move s (.process i now)
      (BreakerSystem.setInstance { s with processed := s.processed ++ [id] } i
        { s.instances i with phase := .acking id todo })
  | triggered (i : ι) (now : Instant) (id : Nat) (todo : List Nat) (status : Nat) (q : Isolation)
      (h : (s.instances i).phase = .processing id todo)
      (htrigger : trigger f (stream id) = some (status, q)) :
    Move s (.process i now)
      (BreakerSystem.setInstance { s with processed := s.processed ++ [id] } i
        { s.instances i with
          metrics := (s.instances i).metrics.noteBreakerTrigger status
          router := (s.instances i).router.applyQuarantine q.domain q.outIp q.ttlSecs now
          phase := .persisting q false id todo })
  | setEx (i : ι) (stored answered : Bool) (setExs : List (String × Nat)) (q : Isolation)
      (retry : Bool) (id : Nat) (todo : List Nat)
      (h : (s.instances i).phase = .persisting q retry id todo) :
    Move s (.setEx i stored answered)
      (BreakerSystem.setInstance { s with setExs := setExs } i
        ((s.instances i).afterSetEx q retry id todo (stored && answered)))
  | published (i : ι) (answered : Bool) (q : Isolation) (retry : Bool) (id : Nat)
      (todo : List Nat) (h : (s.instances i).phase = .publishing q retry id todo) :
    Move s (.publish i true answered)
      { s with
        instances := fun j => (Function.update s.instances i
          ((s.instances i).afterPublish q retry id todo answered) j).receive q.message
        sent := s.sent ++ [q.message] }
  | unpublished (i : ι) (answered : Bool) (q : Isolation) (retry : Bool) (id : Nat)
      (todo : List Nat) (h : (s.instances i).phase = .publishing q retry id todo) :
    Move s (.publish i false answered)
      (s.setInstance i ((s.instances i).afterPublish q retry id todo false))
  | xack (i : ι) (ok : Bool) (id : Nat) (todo : List Nat)
      (h : (s.instances i).phase = .acking id todo) :
    Move s (.xack i ok)
      (BreakerSystem.setInstance { s with group := if ok then s.group.ack [id] else s.group } i
        { s.instances i with phase := .next todo })
  | subscribe (i : ι) :
    Move s (.subscribe i) (s.setInstance i { s.instances i with subscribed := true })
  | unsubscribe (i : ι) (received : Nat) :
    Move s (.unsubscribe i received)
      (s.setInstance i { s.instances i with
        subscribed := false
        inbox := (s.instances i).inbox.take received })
  | delta (i : ι) (now : Instant) (message : String) (waiting : List String)
      (h : (s.instances i).inbox = message :: waiting) :
    Move s (.delta i now)
      (s.setInstance i { s.instances i with
        router := ((s.instances i).router.applyDelta message now).2
        inbox := waiting })
  | router (i : ι) (op : RouterOp) :
    Move s (.router i op)
      (s.setInstance i { s.instances i with router := (s.instances i).router.step op })

variable {f stream}

lemma setInstance_self (s : BreakerSystem ι) (i : ι) : s.setInstance i (s.instances i) = s := by
  unfold setInstance
  rw [Function.update_eq_self]

lemma instances_setInstance (s : BreakerSystem ι) (i : ι) (b : BreakerInstance) :
    (s.setInstance i b).instances i = b := by
  unfold setInstance
  exact Function.update_self _ _ _

lemma move_step (s : BreakerSystem ι) (e : BreakerStep ι) :
    Move f stream s e (s.step f stream e) := by
  cases e with
  | append => exact .append
  | trim n => exact .trim n
  | boot i nodes =>
    simp only [step]
    split
    · next h => exact .boot i nodes h
    · next h => exact .idle _ h
  | kill i => exact .kill i
  | create i ok =>
    simp only [step]
    split
    · next h => exact .create i ok h
    · next h => exact .idle _ h
  | panic i =>
    simp only [step]
    split
    · next h => exact .idle _ h
    · exact .panic i
  | read i answered =>
    simp only [step]
    split
    · next h => exact .read i answered h
    · next h => exact .idle _ h
  | process i now =>
    simp only [step]
    split
    · next id todo h =>
      unfold BreakerInstance.processEntry
      split
      · next status q htrigger => exact .triggered i now id todo status q h htrigger
      · next htrigger => exact .ignored i now id todo h htrigger
    · next h => exact .idle _ h
  | setEx i stored answered =>
    simp only [step]
    split
    · next q retry id todo h => exact .setEx i stored answered _ q retry id todo h
    · next h => exact .idle _ h
  | publish i sent answered =>
    simp only [step]
    split
    · next q retry id todo h =>
      cases sent with
      | true => exact .published i answered q retry id todo h
      | false => exact .unpublished i answered q retry id todo h
    · next h => exact .idle _ h
  | xack i ok =>
    simp only [step]
    split
    · next id todo h => exact .xack i ok id todo h
    · next h => exact .idle _ h
  | subscribe i =>
    simp only [step]
    split
    · next h => exact .idle _ (.inl h)
    · exact .subscribe i
    · next h => exact .idle _ (.inr h)
  | unsubscribe i received => exact .unsubscribe i received
  | delta i now =>
    simp only [step]
    cases h : (s.instances i).inbox with
    | nil =>
      have hsame : (s.instances i).applyNext now = s.instances i := by
        unfold BreakerInstance.applyNext
        rw [h]
      rw [hsame, setInstance_self]
      exact .idle _ h
    | cons message waiting =>
      have happly : (s.instances i).applyNext now = { s.instances i with
          router := ((s.instances i).router.applyDelta message now).2
          inbox := waiting } := by
        unfold BreakerInstance.applyNext
        rw [h]
      rw [happly]
      exact .delta i now message waiting h
  | router i op =>
    simp only [step]
    split
    · next h => exact .idle _ h
    · exact .router i op

end BreakerSystem

/-! ### Entries of the tables -/

namespace RouterEngine

variable {r : RouterEngine} {key ip : String} {expiry : Instant}

lemma entry_of_setQuarantine {domain ip' : String} {ttlSecs : Nat} {now : Instant}
    (h : (r.setQuarantine domain ip' ttlSecs now).quarantineEntry key ip = some expiry) :
    r.quarantineEntry key ip = some expiry ∨
      key = normalizeDomain domain ∧ ip = ip' ∧ expiry = quarantineExpiry now ttlSecs := by
  by_cases hsame : normalizeDomain domain = key ∧ ip' = ip
  · obtain ⟨rfl, rfl⟩ := hsame
    by_cases hacc : r.Accepts domain
    · rw [quarantineEntry_setQuarantine hacc] at h
      exact .inr ⟨rfl, rfl, (Option.some.inj h).symm⟩
    · rw [setQuarantine_of_not_accepts hacc] at h
      exact .inl h
  · rw [quarantineEntry_setQuarantine_ne hsame] at h
    exact .inl h

lemma entry_of_applyQuarantine {domain ip' : String} {ttlSecs : Nat} {now : Instant}
    (h : (r.applyQuarantine domain ip' ttlSecs now).quarantineEntry key ip = some expiry) :
    r.quarantineEntry key ip = some expiry ∨
      key = normalizeDomain domain ∧ ip = ip' ∧ expiry = quarantineExpiry now ttlSecs := by
  unfold applyQuarantine at h
  split at h
  · exact entry_of_setQuarantine h
  · exact .inl h

lemma entry_of_step {op : RouterOp} (h : (r.step op).quarantineEntry key ip = some expiry) :
    r.quarantineEntry key ip = some expiry ∨ ∃ domain ttlSecs now,
      op = .setQuarantine domain ip ttlSecs now ∧ key = normalizeDomain domain ∧
        expiry = quarantineExpiry now ttlSecs := by
  by_cases hwrite : op.writesPool = true
  · exact .inl ((quarantineEntry_eq (tables_writer r op hwrite).2).symm.trans h)
  · cases op with
    | setQuarantine domain ip' ttlSecs now =>
      rcases entry_of_setQuarantine h with hold | ⟨hkey, rfl, hexpiry⟩
      · exact .inl hold
      · exact .inr ⟨domain, ttlSecs, now, rfl, hkey, hexpiry⟩
    | removeQuarantine domain ip' =>
      refine .inl ?_
      by_cases hsame : normalizeDomain domain = key ∧ ip' = ip
      · by_cases hdomain : normalizeDomain domain = ""
        · rwa [step, removeQuarantine, if_pos hdomain] at h
        · obtain ⟨rfl, rfl⟩ := hsame
          rw [step, quarantineEntry_removeQuarantine hdomain] at h
          cases h
      · exact (quarantineEntry_removeQuarantine_ne hsame).symm.trans h
    | sweepExpired now =>
      rw [step, quarantineEntry_swept] at h
      exact .inl (Option.filter_eq_some_iff.mp h).1
    | select spec excluded now draw =>
      refine .inl ?_
      rwa [step, quarantineEntry_eq (quarantineMap_selectNodeExcluding spec excluded now draw)] at h
    | reloadNodes | replaceVendorNodes | addNode | removeNode | adjustVendorWeight
    | setPaidWeightBoost | scaleVendorWeights => exact absurd rfl hwrite

end RouterEngine

/-! ### Causes -/

/-- What a status makes of an entry: the time is that of the status, the target is acceptable. -/
lemma trigger_spec {f : WireFormat} {fields : Fields} {status : Nat} {q : Isolation}
    (h : trigger f fields = some (status, q)) :
    quarantineTtlForStatus status = some q.ttlSecs ∧
      validQuarantineTarget q.domain q.outIp = true := by
  obtain ⟨event, -, hevent⟩ := Option.bind_eq_some_iff.mp h
  obtain ⟨ttl, httl, hq⟩ := Option.bind_eq_some_iff.mp hevent
  split at hq
  · next hvalid =>
    cases hq
    exact ⟨httl, hvalid⟩
  · cases hq

lemma quarantineTtlForStatus_le {status ttl : Nat} (h : quarantineTtlForStatus status = some ttl) :
    ttl ≤ 600 := by
  unfold quarantineTtlForStatus at h
  split at h <;> cases h <;> decide

section Causes

variable {ι : Type*} (f : WireFormat) (stream : Nat → Fields)

/-- An entry that asks for the isolation has been handled. -/
def Announced (processed : List Nat) (q : Isolation) : Prop :=
  ∃ id ∈ processed, ∃ status, trigger f (stream id) = some (status, q)

/-- The step isolates `q` on the instance `i` at `now`: its worker handles an entry that asks for
it, its subscription reads a message that reports it, or its operator asks for it. -/
def Isolates (s : BreakerSystem ι) (i : ι) (q : Isolation) (now : Instant) (e : BreakerStep ι) :
    Prop :=
  (e = .process i now ∧ ∃ id todo status, (s.instances i).phase = .processing id todo ∧
      trigger f (stream id) = some (status, q)) ∨
    (e = .delta i now ∧ Announced f stream s.processed q ∧
      (s.instances i).inbox.head? = some q.message) ∨
    e = .router i (.setQuarantine q.domain q.outIp q.ttlSecs now)

/-- One of the steps has written this entry into the table of the instance: it isolates an address,
and the entry is what the table holds of it from this step on. -/
def Caused [DecidableEq ι] (es : List (BreakerStep ι)) (i : ι) (key ip : String)
    (expiry : Instant) : Prop :=
  ∃ earlier e later, es = earlier ++ e :: later ∧ ∃ q now,
    let before := run (BreakerSystem.step f stream) .init earlier
    Isolates f stream before i q now e ∧
      ((before.step f stream e).instances i).router.quarantineEntry key ip = some expiry ∧
      key = normalizeDomain q.domain ∧ ip = q.outIp ∧
      expiry = RouterEngine.quarantineExpiry now q.ttlSecs

/-- What is known of an instance after the steps `es`. -/
structure SoundInstance [DecidableEq ι] (es : List (BreakerStep ι)) (processed : List Nat) (i : ι)
    (b : BreakerInstance) : Prop where
  inHand : ∀ q ∈ b.phase.inHand, Announced f stream processed q
  inbox : ∀ message ∈ b.inbox, ∃ q, Announced f stream processed q ∧ message = q.message
  table : ∀ key ip expiry, b.router.quarantineEntry key ip = some expiry →
    Caused f stream es i key ip expiry

structure BreakerSystem.Sound [DecidableEq ι] (es : List (BreakerStep ι)) (s : BreakerSystem ι) :
    Prop where
  sent : ∀ message ∈ s.sent, ∃ q, Announced f stream s.processed q ∧ message = q.message
  instances : ∀ i, SoundInstance f stream es s.processed i (s.instances i)

variable {f stream} {es : List (BreakerStep ι)} {processed : List Nat} {i : ι}
  {b b' : BreakerInstance} {q : Isolation}

lemma Announced.mono {processed' : List Nat} (h : Announced f stream processed q)
    (hsub : processed ⊆ processed') : Announced f stream processed' q := by
  obtain ⟨id, hid, htrigger⟩ := h
  exact ⟨id, hsub hid, htrigger⟩

lemma Announced.ttl_le (h : Announced f stream processed q) : q.ttlSecs ≤ 600 := by
  obtain ⟨id, -, status, htrigger⟩ := h
  exact quarantineTtlForStatus_le (trigger_spec htrigger).1

/-- A receiver reads from a message what its sender isolated, or nothing. -/
lemma Announced.parsed (h : Announced f stream processed q) {domain ip : String} {ttl : Nat}
    (hparse : parseDeltaMessage q.message = some (domain, ip, ttl)) : q = ⟨domain, ip, ttl⟩ := by
  have hmax : q.ttlSecs ≤ quarantineMaxTtlSecs := h.ttl_le.trans (by decide)
  unfold Isolation.message at hparse
  have hsome : parseDeltaMessage (quarantineDeltaMessage q.domain q.outIp q.ttlSecs) ≠ none := by
    rw [hparse]
    exact Option.some_ne_none _
  obtain ⟨hdomain, hip⟩ := notMem_sep_of_parsed hsome
  rw [parseDeltaMessage_of_notMem_sep hdomain hip hmax] at hparse
  split at hparse
  · cases hparse
    rfl
  · cases hparse

/-- A delta writes what its message reports, or nothing. -/
lemma Announced.entry_of_applyDelta (h : Announced f stream processed q) {r : RouterEngine}
    {now : Instant} {key ip : String} {expiry : Instant}
    (hentry : (r.applyDelta q.message now).2.quarantineEntry key ip = some expiry) :
    r.quarantineEntry key ip = some expiry ∨ key = normalizeDomain q.domain ∧ ip = q.outIp ∧
      expiry = RouterEngine.quarantineExpiry now q.ttlSecs := by
  unfold RouterEngine.applyDelta at hentry
  cases hparse : parseDeltaMessage q.message with
  | none =>
    rw [hparse] at hentry
    exact .inl hentry
  | some p =>
    obtain ⟨domain, ip', ttl⟩ := p
    rw [hparse] at hentry
    obtain rfl := h.parsed hparse
    exact RouterEngine.entry_of_setQuarantine hentry

variable [DecidableEq ι]

lemma Caused.later {key ip : String} {expiry : Instant} (h : Caused f stream es i key ip expiry)
    (e : BreakerStep ι) : Caused f stream (es ++ [e]) i key ip expiry := by
  obtain ⟨earlier, e', later, rfl, hcause⟩ := h
  exact ⟨earlier, e', later ++ [e], by simp, hcause⟩

/-- The last step has isolated an address, and its entry is in the table. -/
lemma caused_of_isolates {s : BreakerSystem ι} {e : BreakerStep ι} {now : Instant}
    {key ip : String} {expiry : Instant} (hs : run (BreakerSystem.step f stream) .init es = s)
    (hisolates : Isolates f stream s i q now e)
    (hentry : ((s.step f stream e).instances i).router.quarantineEntry key ip = some expiry)
    (hwritten : key = normalizeDomain q.domain ∧ ip = q.outIp ∧
      expiry = RouterEngine.quarantineExpiry now q.ttlSecs) :
    Caused f stream (es ++ [e]) i key ip expiry := by
  subst hs
  exact ⟨es, e, [], rfl, q, now, hisolates, hentry, hwritten⟩

namespace SoundInstance

lemma mono {processed' : List Nat} (h : SoundInstance f stream es processed i b)
    (hsub : processed ⊆ processed') : SoundInstance f stream es processed' i b := by
  refine ⟨fun q hq => (h.inHand q hq).mono hsub, fun message hmessage => ?_, h.table⟩
  obtain ⟨q, hq, hm⟩ := h.inbox message hmessage
  exact ⟨q, hq.mono hsub, hm⟩

lemma later (h : SoundInstance f stream es processed i b) (e : BreakerStep ι) :
    SoundInstance f stream (es ++ [e]) processed i b :=
  ⟨h.inHand, h.inbox, fun key ip expiry hentry => (h.table key ip expiry hentry).later e⟩

lemma halted : SoundInstance f stream es processed i .halted :=
  ⟨fun _ hq => absurd hq List.not_mem_nil, fun _ hmessage => absurd hmessage List.not_mem_nil,
    fun _ _ _ hentry => absurd hentry (Option.some_ne_none _).symm⟩

lemma boot (h : SoundInstance f stream es processed i b) (nodes : List ProxyNode) :
    SoundInstance f stream es processed i { b with router := .new nodes, phase := .starting } :=
  ⟨fun _ hq => absurd hq List.not_mem_nil, h.inbox,
    fun _ _ _ hentry => absurd hentry (Option.some_ne_none _).symm⟩

/-- Only the worker or the subscription has moved, and it has nothing new in hand. -/
lemma of_subset (h : SoundInstance f stream es processed i b) (hrouter : b'.router = b.router)
    (hinHand : b'.phase.inHand ⊆ b.phase.inHand) (hinbox : b'.inbox ⊆ b.inbox) :
    SoundInstance f stream es processed i b' :=
  ⟨fun q hq => h.inHand q (hinHand hq), fun message hm => h.inbox message (hinbox hm),
    by rw [hrouter]; exact h.table⟩

lemma receive (h : SoundInstance f stream es processed i b)
    (hq : Announced f stream processed q) :
    SoundInstance f stream es processed i (b.receive q.message) := by
  unfold BreakerInstance.receive
  split
  · refine ⟨h.inHand, fun message hm => ?_, h.table⟩
    rcases List.mem_append.mp hm with hold | hnew
    · exact h.inbox message hold
    · exact ⟨q, hq, List.mem_singleton.mp hnew⟩
  · exact h

end SoundInstance

lemma BreakerInstance.inHand_afterSetEx (b : BreakerInstance) (q : Isolation) (retry : Bool)
    (id : Nat) (todo : List Nat) (ok : Bool) :
    (b.afterSetEx q retry id todo ok).phase.inHand = [q] := by
  unfold afterSetEx
  split
  · rfl
  · split <;> rfl

lemma BreakerInstance.frame_afterSetEx (b : BreakerInstance) (q : Isolation) (retry : Bool)
    (id : Nat) (todo : List Nat) (ok : Bool) :
    (b.afterSetEx q retry id todo ok).router = b.router ∧
      (b.afterSetEx q retry id todo ok).inbox = b.inbox ∧
      (b.afterSetEx q retry id todo ok).subscribed = b.subscribed := by
  unfold afterSetEx
  split
  · exact ⟨rfl, rfl, rfl⟩
  · split <;> exact ⟨rfl, rfl, rfl⟩

lemma BreakerInstance.inHand_afterPublish (b : BreakerInstance) (q : Isolation) (retry : Bool)
    (id : Nat) (todo : List Nat) (ok : Bool) :
    (b.afterPublish q retry id todo ok).phase.inHand ⊆ [q] := by
  unfold afterPublish
  split
  · exact List.nil_subset _
  · split
    · exact List.nil_subset _
    · exact List.Subset.refl _

lemma BreakerInstance.frame_afterPublish (b : BreakerInstance) (q : Isolation) (retry : Bool)
    (id : Nat) (todo : List Nat) (ok : Bool) :
    (b.afterPublish q retry id todo ok).router = b.router ∧
      (b.afterPublish q retry id todo ok).inbox = b.inbox ∧
      (b.afterPublish q retry id todo ok).subscribed = b.subscribed := by
  unfold afterPublish
  split
  · exact ⟨rfl, rfl, rfl⟩
  · split <;> exact ⟨rfl, rfl, rfl⟩

namespace BreakerSystem

variable {s : BreakerSystem ι}

lemma Sound.setInstance (h : s.Sound f stream es)
    (hb : SoundInstance f stream es s.processed i b) : (s.setInstance i b).Sound f stream es := by
  refine ⟨h.sent, fun j => ?_⟩
  by_cases hj : j = i
  · subst hj
    simpa only [BreakerSystem.setInstance, Function.update_self] using hb
  · simpa only [BreakerSystem.setInstance, Function.update_of_ne hj] using h.instances j

/-- One more entry has been handled. -/
lemma Sound.handled (h : s.Sound f stream es) (id : Nat) :
    BreakerSystem.Sound f stream es { s with processed := s.processed ++ [id] } := by
  have hsub : s.processed ⊆ s.processed ++ [id] := List.subset_append_left _ _
  refine ⟨fun message hm => ?_, fun i => (h.instances i).mono hsub⟩
  obtain ⟨q, hq, hmessage⟩ := h.sent message hm
  exact ⟨q, hq.mono hsub, hmessage⟩

lemma Sound.publish (h : s.Sound f stream es) (hq : Announced f stream s.processed q) :
    BreakerSystem.Sound f stream es { s with
      instances := fun j => (s.instances j).receive q.message
      sent := s.sent ++ [q.message] } := by
  refine ⟨fun message hm => ?_, fun i => (h.instances i).receive hq⟩
  rcases List.mem_append.mp hm with hold | hnew
  · exact h.sent message hold
  · exact ⟨q, hq, List.mem_singleton.mp hnew⟩

lemma Sound.later (h : s.Sound f stream es) (e : BreakerStep ι) : s.Sound f stream (es ++ [e]) :=
  ⟨h.sent, fun i => (h.instances i).later e⟩

lemma sound_step (h : s.Sound f stream es) (hs : run (step f stream) .init es = s)
    (e : BreakerStep ι) : (s.step f stream e).Sound f stream (es ++ [e]) := by
  have hmove : Move f stream s e (s.step f stream e) := move_step s e
  generalize hafter : s.step f stream e = s' at hmove
  replace h := h.later e
  cases hmove with
  | idle => exact h
  | append => exact ⟨h.sent, h.instances⟩
  | trim n => exact ⟨h.sent, h.instances⟩
  | boot i nodes hphase => exact h.setInstance ((h.instances i).boot nodes)
  | kill i => exact h.setInstance .halted
  | create i ok hphase =>
    refine Sound.setInstance ⟨h.sent, h.instances⟩ ?_
    exact (h.instances i).of_subset rfl (List.nil_subset _) (List.Subset.refl _)
  | panic i =>
    exact h.setInstance
      ((h.instances i).of_subset rfl (List.nil_subset _) (List.Subset.refl _))
  | read i answered hphase =>
    refine Sound.setInstance ⟨h.sent, h.instances⟩ ?_
    refine (h.instances i).of_subset rfl ?_ (List.Subset.refl _)
    cases answered with
    | false => exact List.nil_subset _
    | true => simp
  | ignored i now id todo hphase htrigger =>
    refine (h.handled id).setInstance ?_
    exact ((h.handled id).instances i).of_subset rfl (List.nil_subset _) (List.Subset.refl _)
  | triggered i now id todo status q hphase htrigger =>
    have hsound := (h.handled id).instances i
    have hq : Announced f stream (s.processed ++ [id]) q := ⟨id, by simp, status, htrigger⟩
    refine (h.handled id).setInstance
      ⟨fun q' hq' => ?_, hsound.inbox, fun key ip expiry hentry => ?_⟩
    · rw [List.mem_singleton.mp hq']
      exact hq
    · rcases RouterEngine.entry_of_applyQuarantine hentry with hold | hwritten
      · exact hsound.table key ip expiry hold
      · refine caused_of_isolates hs (.inl ⟨rfl, id, todo, status, hphase, htrigger⟩) ?_ hwritten
        rw [hafter, instances_setInstance]
        exact hentry
  | setEx i stored answered setExs q retry id todo hphase =>
    obtain ⟨hrouter, hinbox, -⟩ :=
      (s.instances i).frame_afterSetEx q retry id todo (stored && answered)
    refine Sound.setInstance ⟨h.sent, h.instances⟩ ?_
    refine (h.instances i).of_subset hrouter ?_ (by rw [hinbox]; exact List.Subset.refl _)
    rw [BreakerInstance.inHand_afterSetEx, hphase]
    exact List.Subset.refl _
  | published i answered q retry id todo hphase =>
    have hq : Announced f stream s.processed q :=
      (h.instances i).inHand q (by rw [hphase]; exact List.mem_singleton_self q)
    obtain ⟨hrouter, hinbox, -⟩ := (s.instances i).frame_afterPublish q retry id todo answered
    refine Sound.publish (h.setInstance ((h.instances i).of_subset hrouter ?_
      (by rw [hinbox]; exact List.Subset.refl _))) hq
    rw [hphase]
    exact BreakerInstance.inHand_afterPublish _ _ _ _ _ _
  | unpublished i answered q retry id todo hphase =>
    obtain ⟨hrouter, hinbox, -⟩ := (s.instances i).frame_afterPublish q retry id todo false
    refine h.setInstance ((h.instances i).of_subset hrouter ?_
      (by rw [hinbox]; exact List.Subset.refl _))
    rw [hphase]
    exact BreakerInstance.inHand_afterPublish _ _ _ _ _ _
  | xack i ok id todo hphase =>
    refine Sound.setInstance ⟨h.sent, h.instances⟩ ?_
    refine (h.instances i).of_subset rfl ?_ (List.Subset.refl _)
    simp
  | subscribe i =>
    exact h.setInstance
      ((h.instances i).of_subset rfl (List.Subset.refl _) (List.Subset.refl _))
  | unsubscribe i received =>
    exact h.setInstance
      ((h.instances i).of_subset rfl (List.Subset.refl _) (List.take_subset _ _))
  | delta i now message waiting hinbox =>
    obtain ⟨q, hq, rfl⟩ := (h.instances i).inbox message (by rw [hinbox]; exact List.mem_cons_self)
    refine h.setInstance ⟨(h.instances i).inHand, fun m hm => (h.instances i).inbox m ?_,
      fun key ip expiry hentry => ?_⟩
    · rw [hinbox]
      exact List.mem_cons_of_mem _ hm
    · rcases hq.entry_of_applyDelta hentry with hold | hwritten
      · exact (h.instances i).table key ip expiry hold
      · refine caused_of_isolates hs (.inr (.inl ⟨rfl, hq, by rw [hinbox]; rfl⟩)) ?_ hwritten
        rw [hafter, instances_setInstance]
        exact hentry
  | router i op =>
    refine h.setInstance ⟨(h.instances i).inHand, (h.instances i).inbox,
      fun key ip expiry hentry => ?_⟩
    rcases RouterEngine.entry_of_step hentry with hold | ⟨domain, ttlSecs, now, rfl, hwritten⟩
    · exact (h.instances i).table key ip expiry hold
    · refine caused_of_isolates (q := ⟨domain, ip, ttlSecs⟩) hs (.inr (.inr rfl)) ?_
        ⟨hwritten.1, rfl, hwritten.2⟩
      rw [hafter, instances_setInstance]
      exact hentry

lemma sound_init : (init : BreakerSystem ι).Sound f stream [] :=
  ⟨fun _ hm => absurd hm List.not_mem_nil, fun _ => .halted⟩

lemma sound_run (es : List (BreakerStep ι)) : (run (step f stream) init es).Sound f stream es := by
  induction es using List.reverseRecOn with
  | nil => exact sound_init
  | append_singleton es e ih =>
    rw [run_append]
    exact sound_step ih rfl e

end BreakerSystem

end Causes

/-- In every run of any number of instances, each message on the delta channel reports an isolation
that an entry of the stream asked for, and each quarantine of each instance was written at its time
by a step of this instance: for such an isolation, or for an operator. -/
theorem quarantines_have_causes {ι : Type*} [DecidableEq ι] (f : WireFormat)
    (stream : Nat → Fields) (events : List (BreakerStep ι)) :
    let s := run (BreakerSystem.step f stream) .init events
    (∀ message ∈ s.sent, ∃ q, Announced f stream s.processed q ∧ message = q.message) ∧
      ∀ i key ip expiry, (s.instances i).router.quarantineEntry key ip = some expiry →
        Caused f stream events i key ip expiry := by
  intro s
  have hsound : s.Sound f stream events := BreakerSystem.sound_run events
  exact ⟨hsound.sent, fun i => (hsound.instances i).table⟩

end IPProxyPool
