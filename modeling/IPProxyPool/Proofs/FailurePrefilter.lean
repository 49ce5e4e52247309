import IPProxyPool.Proofs.CheckHistory

/-!
# What the failure marks hide

A tick skips the candidates that bear a recent failure mark. Marks are set for addresses in the
registry too, and a check that passes removes none.
-/

namespace IPProxyPool
open AssocTable Transition

namespace FreePoolWorker

/-- The candidates that the intake of the tick takes. -/
def taken (c : FreePoolConfig) (w : FreePoolWorker) (outcomes : List (List RawNode)) :
    List RawNode :=
  capIntake (fetchAll outcomes) (intakeCapLimit c.maxNodes c.intakeFactor) w.registry.elite

end FreePoolWorker

namespace FreePoolLog

variable (c : FreePoolConfig) (s : FreePoolLog)

/-- The latest check of the address. -/
def latestCheck (addr : String) : Option RegistryOp := latest (fun _ => true) s.applied addr

/-- The candidate is skipped for a good reason only: its address is unknown to the registry, and its
latest check failed within the window. -/
structure FairlyScreened (skipClock : Instant) (raw : RawNode) (checked : List RawNode) : Prop where
  skipped : raw ∉ checked → s.worker.registry.entries.lookup raw.addr = none ∧
    ∃ op, s.latestCheck raw.addr = some op ∧ op.fails = true ∧
      skipClock - op.now < c.fetchInterval * 2
  in_pool : s.worker.registry.entries.lookup raw.addr ≠ none → raw ∈ checked
  passed : ∀ op, s.latestCheck raw.addr = some op → op.fails = false → raw ∈ checked

/-- A tick that begins screens all candidates that it takes fairly. -/
def ScreensFairly (e : TickEvent) : Prop :=
  ∀ outcomes skipClock baseline now, e = .begin outcomes skipClock baseline now →
    s.worker.idle → ∀ raw ∈ s.worker.taken c outcomes,
      s.FairlyScreened c skipClock raw (s.step c e).worker.tcp

/-- No candidate that the tick takes has failed within the window, its mark not cleared since, while
its address is in the registry or has passed a check since. -/
def FailedStayOut (e : TickEvent) : Prop :=
  ∀ outcomes skipClock baseline now, e = .begin outcomes skipClock baseline now →
    s.worker.idle → ∀ raw ∈ s.worker.taken c outcomes,
      ∀ op, latest RegistryOp.fails s.applied raw.addr = some op →
        skipClock - op.now < c.fetchInterval * 2 →
          s.worker.registry.failMarks.lookup raw.addr ≠ none →
            s.worker.registry.entries.lookup raw.addr = none ∧ s.latestCheck raw.addr = some op

end FreePoolLog

/-- The latest check that failed is the latest check, or one that passed came after it. -/
lemma latest_of_fails {applied : List RegistryOp} {addr : String} {op : RegistryOp}
    (h : latest RegistryOp.fails applied addr = some op) :
    ∃ op', latest (fun _ => true) applied addr = some op' ∧ (op'.fails = true → op' = op) := by
  induction applied with
  | nil => cases h
  | cons x applied ih =>
    by_cases haddr : addr = x.addr
    · subst haddr
      refine ⟨x, latest_cons_self rfl, fun hx => ?_⟩
      rw [latest_cons_self hx] at h
      exact Option.some.inj h
    · rw [latest_cons_of_ne haddr] at h ⊢
      exact ih h

lemma fails_of_latest {applied : List RegistryOp} {addr : String} {op : RegistryOp}
    (h : latest RegistryOp.fails applied addr = some op) : op.fails = true := by
  have hfound := List.find?_some h
  rw [Bool.and_eq_true] at hfound
  exact hfound.2

namespace FreePoolLog

variable {c : FreePoolConfig} {s : FreePoolLog}

/-- A tick checks the candidates that it takes, without those that bear a recent mark. -/
lemma mem_tcp_begin {outcomes : List (List RawNode)} {skipClock now : Instant} {baseline : Bool}
    (hidle : s.worker.idle) {raw : RawNode} (hraw : raw ∈ s.worker.taken c outcomes) :
    raw ∈ (s.step c (.begin outcomes skipClock baseline now)).worker.tcp ↔
      s.worker.registry.failedRecently raw.addr skipClock (c.fetchInterval * 2) = false := by
  have htcp : (s.step c (.begin outcomes skipClock baseline now)).worker.tcp =
      s.worker.screened c outcomes skipClock := by
    change (s.worker.step c _).tcp = _
    unfold FreePoolWorker.step
    dsimp only
    rw [if_pos ⟨hidle.1, hidle.2⟩]
  rw [htcp]
  unfold FreePoolWorker.screened
  rw [List.mem_filter, Bool.not_eq_true']
  exact and_iff_right hraw

lemma failedRecently_iff (h : s.Recalls) {addr : String} {skipClock : Instant} {window : Nat} :
    s.worker.registry.failedRecently addr skipClock window = true ↔
      ∃ op, latest RegistryOp.fails s.applied addr = some op ∧ skipClock - op.now < window ∧
        s.worker.registry.failMarks.lookup addr ≠ none := by
  unfold Registry.failedRecently
  cases hmark : s.worker.registry.failMarks.lookup addr with
  | none => simp
  | some t =>
    obtain ⟨op, hop, rfl⟩ := h.marks addr t hmark
    simp [hop]

lemma screensFairly_iff (e : TickEvent) (h : s.Recalls) :
    s.ScreensFairly c e ↔ s.FailedStayOut c e := by
  constructor
  · rintro hfair outcomes skipClock baseline now rfl hidle raw hraw op hop hrecent hmark
    have hskip : raw ∉ (s.step c (.begin outcomes skipClock baseline now)).worker.tcp := by
      rw [mem_tcp_begin hidle hraw, Bool.not_eq_false, failedRecently_iff h]
      exact ⟨op, hop, hrecent, hmark⟩
    obtain ⟨hout, op', hop', hfails, -⟩ :=
      (hfair outcomes skipClock baseline now rfl hidle raw hraw).skipped hskip
    obtain ⟨op'', hop'', heq⟩ := latest_of_fails hop
    obtain rfl := Option.some.inj (hop''.symm.trans hop')
    exact ⟨hout, heq hfails ▸ hop'⟩
  · rintro hout outcomes skipClock baseline now rfl hidle raw hraw
    have hskipped : raw ∉ (s.step c (.begin outcomes skipClock baseline now)).worker.tcp →
        s.worker.registry.entries.lookup raw.addr = none ∧
          ∃ op, s.latestCheck raw.addr = some op ∧ op.fails = true ∧
            skipClock - op.now < c.fetchInterval * 2 := by
      intro hskip
      rw [mem_tcp_begin hidle hraw, Bool.not_eq_false, failedRecently_iff h] at hskip
      obtain ⟨op, hop, hrecent, hmark⟩ := hskip
      obtain ⟨hnone, hlatest⟩ :=
        hout outcomes skipClock baseline now rfl hidle raw hraw op hop hrecent hmark
      exact ⟨hnone, op, hlatest, fails_of_latest hop, hrecent⟩
    refine ⟨hskipped, fun hin => ?_, fun op hop hpass => ?_⟩
    · by_contra hskip
      exact hin (hskipped hskip).1
    · by_contra hskip
      obtain ⟨-, op', hop', hfails, -⟩ := hskipped hskip
      obtain rfl := Option.some.inj (hop.symm.trans hop')
      rw [hpass] at hfails
      cases hfails

/-- In every history the ticks screen fairly exactly if none of them takes a candidate that failed
within the window, bears its mark, and is in the registry or has passed a check since. -/
theorem screens_fairly_iff (c : FreePoolConfig) (events : List TickEvent) :
    Along (step c) (ScreensFairly c) (new c) events ↔
      Along (step c) (FailedStayOut c) (new c) events :=
  along_congr (recalls_step (c := c)) (fun _ e h => screensFairly_iff e h) (recalls_new c) events

/-- A tick every five minutes, and a TTL of half an hour. -/
def fiveMinuteTicks : FreePoolConfig where
  ttl := fromSecs 1800
  maxNodes := 2000
  intakeFactor := 2
  fetchInterval := fromSecs 300
  geoEnforce := false

/-- A node is verified, and the next tick finds it down. -/
def downOnce : List TickEvent :=
  [.begin [[listedNode]] 0 true 0, .tcpDone listedNode true,
    .fullPassed listedNode 50 .elite none 0 false 0,
    .begin [[listedNode]] (fromSecs 300) true (fromSecs 300), .tcpDone listedNode false]

/-- The tick after it skips the node, which is in the registry. -/
theorem pool_node_skipped : ¬Along (step fiveMinuteTicks) (ScreensFairly fiveMinuteTicks)
    (new fiveMinuteTicks)
    (downOnce ++ [.begin [[listedNode]] (fromSecs 600) true (fromSecs 600)]) := by
  intro h
  have hlast := ((along_append _ _ _).mp h).2.1
  have hidle : (run (step fiveMinuteTicks) (new fiveMinuteTicks) downOnce).worker.idle := by
    decide +kernel
  have hraw : listedNode ∈ (run (step fiveMinuteTicks) (new fiveMinuteTicks) downOnce).worker.taken
      fiveMinuteTicks [[listedNode]] := by
    decide +kernel
  have hin : (run (step fiveMinuteTicks) (new fiveMinuteTicks)
      downOnce).worker.registry.entries.lookup listedNode.addr ≠ none := by
    rw [Option.ne_none_iff_isSome]
    decide +kernel
  have hchecked := (hlast _ _ _ _ rfl hidle listedNode hraw).in_pool hin
  rw [mem_tcp_begin hidle hraw] at hchecked
  exact absurd hchecked (by decide +kernel)

end FreePoolLog

end IPProxyPool
