import IPProxyPool.Model.Metrics

/-!
# Histograms read while they are filled

A rendered histogram is monotone unless its count is loaded while too many observers stand between
their two increments.
-/

namespace IPProxyPool
open AtomicHistogram Transition

variable {ι κ : Type*} [DecidableEq ι] [DecidableEq κ]

/-! ### Calls that nobody interrupts -/

lemma histograms_countStatus (m : MetricsRegistry) (status : Nat) :
    (m.countStatus status).histograms = m.histograms := by
  unfold MetricsRegistry.countStatus
  split <;> rfl

lemma histograms_step (m : MetricsRegistry) (c : MetricsCall) :
    (m.step c).histograms = c.latency.elim m.histograms (fun p =>
      Function.update m.histograms p.1 ((m.histograms p.1).observe latencyLayout p.2)) := by
  cases c with
  | observe status provider bytes ms =>
    change Function.update (m.countStatus status).histograms .duration
      (((m.countStatus status).histograms .duration).observe latencyLayout ms) = _
    rw [histograms_countStatus]
    rfl
  | observeStage stage ms =>
    change (m.observeStage stage ms).histograms =
      ((stageHistogram stage).map (fun h => (h, ms))).elim _ _
    unfold MetricsRegistry.observeStage
    cases stageHistogram stage <;> rfl
  | markSinkOk backend now => cases backend <;> rfl
  | markSinkFailed backend => cases backend <;> rfl
  | sampleFullLog status =>
    change (m.sampleFullLog status).histograms = _
    unfold MetricsRegistry.sampleFullLog
    split <;> rfl
  | noteBreakerTrigger status =>
    change (m.noteBreakerTrigger status).histograms = _
    unfold MetricsRegistry.noteBreakerTrigger
    split <;> rfl
  | _ => rfl

lemma histogramStep_call {s : State HistogramName ι κ} {i : ι} {c : MetricsCall} :
    histogramStep s (.call i c) = c.latency.elim s (fun p =>
      step latencyLayout renderOrder s (.observe i p.1 p.2)) := by
  change (c.latency.map (fun p => Op.observe i p.1 p.2)).elim s _ = _
  cases c.latency <;> rfl

/-- The atomic operations of a call in a row change the histograms as the call does. -/
theorem cells_call_alone {s : State HistogramName ι κ} {i : ι} (hidle : s.observers i = .idle)
    {m : MetricsRegistry} (hcells : s.cells = m.histograms) (c : MetricsCall) :
    (run histogramStep s (.call i c :: List.replicate 4 (.advance i false))).cells =
      (m.step c).histograms := by
  rw [histograms_step, run_cons, histogramStep_call]
  cases c.latency with
  | none =>
    have hstay : histogramStep s (.advance i false) = s := by
      change advance s i false = s
      simp only [advance, hidle]
    simp only [Option.elim_none, List.replicate, run_cons, hstay, run_nil, hcells]
  | some p =>
    have halone := cells_observe_alone latencyLayout renderOrder s hidle p.1 p.2
    rw [hcells] at halone
    exact halone

lemma run_loads (s : State HistogramName ι κ) (j : κ) (n : Nat) :
    run histogramStep s (List.replicate n (.load j)) =
      run (step latencyLayout renderOrder) s (List.replicate n (.load j)) := by
  induction n generalizing s with
  | zero => rfl
  | succ n ih => exact ih (step latencyLayout renderOrder s (.load j))

/-- So do the loads of a rendering: they give the lines of the cells, which `render` writes. -/
theorem rendered_alone {s : State HistogramName ι κ} {j : κ} {h : HistogramName}
    {todo : List HistogramName} (hj : s.readers j = Reader.start (h :: todo))
    {m : MetricsRegistry} (hcells : s.cells = m.histograms)
    (hlen : (m.histograms h).buckets.length = durationBucketsMs.length) :
    (run histogramStep s (List.replicate 16 (.load j))).rendered =
      s.rendered ++ [(h, (m.histograms h).lines, (m.histograms h).sum)] := by
  rw [← hcells] at hlen ⊢
  rw [run_loads]
  exact rendered_load_alone (n := 14) latencyLayout renderOrder hlen hj rfl rfl

/-! ### Interleavings -/

/-- A thread loads the count of a histogram while more observers stand between their addition to
its bucket and that to its count than there were additions to buckets that the thread had already
loaded. -/
def CountsEarly [Fintype ι] (s : State HistogramName ι κ) : HistogramOp ι κ → Prop
  | .load j => EarlyCount latencyLayout s (.load j : Op HistogramName ι κ)
  | _ => False

omit [DecidableEq ι] [DecidableEq κ] in
lemma not_countsEarly_iff [Fintype ι] (s : State HistogramName ι κ) (op : HistogramOp ι κ) :
    ¬CountsEarly s op ↔ ∀ o ∈ op.atomic, ¬EarlyCount latencyLayout s o := by
  cases op with
  | call i c =>
    refine iff_of_true id (fun o ho => ?_)
    obtain ⟨p, -, rfl⟩ := Option.map_eq_some_iff.mp ho
    exact id
  | advance i spurious => exact iff_of_true id (fun o ho => by cases ho; exact id)
  | render j => exact iff_of_true id (fun o ho => by cases ho; exact id)
  | load j => simp [CountsEarly, HistogramOp.atomic]

/-- For any threads that call and render: the lines of every histogram are monotone in every state
of a run exactly when no step of it counts early. -/
theorem histograms_monotone_iff [Fintype ι] (ops : List (HistogramOp ι κ)) :
    Along histogramStep (fun s op => Good (histogramStep s op))
        (init HistogramName ι κ latencyLayout) ops ↔
      Along histogramStep (fun s op => ¬CountsEarly s op)
        (init HistogramName ι κ latencyLayout) ops := by
  refine (run_good_iff latencyLayout renderOrder HistogramOp.atomic ops).trans ?_
  exact along_congr (J := fun _ => True) (fun _ _ _ => trivial)
    (fun s op _ => (not_countsEarly_iff s op).symm) trivial ops

/-- The observer has raised the bucket of 1 ms and the thread loads everything before it counts. -/
theorem histogram_read_torn : ∃ ops : List (HistogramOp Unit Unit),
    ∃ r ∈ (run histogramStep (init HistogramName Unit Unit latencyLayout) ops).rendered,
      ¬r.2.1.Monotone := by
  refine ⟨[.call () (.observe 200 none 0 1), .advance () false, .render ()] ++
    List.replicate 16 (.load ()), (.duration, ⟨List.replicate 14 1, 0, 0⟩, 0), ?_, ?_⟩
  · have hrendered : (run histogramStep (init HistogramName Unit Unit latencyLayout)
        ([.call () (.observe 200 none 0 1), .advance () false, .render ()] ++
          List.replicate 16 (.load ()))).rendered =
        [(.duration, ⟨List.replicate 14 1, 0, 0⟩, 0)] := by
      decide +kernel
    rw [hrendered]
    exact List.mem_singleton_self _
  · intro hm
    have hlast := hm.le_inf 1 rfl
    exact absurd hlast (by decide)

end IPProxyPool
