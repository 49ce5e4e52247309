import IPProxyPool.Model.MetricsText
import IPProxyPool.Model.NodeValidation
import IPProxyPool.Proofs.ExitLabels

/-!
# Reading the metrics back

The text of `render` against the strings that were recorded. Providers and exit addresses are the
only labels of foreign origin; they are put between quotes as they are, which is right exactly for
strings that need no escapes.
-/

namespace IPProxyPool
open AssocTable Exposition Transition

/-! ### Labels from fixed sets -/

/-- The labels of the family are plain, and none of them names a provider or an exit. -/
def FixedLabels (f : Family) : Prop :=
  ∀ s ∈ f.samples, ∀ p ∈ s.labels,
    Plain p.2 ∧ p.1 ≠ providerLabel ∧ p.1 ≠ exitLabel

lemma plain_toDigits (n : Nat) : Plain (Nat.toDigits 10 n) := by
  have hdigit : ∀ c, c ∈ Nat.toDigits 10 n → c.isDigit = true := fun c => isDigit_of_mem_toDigits
  exact ⟨fun h => absurd (hdigit _ h) (by decide), fun h => absurd (hdigit _ h) (by decide),
    fun h => absurd (hdigit _ h) (by decide)⟩

lemma plain_append {u v : List Char} (hu : Plain u) (hv : Plain v) : Plain (u ++ v) := by
  simp only [Plain, List.mem_append, not_or] at hu hv ⊢
  exact ⟨⟨hu.1, hv.1⟩, ⟨hu.2.1, hv.2.1⟩, hu.2.2, hv.2.2⟩

lemma plain_toString (n : Nat) : Plain (toString n).toList := by
  have hlist : (toString n).toList = Nat.toDigits 10 n := Nat.toList_repr
  rw [hlist]
  exact plain_toDigits n

lemma plain_literal {s : String} (l : List Char) (hs : s = String.ofList l) (h : Plain l) :
    Plain s.toList := by
  rwa [hs, String.toList_ofList]

lemma plain_worker (w : Worker) : Plain w.text.toList := by
  cases w <;> exact plain_literal _ rfl (by decide)

lemma plain_sourceName (s : SourceName) : Plain s.text.toList := by
  cases s <;>
  · rw [SourceName.text, String.toList_append]
    exact plain_append (plain_literal _ rfl (by decide)) (plain_toString _)

lemma plain_verifyResult (r : VerifyResult) : Plain r.text.toList := by
  cases r <;> exact plain_literal _ rfl (by decide)

lemma plain_anonLevel (l : AnonLevel) : Plain l.text.toList := by
  cases l <;> exact plain_literal _ rfl (by decide)

lemma plain_protoStr (p : EgressProto) : Plain (protoStr p).toList := by
  cases p <;> exact plain_literal _ rfl (by decide)

lemma plain_geoLookup (g : GeoLookup) : Plain g.text.toList := by
  cases g <;> exact plain_literal _ rfl (by decide)

lemma plain_statusClass (c : StatusClass) : Plain c.text.toList := by
  cases c <;> exact plain_literal _ rfl (by decide)

lemma mem_sortedRows {κ : Type*} {text : κ → String} {t : Table κ Nat} {r : String × Nat} :
    r ∈ sortedRows text t ↔ ∃ e ∈ t.entries, (text e.1, e.2) = r := by
  unfold sortedRows
  rw [List.mem_insertionSort, List.mem_map]

lemma plain_sortedRows {κ : Type*} {text : κ → String} (h : ∀ k, Plain (text k).toList)
    (t : Table κ Nat) : ∀ r ∈ sortedRows text t, Plain r.1.toList := by
  intro r hr
  obtain ⟨e, -, rfl⟩ := mem_sortedRows.mp hr
  exact h e.1

lemma plain_sinkRows (m : MetricsRegistry) (value : SinkHealth → Option Nat) :
    ∀ r ∈ m.sinkRows value, Plain r.1.toList := by
  have hclickhouse : Plain "clickhouse".toList := plain_literal _ rfl (by decide)
  have hredis : Plain "redis".toList := plain_literal _ rfl (by decide)
  intro r hr
  rcases List.mem_append.mp hr with hr | hr
  · obtain ⟨v, -, rfl⟩ := Option.map_eq_some_iff.mp (Option.mem_toList.mp hr)
    exact hclickhouse
  · obtain ⟨v, -, rfl⟩ := Option.map_eq_some_iff.mp (Option.mem_toList.mp hr)
    exact hredis

lemma label_ne_foreign {name : String} {h : isName isLabelStart isLabelChar name.toList = true}
    (hprovider : name ≠ "provider") (hexit : name ≠ "exit_ip") :
    label name h ≠ providerLabel ∧ label name h ≠ exitLabel :=
  ⟨label_ne hprovider, label_ne hexit⟩

lemma fixed_single (h : Header) (value : Nat) : FixedLabels (single h value) := by
  intro s hs p hp
  rw [List.mem_singleton.mp hs] at hp
  cases hp

lemma fixed_vector (h : Header) {key : LabelName} {rows : List (String × Nat)}
    (hkey : key ≠ providerLabel ∧ key ≠ exitLabel)
    (hrows : ∀ r ∈ rows, Plain r.1.toList) : FixedLabels (vector h key rows) := by
  intro s hs p hp
  obtain ⟨r, hr, rfl⟩ := List.mem_map.mp hs
  rw [List.mem_singleton.mp hp]
  exact ⟨hrows r hr, hkey⟩

lemma fixed_histogram (h : Header) (bucket count sum : MetricName)
    {fixed : List (LabelName × List Char)} (c : AtomicHistogram.Cells)
    (hfixed : ∀ p ∈ fixed, Plain p.2 ∧ p.1 ≠ providerLabel ∧ p.1 ≠ exitLabel) :
    FixedLabels ⟨h, histogramSamples bucket count sum fixed c⟩ := by
  have hle : label "le" ≠ providerLabel ∧ label "le" ≠ exitLabel :=
    label_ne_foreign (by decide) (by decide)
  have hinf : Plain "+Inf".toList := plain_literal _ rfl (by decide)
  intro s hs p hp
  rcases List.mem_append.mp hs with hs | hs
  · obtain ⟨b, -, rfl⟩ := List.mem_map.mp hs
    rcases List.mem_append.mp hp with hp | hp
    · exact hfixed p hp
    · rw [List.mem_singleton.mp hp]
      exact ⟨plain_toDigits b.1, hle⟩
  · simp only [List.mem_cons, List.not_mem_nil, or_false] at hs
    rcases hs with rfl | rfl | rfl
    · rcases List.mem_append.mp hp with hp | hp
      · exact hfixed p hp
      · rw [List.mem_singleton.mp hp]
        exact ⟨hinf, hle⟩
    · exact hfixed p hp
    · exact hfixed p hp

lemma fixed_stage {stage : String} (hstage : Plain stage.toList) (c : AtomicHistogram.Cells) :
    FixedLabels (stageFamily stage c) := by
  have hkey : label "stage" ≠ providerLabel ∧ label "stage" ≠ exitLabel :=
    label_ne_foreign (by decide) (by decide)
  refine fixed_histogram _ _ _ _ c (fun p hp => ?_)
  rw [List.mem_singleton.mp hp]
  exact ⟨hstage, hkey⟩

lemma fixed_requestFamilies (m : MetricsRegistry) : ∀ f ∈ m.requestFamilies, FixedLabels f := by
  unfold MetricsRegistry.requestFamilies
  simp only [List.forall_mem_cons]
  refine ⟨fixed_single _ _, fixed_single _ _, fixed_single _ _, fixed_single _ _,
    fixed_single _ _, ?_, ?_, ?_, ?_, fun f hf => absurd hf List.not_mem_nil⟩
  · exact fixed_histogram _ _ _ _ _ (fun p hp => absurd hp List.not_mem_nil)
  · exact fixed_stage (plain_literal _ rfl (by decide)) _
  · exact fixed_stage (plain_literal _ rfl (by decide)) _
  · exact fixed_stage (plain_literal _ rfl (by decide)) _

lemma fixed_workerFamilies (m : MetricsRegistry) : ∀ f ∈ m.workerFamilies, FixedLabels f := by
  have hbackend : label "backend" ≠ providerLabel ∧ label "backend" ≠ exitLabel :=
    label_ne_foreign (by decide) (by decide)
  unfold MetricsRegistry.workerFamilies
  simp only [List.forall_mem_cons]
  refine ⟨?_, fixed_single _ _, fixed_single _ _, fixed_single _ _, fixed_single _ _, ?_, ?_, ?_,
    ?_, fixed_single _ _, fun f hf => absurd hf List.not_mem_nil⟩
  · exact fixed_vector _ (label_ne_foreign (by decide) (by decide)) (plain_sortedRows plain_toString _)
  · exact fixed_vector _ hbackend (plain_sinkRows m _)
  · exact fixed_vector _ hbackend (plain_sinkRows m _)
  · exact fixed_vector _ hbackend (plain_sinkRows m _)
  · exact fixed_vector _ (label_ne_foreign (by decide) (by decide)) (plain_sortedRows plain_worker _)

lemma fixed_freePoolFamilies (m : MetricsRegistry) : ∀ f ∈ m.freePoolFamilies, FixedLabels f := by
  have hkey : label "source" ≠ providerLabel ∧ label "source" ≠ exitLabel :=
    label_ne_foreign (by decide) (by decide)
  have hsource : ∀ h t, FixedLabels (vector h (label "source") (sortedRows SourceName.text t)) :=
    fun h t => fixed_vector h hkey (plain_sortedRows plain_sourceName t)
  unfold MetricsRegistry.freePoolFamilies
  simp only [List.forall_mem_append, List.forall_mem_cons]
  refine ⟨⟨⟨fixed_single _ _, hsource _ _, fun f hf => absurd hf List.not_mem_nil⟩, ?_⟩, ?_, ?_,
    hsource _ _, ?_, ?_, fixed_single _ _, fixed_single _ _, fixed_single _ _, fixed_single _ _,
    hsource _ _, hsource _ _, ?_, fun f hf => absurd hf List.not_mem_nil⟩
  · intro f hf
    split at hf
    · exact absurd hf List.not_mem_nil
    · rw [List.mem_singleton.mp hf]
      exact hsource _ _
  · exact fixed_vector _ (label_ne_foreign (by decide) (by decide)) (plain_sortedRows plain_verifyResult _)
  · exact fixed_vector _ (label_ne_foreign (by decide) (by decide)) (plain_sortedRows plain_anonLevel _)
  · exact fixed_vector _ (label_ne_foreign (by decide) (by decide)) (plain_sortedRows plain_protoStr _)
  · exact fixed_vector _ (label_ne_foreign (by decide) (by decide)) (plain_sortedRows plain_geoLookup _)
  · exact fixed_histogram _ _ _ _ _ (fun p hp => absurd hp List.not_mem_nil)

lemma fixed_fixedFamilies (m : MetricsRegistry) : ∀ f ∈ m.fixedFamilies, FixedLabels f := by
  unfold MetricsRegistry.fixedFamilies
  simp only [List.forall_mem_append]
  exact ⟨⟨fixed_requestFamilies m, fixed_workerFamilies m⟩, fixed_freePoolFamilies m⟩

/-! ### What is recorded -/

def recordedRequest : MetricsCall → Option (StatusClass × String)
  | .observe status provider _ _ => some (statusClass status, provider.getD "none")
  | _ => none

def recordedForbidden : MetricsCall → Option String
  | .observe status provider _ _ => if status = 403 then provider else none
  | _ => none

def recordedExit : MetricsCall → Option String
  | .noteFreeExit exitIp => some exitIp
  | _ => none

/-- The registry after the calls. -/
def metricsAfter (calls : List MetricsCall) : MetricsRegistry := run MetricsRegistry.step {} calls

/-- The three tables with foreign labels after a call. -/
lemma tables_step (m : MetricsRegistry) (c : MetricsCall) :
    (m.step c).reqByProvider =
        (recordedRequest c).elim m.reqByProvider (fun k => addTo m.reqByProvider k 1) ∧
      (m.step c).forbiddenByProvider =
        (recordedForbidden c).elim m.forbiddenByProvider
          (fun k => addTo m.forbiddenByProvider k 1) ∧
      (m.step c).freeExitTotal =
        (recordedExit c).elim m.freeExitTotal (noteExit m.freeExitTotal) := by
  cases c with
  | observe status provider bytes ms =>
    have hstatus : (m.countStatus status).reqByProvider = m.reqByProvider ∧
        (m.countStatus status).forbiddenByProvider = m.forbiddenByProvider ∧
        (m.countStatus status).freeExitTotal = m.freeExitTotal := by
      unfold MetricsRegistry.countStatus
      split <;> exact ⟨rfl, rfl, rfl⟩
    refine ⟨?_, ?_, hstatus.2.2⟩
    · change addTo (m.countStatus status).reqByProvider _ 1 = _
      rw [hstatus.1]
      rfl
    · change ((m.countStatus status).countProvider status provider).forbiddenByProvider = _
      unfold MetricsRegistry.countProvider recordedForbidden
      rw [hstatus.2.1]
      cases provider with
      | none => simp
      | some p =>
        by_cases h : status = 403
        · simp [h]
        · simp [h]
  | observeStage stage ms =>
    simp only [MetricsRegistry.step, MetricsRegistry.observeStage]
    cases stageHistogram stage <;> exact ⟨rfl, rfl, rfl⟩
  | markSinkOk backend now => cases backend <;> exact ⟨rfl, rfl, rfl⟩
  | markSinkFailed backend => cases backend <;> exact ⟨rfl, rfl, rfl⟩
  | sampleFullLog status =>
    simp only [MetricsRegistry.step, MetricsRegistry.sampleFullLog]
    split <;> exact ⟨rfl, rfl, rfl⟩
  | noteBreakerTrigger status =>
    simp only [MetricsRegistry.step, MetricsRegistry.noteBreakerTrigger]
    split <;> exact ⟨rfl, rfl, rfl⟩
  | _ => exact ⟨rfl, rfl, rfl⟩

/-- A table that every recorded key is added to holds the recorded keys. -/
lemma mem_run_iff {κ : Type*} [DecidableEq κ] {table : MetricsRegistry → Table κ Nat}
    {recorded : MetricsCall → Option κ}
    (hstep : ∀ m c, table (m.step c) =
      (recorded c).elim (table m) (fun k => addTo (table m) k 1))
    (m : MetricsRegistry) (calls : List MetricsCall) (k : κ) :
    k ∈ table (run MetricsRegistry.step m calls) ↔
      k ∈ table m ∨ k ∈ calls.filterMap recorded := by
  induction calls generalizing m with
  | nil => simp
  | cons c calls ih =>
    rw [run_cons, ih, hstep]
    cases h : recorded c with
    | none => simp [h]
    | some key =>
      rw [List.filterMap_cons_some h, List.mem_cons, Option.elim_some, mem_addTo]
      tauto

lemma mem_reqByProvider (calls : List MetricsCall) (k : StatusClass × String) :
    k ∈ (metricsAfter calls).reqByProvider ↔ k ∈ calls.filterMap recordedRequest := by
  have h := mem_run_iff (fun m c => (tables_step m c).1) {} calls k
  exact h.trans (or_iff_right (AList.notMem_empty k))

lemma mem_forbiddenByProvider (calls : List MetricsCall) (k : String) :
    k ∈ (metricsAfter calls).forbiddenByProvider ↔ k ∈ calls.filterMap recordedForbidden := by
  have h := mem_run_iff (fun m c => (tables_step m c).2.1) {} calls k
  exact h.trans (or_iff_right (AList.notMem_empty k))

lemma freeExitTotal_run (m : MetricsRegistry) (calls : List MetricsCall) :
    (run MetricsRegistry.step m calls).freeExitTotal =
      (calls.filterMap recordedExit).foldl noteExit m.freeExitTotal := by
  induction calls generalizing m with
  | nil => rfl
  | cons c calls ih =>
    rw [run_cons, ih, (tables_step m c).2.2]
    cases h : recordedExit c with
    | none => rw [List.filterMap_cons_none h, Option.elim_none]
    | some e => rw [List.filterMap_cons_some h, Option.elim_some, List.foldl_cons]

lemma freeExitTotal_eq (calls : List MetricsCall) :
    (metricsAfter calls).freeExitTotal = exitTable (calls.filterMap recordedExit) := by
  rw [exitTable_eq]
  exact freeExitTotal_run {} calls

/-! ### Series -/

abbrev LabelSet := List (List Char × List Char)

/-- The label sets of the samples of a metric that have the label `key`. -/
def seriesOf (name : MetricName) (key : LabelName) (l : List Reading) : List LabelSet :=
  (l.filter (fun r => r.name = name.val ∧ key.val ∈ r.labels.map Prod.fst)).map Reading.labels

def sampleLabels (s : Sample) : LabelSet := labelPairs s.labels

lemma seriesOf_append (name : MetricName) (key : LabelName) (l l' : List Reading) :
    seriesOf name key (l ++ l') = seriesOf name key l ++ seriesOf name key l' := by
  simp [seriesOf]

lemma mem_keys_iff (key : LabelName) (s : Sample) :
    key.val ∈ s.reading.labels.map Prod.fst ↔ ∃ p ∈ s.labels, p.1 = key := by
  simp only [Sample.reading, labelPairs, List.map_map, List.mem_map, Function.comp_apply]
  exact exists_congr (fun p => and_congr_right (fun _ => Subtype.ext_iff.symm))

lemma seriesOf_eq_nil {name : MetricName} {key : LabelName} {l : List Sample}
    (h : ∀ s ∈ l, s.name ≠ name ∨ ∀ p ∈ s.labels, p.1 ≠ key) :
    seriesOf name key (l.map Sample.reading) = [] := by
  unfold seriesOf
  rw [List.map_eq_nil_iff, List.filter_eq_nil_iff]
  intro r hr
  obtain ⟨s, hs, rfl⟩ := List.mem_map.mp hr
  rw [decide_eq_true_eq, mem_keys_iff]
  rintro ⟨hname, p, hp, hkey⟩
  rcases h s hs with h | h
  · exact h (Subtype.ext hname)
  · exact h p hp hkey

lemma seriesOf_eq_map {name : MetricName} {key : LabelName} {l : List Sample}
    (h : ∀ s ∈ l, s.name = name ∧ ∃ p ∈ s.labels, p.1 = key) :
    seriesOf name key (l.map Sample.reading) = l.map sampleLabels := by
  unfold seriesOf
  rw [List.filter_eq_self.mpr, List.map_map]
  · rfl
  · intro r hr
    obtain ⟨s, hs, rfl⟩ := List.mem_map.mp hr
    obtain ⟨hname, hkey⟩ := h s hs
    rw [decide_eq_true_eq, mem_keys_iff]
    exact ⟨congrArg Subtype.val hname, hkey⟩

def requestLabels (k : StatusClass × String) : LabelSet :=
  [("status".toList, k.1.text.toList), ("provider".toList, k.2.toList)]

def providerLabels (p : String) : LabelSet := [("provider".toList, p.toList)]

def exitLabels (e : String) : LabelSet := [("exit_ip".toList, e.toList)]

lemma samples_families (m : MetricsRegistry) :
    samples m.families = m.requestsFamily.samples ++ m.forbiddenFamily.samples ++
      samples m.fixedFamilies ++ m.exitSamples := by
  simp [MetricsRegistry.families, samples, MetricsRegistry.exitFamily]

lemma mem_providerSamples {m : MetricsRegistry} {s : Sample} (h : s ∈ m.providerSamples) :
    ∃ k ∈ m.reqByProvider, s.name = requestsTotal ∧
      s.labels = [(statusLabel, k.1.text.toList), (providerLabel, k.2.toList)] := by
  obtain ⟨r, hr, rfl⟩ := List.mem_map.mp h
  rw [List.mem_insertionSort] at hr
  obtain ⟨e, he, rfl⟩ := List.mem_map.mp hr
  exact ⟨e.1, AList.mem_keys.mpr (List.mem_map_of_mem he), rfl, rfl⟩

lemma mem_forbiddenSamples {m : MetricsRegistry} {s : Sample}
    (h : s ∈ m.forbiddenFamily.samples) :
    ∃ p ∈ m.forbiddenByProvider, s.name = forbiddenTotal ∧
      s.labels = [(providerLabel, p.toList)] := by
  obtain ⟨r, hr, rfl⟩ := List.mem_map.mp h
  obtain ⟨e, he, rfl⟩ := mem_sortedRows.mp hr
  exact ⟨e.1, AList.mem_keys.mpr (List.mem_map_of_mem he), rfl, rfl⟩

/-- In either case the overflow comes last, and nowhere else. -/
lemma exitSamples_eq (m : MetricsRegistry) : ∃ v, m.exitSamples =
    labelled exitTotal exitLabel
      ((sortedRows id m.freeExitTotal).filter (fun r => r.1 ≠ exitOverflowLabel) ++
        [(exitOverflowLabel, v)]) := by
  unfold MetricsRegistry.exitSamples
  cases h : m.freeExitTotal.lookup exitOverflowLabel with
  | some v => exact ⟨v, (List.map_append ..).symm⟩
  | none =>
    refine ⟨0, ?_⟩
    have hall : (sortedRows id m.freeExitTotal).filter (fun r => r.1 ≠ exitOverflowLabel) =
        sortedRows id m.freeExitTotal := by
      rw [List.filter_eq_self]
      intro r hr
      obtain ⟨e, he, rfl⟩ := mem_sortedRows.mp hr
      rw [decide_eq_true_eq]
      rintro heq
      have hlookup := (mem_entries_iff m.freeExitTotal e.1 e.2).mp he
      rw [show e.1 = exitOverflowLabel from heq, h] at hlookup
      cases hlookup
    rw [hall]
    exact (List.map_append ..).symm

lemma mem_exitSamples {m : MetricsRegistry} {s : Sample} (h : s ∈ m.exitSamples) :
    ∃ e, (e ∈ m.freeExitTotal ∨ e = exitOverflowLabel) ∧ s.name = exitTotal ∧
      s.labels = [(exitLabel, e.toList)] := by
  obtain ⟨v, hv⟩ := exitSamples_eq m
  rw [hv] at h
  obtain ⟨r, hr, rfl⟩ := List.mem_map.mp h
  rcases List.mem_append.mp hr with hr | hr
  · obtain ⟨e, he, rfl⟩ := mem_sortedRows.mp (List.mem_filter.mp hr).1
    exact ⟨e.1, .inl (AList.mem_keys.mpr (List.mem_map_of_mem he)), rfl, rfl⟩
  · rw [List.mem_singleton.mp hr]
    exact ⟨exitOverflowLabel, .inr rfl, rfl, rfl⟩

lemma perm_providerSamples (m : MetricsRegistry) :
    (m.providerSamples.map sampleLabels).Perm (m.reqByProvider.keys.map requestLabels) := by
  unfold MetricsRegistry.providerSamples
  rw [List.map_map]
  refine ((List.perm_insertionSort _ _).map _).trans (List.Perm.of_eq ?_)
  rw [List.map_map, AList.keys, List.keys, List.map_map]
  rfl

lemma perm_sortedRows (t : Table String Nat) :
    ((sortedRows id t).map Prod.fst).Perm t.keys := by
  refine ((List.perm_insertionSort _ _).map _).trans (List.Perm.of_eq ?_)
  rw [List.map_map]
  rfl

lemma sampleLabels_labelled (name : MetricName) (key : LabelName) (rows : List (String × Nat)) :
    (labelled name key rows).map sampleLabels =
      (rows.map Prod.fst).map (fun k => [(key.val, k.toList)]) := by
  rw [labelled, List.map_map, List.map_map]
  rfl

lemma perm_forbiddenSamples (m : MetricsRegistry) :
    (m.forbiddenFamily.samples.map sampleLabels).Perm
      (m.forbiddenByProvider.keys.map providerLabels) := by
  change ((labelled _ providerLabel _).map sampleLabels).Perm _
  rw [sampleLabels_labelled]
  exact (perm_sortedRows _).map _

/-- The keys of the series that are written for the exits. -/
def exitKeys (t : Table String Nat) : List String := exitSeries t ++ [exitOverflowLabel]

lemma perm_exitSamples (m : MetricsRegistry) :
    (m.exitSamples.map sampleLabels).Perm ((exitKeys m.freeExitTotal).map exitLabels) := by
  obtain ⟨v, hv⟩ := exitSamples_eq m
  have hfilter : ((sortedRows id m.freeExitTotal).filter
      (fun r => r.1 ≠ exitOverflowLabel)).map Prod.fst =
        ((sortedRows id m.freeExitTotal).map Prod.fst).filter
          (fun k => k ≠ exitOverflowLabel) := by
    rw [List.filter_map]
    rfl
  rw [hv, sampleLabels_labelled, List.map_append, hfilter]
  exact (((perm_sortedRows _).filter _).append_right _).map _

lemma plain_sampleLabels_iff (l : List Sample) :
    (∀ s ∈ l, ∀ p ∈ s.labels, Plain p.2) ↔
      ∀ labels ∈ l.map sampleLabels, ∀ q ∈ labels, Plain q.2 := by
  simp only [List.forall_mem_map, sampleLabels, labelPairs]

/-- The tables with foreign labels hold plain strings only. -/
structure PlainTables (m : MetricsRegistry) : Prop where
  requests : ∀ k ∈ m.reqByProvider, Plain k.2.toList
  forbidden : ∀ p ∈ m.forbiddenByProvider, Plain p.toList
  exits : ∀ e ∈ m.freeExitTotal, Plain e.toList

lemma plain_requests_iff (m : MetricsRegistry) :
    (∀ s ∈ m.requestsFamily.samples, ∀ p ∈ s.labels, Plain p.2) ↔
      ∀ k ∈ m.reqByProvider, Plain k.2.toList := by
  have hfixed : ∀ c v, ∀ p ∈ (MetricsRegistry.statusSample c v).labels, Plain p.2 := by
    intro c v p hp
    rw [List.mem_singleton.mp hp]
    exact plain_statusClass c
  have hproviders : (∀ s ∈ m.providerSamples, ∀ p ∈ s.labels, Plain p.2) ↔
      ∀ k ∈ m.reqByProvider, Plain k.2.toList := by
    rw [plain_sampleLabels_iff]
    simp only [(perm_providerSamples m).mem_iff, List.forall_mem_map, requestLabels,
      List.forall_mem_cons, plain_statusClass, true_and, AList.mem_keys]
    simp
  rw [← hproviders]
  change (∀ s ∈ [_, _, _, _] ++ m.providerSamples, _) ↔ _
  simp only [List.forall_mem_append, List.forall_mem_cons]
  refine and_iff_right ⟨hfixed _ _, hfixed _ _, hfixed _ _, hfixed _ _, ?_⟩
  exact fun s hs => absurd hs List.not_mem_nil

lemma plain_forbidden_iff (m : MetricsRegistry) :
    (∀ s ∈ m.forbiddenFamily.samples, ∀ p ∈ s.labels, Plain p.2) ↔
      ∀ p ∈ m.forbiddenByProvider, Plain p.toList := by
  rw [plain_sampleLabels_iff]
  simp only [(perm_forbiddenSamples m).mem_iff, List.forall_mem_map, providerLabels,
    List.forall_mem_cons, AList.mem_keys]
  simp

lemma plain_exits_iff (m : MetricsRegistry) :
    (∀ s ∈ m.exitSamples, ∀ p ∈ s.labels, Plain p.2) ↔
      ∀ e ∈ m.freeExitTotal, Plain e.toList := by
  have hoverflow : Plain exitOverflowLabel.toList := plain_literal _ rfl (by decide)
  rw [plain_sampleLabels_iff]
  simp only [(perm_exitSamples m).mem_iff, List.forall_mem_map, exitLabels,
    List.forall_mem_cons, exitKeys, List.forall_mem_append, exitSeries, List.mem_filter]
  constructor
  · intro h e he
    by_cases heq : e = exitOverflowLabel
    · rw [heq]
      exact hoverflow
    · exact (h.1 e ⟨AList.mem_keys.mp he, by simpa using heq⟩).1
  · intro h
    refine ⟨fun e he => ⟨h e (AList.mem_keys.mpr he.1), ?_⟩, ⟨hoverflow, ?_⟩, ?_⟩
    all_goals exact fun q hq => absurd hq List.not_mem_nil

/-- The text is faithful exactly when these tables are plain. -/
lemma faithful_families_iff (m : MetricsRegistry) : Faithful m.families ↔ PlainTables m := by
  have hfixed : ∀ s ∈ samples m.fixedFamilies, ∀ p ∈ s.labels, Plain p.2 := by
    intro s hs p hp
    obtain ⟨f, hf, hs⟩ := List.mem_flatMap.mp hs
    exact (fixed_fixedFamilies m f hf s hs p hp).1
  rw [faithful_iff, samples_families]
  simp only [List.forall_mem_append]
  rw [plain_requests_iff, plain_forbidden_iff, plain_exits_iff]
  exact ⟨fun h => ⟨h.1.1.1, h.1.1.2, h.2⟩, fun h => ⟨⟨⟨h.1, h.2⟩, hfixed⟩, h.3⟩⟩

/-! ### The text -/

/-- The readings of the text after the calls. -/
def readBack (calls : List MetricsCall) : List Reading := readings (metricsAfter calls).render

/-- Every line can be read, the samples are those of the registry, and the providers and exits are
those recorded, with one series for each. -/
structure Exposes (calls : List MetricsCall) : Prop where
  parses : ∀ l ∈ lines (metricsAfter calls).render, (parseLine l).isSome
  exact : readBack calls = (samples (metricsAfter calls).families).map Sample.reading
  requests : (seriesOf requestsTotal providerLabel (readBack calls)).Perm
    ((calls.filterMap recordedRequest).dedup.map requestLabels)
  forbidden : (seriesOf forbiddenTotal providerLabel (readBack calls)).Perm
    ((calls.filterMap recordedForbidden).dedup.map providerLabels)
  exits : (seriesOf exitTotal exitLabel (readBack calls)).Perm
    ((exitKeys (exitTable (calls.filterMap recordedExit))).dedup.map exitLabels)

/-- Keys of a table against the strings recorded in it. -/
lemma perm_dedup {κ : Type*} [DecidableEq κ] {t : Table κ Nat} {recorded : List κ}
    (h : ∀ k, k ∈ t ↔ k ∈ recorded) : t.keys.Perm recorded.dedup := by
  refine (List.perm_ext_iff_of_nodup t.keys_nodup (List.nodup_dedup recorded)).mpr (fun k => ?_)
  rw [List.mem_dedup, ← h k, AList.mem_keys]

/-- The series of the text, once its samples are those of the registry. -/
lemma seriesOf_families (m : MetricsRegistry) (name : MetricName) {key : LabelName}
    (hkey : key = providerLabel ∨ key = exitLabel) :
    seriesOf name key ((samples m.families).map Sample.reading) =
      seriesOf name key (m.requestsFamily.samples.map Sample.reading) ++
        seriesOf name key (m.forbiddenFamily.samples.map Sample.reading) ++
        seriesOf name key (m.exitSamples.map Sample.reading) := by
  have hfixed : seriesOf name key ((samples m.fixedFamilies).map Sample.reading) = [] := by
    refine seriesOf_eq_nil (fun s hs => .inr (fun p hp => ?_))
    obtain ⟨f, hf, hs⟩ := List.mem_flatMap.mp hs
    obtain ⟨-, hprovider, hexit⟩ := fixed_fixedFamilies m f hf s hs p hp
    rcases hkey with rfl | rfl
    · exact hprovider
    · exact hexit
  rw [samples_families]
  simp only [List.map_append, seriesOf_append, hfixed, List.append_nil]

lemma mem_requestsSamples {m : MetricsRegistry} {s : Sample} (h : s ∈ m.requestsFamily.samples) :
    (∃ c v, s = MetricsRegistry.statusSample c v) ∨ s ∈ m.providerSamples := by
  rcases List.mem_append.mp h with h | h
  · simp only [List.mem_cons, List.not_mem_nil, or_false] at h
    rcases h with rfl | rfl | rfl | rfl <;> exact .inl ⟨_, _, rfl⟩
  · exact .inr h

lemma seriesOf_requests (m : MetricsRegistry) :
    seriesOf requestsTotal providerLabel (m.requestsFamily.samples.map Sample.reading) =
      m.providerSamples.map sampleLabels := by
  have hstatus : statusLabel ≠ providerLabel := label_ne (by decide)
  change seriesOf _ _ (([_, _, _, _] ++ m.providerSamples).map Sample.reading) = _
  rw [List.map_append, seriesOf_append, seriesOf_eq_map (l := m.providerSamples), seriesOf_eq_nil]
  · rfl
  · intro s hs
    simp only [List.mem_cons, List.not_mem_nil, or_false] at hs
    refine .inr (fun p hp => ?_)
    rcases hs with rfl | rfl | rfl | rfl <;>
    · rw [List.mem_singleton.mp hp]
      exact hstatus
  · intro s hs
    obtain ⟨k, -, hname, hlabels⟩ := mem_providerSamples hs
    refine ⟨hname, (providerLabel, k.2.toList), ?_, rfl⟩
    rw [hlabels]
    simp

lemma requestsTotal_name {m : MetricsRegistry} {s : Sample} (h : s ∈ m.requestsFamily.samples) :
    s.name = requestsTotal := by
  rcases mem_requestsSamples h with ⟨c, v, rfl⟩ | h
  · rfl
  · obtain ⟨k, -, hname, -⟩ := mem_providerSamples h
    exact hname

lemma seriesOf_forbidden (m : MetricsRegistry) :
    seriesOf forbiddenTotal providerLabel (m.forbiddenFamily.samples.map Sample.reading) =
      m.forbiddenFamily.samples.map sampleLabels := by
  refine seriesOf_eq_map (fun s hs => ?_)
  obtain ⟨p, -, hname, hlabels⟩ := mem_forbiddenSamples hs
  refine ⟨hname, (providerLabel, p.toList), ?_, rfl⟩
  rw [hlabels]
  exact List.mem_singleton_self _

lemma seriesOf_exits (m : MetricsRegistry) :
    seriesOf exitTotal exitLabel (m.exitSamples.map Sample.reading) =
      m.exitSamples.map sampleLabels := by
  refine seriesOf_eq_map (fun s hs => ?_)
  obtain ⟨e, -, hname, hlabels⟩ := mem_exitSamples hs
  refine ⟨hname, (exitLabel, e.toList), ?_, rfl⟩
  rw [hlabels]
  exact List.mem_singleton_self _

/-- The series of the three metrics are those of their tables. -/
lemma seriesOf_tables (m : MetricsRegistry) :
    seriesOf requestsTotal providerLabel ((samples m.families).map Sample.reading) =
        m.providerSamples.map sampleLabels ∧
      seriesOf forbiddenTotal providerLabel ((samples m.families).map Sample.reading) =
        m.forbiddenFamily.samples.map sampleLabels ∧
      seriesOf exitTotal exitLabel ((samples m.families).map Sample.reading) =
        m.exitSamples.map sampleLabels := by
  have hforbidden : requestsTotal ≠ forbiddenTotal := metric_ne (by decide)
  have hexit : requestsTotal ≠ exitTotal := metric_ne (by decide)
  have hforbiddenExit : forbiddenTotal ≠ exitTotal := metric_ne (by decide)
  have hnil : ∀ (l : List Sample) (name other : MetricName) (key : LabelName),
      (∀ s ∈ l, s.name = other) → other ≠ name →
        seriesOf name key (l.map Sample.reading) = [] := by
    intro l name other key hname hne
    exact seriesOf_eq_nil (fun s hs => .inl (fun h => hne ((hname s hs).symm.trans h)))
  have hrequests : ∀ s ∈ m.requestsFamily.samples, s.name = requestsTotal :=
    fun s hs => requestsTotal_name hs
  have hforbiddens : ∀ s ∈ m.forbiddenFamily.samples, s.name = forbiddenTotal := fun s hs => by
    obtain ⟨p, -, hname, -⟩ := mem_forbiddenSamples hs
    exact hname
  have hexits : ∀ s ∈ m.exitSamples, s.name = exitTotal := fun s hs => by
    obtain ⟨e, -, hname, -⟩ := mem_exitSamples hs
    exact hname
  refine ⟨?_, ?_, ?_⟩
  · rw [seriesOf_families m _ (.inl rfl), seriesOf_requests,
      hnil _ _ _ _ hforbiddens hforbidden.symm, hnil _ _ _ _ hexits hexit.symm,
      List.append_nil, List.append_nil]
  · rw [seriesOf_families m _ (.inl rfl), seriesOf_forbidden,
      hnil _ _ _ _ hrequests hforbidden, hnil _ _ _ _ hexits hforbiddenExit.symm,
      List.nil_append, List.append_nil]
  · rw [seriesOf_families m _ (.inr rfl), seriesOf_exits,
      hnil _ _ _ _ hrequests hexit, hnil _ _ _ _ hforbiddens hforbiddenExit]
    rfl

lemma nodup_exitKeys (t : Table String Nat) : (exitKeys t).Nodup := by
  refine List.Nodup.append (t.keys_nodup.filter _) (List.nodup_singleton _) ?_
  intro e he hoverflow
  rw [List.mem_singleton.mp hoverflow] at he
  simpa using (List.mem_filter.mp he).2

/-- A faithful text is all that the exposition needs. -/
lemma exposes_iff_faithful (calls : List MetricsCall) :
    Exposes calls ↔ Faithful (metricsAfter calls).families := by
  constructor
  · exact fun h => ⟨h.parses, h.exact⟩
  · intro h
    obtain ⟨hrequests, hforbidden, hexits⟩ := seriesOf_tables (metricsAfter calls)
    refine ⟨h.parses, h.exact, ?_, ?_, ?_⟩
    · rw [readBack, MetricsRegistry.render, h.exact, hrequests]
      exact (perm_providerSamples _).trans ((perm_dedup (mem_reqByProvider calls)).map _)
    · rw [readBack, MetricsRegistry.render, h.exact, hforbidden]
      exact (perm_forbiddenSamples _).trans ((perm_dedup (mem_forbiddenByProvider calls)).map _)
    · rw [readBack, MetricsRegistry.render, h.exact, hexits, (nodup_exitKeys _).dedup,
        ← freeExitTotal_eq]
      exact perm_exitSamples _

/-- A provider of a 403 is counted with its requests as well. -/
lemma mem_requests_of_forbidden {calls : List MetricsCall} {p : String}
    (h : p ∈ calls.filterMap recordedForbidden) :
    ∃ c, (c, p) ∈ calls.filterMap recordedRequest := by
  obtain ⟨call, hcall, hp⟩ := List.mem_filterMap.mp h
  cases call with
  | observe status provider bytes ms =>
    refine ⟨statusClass status, List.mem_filterMap.mpr ⟨_, hcall, ?_⟩⟩
    change (if status = 403 then provider else none) = some p at hp
    rw [Option.ite_none_right_eq_some] at hp
    rw [recordedRequest, hp.2]
    rfl
  | _ => cases hp

/-- After any calls the exposition is right exactly when the providers observed, and the exits that
have a series of their own, hold no quote, backslash or line feed. -/
theorem exposition_iff (calls : List MetricsCall) :
    Exposes calls ↔ (∀ k ∈ calls.filterMap recordedRequest, Plain k.2.toList) ∧
      ∀ e ∈ exitTable (calls.filterMap recordedExit), Plain e.toList := by
  rw [exposes_iff_faithful, faithful_families_iff]
  constructor
  · intro h
    refine ⟨fun k hk => h.requests k ((mem_reqByProvider calls k).mpr hk), fun e he => ?_⟩
    rw [← freeExitTotal_eq] at he
    exact h.exits e he
  · rintro ⟨hrequests, hexits⟩
    refine ⟨fun k hk => hrequests k ((mem_reqByProvider calls k).mp hk), fun p hp => ?_, ?_⟩
    · obtain ⟨c, hc⟩ := mem_requests_of_forbidden ((mem_forbiddenByProvider calls p).mp hp)
      exact hrequests (c, p) hc
    · rw [freeExitTotal_eq]
      exact hexits

/-- A provider that the registry admits, with a quote in its name. -/
theorem exposition_broken_by_quote :
    normalizeProvider "acme\"eu" = .ok "acme\"eu" ∧
      ¬Exposes [.observe 200 (some "acme\"eu") 10 5] := by
  refine ⟨by decide +kernel, fun h => ?_⟩
  have hplain := (faithful_families_iff _).mp ((exposes_iff_faithful _).mp h)
  have hmem := (mem_reqByProvider [.observe 200 (some "acme\"eu") 10 5]
    (.ok, "acme\"eu")).mpr (List.mem_singleton_self _)
  have hquote : ¬Plain "acme\"eu".toList := by decide +kernel
  exact hquote (hplain.requests _ hmem)

end IPProxyPool
