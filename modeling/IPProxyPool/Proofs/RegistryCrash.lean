import IPProxyPool.Model.RegistryCrash
import IPProxyPool.Proofs.RegistryAtomicity

/-!
# What a restart finds

Wherever a call of the registry is cut short, and whatever a crash loses, the file loads to one of
the lists that were stored since the directory was last flushed. An acknowledged call is sure to be
found where its path names a parent directory and that directory was flushed; elsewhere each of the
earlier lists may be found in its place.
-/

namespace IPProxyPool
open RustText CrashDisk Transition

variable {place : RegistryPlace} {seeds test : List ProxyNode}

/-! ### The system calls of `persist` -/

lemma tmpPath_ne (path : String) (pid : Nat) : tmpPath path pid ≠ path := by
  intro h
  have hlen := congrArg String.length h
  unfold tmpPath at hlen
  rw [String.length_append, String.length_append] at hlen
  have htmp : ".tmp.".length = 5 := by decide
  omega

/-- The attempt of `persist` to replace the file, if it came to one. -/
inductive Persisted (place : RegistryPlace) (pid : Nat) (nodes : ManagedNodes) (io : DiskIo) :
    Except RegistryError FileState → List (Call String FileContent) → Prop
  | stopped (e : RegistryError) : Persisted place pid nodes io (.error e) []
  | failed (e : RegistryError) (data : String) (progress : Progress FileContent) :
      place.json.toVecPretty (NodesFile.ofNodes nodes.nodes).toJson = .ok data →
      (∀ flushed, progress ≠ .renamed flushed) → Persisted place pid nodes io (.error e)
        (replacement place.path (tmpPath place.path pid) (.ok "") (.ok data) progress)
  | replaced (data : String) :
      place.json.toVecPretty (NodesFile.ofNodes nodes.nodes).toJson = .ok data →
      Persisted place pid nodes io (.ok (.text data))
        (replacement place.path (tmpPath place.path pid) (.ok "") (.ok data)
          (.renamed (place.parent.isSome && io.syncDir)))

/-- The system calls make the attempt whose result the file-level `persist` returns. -/
lemma persisted (place : RegistryPlace) (pid : Nat) (nodes : ManagedNodes) (io : DiskIo)
    (file : FileState) :
    Persisted place pid nodes io ((place.config pid).persist file nodes io.persistIo)
      (persistCalls place pid nodes io) := by
  rcases io with ⟨createDir, openTmp, writeAll, syncAll, rename, removeFile, syncDir⟩
  rcases place with ⟨json, path, parent⟩
  rcases parent with _ | parent <;> rcases createDir with e | ⟨⟩
  case some.error => exact .stopped _
  all_goals
    unfold RegistryConfig.persist persistCalls
    dsimp only [RegistryPlace.config, DiskIo.persistIo, DiskIo.writePrivateFile]
    cases hdata : json.toVecPretty (NodesFile.ofNodes nodes.nodes).toJson with
    | error e => exact .stopped _
    | ok data =>
      rcases openTmp with e | ⟨⟩
      · exact .failed _ data .unopened hdata (by simp)
      rcases writeAll with ⟨e, written⟩ | ⟨⟩
      · exact .failed _ data (.unwritten written) hdata (by simp)
      rcases syncAll with e | ⟨⟩
      · exact .failed _ data .unflushed hdata (by simp)
      rcases rename with e | ⟨⟩
      · exact .failed _ data (.unrenamed removeFile) hdata (by simp)
      exact .replaced data hdata

lemma Persisted.calls_cases {pid : Nat} {nodes : ManagedNodes} {io : DiskIo}
    {result : Except RegistryError FileState} {calls : List (Call String FileContent)}
    (h : Persisted place pid nodes io result calls) :
    calls = [] ∨ ∃ data progress,
      place.json.toVecPretty (NodesFile.ofNodes nodes.nodes).toJson = .ok data ∧
        calls = replacement place.path (tmpPath place.path pid) (.ok "") (.ok data) progress := by
  cases h with
  | stopped e => exact .inl rfl
  | failed e data progress hdata hfailed => exact .inr ⟨data, progress, hdata, rfl⟩
  | replaced data hdata => exact .inr ⟨data, _, hdata, rfl⟩

/-- The versions after the system calls of a `persist` that was not cut short. -/
lemma Persisted.note {α : Type*} {pid : Nat} {nodes : ManagedNodes} {io : DiskIo}
    {result : Except RegistryError FileState} {calls : List (Call String FileContent)}
    (h : Persisted place pid nodes io result calls) (x : α) (stored : List α) :
    calls.foldl (CrashDisk.note place.path x) stored =
      if result.toOption.isSome then
        if place.parent.isSome && io.syncDir then [x] else x :: stored
      else stored := by
  cases h with
  | stopped e => rfl
  | failed e data progress hdata hfailed =>
    rw [note_replacement, Progress.noted_of_ne hfailed]
    rfl
  | replaced data hdata =>
    rw [note_replacement]
    cases place.parent.isSome && io.syncDir <;> rfl

lemma Persisted.read {pid : Nat} {nodes : ManagedNodes} {io : DiskIo}
    {result : Except RegistryError FileState} {calls : List (Call String FileContent)}
    (h : Persisted place pid nodes io result calls) {d : Disk String FileContent}
    {versions : List (Option FileContent)} (hd : Holds place.path d versions) :
    (∃ after, Holds place.path (run Disk.perform d calls) after) ∧
      .ofRead ((run Disk.perform d calls).read place.path) =
        result.toOption.getD (.ofRead (d.read place.path)) := by
  have hrun : ∀ data progress, calls = replacement place.path (tmpPath place.path pid) (.ok "")
      (.ok data) progress →
      Holds place.path (run Disk.perform d calls) (progress.noted (some (.ok data)) versions) := by
    intro data progress hcalls
    have hreplaces : Along Disk.perform (Replaces place.path (.ok data)) d
        ((replacement place.path (tmpPath place.path pid) (.ok "") (.ok data) progress).take
          calls.length) :=
      along_replacement (tmpPath_ne place.path pid) (.ok "") progress calls.length
    rw [← hcalls, List.take_length] at hreplaces
    have hnoted := hd.run hreplaces
    rw [hcalls, note_replacement, ← hcalls] at hnoted
    exact hnoted
  cases h with
  | stopped e => exact ⟨⟨versions, hd⟩, rfl⟩
  | failed e data progress hdata hfailed =>
    have hafter := hrun data progress rfl
    rw [Progress.noted_of_ne hfailed] at hafter
    refine ⟨⟨_, hafter⟩, ?_⟩
    have hread := hafter.head.symm.trans hd.head
    rw [Option.some.inj hread]
    rfl
  | replaced data hdata =>
    have hafter := hrun data _ rfl
    refine ⟨⟨_, hafter⟩, ?_⟩
    have hnew : some (some (Except.ok data)) =
        some ((run Disk.perform d (replacement place.path (tmpPath place.path pid) (.ok "")
          (.ok data) (.renamed (place.parent.isSome && io.syncDir)))).read place.path) := by
      rw [← hafter.head]
      cases place.parent.isSome && io.syncDir <;> rfl
    rw [← Option.some.inj hnew]
    rfl

/-! ### The lists that the versions stand for -/

/-- A version of the file loads to a list, whichever process reads it. -/
def StandsFor (place : RegistryPlace) (seeds : List ProxyNode) (v : Option FileContent)
    (m : ManagedNodes) : Prop :=
  ∀ pid, (place.config pid).load (.ofRead v) seeds = .ok m.withoutExits

lemma load_config (pid pid' : Nat) (file : FileState) :
    (place.config pid).load file seeds = (place.config pid').load file seeds := by
  cases file <;> rfl

lemma ManagedNodes.withoutExits_idem (m : ManagedNodes) :
    m.withoutExits.withoutExits = m.withoutExits := by
  apply ManagedNodes.withoutExits_eq_self
  intro n hn
  obtain ⟨k, -, rfl⟩ := List.mem_map.mp hn
  rfl

lemma standsFor_written (hjson : place.json.RoundTrips) {m : ManagedNodes} (hm : m.AllNormal)
    {data : String} (hdata : place.json.toVecPretty (NodesFile.ofNodes m.nodes).toJson = .ok data) :
    StandsFor place seeds (some (.ok data)) m := by
  intro pid
  have hread : (place.config pid).loadFile place.path data = .ok m.withoutExits :=
    RegistryConfig.loadFile_written hjson hm hdata place.path
  change ((place.config pid).loadFile place.path data).bind _ = _
  rw [hread]
  exact ensureUniqueAndBounded_managed m.withoutExits

lemma forall₂_note {α β γ : Type*} {R : α → β → Prop} {path : String} {v : α} {m : β}
    (hv : R v m) {versions : List α} {stored : List β} (h : List.Forall₂ R versions stored)
    (calls : List (Call String γ)) :
    List.Forall₂ R (calls.foldl (note path v) versions) (calls.foldl (note path m) stored) := by
  induction calls generalizing versions stored with
  | nil => exact h
  | cons call calls ih =>
    apply ih
    cases call with
    | rename source target =>
      by_cases htarget : target = path
      · simp only [note, if_pos htarget]
        exact .cons hv h
      · simp only [note, if_neg htarget]
        exact h
    | flushNames => exact List.forall₂_take 1 h
    | openTruncated name blank => exact h
    | write name data => exact h
    | flush name => exact h
    | remove name => exact h

namespace RegistryHost

/-- The versions of the file stand for the lists that are stored. -/
def Keeps (place : RegistryPlace) (seeds : List ProxyNode) (s : RegistryHost) : Prop :=
  ∃ versions, Holds place.path s.disk versions ∧
    List.Forall₂ (StandsFor place seeds) versions s.stored

lemma run_systemCalls (m : ManagedNodes) (calls : List (Call String FileContent))
    (s : RegistryHost) :
    run (systemCall place) s (calls.map (fun c => (m, c))) =
      { s with
        disk := run Disk.perform s.disk calls
        stored := calls.foldl (note place.path m) s.stored } := by
  induction calls generalizing s with
  | nil => rfl
  | cons call calls ih => exact ih (s.systemCall place (m, call))

/-- A `persist`, cut after any of its calls. -/
lemma Keeps.persist (hjson : place.json.RoundTrips) {s : RegistryHost} (h : s.Keeps place seeds)
    {m : ManagedNodes} (hm : m.AllNormal) (pid : Nat) (io : DiskIo) (k : Nat) :
    (run (systemCall place) s
      (((persistCalls place pid m io).map (fun c => (m, c))).take k)).Keeps place seeds := by
  rw [← List.map_take, run_systemCalls]
  rcases (persisted place pid m io .absent).calls_cases with
    hcalls | ⟨data, progress, hdata, hcalls⟩
  · rw [hcalls, List.take_nil]
    exact h
  · obtain ⟨versions, hholds, hstored⟩ := h
    have hreplaces : Along Disk.perform (Replaces place.path (.ok data)) s.disk
        ((replacement place.path (tmpPath place.path pid) (.ok "") (.ok data) progress).take k) :=
      along_replacement (tmpPath_ne place.path pid) (.ok "") progress k
    rw [hcalls]
    exact ⟨_, hholds.run hreplaces, forall₂_note (standsFor_written hjson hm hdata) hstored _⟩

lemma Keeps.writes (hjson : place.json.RoundTrips) {s : RegistryHost} (h : s.Keeps place seeds)
    {ps : List (ManagedNodes × DiskIo)} (hps : ∀ p ∈ ps, p.1.AllNormal) (pid k : Nat) :
    (run (systemCall place) s ((ps.flatMap (fun p =>
      (persistCalls place pid p.1 p.2).map (fun c => (p.1, c)))).take k)).Keeps place seeds := by
  induction ps generalizing s k with
  | nil =>
    rw [List.flatMap_nil, List.take_nil]
    exact h
  | cons p ps ih =>
    rw [List.flatMap_cons, List.take_append, run_append]
    apply ih
    · exact h.persist hjson (hps p List.mem_cons_self) pid p.2 k
    · exact fun q hq => hps q (List.mem_cons_of_mem p hq)

lemma plan_normal {nodes : ManagedNodes} (hnodes : nodes.AllNormal) {call : RouterCall}
    {plan : Plan RouterEdit} (hplan : call.plan nodes = .ok plan) : plan.next.AllNormal := by
  cases call with
  | add raw =>
    cases hadd : nodes.planAdd raw with
    | error e => simp [RouterCall.plan, hadd, Except.map] at hplan
    | ok p =>
      simp only [RouterCall.plan, hadd, Except.map, Except.ok.injEq] at hplan
      exact hplan ▸ hnodes.planAdd hadd
  | remove addr =>
    cases hremove : nodes.planRemove addr with
    | error e => simp [RouterCall.plan, hremove, Except.map] at hplan
    | ok p =>
      simp only [RouterCall.plan, hremove, Except.map, Except.ok.injEq] at hplan
      exact hplan ▸ hnodes.planRemove hremove
  | setGroupWeight provider country weight =>
    cases hset : nodes.planSetGroupWeight provider country weight with
    | error e => simp [RouterCall.plan, hset, Except.map] at hplan
    | ok p =>
      simp only [RouterCall.plan, hset, Except.map, Except.ok.injEq] at hplan
      exact hplan ▸ hnodes.planSetGroupWeight hset

/-- How a call ends at the level of the file, with the lists that it writes on the way: none, the
list it plans, or that list and then the old one again. -/
inductive Ended (place : RegistryPlace) (s : RegistryHost) (nodes : ManagedNodes)
    (world : RouterEngine) (call : RouterCall) (io : CallDiskIo) :
    Outcome Unit RouterEngine → List (ManagedNodes × DiskIo) → Prop
  | idle (o : Outcome Unit RouterEngine) :
      o.next.file = .ofRead (s.disk.read place.path) → o.wrote = false →
      Ended place s nodes world call io o []
  | unwritten (plan : Plan RouterEdit) (e : RegistryError) : call.plan nodes = .ok plan →
      (place.config s.pid).persist (.ofRead (s.disk.read place.path)) plan.next
        io.write.persistIo = .error e →
      Ended place s nodes world call io ⟨.error e, none, false, s.registry place nodes world⟩
        [(plan.next, io.write)]
  | applied (plan : Plan RouterEdit) (file : FileState) (r : RouterEngine) :
      call.plan nodes = .ok plan →
      (place.config s.pid).persist (.ofRead (s.disk.read place.path)) plan.next
        io.write.persistIo = .ok file →
      Ended place s nodes world call io ⟨.ok (), none, true, ⟨plan.next, file, r⟩⟩
        [(plan.next, io.write)]
  | refused (plan : Plan RouterEdit) (file : FileState) (o : Outcome Unit RouterEngine) :
      call.plan nodes = .ok plan →
      (place.config s.pid).persist (.ofRead (s.disk.read place.path)) plan.next
        io.write.persistIo = .ok file →
      (∃ e, o.result = .error e) →
      o.next.file = ((place.config s.pid).persist file nodes
        io.rollback.persistIo).toOption.getD file →
      Ended place s nodes world call io o [(plan.next, io.write), (nodes, io.rollback)]

variable (place) in
lemma ended (s : RegistryHost) (nodes : ManagedNodes) (world : RouterEngine) (call : RouterCall)
    (io : CallDiskIo) :
    Ended place s nodes world call io
      ((s.registry place nodes world).perform (place.config s.pid) (call.toCall io.callIo))
      (s.persists place nodes world call io) := by
  have hnodes : (s.registry place nodes world).nodes = nodes := rfl
  rw [perform_toCall, hnodes]
  unfold persists NodeRegistry.execute
  cases hplan : call.plan nodes with
  | error e => exact .idle _ rfl rfl
  | ok plan =>
    dsimp only
    unfold NodeRegistry.carryOut
    cases hw : plan.writes with
    | false =>
      simp only [Bool.false_eq_true, if_false, Bool.false_and]
      rcases ha : (s.registry place nodes world).world.applyEdit plan.value with ⟨res, r⟩
      cases res with
      | ok u => exact .idle _ rfl rfl
      | error e => exact .idle _ rfl rfl
    | true =>
      simp only [if_true, Bool.true_and]
      cases hp : (place.config s.pid).persist (.ofRead (s.disk.read place.path)) plan.next
          io.write.persistIo with
      | error e =>
        have hp' : (place.config s.pid).persist (s.registry place nodes world).file plan.next
            io.callIo.write = .error e := hp
        rw [hp']
        exact .unwritten plan e hplan hp
      | ok file =>
        have hp' : (place.config s.pid).persist (s.registry place nodes world).file plan.next
            io.callIo.write = .ok file := hp
        rw [hp']
        dsimp only
        have hworld : (s.registry place nodes world).world = world := rfl
        rw [hworld]
        rcases ha : world.applyEdit plan.value with ⟨res, r⟩
        cases res with
        | ok u => exact .applied plan file r hplan hp
        | error e =>
          dsimp only
          cases hrb : (place.config s.pid).persist file nodes io.rollback.persistIo with
          | ok file' =>
            have hrb' : (place.config s.pid).persist file (s.registry place nodes world).nodes
                io.callIo.rollback = .ok file' := hrb
            rw [hrb']
            exact .refused plan file _ hplan hp ⟨_, rfl⟩ (by rw [hrb]; rfl)
          | error rb =>
            have hrb' : (place.config s.pid).persist file (s.registry place nodes world).nodes
                io.callIo.rollback = .error rb := hrb
            rw [hrb']
            exact .refused plan file _ hplan hp ⟨_, rfl⟩ (by rw [hrb]; rfl)

lemma Ended.normal {s : RegistryHost} {nodes : ManagedNodes} (hnodes : nodes.AllNormal)
    {world : RouterEngine} {call : RouterCall} {io : CallDiskIo} {o : Outcome Unit RouterEngine}
    {ps : List (ManagedNodes × DiskIo)} (h : Ended place s nodes world call io o ps) :
    ∀ p ∈ ps, p.1.AllNormal := by
  cases h with
  | idle o hfile hwrote => simp
  | unwritten plan e hplan hp => simpa using plan_normal hnodes hplan
  | applied plan file r hplan hp => simpa using plan_normal hnodes hplan
  | refused plan file o hplan hp herr hfile => simpa using ⟨plan_normal hnodes hplan, hnodes⟩

/-- What every state of a run has. -/
structure Kept (place : RegistryPlace) (seeds : List ProxyNode) (s : RegistryHost) : Prop where
  keeps : s.Keeps place seeds
  running : ∃ nodes world, s.process = some (nodes, world)
  normal : ∀ nodes world, s.process = some (nodes, world) → nodes.AllNormal

lemma Kept.cut (hjson : place.json.RoundTrips) {s : RegistryHost} (h : s.Kept place seeds)
    (call : RouterCall) (io : CallDiskIo) (done : Nat) :
    (s.cut place call io done).Keeps place seeds := by
  obtain ⟨nodes, world, hprocess⟩ := h.running
  have hended := ended place s nodes world call io
  have hnormal := hended.normal (h.normal nodes world hprocess)
  unfold RegistryHost.cut systemCalls
  rw [hprocess]
  exact h.keeps.writes hjson hnormal s.pid done

lemma Keeps.stored_head {s : RegistryHost} (h : s.Keeps place seeds) :
    ∃ m, s.stored.head? = some m ∧ ∀ pid, s.loaded place seeds pid = .ok m.withoutExits := by
  obtain ⟨versions, hholds, hstored⟩ := h
  have hhead := hholds.head
  generalize s.stored = stored at hstored ⊢
  cases hstored with
  | nil => cases hhead
  | cons hfirst hrest =>
    have hv := Option.some.inj hhead
    refine ⟨_, rfl, fun pid => ?_⟩
    unfold loaded
    rw [← hv]
    exact hfirst pid

lemma Keeps.boot (hseeds : ∀ n ∈ seeds, Normal n) {s : RegistryHost} (h : s.Keeps place seeds)
    (pid : Nat) : (s.boot place seeds test pid).Kept place seeds := by
  obtain ⟨m, -, hload⟩ := h.stored_head
  have hprocess : (s.boot place seeds test pid).process =
      some (m.withoutExits, .new (m.withoutExits.nodes ++ test)) := by
    unfold RegistryHost.boot
    dsimp only
    rw [hload pid]
  refine ⟨h, ⟨_, _, hprocess⟩, ?_⟩
  intro nodes world hp
  rw [hprocess] at hp
  cases hp
  exact NodeRegistry.loaded_normal (hload pid) (fun _ => hseeds)

/-- A crash leaves one of the stored lists, and each of them may be left. -/
lemma Keeps.crash_loads {s : RegistryHost} (h : s.Keeps place seeds) (c : Crash FileContent) :
    ∃ m ∈ s.stored, StandsFor place seeds ((s.disk.crash c).read place.path) m := by
  obtain ⟨versions, hholds, hstored⟩ := h
  obtain ⟨hmem, -⟩ := hholds.crash c
  obtain ⟨i, hi, hread⟩ := List.mem_iff_getElem.mp hmem
  have hlen := hstored.length_eq
  refine ⟨s.stored[i], List.getElem_mem (hlen ▸ hi), ?_⟩
  rw [← hread]
  exact hstored.get hi (hlen ▸ hi)

lemma Keeps.crash_reaches {s : RegistryHost} (h : s.Keeps place seeds) {m : ManagedNodes}
    (hm : m ∈ s.stored) :
    ∃ c, StandsFor place seeds ((s.disk.crash c).read place.path) m := by
  obtain ⟨versions, hholds, hstored⟩ := h
  obtain ⟨i, hi, rfl⟩ := List.mem_iff_getElem.mp hm
  have hlen := hstored.length_eq
  obtain ⟨c, hc⟩ := hholds.crash_reaches (List.getElem_mem (hlen ▸ hi))
  refine ⟨c, ?_⟩
  rw [hc]
  exact hstored.get (hlen ▸ hi) hi

lemma Keeps.crash {s : RegistryHost} (h : s.Keeps place seeds) (c : Crash FileContent) (pid : Nat) :
    (s.crash place seeds c pid).Keeps place seeds := by
  obtain ⟨m, -, hload⟩ := h.crash_loads c
  obtain ⟨versions, hholds, -⟩ := h
  have hstored : (s.crash place seeds c pid).stored = [m.withoutExits] := by
    unfold RegistryHost.crash loaded
    dsimp only
    rw [hload pid]
    rfl
  refine ⟨_, (hholds.crash c).2, ?_⟩
  rw [hstored]
  refine .cons (fun pid' => ?_) .nil
  rw [ManagedNodes.withoutExits_idem]
  exact hload pid'

/-! ### A call that ends -/

lemma perform_eq {s : RegistryHost} {nodes : ManagedNodes} {world : RouterEngine}
    (hprocess : s.process = some (nodes, world)) (call : RouterCall) (io : CallDiskIo) :
    (s.perform place call io).disk = (run (systemCall place) s (s.systemCalls place call io)).disk ∧
      (s.perform place call io).stored =
        (run (systemCall place) s (s.systemCalls place call io)).stored := by
  unfold RegistryHost.perform cut
  rw [hprocess, List.take_length]
  exact ⟨rfl, rfl⟩

lemma systemCalls_eq {s : RegistryHost} {nodes : ManagedNodes} {world : RouterEngine}
    (hprocess : s.process = some (nodes, world)) (call : RouterCall) (io : CallDiskIo) :
    s.systemCalls place call io = (s.persists place nodes world call io).flatMap
      (fun p => (persistCalls place s.pid p.1 p.2).map (fun c => (p.1, c))) := by
  unfold systemCalls
  rw [hprocess]

/-- The file that a call leaves on the disk is the one it leaves at the file level. -/
lemma Keeps.perform_file {s : RegistryHost} (h : s.Keeps place seeds) {nodes : ManagedNodes}
    {world : RouterEngine} (hprocess : s.process = some (nodes, world)) (call : RouterCall)
    (io : CallDiskIo) :
    .ofRead ((s.perform place call io).disk.read place.path) =
      ((s.registry place nodes world).perform (place.config s.pid)
        (call.toCall io.callIo)).next.file := by
  obtain ⟨versions, hholds, -⟩ := h
  have hwrite : ∀ m io', _ := fun m io' =>
    (persisted place s.pid m io' (.ofRead (s.disk.read place.path))).read hholds
  have hended := ended place s nodes world call io
  rw [(perform_eq hprocess call io).1, systemCalls_eq hprocess]
  generalize (s.registry place nodes world).perform (place.config s.pid) (call.toCall io.callIo) =
    o at hended ⊢
  generalize s.persists place nodes world call io = ps at hended ⊢
  cases hended with
  | idle o hfile hwrote => exact hfile.symm
  | unwritten plan e hplan hp =>
    obtain ⟨-, hread⟩ := hwrite plan.next io.write
    rw [hp] at hread
    rw [List.flatMap_singleton, run_systemCalls]
    exact hread
  | applied plan file r hplan hp =>
    obtain ⟨-, hread⟩ := hwrite plan.next io.write
    rw [hp] at hread
    rw [List.flatMap_singleton, run_systemCalls]
    exact hread
  | refused plan file o hplan hp herr hfile =>
    obtain ⟨⟨after, hafter⟩, hread⟩ := hwrite plan.next io.write
    rw [hp] at hread
    have hundo := ((persisted place s.pid nodes io.rollback file).read hafter).2
    rw [List.flatMap_cons, List.flatMap_singleton, run_append, run_systemCalls, run_systemCalls,
      hfile]
    exact hundo.trans (congrArg _ hread)

/-- What is stored after a call that was acknowledged and wrote the file. -/
lemma stored_of_acknowledged {s : RegistryHost} {nodes : ManagedNodes} {world : RouterEngine}
    (hprocess : s.process = some (nodes, world)) {call : RouterCall} {io : CallDiskIo}
    {o : Outcome Unit RouterEngine} (ho : (s.registry place nodes world).perform
      (place.config s.pid) (call.toCall io.callIo) = o)
    (hok : o.result = .ok ()) (hwrote : o.wrote = true) :
    (s.perform place call io).stored =
      if place.parent.isSome && io.write.syncDir then [o.next.nodes]
      else o.next.nodes :: s.stored := by
  have hended := ended place s nodes world call io
  rw [ho] at hended
  rw [(perform_eq hprocess call io).2, systemCalls_eq hprocess]
  generalize s.persists place nodes world call io = ps at hended ⊢
  cases hended with
  | idle o hfile hnone =>
    rw [hnone] at hwrote
    cases hwrote
  | unwritten plan e hplan hp => cases hok
  | applied plan file r hplan hp =>
    have hnote := (persisted place s.pid plan.next io.write
      (.ofRead (s.disk.read place.path))).note plan.next s.stored
    rw [hp] at hnote
    rw [List.flatMap_singleton, run_systemCalls]
    exact hnote
  | refused plan file o hplan hp herr hfile =>
    obtain ⟨e, he⟩ := herr
    rw [he] at hok
    cases hok

/-- A call that is cut short adds to the stored lists only the list it plans and the old one. -/
lemma mem_stored_cut {s : RegistryHost} {nodes : ManagedNodes} {world : RouterEngine}
    (hprocess : s.process = some (nodes, world)) {call : RouterCall} {io : CallDiskIo} {done : Nat}
    {m : ManagedNodes} (hm : m ∈ (s.cut place call io done).stored) :
    m ∈ s.stored ∨ m = nodes ∨ ∃ plan, call.plan nodes = .ok plan ∧ m = plan.next := by
  have hrun : ∀ (cs : List (ManagedNodes × Call String FileContent)) (s : RegistryHost),
      m ∈ (run (systemCall place) s cs).stored → m ∈ s.stored ∨ ∃ c ∈ cs, m = c.1 := by
    intro cs
    induction cs with
    | nil => exact fun s hm => .inl hm
    | cons c cs ih =>
      intro s hm
      rcases ih (s.systemCall place c) hm with hnow | ⟨c', hc', hlater⟩
      · rcases mem_note hnow with hnew | hold
        · exact .inr ⟨c, List.mem_cons_self, hnew⟩
        · exact .inl hold
      · exact .inr ⟨c', List.mem_cons_of_mem c hc', hlater⟩
  rcases hrun _ s hm with hold | ⟨c, hc, rfl⟩
  · exact .inl hold
  · right
    rw [systemCalls_eq hprocess] at hc
    obtain ⟨p, hp, hc⟩ := List.mem_flatMap.mp (List.mem_of_mem_take hc)
    obtain ⟨call', -, rfl⟩ := List.mem_map.mp hc
    have hended := ended place s nodes world call io
    generalize s.persists place nodes world call io = ps at hended hp
    generalize (s.registry place nodes world).perform (place.config s.pid)
      (call.toCall io.callIo) = o at hended
    cases hended with
    | idle o hfile hwrote => cases hp
    | unwritten plan e hplan hpersist =>
      rw [List.mem_singleton.mp hp]
      exact .inr ⟨plan, hplan, rfl⟩
    | applied plan file r hplan hpersist =>
      rw [List.mem_singleton.mp hp]
      exact .inr ⟨plan, hplan, rfl⟩
    | refused plan file o hplan hpersist herr hfile =>
      rcases List.mem_cons.mp hp with rfl | hp
      · exact .inr ⟨plan, hplan, rfl⟩
      · rw [List.mem_singleton.mp hp]
        exact .inl rfl

/-! ### Runs -/

lemma Kept.perform (hjson : place.json.RoundTrips) {s : RegistryHost} (h : s.Kept place seeds)
    (call : RouterCall) (io : CallDiskIo) : (s.perform place call io).Kept place seeds := by
  obtain ⟨nodes, world, hprocess⟩ := h.running
  have hkeeps := h.cut hjson call io (s.systemCalls place call io).length
  have hsound : NodeRegistry.Sound (place.config s.pid)
      ((s.registry place nodes world).perform (place.config s.pid) (call.toCall io.callIo)) :=
    NodeRegistry.perform_sound hjson (h.normal nodes world hprocess) (call.toCall io.callIo)
  unfold RegistryHost.perform
  rw [hprocess]
  refine ⟨hkeeps, ⟨_, _, rfl⟩, ?_⟩
  intro nodes' world' hnext
  cases hnext
  exact hsound.normal

lemma Kept.step (hjson : place.json.RoundTrips) (hseeds : ∀ n ∈ seeds, Normal n) {s : RegistryHost}
    (h : s.Kept place seeds) (event : HostEvent) :
    (s.step place seeds test event).Kept place seeds := by
  cases event with
  | call call io => exact h.perform hjson call io
  | router world =>
    obtain ⟨nodes, old, hprocess⟩ := h.running
    unfold RegistryHost.step
    rw [hprocess]
    refine ⟨h.keeps, ⟨nodes, world, rfl⟩, ?_⟩
    intro nodes' world' hnext
    cases hnext
    exact h.normal nodes old hprocess
  | kill call io done pid => exact (h.cut hjson call io done).boot hseeds pid
  | crash call io done c pid => exact ((h.cut hjson call io done).crash c pid).boot hseeds pid

/-- What a restart loads after a crash. -/
def crashLoaded (place : RegistryPlace) (seeds : List ProxyNode) (s : RegistryHost)
    (c : Crash FileContent) (pid : Nat) : Except RegistryError ManagedNodes :=
  RegistryHost.loaded place seeds { s with disk := s.disk.crash c } pid

/-- What is certain of the list that a restart finds. -/
structure CrashSafe (place : RegistryPlace) (seeds : List ProxyNode) (s : RegistryHost)
    (nodes : ManagedNodes) (world : RouterEngine) : Prop where
  /-- The disk refines the file of the file-level model. -/
  refines : ∀ call io, .ofRead ((s.perform place call io).disk.read place.path) =
    ((s.registry place nodes world).perform (place.config s.pid) (call.toCall io.callIo)).next.file
  /-- A call cut short anywhere leaves a stored list, the list it plans, or the one in memory. -/
  atomic : ∀ call io done c pid, ∃ m,
    crashLoaded place seeds (s.cut place call io done) c pid = .ok m.withoutExits ∧
      (m ∈ s.stored ∨ m = nodes ∨ ∃ plan, call.plan nodes = .ok plan ∧ m = plan.next)
  killed : ∀ call io done pid, ∃ m,
    (s.cut place call io done).loaded place seeds pid = .ok m.withoutExits ∧
      (m ∈ s.stored ∨ m = nodes ∨ ∃ plan, call.plan nodes = .ok plan ∧ m = plan.next)
  durable : ∀ call io o, (s.registry place nodes world).perform (place.config s.pid)
      (call.toCall io.callIo) = o → o.result = .ok () → o.wrote = true →
    place.parent.isSome = true → io.write.syncDir = true →
    ∀ c pid, crashLoaded place seeds (s.perform place call io) c pid = .ok o.next.nodes.withoutExits
  /-- Without that flush of the directory any list stored since the last one may come back. -/
  unflushed : ∀ call io o, (s.registry place nodes world).perform (place.config s.pid)
      (call.toCall io.callIo) = o → o.result = .ok () → o.wrote = true →
    ¬(place.parent.isSome = true ∧ io.write.syncDir = true) →
    ∀ m ∈ o.next.nodes :: s.stored,
      ∃ c, ∀ pid, crashLoaded place seeds (s.perform place call io) c pid = .ok m.withoutExits

lemma Kept.crashSafe (hjson : place.json.RoundTrips) {s : RegistryHost} (h : s.Kept place seeds)
    {nodes : ManagedNodes} {world : RouterEngine} (hprocess : s.process = some (nodes, world)) :
    CrashSafe place seeds s nodes world where
  refines call io := h.keeps.perform_file hprocess call io
  atomic call io done c pid := by
    obtain ⟨m, hm, hload⟩ := (h.cut hjson call io done).crash_loads c
    exact ⟨m, hload pid, mem_stored_cut hprocess hm⟩
  killed call io done pid := by
    obtain ⟨m, hm, hload⟩ := (h.cut hjson call io done).stored_head
    exact ⟨m, hload pid, mem_stored_cut hprocess (List.mem_of_mem_head? hm)⟩
  durable call io o ho hok hwrote hparent hsync c pid := by
    have hstored := stored_of_acknowledged hprocess ho hok hwrote
    rw [hparent, hsync, Bool.and_self, if_pos rfl] at hstored
    obtain ⟨m, hm, hload⟩ := (h.perform hjson call io).keeps.crash_loads c
    rw [hstored, List.mem_singleton] at hm
    rw [← hm]
    exact hload pid
  unflushed call io o ho hok hwrote hflush m hm := by
    have hstored := stored_of_acknowledged hprocess ho hok hwrote
    rw [if_neg (by simpa using hflush)] at hstored
    rw [← hstored] at hm
    exact (h.perform hjson call io).keeps.crash_reaches hm

/-- A registry that starts on a disk whose file loads, or on one without the file, never refuses to
start, whatever calls are made, wherever they are cut short by the end of the process or by a crash,
and whatever a crash loses. In every state it reaches, a restart finds one of the lists stored since
the directory was last flushed, or one that the interrupted call was writing; what was acknowledged
is sure to be found exactly where the directory was flushed. -/
theorem restart_finds_stored_list (hjson : place.json.RoundTrips)
    (hseeds : ∀ n ∈ seeds, Normal n ∧ n.exitIp = none) {d : Disk String FileContent}
    (hd : Sound place.path d) (hclean : d.earlier = []) {m : ManagedNodes} {pid : Nat}
    (hload : (place.config pid).load (.ofRead (d.read place.path)) seeds = .ok m)
    (events : List HostEvent) :
    let s := run (step place seeds test) (boot place seeds test ⟨pid, none, d, [m]⟩ pid) events
    ∃ nodes world, s.process = some (nodes, world) ∧ CrashSafe place seeds s nodes world := by
  intro s
  have hnormal : ∀ n ∈ seeds, Normal n := fun n hn => (hseeds n hn).1
  have hrest := NodeRegistry.loaded_atRest hload (fun _ => hseeds) (RouterEngine.new [])
  have hfile : StandsFor place seeds (d.read place.path) m := fun pid' =>
    (load_config pid' pid _).trans (hrest.loads rfl)
  have hholds : Holds place.path d [d.read place.path] := by
    refine ⟨hd, rfl, fun v => ?_⟩
    unfold Disk.versions Disk.states
    rw [hclean]
    exact Iff.rfl
  have hstart : Keeps place seeds ⟨pid, none, d, [m]⟩ := ⟨_, hholds, .cons hfile .nil⟩
  have hstep : ∀ (s : RegistryHost) e, s.Kept place seeds →
      (s.step place seeds test e).Kept place seeds := fun s e hs => hs.step hjson hnormal e
  have hkept : s.Kept place seeds := run_invariant hstep (hstart.boot hnormal pid) events
  obtain ⟨nodes, world, hprocess⟩ := hkept.running
  exact ⟨nodes, world, hprocess, hkept.crashSafe hjson hprocess⟩

def vendorPlace : RegistryPlace := ⟨NodeRegistry.vendorText, "data/nodes.json", some "data"⟩

def blankDisk : Disk String FileContent where
  content _ := .ok ""
  flushed _ := true
  names _ := none
  earlier := []
  unused := 0

lemma blankDisk_sound (path : String) : Sound path blankDisk := by
  have hnone : ∀ dir ∈ blankDisk.states, ∀ name i, dir name ≠ some i := by
    intro dir hdir name i h
    rw [List.mem_singleton.mp hdir] at h
    cases h
  exact ⟨fun dir hdir i h => absurd h (hnone dir hdir _ i),
    fun dir hdir i h => absurd h (hnone dir hdir _ i),
    fun dir hdir a b i h => absurd h (hnone dir hdir a i),
    fun dir hdir name i h => absurd h (hnone dir hdir name i)⟩

/-- An accepted addition, and a removal that a crash cuts short at its rename. -/
theorem cut_removal_is_safe :
    let s := run (step vendorPlace [] [])
      (boot vendorPlace [] [] ⟨7, none, blankDisk, [NodeRegistry.noNodes]⟩ 7)
      [.call (.add NodeRegistry.vendorNode) {},
        .crash (.remove "203.0.113.1:8080") {} 4 ⟨1, fun _ => .error "torn"⟩ 8]
    ∃ nodes world, s.process = some (nodes, world) ∧ CrashSafe vendorPlace [] s nodes world :=
  restart_finds_stored_list NodeRegistry.vendorConfig_roundTrips (by simp) (blankDisk_sound _) rfl
    rfl _

end RegistryHost

end IPProxyPool
