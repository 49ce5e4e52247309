import IPProxyPool.Model.NodeRegistry
import IPProxyPool.Lib.Run

/-!
# What the registry writes is what it reads

Every list the registry keeps in memory consists of nodes the validator returns unchanged, so the
file written for it is accepted at the next startup and holds the same nodes up to the exit
address, which is not stored. The one file that is not that of the list in memory is left by a
rollback that fails.
-/

namespace IPProxyPool
open RustText Transition

/-! ### What an operation plans -/

lemma eraseIdx_findIdx_eq_filter {l : List ProxyNode} (hnodup : (l.map ProxyNode.addr).Nodup)
    (addr : String) :
    l.eraseIdx (l.findIdx (fun n => n.addr = addr)) = l.filter (fun n => n.addr ≠ addr) := by
  induction l with
  | nil => rfl
  | cons n ns ih =>
    rw [List.map_cons, List.nodup_cons] at hnodup
    by_cases hn : n.addr = addr
    · have hkeep : ns.filter (fun m => m.addr ≠ addr) = ns := by
        rw [List.filter_eq_self]
        intro m hm
        have hm' : m.addr ≠ addr := fun haddr =>
          hnodup.1 (List.mem_map.mpr ⟨m, hm, by rw [haddr, hn]⟩)
        simp [hm']
      rw [List.filter_cons_of_neg (by simp [hn]), hkeep]
      simp [List.findIdx_cons, hn]
    · rw [List.filter_cons_of_pos (by simp [hn]), ← ih hnodup.2]
      simp [List.findIdx_cons, hn]

namespace ManagedNodes

def AllNormal (m : ManagedNodes) : Prop := ∀ n ∈ m.nodes, Normal n

/-- The list that a file for `m` holds. -/
def withoutExits (m : ManagedNodes) : ManagedNodes where
  nodes := m.nodes.map (fun n => n.withExitIp none)
  unique := by
    have haddr : (m.nodes.map (fun n => n.withExitIp none)).map ProxyNode.addr =
        m.nodes.map ProxyNode.addr := by
      rw [List.map_map]
      rfl
    rw [haddr]
    exact m.unique
  bounded := by
    rw [List.length_map]
    exact m.bounded

lemma planAdd_eq_ok {m : ManagedNodes} {raw : ProxyNode} {plan : Plan ProxyNode}
    (h : m.planAdd raw = .ok plan) :
    normalizeAndValidate raw = .ok plan.value ∧ plan.next.nodes = m.nodes ++ [plan.value] ∧
      plan.writes = true := by
  unfold planAdd at h
  split at h
  · cases h
  · rename_i node hnode
    split at h
    · cases h
    · split at h
      · cases h
      · cases h
        exact ⟨hnode, rfl, rfl⟩

lemma planRemove_eq_ok {m : ManagedNodes} {addr : String} {plan : Plan ProxyNode}
    (h : m.planRemove addr = .ok plan) :
    plan.value ∈ m.nodes ∧ plan.value.addr = addr ∧
      plan.next.nodes = m.nodes.filter (fun n => n.addr ≠ addr) ∧ plan.writes = true := by
  unfold planRemove at h
  dsimp only at h
  split at h
  · cases h
  · rename_i removed hget
    cases h
    obtain ⟨hlt, hremoved⟩ := List.getElem?_eq_some_iff.mp hget
    have haddr : removed.addr = addr := by
      have hfound := List.findIdx_getElem (w := hlt)
      rw [hremoved] at hfound
      simpa using hfound
    exact ⟨hremoved ▸ List.getElem_mem hlt, haddr, eraseIdx_findIdx_eq_filter m.unique addr, rfl⟩

lemma planSetGroupWeight_eq_ok {m : ManagedNodes} {provider country : String} {weight : Nat}
    {plan : Plan Nat} (h : m.planSetGroupWeight provider country weight = .ok plan) :
    weight ≤ maxWeight ∧ plan.next = m.setWeight provider country weight ∧
      (plan.writes = false → plan.next = m) := by
  unfold planSetGroupWeight at h
  dsimp only at h
  split at h
  · cases h
  · rename_i hw
    cases h
    refine ⟨Nat.not_lt.mp hw, rfl, ?_⟩
    intro hzero
    -- no node is in the group, so the list is the old one
    have hnone := List.countP_eq_zero.mp (Nat.eq_zero_of_not_pos (of_decide_eq_false hzero))
    apply ManagedNodes.ext
    have hmap := List.map_congr_left (g := id) (fun n hn => if_neg (hnone n hn) :
      ∀ n ∈ m.nodes, (if RouterEngine.inVendorGroup provider country n then
        { n with weight := weight } else n) = id n)
    rw [List.map_id] at hmap
    exact hmap

lemma AllNormal.append {m next : ManagedNodes} (hm : m.AllNormal) {node : ProxyNode}
    (hnode : Normal node) (hnext : next.nodes = m.nodes ++ [node]) : next.AllNormal := by
  intro n hn
  rw [hnext, List.mem_append, List.mem_singleton] at hn
  rcases hn with hn | rfl
  · exact hm n hn
  · exact hnode

lemma AllNormal.filter {m next : ManagedNodes} (hm : m.AllNormal) {p : ProxyNode → Bool}
    (hnext : next.nodes = m.nodes.filter p) : next.AllNormal := by
  intro n hn
  rw [hnext] at hn
  exact hm n (List.mem_of_mem_filter hn)

lemma AllNormal.planAdd {m : ManagedNodes} (hm : m.AllNormal) {raw : ProxyNode}
    {plan : Plan ProxyNode} (h : m.planAdd raw = .ok plan) : plan.next.AllNormal := by
  obtain ⟨hnode, hnext, -⟩ := planAdd_eq_ok h
  exact hm.append (normal_of_accepted hnode) hnext

lemma AllNormal.planRemove {m : ManagedNodes} (hm : m.AllNormal) {addr : String}
    {plan : Plan ProxyNode} (h : m.planRemove addr = .ok plan) : plan.next.AllNormal := by
  obtain ⟨-, -, hnext, -⟩ := planRemove_eq_ok h
  exact hm.filter hnext

lemma AllNormal.setWeight {m : ManagedNodes} (hm : m.AllNormal) (provider country : String)
    {weight : Nat} (hw : weight ≤ maxWeight) : (m.setWeight provider country weight).AllNormal := by
  intro n hn
  obtain ⟨k, hk, rfl⟩ := List.mem_map.mp hn
  split
  · exact (hm k hk).withWeight hw
  · exact hm k hk

lemma AllNormal.planSetGroupWeight {m : ManagedNodes} (hm : m.AllNormal) {provider country : String}
    {weight : Nat} {plan : Plan Nat} (h : m.planSetGroupWeight provider country weight = .ok plan) :
    plan.next.AllNormal := by
  obtain ⟨hw, hnext, -⟩ := planSetGroupWeight_eq_ok h
  rw [hnext]
  exact hm.setWeight provider country hw

end ManagedNodes

/-! ### A written file is read back -/

namespace RegistryConfig

variable {cfg : RegistryConfig}

/-- A successful write leaves the text of the list, unless there is no path to write to. -/
lemma persist_eq_ok {file file' : FileState} {m : ManagedNodes} {call : PersistIo}
    (h : cfg.persist file m call = .ok file') :
    (cfg.path = none ∧ file' = file) ∨
      ∃ p raw, cfg.path = some p ∧ file' = .text raw ∧
        cfg.json.toVecPretty (NodesFile.ofNodes m.nodes).toJson = .ok raw := by
  unfold persist at h
  split at h
  · rename_i hpath
    cases h
    exact .inl ⟨hpath, rfl⟩
  · rename_i p hpath
    split at h
    · cases h
    · split at h
      · cases h
      · rename_i data hdata
        split at h
        · cases h
        · split at h
          · cases h
          · cases h
            exact .inr ⟨p, data, hpath, rfl, hdata⟩

lemma toNodes_ofNode (path : String) {l : List ProxyNode} (hl : ∀ n ∈ l, Normal n) (i : Nat) :
    toNodes path i (l.map PersistedNode.ofNode) = .ok (l.map (fun n => n.withExitIp none)) := by
  induction l generalizing i with
  | nil => rfl
  | cons n ns ih =>
    have hn := toNode_ofNode (hl n List.mem_cons_self)
    have hns := ih (fun k hk => hl k (List.mem_cons_of_mem _ hk)) (i + 1)
    rw [List.map_cons, toNodes, hn]
    dsimp only
    rw [hns]
    rfl

lemma loadFile_written (hjson : cfg.json.RoundTrips) {m : ManagedNodes} (hm : m.AllNormal)
    {raw : String} (hraw : cfg.json.toVecPretty (NodesFile.ofNodes m.nodes).toJson = .ok raw)
    (path : String) : cfg.loadFile path raw = .ok m.withoutExits := by
  have hread : NodesFile.fromJson (NodesFile.ofNodes m.nodes).toJson =
      some (NodesFile.ofNodes m.nodes) := by
    rw [NodesFile.fromJson_toJson, if_pos]
    refine ⟨show nodesFileVersion < 2 ^ 32 by decide, ?_⟩
    intro p hp
    obtain ⟨n, hn, rfl⟩ := List.mem_map.mp hp
    have hw := (hm n hn).weight_le
    unfold maxWeight at hw
    change n.weight < 2 ^ 32
    omega
  unfold loadFile
  rw [hjson _ raw hraw]
  dsimp only
  rw [hread]
  dsimp only
  rw [if_neg (by simp [NodesFile.ofNodes]), NodesFile.ofNodes]
  dsimp only
  rw [toNodes_ofNode path hm 0]
  exact ensureUniqueAndBounded_managed m.withoutExits

/-- The file written for a list of normal nodes loads to that list without its exit addresses,
whatever the seeds. -/
theorem load_persist (hjson : cfg.json.RoundTrips) {file file' : FileState} {m : ManagedNodes}
    (hm : m.AllNormal) {call : PersistIo} (h : cfg.persist file m call = .ok file')
    (hpath : cfg.path.isSome) (seeds : List ProxyNode) : cfg.load file' seeds = .ok m.withoutExits := by
  rcases persist_eq_ok h with ⟨hnone, -⟩ | ⟨p, raw, hp, rfl, hraw⟩
  · rw [hnone] at hpath
    cases hpath
  · unfold load
    rw [hp]
    dsimp only
    rw [loadFile_written hjson hm hraw]
    exact ensureUniqueAndBounded_managed m.withoutExits

lemma toNodes_normal {path : String} {i : Nat} {ps : List PersistedNode} {nodes : List ProxyNode}
    (h : toNodes path i ps = .ok nodes) : ∀ n ∈ nodes, Normal n ∧ n.exitIp = none := by
  induction ps generalizing i nodes with
  | nil =>
    cases h
    simp
  | cons p ps ih =>
    unfold toNodes at h
    split at h
    · cases h
    · rename_i node hnode
      cases hrest : toNodes path (i + 1) ps with
      | error e => rw [hrest] at h; cases h
      | ok rest =>
        rw [hrest] at h
        cases h
        intro n hn
        rcases List.mem_cons.mp hn with rfl | hn
        · unfold PersistedNode.toNode at hnode
          split at hnode
          · cases hnode
          · refine ⟨normal_of_accepted hnode, ?_⟩
            rw [((normalizeAndValidate_eq_ok_iff _ _).mp hnode).eq]
            rfl
        · exact ih hrest n hn

/-- What `load` returns are the seeds, or nodes that the validator has passed. -/
lemma load_cases {file : FileState} {seeds : List ProxyNode} {m : ManagedNodes}
    (h : cfg.load file seeds = .ok m) :
    (m.nodes = seeds ∧ (cfg.path = none ∨ file = .absent)) ∨
      ∀ n ∈ m.nodes, Normal n ∧ n.exitIp = none := by
  unfold load at h
  split at h
  · rename_i p raw hp
    cases hload : cfg.loadFile p.path raw with
    | error e => rw [hload] at h; cases h
    | ok nodes =>
      rw [hload] at h
      have hm : m.nodes = nodes.nodes := ensureUniqueAndBounded_nodes h
      right
      rw [hm]
      unfold loadFile at hload
      split at hload
      · cases hload
      · split at hload
        · cases hload
        · split at hload
          · cases hload
          · rename_i file' _ _
            cases hnodes : toNodes p.path 0 file'.nodes with
            | error e => rw [hnodes] at hload; cases hload
            | ok l =>
              rw [hnodes] at hload
              rw [ensureUniqueAndBounded_nodes hload]
              exact toNodes_normal hnodes
  · cases h
  · exact .inl ⟨ensureUniqueAndBounded_nodes h, .inr rfl⟩
  · rename_i hp
    exact .inl ⟨ensureUniqueAndBounded_nodes h, .inl hp⟩

end RegistryConfig

/-! ### What a call does -/

namespace NodeRegistry

variable {α ω : Type} {cfg : RegistryConfig}

/-- The ways in which a planned call ends. -/
inductive Carried (cfg : RegistryConfig) (s : NodeRegistry ω) (plan : Plan α)
    (apply : ω → Except String Unit × ω) (calls : CallIo) : Outcome α ω → Prop
  | unwritten (e : RegistryError) : cfg.persist s.file plan.next calls.write = .error e →
      Carried cfg s plan apply calls ⟨.error e, none, false, s⟩
  | applied (file : FileState) (world : ω) : plan.writes = true →
      cfg.persist s.file plan.next calls.write = .ok file → apply s.world = (.ok (), world) →
      Carried cfg s plan apply calls
        ⟨.ok plan.value, none, cfg.path.isSome, ⟨plan.next, file, world⟩⟩
  | appliedUnwritten (world : ω) : plan.writes = false → apply s.world = (.ok (), world) →
      Carried cfg s plan apply calls ⟨.ok plan.value, none, false, ⟨s.nodes, s.file, world⟩⟩
  | rolledBack (e : String) (file file' : FileState) (world : ω) :
      cfg.persist s.file plan.next calls.write = .ok file → apply s.world = (.error e, world) →
      cfg.persist file s.nodes calls.rollback = .ok file' →
      Carried cfg s plan apply calls
        ⟨.error (.apply e), some (.ok ()), cfg.path.isSome, ⟨s.nodes, file', world⟩⟩
  | rollbackFailed (e : String) (rb : RegistryError) (file : FileState) (world : ω) :
      cfg.persist s.file plan.next calls.write = .ok file → apply s.world = (.error e, world) →
      cfg.persist file s.nodes calls.rollback = .error rb →
      Carried cfg s plan apply calls
        ⟨.error (.apply e), some (.error rb), cfg.path.isSome, ⟨s.nodes, file, world⟩⟩
  | refusedUnwritten (e : String) (world : ω) : plan.writes = false →
      apply s.world = (.error e, world) →
      Carried cfg s plan apply calls ⟨.error (.apply e), none, false, ⟨s.nodes, s.file, world⟩⟩

lemma carryOut_carried (s : NodeRegistry ω) (plan : Plan α) (apply : ω → Except String Unit × ω)
    (calls : CallIo) : Carried cfg s plan apply calls (s.carryOut cfg plan apply calls) := by
  unfold carryOut
  cases hw : plan.writes with
  | false =>
    simp only [Bool.false_eq_true, if_false, Bool.false_and]
    rcases hres : apply s.world with ⟨res, world⟩
    cases res with
    | ok u => exact .appliedUnwritten world hw hres
    | error e => exact .refusedUnwritten e world hw hres
  | true =>
    simp only [if_true, Bool.true_and]
    cases hp : cfg.persist s.file plan.next calls.write with
    | error e => exact .unwritten e hp
    | ok file =>
      dsimp only
      rcases hres : apply s.world with ⟨res, world⟩
      cases res with
      | ok u => exact .applied file world hw hp hres
      | error e =>
        dsimp only
        cases hrb : cfg.persist file s.nodes calls.rollback with
        | ok file' => exact .rolledBack e file file' world hp hres hrb
        | error rb => exact .rollbackFailed e rb file world hp hres hrb

/-- The call as a whole: it stops at once, or carries a plan out. -/
lemma execute_cases (cfg : RegistryConfig) (s : NodeRegistry ω) (plan : Except RegistryError (Plan α))
    (apply : α → ω → Except String Unit × ω) (calls : CallIo) :
    (∃ e, plan = .error e ∧ s.execute cfg plan apply calls = ⟨.error e, none, false, s⟩) ∨
      ∃ p, plan = .ok p ∧ Carried cfg s p (apply p.value) calls (s.execute cfg plan apply calls) := by
  cases plan with
  | error e => exact .inl ⟨e, rfl, rfl⟩
  | ok p => exact .inr ⟨p, rfl, carryOut_carried s p (apply p.value) calls⟩

/-- The next startup succeeds, whatever its seeds. -/
def Loads (cfg : RegistryConfig) (s : NodeRegistry ω) : Prop :=
  ∀ seeds, ∃ m, cfg.load s.file seeds = .ok m

/-- The next startup finds the list in memory, in order, on every field but the exit address. -/
def Matches (cfg : RegistryConfig) (s : NodeRegistry ω) : Prop :=
  ∀ seeds, ∃ m, cfg.load s.file seeds = .ok m ∧
    m.nodes = s.nodes.nodes.map (fun n => n.withExitIp none)

/-- What a call must leave behind. -/
structure Sound (cfg : RegistryConfig) (o : Outcome α ω) : Prop where
  normal : o.next.nodes.AllNormal
  loads : o.wrote = true → o.next.Loads cfg
  agrees : o.wrote = true → ¬o.RollbackFailed → o.next.Matches cfg

lemma sound_of_unwritten {s : NodeRegistry ω} (hs : s.nodes.AllNormal) {o : Outcome α ω}
    (hnodes : o.next.nodes = s.nodes) (hwrote : o.wrote = false) : Sound cfg o := by
  refine ⟨hnodes ▸ hs, ?_, ?_⟩
  · intro h
    rw [hwrote] at h
    cases h
  · intro h
    rw [hwrote] at h
    cases h

lemma matches_of_persist (hjson : cfg.json.RoundTrips) {file file' : FileState} {s : NodeRegistry ω}
    (hs : s.nodes.AllNormal) {call : PersistIo} (hpath : cfg.path.isSome)
    (h : cfg.persist file s.nodes call = .ok file') (hfile : s.file = file') : s.Matches cfg := by
  intro seeds
  refine ⟨s.nodes.withoutExits, ?_, rfl⟩
  rw [hfile]
  exact RegistryConfig.load_persist hjson hs h hpath seeds

lemma Matches.loads {s : NodeRegistry ω} (h : s.Matches cfg) : s.Loads cfg := by
  intro seeds
  obtain ⟨m, hm, -⟩ := h seeds
  exact ⟨m, hm⟩

lemma Carried.sound (hjson : cfg.json.RoundTrips) {s : NodeRegistry ω} (hs : s.nodes.AllNormal)
    {plan : Plan α} (hplan : plan.next.AllNormal) {apply : ω → Except String Unit × ω}
    {calls : CallIo} {o : Outcome α ω} (h : Carried cfg s plan apply calls o) : Sound cfg o := by
  cases h with
  | unwritten e hp => exact sound_of_unwritten hs rfl rfl
  | applied file world hw hp ha =>
    have hmatch : cfg.path.isSome = true → NodeRegistry.Matches cfg ⟨plan.next, file, world⟩ :=
      fun hpath => matches_of_persist hjson hplan hpath hp rfl
    exact ⟨hplan, fun hwrote => (hmatch hwrote).loads, fun hwrote _ => hmatch hwrote⟩
  | appliedUnwritten world hw ha => exact sound_of_unwritten hs rfl rfl
  | rolledBack e file file' world hp ha hrb =>
    have hmatch : cfg.path.isSome = true → NodeRegistry.Matches cfg ⟨s.nodes, file', world⟩ :=
      fun hpath => matches_of_persist (s := ⟨s.nodes, file', world⟩) hjson hs hpath hrb rfl
    exact ⟨hs, fun hwrote => (hmatch hwrote).loads, fun hwrote _ => hmatch hwrote⟩
  | rollbackFailed e rb file world hp ha hrb =>
    -- the file still holds the list that the call tried to install
    have hmatch : cfg.path.isSome = true → NodeRegistry.Matches cfg ⟨plan.next, file, world⟩ :=
      fun hpath => matches_of_persist hjson hplan hpath hp rfl
    exact ⟨hs, fun hwrote => (hmatch hwrote).loads, fun _ hok => absurd ⟨rb, rfl⟩ hok⟩
  | refusedUnwritten e world hw ha => exact sound_of_unwritten hs rfl rfl

lemma execute_sound (hjson : cfg.json.RoundTrips) {s : NodeRegistry ω} (hs : s.nodes.AllNormal)
    {plan : Except RegistryError (Plan α)} (hplan : ∀ p, plan = .ok p → p.next.AllNormal)
    (apply : α → ω → Except String Unit × ω) (calls : CallIo) :
    Sound cfg (s.execute cfg plan apply calls) := by
  rcases execute_cases cfg s plan apply calls with ⟨e, -, ho⟩ | ⟨p, hp, hcarried⟩
  · rw [ho]
    exact sound_of_unwritten hs rfl rfl
  · exact hcarried.sound hjson hs (hplan p hp)

lemma Sound.void {o : Outcome α ω} (h : Sound cfg o) : Sound cfg o.void := ⟨h.normal, h.loads, h.agrees⟩

lemma perform_sound (hjson : cfg.json.RoundTrips) {s : NodeRegistry ω} (hs : s.nodes.AllNormal)
    (call : RegistryCall ω) : Sound cfg (s.perform cfg call) := by
  cases call with
  | add raw apply calls => exact (execute_sound hjson hs (fun _ => hs.planAdd) _ calls).void
  | remove addr apply calls => exact (execute_sound hjson hs (fun _ => hs.planRemove) _ calls).void
  | setGroupWeight provider country weight apply calls =>
    exact (execute_sound hjson hs (fun _ => hs.planSetGroupWeight) _ calls).void

lemma loaded_normal {file : FileState} {seeds : List ProxyNode} {m : ManagedNodes}
    (hload : cfg.load file seeds = .ok m)
    (hseeds : cfg.path = none ∨ file = .absent → ∀ n ∈ seeds, Normal n) : m.AllNormal := by
  rcases RegistryConfig.load_cases hload with ⟨hnodes, hsource⟩ | hnormal
  · intro n hn
    rw [hnodes] at hn
    exact hseeds hsource n hn
  · exact fun n hn => (hnormal n hn).1

/-- For every registry loaded from seeds that are normal, or from any file that loads, and every
sequence of calls: after each call that wrote the file the next startup succeeds, and it finds the
list in memory unless the rollback of that call failed. -/
theorem written_file_loads (hjson : cfg.json.RoundTrips) {file : FileState}
    {seeds : List ProxyNode} {m : ManagedNodes} (hload : cfg.load file seeds = .ok m)
    (hseeds : cfg.path = none ∨ file = .absent → ∀ n ∈ seeds, Normal n) (world : ω)
    (calls : List (RegistryCall ω)) :
    Along (step cfg) (fun s call => (s.perform cfg call).wrote = true →
      (s.step cfg call).Loads cfg ∧
        (¬(s.perform cfg call).RollbackFailed → (s.step cfg call).Matches cfg))
      ⟨m, file, world⟩ calls := by
  have hstep : ∀ (s : NodeRegistry ω) call, s.nodes.AllNormal → (s.step cfg call).nodes.AllNormal :=
    fun s call hs => (perform_sound hjson hs call).normal
  apply along_of_invariant hstep
  · intro s call hs hwrote
    have hsound := perform_sound hjson hs call
    exact ⟨hsound.loads hwrote, hsound.agrees hwrote⟩
  · exact loaded_normal hload hseeds

/-! ### A failed rollback -/

/-- A JSON text layer that knows the texts of some files. -/
def tabledText (entries : List (NodesFile × String)) : JsonText where
  toVecPretty j :=
    match entries.find? (fun e => NodesFile.fromJson j = some e.1) with
    | some e => .ok e.2
    | none => .error "text not tabled"
  fromStr raw :=
    match entries.find? (fun e => e.2 = raw) with
    | some e => .ok e.1.toJson
    | none => .error "text not tabled"
  shapeError _ := "invalid type"

lemma tabledText_roundTrips {entries : List (NodesFile × String)}
    (hdistinct : (entries.map Prod.snd).Nodup) : (tabledText entries).RoundTrips := by
  intro file raw hraw
  unfold tabledText at hraw ⊢
  dsimp only at hraw ⊢
  cases hfind : entries.find? (fun e => NodesFile.fromJson file.toJson = some e.1) with
  | none => rw [hfind] at hraw; cases hraw
  | some e =>
    rw [hfind] at hraw
    cases hraw
    have hfile : file = e.1 := by
      have he := List.find?_some hfind
      rw [decide_eq_true_eq, NodesFile.fromJson_toJson] at he
      split at he
      · exact Option.some.inj he
      · cases he
    have hmem : e ∈ entries := List.mem_of_find?_eq_some hfind
    cases hback : entries.find? (fun f => f.2 = e.2) with
    | none =>
      have hnone := List.find?_eq_none.mp hback e hmem
      simp at hnone
    | some f =>
      have hf : f.2 = e.2 := by simpa using List.find?_some hback
      rw [List.inj_on_of_nodup_map hdistinct (List.mem_of_find?_eq_some hback) hmem hf, hfile]

def vendorNode : ProxyNode := .new "203.0.113.1" 8080 none none "US" "residential" "mock-a" 100

/-- The texts of the file without nodes and of the file with `vendorNode`. -/
def vendorText : JsonText := tabledText [
  (NodesFile.ofNodes [], "\x7b\n  \"version\": 1,\n  \"nodes\": []\n\x7d"),
  (NodesFile.ofNodes [vendorNode], "\x7b\n  \"version\": 1,\n  \"nodes\": [\n    \x7b\n" ++
    "      \"ip\": \"203.0.113.1\",\n      \"port\": 8080,\n      \"country\": \"US\",\n" ++
    "      \"tier\": \"residential\",\n      \"provider\": \"mock-a\",\n" ++
    "      \"weight\": 100,\n      \"proto\": \"http\"\n    \x7d\n  ]\n\x7d")]

def vendorConfig : RegistryConfig where
  json := vendorText
  path := some ⟨"data/nodes.json", some "data", "data/nodes.json.tmp.7"⟩

lemma vendorConfig_roundTrips : vendorConfig.json.RoundTrips :=
  tabledText_roundTrips (by decide)

def noNodes : ManagedNodes := ⟨[], by simp, by simp⟩

def acceptedAdd : RegistryCall Unit := .add vendorNode (fun _ _ => (.ok (), ())) {}

/-- A refused addition whose rollback cannot rename its file. -/
def refusedAdd : RegistryCall Unit :=
  .add vendorNode (fun _ _ => (.error "refused", ())) ⟨{}, { rename := .error "access denied" }⟩

def emptyRegistry : NodeRegistry Unit := ⟨noNodes, .absent, ()⟩

/-- An accepted addition to an empty registry is found by the next startup. -/
theorem accepted_add_matches : (emptyRegistry.step vendorConfig acceptedAdd).Matches vendorConfig := by
  have hload : vendorConfig.load .absent [] = .ok noNodes := rfl
  have hrun := written_file_loads vendorConfig_roundTrips hload (by simp) () [acceptedAdd]
  have hwrote : (emptyRegistry.perform vendorConfig acceptedAdd).wrote = true := by decide +kernel
  have hrollback : (emptyRegistry.perform vendorConfig acceptedAdd).rollback.isNone = true := by
    decide +kernel
  apply (hrun.1 hwrote).2
  rintro ⟨e, he⟩
  have he' : (emptyRegistry.perform vendorConfig acceptedAdd).rollback = some (.error e) := he
  rw [he'] at hrollback
  cases hrollback

/-- The next startup finds a node that the list in memory does not hold. -/
theorem failed_rollback_diverges :
    vendorConfig.json.RoundTrips ∧ vendorConfig.load .absent [] = .ok noNodes ∧
      (emptyRegistry.perform vendorConfig refusedAdd).wrote = true ∧
      ¬(emptyRegistry.step vendorConfig refusedAdd).Matches vendorConfig := by
  refine ⟨vendorConfig_roundTrips, rfl, by decide +kernel, ?_⟩
  intro hmatch
  obtain ⟨m, hm, hnodes⟩ := hmatch []
  have hone : (vendorConfig.load (emptyRegistry.step vendorConfig refusedAdd).file []).map
      (fun m => m.nodes.length) = .ok 1 := by decide +kernel
  have hnone : (emptyRegistry.step vendorConfig refusedAdd).nodes.nodes = [] := by decide +kernel
  rw [hm] at hone
  have hlen : m.nodes.length = 1 := Except.ok.inj hone
  rw [hnodes, hnone] at hlen
  cases hlen

end NodeRegistry

end IPProxyPool
