import IPProxyPool.Model.NodeFile
import IPProxyPool.Model.Writers

/-!
# Registry of operator-managed nodes

`NodeRegistry` with the file behind it and the world its `apply` closures act on. Each step of a
write to disk takes its outcome as an argument, so that every failure point occurs. The three
operations share one tail: persist the new list, apply it, keep it in memory, and write the old
list back when the application is refused.
-/

namespace IPProxyPool
open RustText

/-- `RegistryError::Persist`, with the paths its text names. -/
inductive PersistError where
  | createDir (parent e : String)
  | serialize (e : String)
  | writeTemp (tmp e : String)
  | rename (tmp path e : String)
  | read (path e : String)
  | parse (path e : String)
  | version (path : String) (found : Nat)
  | node (path : String) (index : Nat) (e : NodeError)
  deriving DecidableEq

inductive RegistryError where
  | validation (e : NodeError)
  | duplicate (addr : String)
  | notFound (addr : String)
  | persist (e : PersistError)
  | apply (m : String)
  deriving DecidableEq

def PersistError.text (debug : String → String) : PersistError → String
  | .createDir parent e => "create parent dir " ++ parent ++ ": " ++ e
  | .serialize e => "serialize: " ++ e
  | .writeTemp tmp e => "write temp file " ++ tmp ++ ": " ++ e
  | .rename tmp path e => "atomic rename " ++ tmp ++ " -> " ++ path ++ ": " ++ e
  | .read path e => "read " ++ path ++ ": " ++ e
  | .parse path e => "parse " ++ path ++ ": " ++ e
  | .version path found => path ++ ": unsupported version " ++ toString found ++
      " (expected " ++ toString nodesFileVersion ++ ")"
  | .node path index e => path ++ ": nodes[" ++ toString index ++ "]: invalid node: " ++ e.text debug

/-- The `Display` form. -/
def RegistryError.text (debug : String → String) : RegistryError → String
  | .validation e => "invalid node: " ++ e.text debug
  | .duplicate addr => "duplicate node: " ++ addr
  | .notFound addr => "node not found: " ++ addr
  | .persist e => "node registry persistence failed: " ++ e.text debug
  | .apply m => "node change could not be applied: " ++ m

/-! ### The list in memory -/

/-- A list of managed nodes: within the limit and without a repeated address. -/
@[ext]
structure ManagedNodes where
  nodes : List ProxyNode
  unique : (nodes.map ProxyNode.addr).Nodup
  bounded : nodes.length ≤ maxManagedNodes

/-- The first address that an earlier node has, too. -/
def firstDuplicate : List String → List ProxyNode → Option String
  | _, [] => none
  | seen, n :: ns => if n.addr ∈ seen then some n.addr else firstDuplicate (n.addr :: seen) ns

lemma firstDuplicate_eq_none {seen : List String} {nodes : List ProxyNode}
    (h : firstDuplicate seen nodes = none) :
    (nodes.map ProxyNode.addr).Nodup ∧ ∀ n ∈ nodes, n.addr ∉ seen := by
  induction nodes generalizing seen with
  | nil => simp
  | cons n ns ih =>
    unfold firstDuplicate at h
    split at h
    · cases h
    · rename_i hn
      obtain ⟨hnodup, hseen⟩ := ih h
      constructor
      · rw [List.map_cons, List.nodup_cons]
        refine ⟨?_, hnodup⟩
        intro hmem
        obtain ⟨m, hm, haddr⟩ := List.mem_map.mp hmem
        exact hseen m hm (by simp [haddr])
      · intro m hm
        rcases List.mem_cons.mp hm with rfl | hm
        · exact hn
        · intro hmseen
          exact hseen m hm (List.mem_cons_of_mem _ hmseen)

lemma firstDuplicate_of_nodup {seen : List String} {nodes : List ProxyNode}
    (hnodup : (nodes.map ProxyNode.addr).Nodup) (hseen : ∀ n ∈ nodes, n.addr ∉ seen) :
    firstDuplicate seen nodes = none := by
  induction nodes generalizing seen with
  | nil => rfl
  | cons n ns ih =>
    rw [List.map_cons, List.nodup_cons] at hnodup
    unfold firstDuplicate
    rw [if_neg (hseen n List.mem_cons_self)]
    apply ih hnodup.2
    intro m hm
    rw [List.mem_cons, not_or]
    refine ⟨?_, hseen m (List.mem_cons_of_mem _ hm)⟩
    intro haddr
    exact hnodup.1 (List.mem_map.mpr ⟨m, hm, haddr⟩)

def ensureUniqueAndBounded (nodes : List ProxyNode) : Except RegistryError ManagedNodes :=
  if hlen : maxManagedNodes < nodes.length then .error (.validation (.tooManyNodes nodes.length))
  else
    match hdup : firstDuplicate [] nodes with
    | some addr => .error (.duplicate addr)
    | none => .ok ⟨nodes, (firstDuplicate_eq_none hdup).1, Nat.not_lt.mp hlen⟩

/-- A list of managed nodes passes its own check. -/
lemma ensureUniqueAndBounded_managed (m : ManagedNodes) :
    ensureUniqueAndBounded m.nodes = .ok m := by
  unfold ensureUniqueAndBounded
  rw [dif_neg (Nat.not_lt.mpr m.bounded)]
  split
  · rename_i addr hdup
    rw [firstDuplicate_of_nodup m.unique (by simp)] at hdup
    cases hdup
  · rfl

lemma ensureUniqueAndBounded_nodes {nodes : List ProxyNode} {m : ManagedNodes}
    (h : ensureUniqueAndBounded nodes = .ok m) : m.nodes = nodes := by
  unfold ensureUniqueAndBounded at h
  split at h
  · cases h
  · split at h
    · cases h
    · cases h
      rfl

namespace ManagedNodes

def push (m : ManagedNodes) (node : ProxyNode) (hroom : ¬maxManagedNodes ≤ m.nodes.length)
    (hnew : ¬m.nodes.any (fun n => n.addr = node.addr) = true) : ManagedNodes where
  nodes := m.nodes ++ [node]
  unique := by
    rw [List.map_append, List.nodup_append]
    refine ⟨m.unique, by simp, ?_⟩
    intro a ha b hb hab
    rw [List.map_cons, List.map_nil, List.mem_singleton] at hb
    obtain ⟨n, hn, rfl⟩ := List.mem_map.mp ha
    exact hnew (List.any_eq_true.mpr ⟨n, hn, by simp [hab, hb]⟩)
  bounded := by
    rw [List.length_append, List.length_singleton]
    omega

/-- The list without the node at a position. -/
def eraseAt (m : ManagedNodes) (idx : Nat) : ManagedNodes where
  nodes := m.nodes.eraseIdx idx
  unique := m.unique.sublist ((List.eraseIdx_sublist m.nodes idx).map ProxyNode.addr)
  bounded := le_trans (List.eraseIdx_sublist m.nodes idx).length_le m.bounded

/-- The weight of a vendor's nodes in a country. -/
def setWeight (m : ManagedNodes) (provider country : String) (weight : Nat) : ManagedNodes where
  nodes := m.nodes.map (fun n =>
    if RouterEngine.inVendorGroup provider country n then { n with weight := weight } else n)
  unique := by
    have haddr : (m.nodes.map (fun n => if RouterEngine.inVendorGroup provider country n then
        { n with weight := weight } else n)).map ProxyNode.addr = m.nodes.map ProxyNode.addr := by
      rw [List.map_map]
      apply List.map_congr_left
      intro n _
      dsimp only [Function.comp_apply]
      split <;> rfl
    rw [haddr]
    exact m.unique
  bounded := by
    rw [List.length_map]
    exact m.bounded

end ManagedNodes

/-! ### The file -/

structure NodesPath where
  path : String
  /-- The parent directory, where the path names one. -/
  parent : Option String
  tmp : String

/-- What is at the path: nothing, something that cannot be read as text, or a text. -/
inductive FileState where
  | absent
  | unreadable (e : String)
  | text (raw : String)

/-- Outcomes of the system calls of one `persist`. -/
structure PersistIo where
  createDir : Except String Unit := .ok ()
  writeTemp : Except String Unit := .ok ()
  rename : Except String Unit := .ok ()

structure RegistryConfig where
  json : JsonText
  path : Option NodesPath

namespace RegistryConfig

variable (cfg : RegistryConfig)

/-- `persist`: the file afterwards. Without a path nothing is written, and a failure before the
rename, or of the rename itself, leaves the file as it was. -/
def persist (file : FileState) (nodes : ManagedNodes) (call : PersistIo) :
    Except RegistryError FileState :=
  match cfg.path with
  | none => .ok file
  | some p =>
    match p.parent, call.createDir with
    | some parent, .error e => .error (.persist (.createDir parent e))
    | _, _ =>
      match cfg.json.toVecPretty (NodesFile.ofNodes nodes.nodes).toJson with
      | .error e => .error (.persist (.serialize e))
      | .ok data =>
        match call.writeTemp with
        | .error e => .error (.persist (.writeTemp p.tmp e))
        | .ok () =>
          match call.rename with
          | .error e => .error (.persist (.rename p.tmp p.path e))
          | .ok () => .ok (.text data)

/-- The nodes of a file, numbered from `i` for the error text. -/
def toNodes (path : String) : Nat → List PersistedNode → Except RegistryError (List ProxyNode)
  | _, [] => .ok []
  | i, p :: ps =>
    match p.toNode with
    | .error e => .error (.persist (.node path i e))
    | .ok node => (toNodes path (i + 1) ps).map (fun nodes => node :: nodes)

def loadFile (path raw : String) : Except RegistryError ManagedNodes :=
  match cfg.json.fromStr raw with
  | .error e => .error (.persist (.parse path e))
  | .ok j =>
    match NodesFile.fromJson j with
    | none => .error (.persist (.parse path (cfg.json.shapeError j)))
    | some file =>
      if file.version ≠ nodesFileVersion then .error (.persist (.version path file.version))
      else (toNodes path 0 file.nodes).bind ensureUniqueAndBounded

/-- `NodeRegistry::load`: an existing file decides, whatever the seeds are. -/
def load (file : FileState) (seeds : List ProxyNode) : Except RegistryError ManagedNodes :=
  match cfg.path, file with
  | some p, .text raw =>
    (cfg.loadFile p.path raw).bind (fun nodes => ensureUniqueAndBounded nodes.nodes)
  | some p, .unreadable e => .error (.persist (.read p.path e))
  | some _, .absent => ensureUniqueAndBounded seeds
  | none, _ => ensureUniqueAndBounded seeds

end RegistryConfig

/-! ### Operations -/

/-- The managed list, the file, and the world of the `apply` closures. -/
structure NodeRegistry (ω : Type) where
  nodes : ManagedNodes
  file : FileState
  world : ω

/-- What a call returned, how its rollback ended if it made one, whether it replaced the file, and
the state it left. -/
structure Outcome (α ω : Type) where
  result : Except RegistryError α
  rollback : Option (Except RegistryError Unit)
  wrote : Bool
  next : NodeRegistry ω

def Outcome.RollbackFailed {α ω : Type} (o : Outcome α ω) : Prop := ∃ e, o.rollback = some (.error e)

/-- Outcomes of the system calls of an operation: of its own write and of the rollback. -/
structure CallIo where
  write : PersistIo := {}
  rollback : PersistIo := {}

/-- What an operation decides under the lock before it writes: the value to return, the list to
install, and whether that list is to be written. -/
structure Plan (α : Type) where
  value : α
  next : ManagedNodes
  writes : Bool

namespace ManagedNodes

/-- The checks of `add`. -/
def planAdd (m : ManagedNodes) (raw : ProxyNode) : Except RegistryError (Plan ProxyNode) :=
  match normalizeAndValidate raw with
  | .error e => .error (.validation e)
  | .ok node =>
    if hroom : maxManagedNodes ≤ m.nodes.length then .error (.validation .limitReached)
    else if hnew : m.nodes.any (fun n => n.addr = node.addr) = true then .error (.duplicate node.addr)
    else .ok ⟨node, m.push node hroom hnew, true⟩

def planRemove (m : ManagedNodes) (addr : String) : Except RegistryError (Plan ProxyNode) :=
  let idx := m.nodes.findIdx (fun n => n.addr = addr)
  match m.nodes[idx]? with
  | none => .error (.notFound addr)
  | some removed => .ok ⟨removed, m.eraseAt idx, true⟩

/-- A group without managed nodes is not written. -/
def planSetGroupWeight (m : ManagedNodes) (provider country : String) (weight : Nat) :
    Except RegistryError (Plan Nat) :=
  if maxWeight < weight then .error (.validation (.weightExceeds weight))
  else
    let changed := m.nodes.countP (RouterEngine.inVendorGroup provider country)
    .ok ⟨changed, m.setWeight provider country weight, decide (0 < changed)⟩

end ManagedNodes

namespace NodeRegistry

variable {α ω : Type} (cfg : RegistryConfig)

/-- Persist, apply, keep; on a refused application write the old list back. -/
def carryOut (s : NodeRegistry ω) (plan : Plan α) (apply : ω → Except String Unit × ω)
    (calls : CallIo) : Outcome α ω :=
  match if plan.writes then cfg.persist s.file plan.next calls.write else .ok s.file with
  | .error e => ⟨.error e, none, false, s⟩
  | .ok file =>
    let wrote := plan.writes && cfg.path.isSome
    match apply s.world with
    | (.ok (), world) =>
      ⟨.ok plan.value, none, wrote, ⟨if plan.writes then plan.next else s.nodes, file, world⟩⟩
    | (.error e, world) =>
      if plan.writes then
        match cfg.persist file s.nodes calls.rollback with
        | .ok file' => ⟨.error (.apply e), some (.ok ()), wrote, ⟨s.nodes, file', world⟩⟩
        | .error rb => ⟨.error (.apply e), some (.error rb), wrote, ⟨s.nodes, file, world⟩⟩
      else ⟨.error (.apply e), none, wrote, ⟨s.nodes, file, world⟩⟩

/-- Runs a plan, or reports why there is none. -/
def execute (s : NodeRegistry ω) (plan : Except RegistryError (Plan α))
    (apply : α → ω → Except String Unit × ω) (calls : CallIo) : Outcome α ω :=
  match plan with
  | .error e => ⟨.error e, none, false, s⟩
  | .ok plan => s.carryOut cfg plan (apply plan.value) calls

def add (s : NodeRegistry ω) (raw : ProxyNode) (apply : ω → ProxyNode → Except String Unit × ω)
    (calls : CallIo) : Outcome ProxyNode ω :=
  s.execute cfg (s.nodes.planAdd raw) (fun node world => apply world node) calls

/-- `remove`: an `apply` that finds no node is a refusal. -/
def remove (s : NodeRegistry ω) (addr : String) (apply : ω → String → Bool × ω) (calls : CallIo) :
    Outcome ProxyNode ω :=
  s.execute cfg (s.nodes.planRemove addr)
    (fun _ world => match apply world addr with
      | (true, world') => (.ok (), world')
      | (false, world') => (.error ("router no longer contains " ++ addr), world')) calls

def setGroupWeight (s : NodeRegistry ω) (provider country : String) (weight : Nat)
    (apply : ω → String → String → Nat → Except String Unit × ω) (calls : CallIo) : Outcome Nat ω :=
  s.execute cfg (s.nodes.planSetGroupWeight provider country weight)
    (fun _ world => apply world provider country weight) calls

end NodeRegistry

/-- One call of an operation with its closure and the outcomes of its system calls. -/
inductive RegistryCall (ω : Type) where
  | add (raw : ProxyNode) (apply : ω → ProxyNode → Except String Unit × ω) (calls : CallIo)
  | remove (addr : String) (apply : ω → String → Bool × ω) (calls : CallIo)
  | setGroupWeight (provider country : String) (weight : Nat)
      (apply : ω → String → String → Nat → Except String Unit × ω) (calls : CallIo)

/-- An outcome without the returned value. -/
def Outcome.void {α ω : Type} (o : Outcome α ω) : Outcome Unit ω :=
  ⟨o.result.map (fun _ => ()), o.rollback, o.wrote, o.next⟩

lemma Outcome.void_next {α ω : Type} (o : Outcome α ω) : o.void.next = o.next := rfl

namespace NodeRegistry

variable {ω : Type} (cfg : RegistryConfig)

def perform (s : NodeRegistry ω) : RegistryCall ω → Outcome Unit ω
  | .add raw apply calls => (s.add cfg raw apply calls).void
  | .remove addr apply calls => (s.remove cfg addr apply calls).void
  | .setGroupWeight provider country weight apply calls =>
      (s.setGroupWeight cfg provider country weight apply calls).void

def step (s : NodeRegistry ω) (call : RegistryCall ω) : NodeRegistry ω := (s.perform cfg call).next

end NodeRegistry

/-- The initial nodes of `main.rs`. -/
def mainSeeds : List ProxyNode :=
  [.new "127.0.0.1" 8888 none none "US" "residential" "mock-a" 100,
    .new "127.0.0.1" 8889 none none "JP" "datacenter" "mock-b" 80,
    .new "127.0.0.1" 8890 none none "GB" "mobile" "mock-c" 60]

/-- The seeds pass the validator unchanged and have no measured exit address. -/
lemma mainSeeds_normal : ∀ n ∈ mainSeeds, Normal n ∧ n.exitIp = none := by
  decide +kernel

end IPProxyPool
