import IPProxyPool.Lib.CrashDisk
import IPProxyPool.Model.ControlPlane

/-!
# The node registry on a disk that may crash

`persist` down to its system calls: `write_private_file` opens, writes and flushes the temporary
file, the rename puts it in place, and where the path names a parent directory that directory is
flushed, its error being ignored. A call of the registry may be cut short after any of these, by
the end of the process or by a crash of the machine; the next process loads what it finds. The
directory itself is on disk throughout.
-/

namespace IPProxyPool
open RustText CrashDisk Transition

/-- What reading a file gives: its text, or why it has none. -/
abbrev FileContent := Except String String

def FileState.ofRead : Option FileContent → FileState
  | none => .absent
  | some (.ok raw) => .text raw
  | some (.error e) => .unreadable e

/-- `tmp_path`. -/
def tmpPath (path : String) (pid : Nat) : String := path ++ ".tmp." ++ toString pid

/-- The path of the node file, with its parent directory where it names one. -/
structure RegistryPlace where
  json : JsonText
  path : String
  parent : Option String

/-- What a process with this id works with. -/
def RegistryPlace.config (place : RegistryPlace) (pid : Nat) : RegistryConfig where
  json := place.json
  path := some ⟨place.path, place.parent, tmpPath place.path pid⟩

/-- Outcomes of the system calls of one `persist`, one by one. -/
structure DiskIo where
  createDir : Except String Unit := .ok ()
  openTmp : Except String Unit := .ok ()
  /-- The error of a `write_all`, with what it had written by then. -/
  writeAll : Except (String × FileContent) Unit := .ok ()
  syncAll : Except String Unit := .ok ()
  rename : Except String Unit := .ok ()
  removeFile : Bool := true
  /-- Whether the parent directory could be opened and flushed. -/
  syncDir : Bool := true

namespace DiskIo

/-- The result of `write_private_file`. -/
def writePrivateFile (io : DiskIo) : Except String Unit := do
  io.openTmp
  io.writeAll.mapError Prod.fst
  io.syncAll

/-- The same outcomes as the file-level `persist` takes them. -/
def persistIo (io : DiskIo) : PersistIo := ⟨io.createDir, io.writePrivateFile, io.rename⟩

def progress (io : DiskIo) (hasParent : Bool) : Progress FileContent :=
  match io.openTmp, io.writeAll, io.syncAll, io.rename with
  | .error _, _, _, _ => .unopened
  | _, .error (_, written), _, _ => .unwritten written
  | _, _, .error _, _ => .unflushed
  | _, _, _, .error _ => .unrenamed io.removeFile
  | _, _, _, .ok () => .renamed (hasParent && io.syncDir)

end DiskIo

/-- The calls that `persist` makes on the files. -/
def persistCalls (place : RegistryPlace) (pid : Nat) (nodes : ManagedNodes) (io : DiskIo) :
    List (Call String FileContent) :=
  match place.parent, io.createDir with
  | some _, .error _ => []
  | _, _ =>
    match place.json.toVecPretty (NodesFile.ofNodes nodes.nodes).toJson with
    | .error _ => []
    | .ok data =>
      replacement place.path (tmpPath place.path pid) (.ok "") (.ok data)
        (io.progress place.parent.isSome)

/-- Outcomes of the system calls of an operation: of its own write and of the rollback. -/
structure CallDiskIo where
  write : DiskIo := {}
  rollback : DiskIo := {}

def CallDiskIo.callIo (io : CallDiskIo) : CallIo := ⟨io.write.persistIo, io.rollback.persistIo⟩

/-- The process, the files, and the lists that the versions of the node file stand for, the latest
first, since its directory was last flushed. No process is left by a startup that was refused. -/
structure RegistryHost where
  pid : Nat
  process : Option (ManagedNodes × RouterEngine)
  disk : Disk String FileContent
  stored : List ManagedNodes

/-- A call that ends, or that is cut short after some of its system calls by the end of the process
or by a crash; what the rest of the gateway makes of the router in between. -/
inductive HostEvent where
  | call (call : RouterCall) (io : CallDiskIo)
  | router (world : RouterEngine)
  | kill (call : RouterCall) (io : CallDiskIo) (done pid : Nat)
  | crash (call : RouterCall) (io : CallDiskIo) (done : Nat) (c : Crash FileContent) (pid : Nat)

namespace RegistryHost

variable (place : RegistryPlace)

/-- The registry as the file-level model has it. -/
def registry (s : RegistryHost) (nodes : ManagedNodes) (world : RouterEngine) :
    NodeRegistry RouterEngine :=
  ⟨nodes, .ofRead (s.disk.read place.path), world⟩

/-- The lists that a call writes: the one it plans, and after a refused application the old one. -/
def persists (s : RegistryHost) (nodes : ManagedNodes) (world : RouterEngine) (call : RouterCall)
    (io : CallDiskIo) : List (ManagedNodes × DiskIo) :=
  match call.plan nodes with
  | .error _ => []
  | .ok plan =>
    if plan.writes then
      match (place.config s.pid).persist (.ofRead (s.disk.read place.path)) plan.next
          io.write.persistIo, (world.applyEdit plan.value).1 with
      | .ok _, .error _ => [(plan.next, io.write), (nodes, io.rollback)]
      | _, _ => [(plan.next, io.write)]
    else []

/-- The system calls of a call, each with the list it is about. -/
def systemCalls (s : RegistryHost) (call : RouterCall) (io : CallDiskIo) :
    List (ManagedNodes × Call String FileContent) :=
  match s.process with
  | none => []
  | some (nodes, world) => (s.persists place nodes world call io).flatMap
      (fun p => (persistCalls place s.pid p.1 p.2).map (fun c => (p.1, c)))

def systemCall (s : RegistryHost) (c : ManagedNodes × Call String FileContent) : RegistryHost :=
  { s with
    disk := s.disk.perform c.2
    stored := note place.path c.1 s.stored c.2 }

/-- After the first `done` system calls of a call. -/
def cut (s : RegistryHost) (call : RouterCall) (io : CallDiskIo) (done : Nat) : RegistryHost :=
  run (systemCall place) s ((s.systemCalls place call io).take done)

variable (seeds test : List ProxyNode)

/-- What a process that starts now loads. -/
def loaded (s : RegistryHost) (pid : Nat) : Except RegistryError ManagedNodes :=
  (place.config pid).load (.ofRead (s.disk.read place.path)) seeds

/-- The startup of `main.rs`: a file that does not load ends it. -/
def boot (s : RegistryHost) (pid : Nat) : RegistryHost :=
  { s with
    pid
    process := match s.loaded place seeds pid with
      | .ok m => some (m, .new (m.nodes ++ test))
      | .error _ => none }

/-- The machine comes up again with what was on disk. -/
def crash (s : RegistryHost) (c : Crash FileContent) (pid : Nat) : RegistryHost :=
  let s := { s with disk := s.disk.crash c }
  { s with stored := (s.loaded place seeds pid).toOption.toList }

/-- A whole call. -/
def perform (s : RegistryHost) (call : RouterCall) (io : CallDiskIo) : RegistryHost :=
  match s.process with
  | none => s
  | some (nodes, world) =>
    let next := ((s.registry place nodes world).perform (place.config s.pid)
      (call.toCall io.callIo)).next
    { s.cut place call io (s.systemCalls place call io).length with
      process := some (next.nodes, next.world) }

def step (s : RegistryHost) : HostEvent → RegistryHost
  | .call call io => s.perform place call io
  | .router world => { s with process := s.process.map (fun p => (p.1, world)) }
  | .kill call io done pid => (s.cut place call io done).boot place seeds test pid
  | .crash call io done c pid =>
    ((s.cut place call io done).crash place seeds c pid).boot place seeds test pid

end RegistryHost

end IPProxyPool
