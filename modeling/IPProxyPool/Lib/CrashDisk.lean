import IPProxyPool.Lib.Run

/-!
# A directory on a disk that may crash

A directory names inodes. What is written to an inode is on disk once the inode has been flushed.
Changes of the names are atomic and reach the disk in their order, but they are on disk only once
the directory has been flushed. A crash loses some of the latest changes of the names and leaves
anything in an inode that was not flushed.

A file that is only ever replaced, by writing a second file, flushing it and renaming it, is found
whole after a crash: it is one of the versions since the last flush of the directory, and each of
these may be found.
-/

namespace CrashDisk
open Transition

variable {ν β α : Type*}

structure Disk (ν β : Type*) where
  content : Nat → β
  flushed : Nat → Bool
  /-- The names now, and as they were before each change since the directory was last flushed. -/
  names : ν → Option Nat
  earlier : List (ν → Option Nat)
  /-- No name has had an inode from here on. -/
  unused : Nat

inductive Call (ν β : Type*) where
  | openTruncated (name : ν) (blank : β)
  | write (name : ν) (data : β)
  | flush (name : ν)
  | rename (source target : ν)
  | remove (name : ν)
  | flushNames

namespace Disk

def states (d : Disk ν β) : List (ν → Option Nat) := d.names :: d.earlier

def read (d : Disk ν β) (name : ν) : Option β := (d.names name).map d.content

/-- What a name has stood for since the directory was last flushed, the latest first. -/
def versions (d : Disk ν β) (name : ν) : List (Option β) :=
  d.states.map (fun dir => (dir name).map d.content)

def setContent (d : Disk ν β) (i : Nat) (data : β) : Disk ν β :=
  { d with
    content := Function.update d.content i data
    flushed := Function.update d.flushed i false }

def setNames (d : Disk ν β) (names : ν → Option Nat) : Disk ν β :=
  { d with names, earlier := d.names :: d.earlier }

variable [DecidableEq ν]

def create (d : Disk ν β) (name : ν) (blank : β) : Disk ν β :=
  { (d.setContent d.unused blank).setNames (Function.update d.names name (some d.unused)) with
    unused := d.unused + 1 }

def perform (d : Disk ν β) : Call ν β → Disk ν β
  | .openTruncated name blank => match d.names name with
    | some i => d.setContent i blank
    | none => d.create name blank
  | .write name data => match d.names name with
    | some i => d.setContent i data
    | none => d
  | .flush name => match d.names name with
    | some i => { d with flushed := Function.update d.flushed i true }
    | none => d
  | .rename source target => match d.names source with
    | some i =>
      d.setNames (Function.update (Function.update d.names source none) target (some i))
    | none => d
  | .remove name => d.setNames (Function.update d.names name none)
  | .flushNames => { d with earlier := [] }

end Disk

/-- How many of the latest changes of the names are lost, and what is left in the inodes that were
not flushed. -/
structure Crash (β : Type*) where
  lost : Nat
  torn : Nat → β

/-- What is found after a crash has all been on disk. -/
def Disk.crash (d : Disk ν β) (c : Crash β) : Disk ν β where
  content i := if d.flushed i then d.content i else c.torn i
  flushed _ := true
  names := d.states[c.lost]?.getD d.names
  earlier := []
  unused := d.unused

/-! ### A name that is only ever replaced -/

/-- The inodes that `path` has stood for are on disk and nothing else names them. -/
structure Sound (path : ν) (d : Disk ν β) : Prop where
  flushed : ∀ dir ∈ d.states, ∀ i, dir path = some i → d.flushed i = true
  apart : ∀ dir ∈ d.states, ∀ i, dir path = some i → ∀ name, name ≠ path → d.names name ≠ some i
  single : ∀ dir ∈ d.states, ∀ a b i, dir a = some i → dir b = some i → a = b
  used : ∀ dir ∈ d.states, ∀ name i, dir name = some i → i < d.unused

/-- The calls that touch `path` in no other way than to put `data` in its place. -/
def Replaces (path : ν) (data : β) (d : Disk ν β) : Call ν β → Prop
  | .openTruncated name _ | .write name _ | .flush name | .remove name => name ≠ path
  | .rename source target => source ≠ path ∧ (target = path →
      ∃ i, d.names source = some i ∧ d.flushed i = true ∧ d.content i = data)
  | .flushNames => True

/-- The versions of `path` after a call that replaces it by `x`, if it touches it at all. -/
def note [DecidableEq ν] (path : ν) (x : α) (versions : List α) : Call ν β → List α
  | .rename _ target => if target = path then x :: versions else versions
  | .flushNames => versions.take 1
  | _ => versions

/-- The versions of `path` are these, the last one being the one that is read. -/
structure Holds (path : ν) (d : Disk ν β) (versions : List (Option β)) : Prop where
  sound : Sound path d
  head : versions.head? = some (d.read path)
  mem_iff : ∀ v, v ∈ d.versions path ↔ v ∈ versions

variable {path : ν} {d : Disk ν β} {data : β} {versions : List (Option β)}

lemma Disk.read_mem_versions (d : Disk ν β) (name : ν) : d.read name ∈ d.versions name :=
  List.mem_cons_self

/-- Writing to another file changes no version of `path`. -/
lemma Holds.setContent (h : Holds path d versions) {i : Nat}
    (hi : ∀ dir ∈ d.states, dir path ≠ some i) (data : β) :
    Holds path (d.setContent i data) versions := by
  have hversion : ∀ dir ∈ d.states,
      (dir path).map (d.setContent i data).content = (dir path).map d.content := by
    intro dir hdir
    cases hpath : dir path with
    | none => rfl
    | some j =>
      have hne : j ≠ i := fun heq => hi dir hdir (heq ▸ hpath)
      simp [Disk.setContent, hne]
  refine ⟨⟨?_, h.sound.apart, h.sound.single, h.sound.used⟩, ?_, ?_⟩
  · intro dir hdir j hpath
    have hne : j ≠ i := fun heq => hi dir hdir (heq ▸ hpath)
    have hflushed := h.sound.flushed dir hdir j hpath
    simp [Disk.setContent, hne, hflushed]
  · have hnow := hversion d.names List.mem_cons_self
    exact h.head.trans (congrArg some hnow.symm)
  · intro v
    rw [← h.mem_iff]
    have hmap : (d.setContent i data).versions path = d.versions path :=
      List.map_congr_left hversion
    rw [hmap]

lemma mem_states_setNames {names : ν → Option Nat} (u : Nat) (dir : ν → Option Nat) :
    dir ∈ ({ d.setNames names with unused := u } : Disk ν β).states ↔
      dir = names ∨ dir ∈ d.states :=
  List.mem_cons

lemma versions_setNames (d : Disk ν β) (names : ν → Option Nat) (u : Nat) :
    ({ d.setNames names with unused := u } : Disk ν β).versions path =
      (names path).map d.content :: d.versions path :=
  rfl

/-- New names keep the old files apart from `path` if they give its former inodes to no other name
and no inode to two names. -/
lemma Sound.setNames (h : Sound path d) {names : ν → Option Nat} {u : Nat} (hu : d.unused ≤ u)
    (hflushed : ∀ i, names path = some i → d.flushed i = true)
    (hapart : ∀ dir ∈ d.states, ∀ i, dir path = some i → ∀ name, name ≠ path → names name ≠ some i)
    (hsingle : ∀ a b i, names a = some i → names b = some i → a = b)
    (hused : ∀ name i, names name = some i → i < u) :
    Sound path { d.setNames names with unused := u } := by
  refine ⟨?_, ?_, ?_, ?_⟩
  · intro dir hdir
    rcases (mem_states_setNames u dir).mp hdir with rfl | hdir
    · exact hflushed
    · exact h.flushed dir hdir
  · intro dir hdir i hi name hname hnames
    rcases (mem_states_setNames u dir).mp hdir with rfl | hdir
    · exact hname (hsingle name path i hnames hi)
    · exact hapart dir hdir i hi name hname hnames
  · intro dir hdir
    rcases (mem_states_setNames u dir).mp hdir with rfl | hdir
    · exact hsingle
    · exact h.single dir hdir
  · intro dir hdir name i hi
    rcases (mem_states_setNames u dir).mp hdir with rfl | hdir
    · exact hused name i hi
    · exact lt_of_lt_of_le (h.used dir hdir name i hi) hu

/-- New names put another file in the place of `path`. -/
lemma Holds.replace (h : Holds path d versions) {names : ν → Option Nat} {u : Nat} {v : Option β}
    (hsound : Sound path { d.setNames names with unused := u })
    (hpath : (names path).map d.content = v) :
    Holds path { d.setNames names with unused := u } (v :: versions) := by
  refine ⟨hsound, congrArg some hpath.symm, ?_⟩
  intro w
  rw [versions_setNames, hpath, List.mem_cons, List.mem_cons, h.mem_iff]

/-- New names with the same file at `path` only repeat its latest version. -/
lemma Holds.setNames (h : Holds path d versions) {names : ν → Option Nat} {u : Nat}
    (hsound : Sound path { d.setNames names with unused := u })
    (hpath : names path = d.names path) :
    Holds path { d.setNames names with unused := u } versions := by
  have hread : (names path).map d.content = d.read path := by
    rw [hpath]
    rfl
  refine ⟨hsound, h.head.trans (congrArg some hread.symm), ?_⟩
  intro v
  rw [versions_setNames, hread, List.mem_cons, ← h.mem_iff]
  constructor
  · rintro (rfl | hv)
    · exact d.read_mem_versions path
    · exact hv
  · exact Or.inr

/-! ### Crashes -/

lemma Disk.crash_read (d : Disk ν β) (c : Crash β) (hsound : Sound path d) :
    (d.crash c).read path ∈ d.versions path := by
  have hfound : d.states[c.lost]?.getD d.names ∈ d.states := by
    cases hlost : d.states[c.lost]? with
    | none => exact List.mem_cons_self
    | some dir => exact List.mem_of_getElem? hlost
  refine List.mem_map.mpr ⟨_, hfound, ?_⟩
  unfold Disk.read Disk.crash
  dsimp only
  cases hpath : (d.states[c.lost]?.getD d.names) path with
  | none => rfl
  | some i =>
    have hflushed := hsound.flushed _ hfound i hpath
    simp [hflushed]

/-- After a crash `path` is one of the versions that were held. -/
theorem Holds.crash (h : Holds path d versions) (c : Crash β) :
    (d.crash c).read path ∈ versions ∧ Holds path (d.crash c) [(d.crash c).read path] := by
  have hstates : ∀ dir ∈ (d.crash c).states, dir ∈ d.states := by
    intro dir hdir
    rw [List.mem_singleton.mp hdir]
    cases hlost : d.states[c.lost]? with
    | none =>
      simp only [Disk.crash, hlost, Option.getD_none]
      exact List.mem_cons_self
    | some dir =>
      simp only [Disk.crash, hlost, Option.getD_some]
      exact List.mem_of_getElem? hlost
  refine ⟨(h.mem_iff _).mp (d.crash_read c h.sound), ⟨?_, ?_, ?_, ?_⟩, rfl, fun v => Iff.rfl⟩
  · exact fun _ _ _ _ => rfl
  · intro dir hdir i hi name hname hnames
    have hsame := List.mem_singleton.mp hdir
    rw [← hsame] at hnames
    exact hname (h.sound.single dir (hstates dir hdir) name path i hnames hi)
  · exact fun dir hdir => h.sound.single dir (hstates dir hdir)
  · exact fun dir hdir => h.sound.used dir (hstates dir hdir)

/-- And each of them may be found. -/
theorem Holds.crash_reaches (h : Holds path d versions) {v : Option β} (hv : v ∈ versions) :
    ∃ c, (d.crash c).read path = v := by
  obtain ⟨dir, hdir, hv⟩ := List.mem_map.mp ((h.mem_iff v).mpr hv)
  obtain ⟨k, hk, hdir⟩ := List.mem_iff_getElem.mp hdir
  refine ⟨⟨k, d.content⟩, ?_⟩
  have hstate : d.states[k]? = some dir := by rw [List.getElem?_eq_getElem hk, hdir]
  rw [← hv]
  simp [Disk.read, Disk.crash, hstate]

/-! ### Calls that only replace -/

variable [DecidableEq ν]

lemma Holds.create (h : Holds path d versions) {name : ν} (hname : name ≠ path)
    (hnone : d.names name = none) (blank : β) : Holds path (d.create name blank) versions := by
  have hunused : ∀ dir ∈ d.states, dir path ≠ some d.unused := fun dir hdir hpath =>
    lt_irrefl _ (h.sound.used dir hdir path _ hpath)
  have hblank := h.setContent hunused blank
  have hcases : ∀ a i, Function.update d.names name (some d.unused) a = some i →
      a = name ∧ i = d.unused ∨ d.names a = some i ∧ i < d.unused := by
    intro a i ha
    by_cases han : a = name
    · rw [han, Function.update_self] at ha
      exact .inl ⟨han, (Option.some.inj ha).symm⟩
    · rw [Function.update_of_ne han] at ha
      exact .inr ⟨ha, h.sound.used d.names List.mem_cons_self a i ha⟩
  have hpath : Function.update d.names name (some d.unused) path = d.names path :=
    Function.update_of_ne hname.symm _ _
  refine hblank.setNames (hblank.sound.setNames (Nat.le_succ _) ?_ ?_ ?_ ?_) hpath
  · intro i hi
    exact hblank.sound.flushed d.names List.mem_cons_self i (hpath ▸ hi)
  · intro dir hdir i hi a ha hnames
    rcases hcases a i hnames with ⟨-, rfl⟩ | ⟨hold, -⟩
    · exact hunused dir hdir hi
    · exact h.sound.apart dir hdir i hi a ha hold
  · intro a b i ha hb
    rcases hcases a i ha with ⟨rfl, hi⟩ | ⟨ha, hi⟩ <;>
      rcases hcases b i hb with ⟨rfl, hi'⟩ | ⟨hb, hi'⟩
    · rfl
    · omega
    · omega
    · exact h.sound.single d.names List.mem_cons_self a b i ha hb
  · intro a i ha
    rcases hcases a i ha with ⟨-, rfl⟩ | ⟨-, hi⟩
    · exact Nat.lt_succ_self _
    · exact Nat.lt_succ_of_lt hi

/-- The names after a rename. -/
lemma renamed_eq_some {names : ν → Option Nat} {source target name : ν} {i j : Nat}
    (h : Function.update (Function.update names source none) target (some i) name = some j) :
    name = target ∧ j = i ∨ name ≠ target ∧ name ≠ source ∧ names name = some j := by
  by_cases htarget : name = target
  · rw [htarget, Function.update_self] at h
    exact .inl ⟨htarget, (Option.some.inj h).symm⟩
  · rw [Function.update_of_ne htarget] at h
    by_cases hsource : name = source
    · rw [hsource, Function.update_self] at h
      cases h
    · rw [Function.update_of_ne hsource] at h
      exact .inr ⟨htarget, hsource, h⟩

lemma Sound.rename (h : Sound path d) {source target : ν} {i : Nat} (hsource : source ≠ path)
    (hi : d.names source = some i) (hflushed : target = path → d.flushed i = true) :
    Sound path (d.setNames
      (Function.update (Function.update d.names source none) target (some i))) := by
  have hnow := List.mem_cons_self (a := d.names) (l := d.earlier)
  refine h.setNames (u := d.unused) le_rfl ?_ ?_ ?_ ?_
  · intro j hj
    rcases renamed_eq_some hj with ⟨htarget, rfl⟩ | ⟨-, -, hj⟩
    · exact hflushed htarget.symm
    · exact h.flushed d.names hnow j hj
  · intro dir hdir j hj name hname hnames
    rcases renamed_eq_some hnames with ⟨-, rfl⟩ | ⟨-, -, hold⟩
    · exact h.apart dir hdir j hj source hsource hi
    · exact h.apart dir hdir j hj name hname hold
  · intro a b j ha hb
    have hother : ∀ c, c ≠ source → d.names c ≠ some i := fun c hc hci =>
      hc (h.single d.names hnow c source i hci hi)
    rcases renamed_eq_some ha with ⟨hat, hj⟩ | ⟨-, has, haold⟩ <;>
      rcases renamed_eq_some hb with ⟨hbt, hj'⟩ | ⟨-, hbs, hbold⟩
    · rw [hat, hbt]
    · exact absurd (hj ▸ hbold) (hother b hbs)
    · exact absurd (hj' ▸ haold) (hother a has)
    · exact h.single d.names hnow a b j haold hbold
  · intro name j hj
    rcases renamed_eq_some hj with ⟨-, rfl⟩ | ⟨-, -, hj⟩
    · exact h.used d.names hnow source j hi
    · exact h.used d.names hnow name j hj

lemma Holds.rename (h : Holds path d versions) {source target : ν} (hsource : source ≠ path)
    (htarget : target = path → ∃ i, d.names source = some i ∧ d.flushed i = true ∧
      d.content i = data) :
    Holds path (d.perform (.rename source target))
      (if target = path then some data :: versions else versions) := by
  cases hi : d.names source with
  | none =>
    have hne : target ≠ path := fun heq => by
      obtain ⟨i, hsome, -⟩ := htarget heq
      rw [hi] at hsome
      cases hsome
    simp only [Disk.perform, hi, if_neg hne]
    exact h
  | some i =>
    simp only [Disk.perform, hi]
    have hflushed : target = path → d.flushed i = true ∧ d.content i = data := fun heq => by
      obtain ⟨j, hj, hflushed⟩ := htarget heq
      rw [hi] at hj
      cases hj
      exact hflushed
    have hsound := h.sound.rename hsource hi (fun heq => (hflushed heq).1)
    by_cases heq : target = path
    · have hpath : Function.update (Function.update d.names source none) target (some i) path =
          some i := by
        rw [heq, Function.update_self]
      rw [if_pos heq, ← (hflushed heq).2]
      exact h.replace (u := d.unused) hsound (congrArg (Option.map d.content) hpath)
    · have hpath : Function.update (Function.update d.names source none) target (some i) path =
          d.names path := by
        rw [Function.update_of_ne (Ne.symm heq), Function.update_of_ne hsource.symm]
      rw [if_neg heq]
      exact h.setNames (u := d.unused) hsound hpath

lemma Holds.remove (h : Holds path d versions) {name : ν} (hname : name ≠ path) :
    Holds path (d.perform (.remove name)) versions := by
  have hnow := List.mem_cons_self (a := d.names) (l := d.earlier)
  have hold : ∀ a i, Function.update d.names name none a = some i → d.names a = some i := by
    intro a i ha
    rw [Function.update_apply] at ha
    split at ha
    · cases ha
    · exact ha
  have hpath : Function.update d.names name none path = d.names path :=
    Function.update_of_ne hname.symm _ _
  refine h.setNames (u := d.unused) (h.sound.setNames le_rfl ?_ ?_ ?_ ?_) hpath
  · exact fun i hi => h.sound.flushed d.names hnow i (hold path i hi)
  · exact fun dir hdir i hi a ha hnames => h.sound.apart dir hdir i hi a ha (hold a i hnames)
  · exact fun a b i ha hb => h.sound.single d.names hnow a b i (hold a i ha) (hold b i hb)
  · exact fun a i ha => h.sound.used d.names hnow a i (hold a i ha)

lemma Holds.flush (h : Holds path d versions) (name : ν) :
    Holds path (d.perform (.flush name)) versions := by
  cases hi : d.names name with
  | none =>
    simp only [Disk.perform, hi]
    exact h
  | some i =>
    simp only [Disk.perform, hi]
    refine ⟨⟨?_, h.sound.apart, h.sound.single, h.sound.used⟩, h.head, h.mem_iff⟩
    intro dir hdir j hj
    have hflushed := h.sound.flushed dir hdir j hj
    change Function.update d.flushed i true j = true
    rw [Function.update_apply, hflushed, ite_self]

lemma Holds.flushNames (h : Holds path d versions) :
    Holds path (d.perform .flushNames) (versions.take 1) := by
  have hstates : ∀ dir ∈ (d.perform .flushNames).states, dir ∈ d.states := fun dir hdir =>
    List.mem_singleton.mp hdir ▸ List.mem_cons_self
  have hlast : versions.take 1 = [d.read path] := by
    cases versions with
    | nil => exact nomatch h.head
    | cons v vs => exact congrArg (fun v => [v]) (Option.some.inj h.head)
  rw [hlast]
  exact ⟨⟨fun dir hdir => h.sound.flushed dir (hstates dir hdir),
    fun dir hdir => h.sound.apart dir (hstates dir hdir),
    fun dir hdir => h.sound.single dir (hstates dir hdir),
    fun dir hdir => h.sound.used dir (hstates dir hdir)⟩, rfl, fun v => Iff.rfl⟩

/-- A call that only replaces `path` leaves the versions that are noted for it. -/
theorem Holds.perform (h : Holds path d versions) {call : Call ν β}
    (hcall : Replaces path data d call) :
    Holds path (d.perform call) (note path (some data) versions call) := by
  have hother : ∀ name i, name ≠ path → d.names name = some i → ∀ dir ∈ d.states,
      dir path ≠ some i :=
    fun name i hname hi dir hdir hpath => h.sound.apart dir hdir i hpath name hname hi
  cases call with
  | openTruncated name blank =>
    cases hi : d.names name with
    | none =>
      simp only [Disk.perform, hi]
      exact h.create hcall hi blank
    | some i =>
      simp only [Disk.perform, hi]
      exact h.setContent (hother name i hcall hi) blank
  | write name data =>
    cases hi : d.names name with
    | none =>
      simp only [Disk.perform, hi]
      exact h
    | some i =>
      simp only [Disk.perform, hi]
      exact h.setContent (hother name i hcall hi) data
  | flush name => exact h.flush name
  | rename source target => exact h.rename hcall.1 hcall.2
  | remove name => exact h.remove hcall
  | flushNames => exact h.flushNames

theorem Holds.run (h : Holds path d versions) {calls : List (Call ν β)}
    (hcalls : Along Disk.perform (Replaces path data) d calls) :
    Holds path (run Disk.perform d calls) (calls.foldl (note path (some data)) versions) := by
  induction calls generalizing d versions with
  | nil => exact h
  | cons call calls ih => exact ih (h.perform hcalls.1) hcalls.2

/-! ### Replacing a file -/

/-- Writing a second file and renaming it: `written` is what a write that failed left in it, and
each step after it is made only if the ones before succeeded. -/
inductive Progress (β : Type*) where
  | unopened
  | unwritten (written : β)
  | unflushed
  | unrenamed (removed : Bool)
  | renamed (flushedNames : Bool)

def replacement (path temp : ν) (blank data : β) : Progress β → List (Call ν β)
  | .unopened => []
  | .unwritten written => [.openTruncated temp blank, .write temp written]
  | .unflushed => [.openTruncated temp blank, .write temp data]
  | .unrenamed removed =>
    [.openTruncated temp blank, .write temp data, .flush temp] ++
      if removed then [.remove temp] else []
  | .renamed flushedNames =>
    [.openTruncated temp blank, .write temp data, .flush temp, .rename temp path] ++
      if flushedNames then [.flushNames] else []

/-- Cut after any of its calls, a replacement has only replaced `path`. -/
theorem along_replacement {temp : ν} (htemp : temp ≠ path) (blank : β) (progress : Progress β)
    (k : Nat) : Along Disk.perform (Replaces path data) d
      ((replacement path temp blank data progress).take k) := by
  have hopened : ∃ i, (d.perform (.openTruncated temp blank)).names temp = some i := by
    cases hi : d.names temp with
    | none => exact ⟨d.unused, by simp [Disk.perform, hi, Disk.create, Disk.setNames]⟩
    | some i => exact ⟨i, by simp [Disk.perform, hi, Disk.setContent]⟩
  obtain ⟨i, hi⟩ := hopened
  have hrenamed : Along Disk.perform (Replaces path data) d
      [.openTruncated temp blank, .write temp data, .flush temp, .rename temp path] := by
    refine ⟨htemp, htemp, htemp, ⟨htemp, fun _ => ⟨i, ?_⟩⟩, trivial⟩
    generalize d.perform (.openTruncated temp blank) = opened at hi
    simp [Disk.perform, hi, Disk.setContent]
  have hall : Along Disk.perform (Replaces path data) d
      (replacement path temp blank data progress) := by
    cases progress with
    | unopened => trivial
    | unwritten written => exact ⟨htemp, htemp, trivial⟩
    | unflushed => exact ⟨htemp, htemp, trivial⟩
    | unrenamed removed => cases removed <;> simp [replacement, Along, Replaces, htemp]
    | renamed flushedNames =>
      refine (along_append _ _ _).mpr ⟨hrenamed, ?_⟩
      cases flushedNames <;> simp [Along, Replaces]
  rw [← List.take_append_drop k (replacement path temp blank data progress), along_append] at hall
  exact hall.1

/-- The versions after a whole replacement by `x`. -/
def Progress.noted (x : α) (versions : List α) : Progress β → List α
  | .renamed true => [x]
  | .renamed false => x :: versions
  | _ => versions

lemma Progress.noted_of_ne {progress : Progress β} (h : ∀ flushed, progress ≠ .renamed flushed)
    (x : α) (versions : List α) : progress.noted x versions = versions := by
  cases progress with
  | renamed flushed => exact absurd rfl (h flushed)
  | unopened => rfl
  | unwritten written => rfl
  | unflushed => rfl
  | unrenamed removed => rfl

lemma note_replacement (path temp : ν) (blank data : β) (x : α) (versions : List α)
    (progress : Progress β) :
    (replacement path temp blank data progress).foldl (note path x) versions =
      progress.noted x versions := by
  cases progress with
  | unopened => rfl
  | unwritten written => rfl
  | unflushed => rfl
  | unrenamed removed => cases removed <;> rfl
  | renamed flushedNames => cases flushedNames <;> simp [replacement, note, Progress.noted]

lemma mem_note {path : ν} {x w : α} {versions : List α} {call : Call ν β}
    (hw : w ∈ note path x versions call) : w = x ∨ w ∈ versions := by
  cases call with
  | rename source target =>
    rw [note] at hw
    split at hw
    · exact List.mem_cons.mp hw
    · exact .inr hw
  | flushNames => exact .inr (List.mem_of_mem_take hw)
  | openTruncated name blank => exact .inr hw
  | write name data => exact .inr hw
  | flush name => exact .inr hw
  | remove name => exact .inr hw

end CrashDisk
