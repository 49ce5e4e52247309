import IPProxyPool.Model.ControlPlane
import IPProxyPool.Proofs.RegistryRoundTrip

/-!
# Failed registry operations

As long as no rollback has failed, the file at rest loads to the list in memory. An operation that
returns an error leaves the list and the router as they were, and unless its own rollback fails it
leaves a file that loads to the same list.
-/

namespace IPProxyPool
open RustText Transition

namespace ManagedNodes

lemma withoutExits_eq_self {m : ManagedNodes} (h : ∀ n ∈ m.nodes, n.exitIp = none) :
    m.withoutExits = m := by
  apply ManagedNodes.ext
  have hmap : m.nodes.map (fun n => n.withExitIp none) = m.nodes.map id := by
    apply List.map_congr_left
    intro n hn
    unfold ProxyNode.withExitIp
    rw [← h n hn]
    rfl
  rw [List.map_id] at hmap
  exact hmap

end ManagedNodes

namespace NodeRegistry

variable {α ω : Type} {cfg : RegistryConfig} {seeds : List ProxyNode}

/-- What the next startup would load is the list in memory. -/
structure AtRest (cfg : RegistryConfig) (seeds : List ProxyNode) (s : NodeRegistry ω) : Prop where
  normal : s.nodes.AllNormal
  loads : cfg.path.isSome = true → cfg.load s.file seeds = .ok s.nodes.withoutExits

/-- A call that returned an error has changed neither the list nor what a startup loads. -/
structure Unchanged (cfg : RegistryConfig) (seeds : List ProxyNode) (s : NodeRegistry ω)
    (o : Outcome α ω) : Prop where
  nodes : o.next.nodes = s.nodes
  loads : cfg.load o.next.file seeds = cfg.load s.file seeds ∨ o.RollbackFailed

/-- What a call does to a registry at rest. -/
structure KeepsRest (cfg : RegistryConfig) (seeds : List ProxyNode) (s : NodeRegistry ω)
    (o : Outcome α ω) : Prop where
  atRest : ¬o.RollbackFailed → AtRest cfg seeds o.next
  unchanged : (∃ e, o.result = .error e) → Unchanged cfg seeds s o

lemma load_noPath (hpath : cfg.path = none) (file file' : FileState) :
    cfg.load file seeds = cfg.load file' seeds := by
  unfold RegistryConfig.load
  rw [hpath]

/-- A file written for the list at rest loads as the file before did. -/
lemma AtRest.load_persist (hjson : cfg.json.RoundTrips) {s : NodeRegistry ω}
    (hs : AtRest cfg seeds s) {file file' : FileState} {call : PersistIo}
    (h : cfg.persist file s.nodes call = .ok file') :
    cfg.load file' seeds = cfg.load s.file seeds := by
  cases hpath : cfg.path with
  | none => exact load_noPath hpath file' s.file
  | some p =>
    have hsome : cfg.path.isSome = true := by rw [hpath]; rfl
    rw [RegistryConfig.load_persist hjson hs.normal h hsome, hs.loads hsome]

lemma keepsRest_of_stop {s : NodeRegistry ω} (hs : AtRest cfg seeds s) (e : RegistryError) :
    KeepsRest cfg seeds s (⟨.error e, none, false, s⟩ : Outcome α ω) :=
  ⟨fun _ => hs, fun _ => ⟨rfl, .inl rfl⟩⟩

lemma Carried.keepsRest (hjson : cfg.json.RoundTrips) {s : NodeRegistry ω}
    (hs : AtRest cfg seeds s) {plan : Plan α} (hplan : plan.next.AllNormal)
    {apply : ω → Except String Unit × ω} {calls : CallIo} {o : Outcome α ω}
    (h : Carried cfg s plan apply calls o) : KeepsRest cfg seeds s o := by
  cases h with
  | unwritten e hp => exact keepsRest_of_stop hs e
  | applied file world hw hp ha =>
    have hload := fun hpath => RegistryConfig.load_persist hjson hplan hp hpath seeds
    exact ⟨fun _ => ⟨hplan, hload⟩, fun herr => nomatch herr⟩
  | appliedUnwritten world hw ha =>
    exact ⟨fun _ => ⟨hs.normal, hs.loads⟩, fun herr => nomatch herr⟩
  | rolledBack e file file' world hp ha hrb =>
    have hload := hs.load_persist hjson hrb
    exact ⟨fun _ => ⟨hs.normal, fun hpath => hload.trans (hs.loads hpath)⟩,
      fun _ => ⟨rfl, .inl hload⟩⟩
  | rollbackFailed e rb file world hp ha hrb =>
    exact ⟨fun hok => absurd ⟨rb, rfl⟩ hok, fun _ => ⟨rfl, .inr ⟨rb, rfl⟩⟩⟩
  | refusedUnwritten e world hw ha =>
    exact ⟨fun _ => ⟨hs.normal, hs.loads⟩, fun _ => ⟨rfl, .inl rfl⟩⟩

lemma execute_keepsRest (hjson : cfg.json.RoundTrips) {s : NodeRegistry ω}
    (hs : AtRest cfg seeds s) {plan : Except RegistryError (Plan α)}
    (hplan : ∀ p, plan = .ok p → p.next.AllNormal) (apply : α → ω → Except String Unit × ω)
    (calls : CallIo) : KeepsRest cfg seeds s (s.execute cfg plan apply calls) := by
  rcases execute_cases cfg s plan apply calls with ⟨e, -, ho⟩ | ⟨p, hp, hcarried⟩
  · rw [ho]
    exact keepsRest_of_stop hs e
  · exact hcarried.keepsRest hjson hs (hplan p hp)

lemma error_of_void {o : Outcome α ω} (h : ∃ e, o.void.result = .error e) :
    ∃ e, o.result = .error e := by
  rcases o with ⟨result, rollback, wrote, next⟩
  cases result with
  | error e => exact ⟨e, rfl⟩
  | ok value => exact nomatch h

lemma KeepsRest.void {s : NodeRegistry ω} {o : Outcome α ω} (h : KeepsRest cfg seeds s o) :
    KeepsRest cfg seeds s o.void := by
  refine ⟨h.atRest, ?_⟩
  intro herr
  obtain ⟨hnodes, hloads⟩ := h.unchanged (error_of_void herr)
  exact ⟨hnodes, hloads⟩

lemma perform_keepsRest (hjson : cfg.json.RoundTrips) {s : NodeRegistry ω}
    (hs : AtRest cfg seeds s) (call : RegistryCall ω) :
    KeepsRest cfg seeds s (s.perform cfg call) := by
  cases call with
  | add raw apply calls =>
    exact (execute_keepsRest hjson hs (fun _ => hs.normal.planAdd) _ calls).void
  | remove addr apply calls =>
    exact (execute_keepsRest hjson hs (fun _ => hs.normal.planRemove) _ calls).void
  | setGroupWeight provider country weight apply calls =>
    exact (execute_keepsRest hjson hs (fun _ => hs.normal.planSetGroupWeight) _ calls).void

lemma loaded_atRest {file : FileState} {m : ManagedNodes} (hload : cfg.load file seeds = .ok m)
    (hseeds : cfg.path = none ∨ file = .absent → ∀ n ∈ seeds, Normal n ∧ n.exitIp = none)
    (world : ω) : AtRest cfg seeds ⟨m, file, world⟩ := by
  refine ⟨loaded_normal hload (fun h n hn => (hseeds h n hn).1), ?_⟩
  intro hpath
  have hexits : ∀ n ∈ m.nodes, n.exitIp = none := by
    rcases RegistryConfig.load_cases hload with ⟨hnodes, hsource⟩ | hnormal
    · intro n hn
      rw [hnodes] at hn
      exact (hseeds hsource n hn).2
    · exact fun n hn => (hnormal n hn).2
  rw [ManagedNodes.withoutExits_eq_self hexits]
  exact hload

/-! ### The router under the registry -/

/-- A closure that fails leaves its world as it was. -/
def FailsCleanly (apply : ω → Except String Unit × ω) : Prop :=
  ∀ world e world', apply world = (.error e, world') → world' = world

lemma execute_error_world {s : NodeRegistry ω} {plan : Except RegistryError (Plan α)}
    {apply : α → ω → Except String Unit × ω} {calls : CallIo} (happly : ∀ a, FailsCleanly (apply a))
    (h : ∃ e, (s.execute cfg plan apply calls).void.result = .error e) :
    (s.execute cfg plan apply calls).void.next.world = s.world := by
  replace h := error_of_void h
  rw [Outcome.void_next]
  rcases execute_cases cfg s plan apply calls with ⟨e, -, hstop⟩ | ⟨p, -, hcarried⟩
  · rw [hstop]
  · generalize s.execute cfg plan apply calls = o at h hcarried
    cases hcarried with
    | unwritten e hp => rfl
    | applied file world hw hp ha => exact nomatch h
    | appliedUnwritten world hw ha => exact nomatch h
    | rolledBack e file file' world hp ha hrb => exact happly p.value s.world e world ha
    | rollbackFailed e rb file world hp ha hrb => exact happly p.value s.world e world ha
    | refusedUnwritten e world hw ha => exact happly p.value s.world e world ha

lemma perform_error_world {s : NodeRegistry RouterEngine} {call : RouterCall} {calls : CallIo}
    (h : ∃ e, (s.perform cfg (call.toCall calls)).result = .error e) :
    (s.perform cfg (call.toCall calls)).next.world = s.world := by
  rw [perform_toCall] at h ⊢
  exact execute_error_world (fun _ _ _ _ herr => applyEdit_error herr) h

/-- For every registry loaded from seeds without exit addresses, or from any file that loads, after
any calls none of which failed to roll back, and for any router: a call that returns an error
leaves the list in memory as it was and a file that loads to the old list, unless its own rollback
fails; and if it acts on the router it leaves that as it was, too. -/
theorem failed_call_changes_nothing (hjson : cfg.json.RoundTrips) {file : FileState}
    {m : ManagedNodes} (hload : cfg.load file seeds = .ok m)
    (hseeds : cfg.path = none ∨ file = .absent → ∀ n ∈ seeds, Normal n ∧ n.exitIp = none)
    (world : RouterEngine) (history : List (RegistryCall RouterEngine))
    (hhistory : Along (step cfg) (fun s call => ¬(s.perform cfg call).RollbackFailed)
      ⟨m, file, world⟩ history) (router : RouterEngine) :
    let s : NodeRegistry RouterEngine :=
      { run (step cfg) ⟨m, file, world⟩ history with world := router }
    (∀ call, (∃ e, (s.perform cfg call).result = .error e) →
        Unchanged cfg seeds s (s.perform cfg call)) ∧
      ∀ (call : RouterCall) (calls : CallIo),
        (∃ e, (s.perform cfg (call.toCall calls)).result = .error e) →
          (s.perform cfg (call.toCall calls)).next.world = router := by
  intro s
  have hstep : ∀ (s : NodeRegistry RouterEngine) call, AtRest cfg seeds s → ¬(s.perform cfg call).RollbackFailed →
      AtRest cfg seeds (s.step cfg call) :=
    fun s call hs hok => (perform_keepsRest hjson hs call).atRest hok
  have hrest := run_of_along hstep (loaded_atRest hload hseeds world) hhistory
  have hs : AtRest cfg seeds s := ⟨hrest.normal, hrest.loads⟩
  exact ⟨fun call => (perform_keepsRest hjson hs call).unchanged,
    fun call calls herr => perform_error_world herr⟩

def addVendor : RegistryCall RouterEngine := RouterCall.toCall {} (.add vendorNode)

/-- An empty registry after the accepted addition of a node. -/
def vendorRegistry : NodeRegistry RouterEngine :=
  run (step vendorConfig) ⟨noNodes, .absent, .new []⟩ [addVendor]

/-- A second addition of the node is refused and changes nothing. -/
theorem duplicate_add_changes_nothing :
    Unchanged vendorConfig [] vendorRegistry (vendorRegistry.perform vendorConfig addVendor) ∧
      (vendorRegistry.perform vendorConfig addVendor).next.world = vendorRegistry.world := by
  have hok : (NodeRegistry.perform vendorConfig ⟨noNodes, .absent, .new []⟩ addVendor).rollback.isNone =
      true := by decide +kernel
  have hhistory : Along (step vendorConfig) (fun s call =>
      ¬(s.perform vendorConfig call).RollbackFailed) ⟨noNodes, .absent, .new []⟩ [addVendor] := by
    refine ⟨?_, trivial⟩
    rintro ⟨e, he⟩
    rw [he] at hok
    cases hok
  have herr : ∃ e, (vendorRegistry.perform vendorConfig addVendor).result = .error e := by
    have hdup : (vendorRegistry.perform vendorConfig addVendor).result =
        .error (.duplicate "203.0.113.1:8080") := by decide +kernel
    exact ⟨_, hdup⟩
  have hload : vendorConfig.load .absent [] = .ok noNodes := rfl
  have hsame := failed_call_changes_nothing vendorConfig_roundTrips hload (by simp) (.new [])
    [addVendor] hhistory vendorRegistry.world
  exact ⟨hsame.1 addVendor herr, hsame.2 (.add vendorNode) {} herr⟩

end NodeRegistry

end IPProxyPool
