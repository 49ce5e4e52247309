import IPProxyPool.Model.FreePool

/-!
# The merge as a sequence of atomic steps

`merge_once` holds no lock while it reads the factors, so calls of `scale_vendor_weights` can
fall between its steps: taking the snapshot, reading the factor of one node after the other, and
replacing the free group. Each step and each call is atomic.
-/

namespace IPProxyPool
open RustText AssocTable Transition

/-- History variable: a node of the free group with the weight and the factor that its current
weight was computed from. -/
structure WeighedNode where
  node : ProxyNode
  base : Nat
  factor : ℚ

inductive MergePhase where
  | idle
  | reading (read : List (ProxyNode × ℚ)) (rest : List ProxyNode)
  | merged (weighed : List WeighedNode)

structure MergeState where
  router : RouterEngine
  phase : MergePhase

inductive MergeEvent where
  | takeSnapshot
  | readFactor
  | replaceVendorNodes
  | scaleVendorWeights (vendor country : String) (factor : ℚ)

def WeighedNode.scale (vendor country : String) (factor : ℚ) (x : WeighedNode) : WeighedNode :=
  if RouterEngine.inVendorGroup vendor country x.node then
    ⟨{ x.node with weight := scaledWeight x.node.weight factor }, x.node.weight, factor⟩
  else x

/-- The node that the merge puts in the pool under the factor it read. -/
def mergedNode (p : ProxyNode × ℚ) : WeighedNode :=
  ⟨RouterEngine.applyFactor p.2 p.1, p.1.weight, p.2⟩

/-- One atomic step. A merge step out of turn does nothing. -/
def mergeStep (snap : RegistrySnapshot) (s : MergeState) : MergeEvent → MergeState
  | .takeSnapshot =>
    match s.phase with
    | .idle => { s with phase := .reading [] snap.nodes }
    | _ => s
  | .readFactor =>
    match s.phase with
    | .reading read (n :: rest) =>
      { s with phase := .reading (read ++ [(n, s.router.freeFactor n.provider n.country)]) rest }
    | _ => s
  | .replaceVendorNodes =>
    match s.phase with
    | .reading read [] =>
      { router := s.router.replaceVendorNodes "free-" (read.map (fun p => (mergedNode p).node))
        phase := .merged (read.map mergedNode) }
    | _ => s
  | .scaleVendorWeights vendor country factor =>
    { router := s.router.scaleVendorWeights vendor country factor
      phase := match s.phase with
        | .merged weighed => .merged (weighed.map (WeighedNode.scale vendor country factor))
        | phase => phase }

def mergeAlone (snap : RegistrySnapshot) : List MergeEvent :=
  .takeSnapshot :: (List.replicate snap.nodes.length .readFactor ++ [.replaceVendorNodes])

lemma run_readFactor (snap : RegistrySnapshot) (r : RouterEngine) (read : List (ProxyNode × ℚ))
    (rest : List ProxyNode) :
    run (mergeStep snap) ⟨r, .reading read rest⟩ (List.replicate rest.length .readFactor) =
      ⟨r, .reading (read ++ rest.map (fun n => (n, r.freeFactor n.provider n.country))) []⟩ := by
  induction rest generalizing read with
  | nil => simp
  | cons n rest ih =>
    rw [List.length_cons, List.replicate_succ, run_cons]
    have hstep : mergeStep snap ⟨r, .reading read (n :: rest)⟩ .readFactor =
        ⟨r, .reading (read ++ [(n, r.freeFactor n.provider n.country)]) rest⟩ := rfl
    rw [hstep, ih, List.append_assoc]
    rfl

/-- Run without interruption, the steps are `merge_once`. -/
theorem run_mergeAlone (snap : RegistrySnapshot) (r : RouterEngine) :
    (run (mergeStep snap) ⟨r, .idle⟩ (mergeAlone snap)).router = r.mergeOnce snap := by
  have hstart : mergeStep snap ⟨r, .idle⟩ .takeSnapshot = ⟨r, .reading [] snap.nodes⟩ := rfl
  rw [mergeAlone, run_cons, hstart, run_append, run_readFactor]
  simp only [run_cons, run_nil, mergeStep, RouterEngine.mergeOnce, List.nil_append, List.map_map,
    mergedNode, Function.comp_def]

end IPProxyPool
