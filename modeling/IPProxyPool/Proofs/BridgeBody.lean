import IPProxyPool.Model.BridgeService

/-!
# The body of a bridged request

The HTTP path streams the body of a request to its peer, chunk by chunk. The bridge is given what
a single read yields, so that it forwards the whole body only where the first chunk is all of it.
-/

namespace IPProxyPool

/-- A single read yields the first chunk, and an empty one counts as none. -/
lemma bridgeBody_chunks {req : DownstreamRequest} {chunks : List (List UInt8)}
    (hreads : req.reads = chunks.map .ok) :
    bridgeBody req = .ok (chunks.head?.filter (fun b => !b.isEmpty)) := by
  unfold bridgeBody
  split
  · rename_i hempty
    have hnone := req.empty_ok hempty
    rw [hreads, List.map_eq_nil_iff] at hnone
    rw [hnone]
    rfl
  · rw [hreads]
    cases chunks with
    | nil => rfl
    | cons c cs => rfl

lemma firstChunk_eq_streamedBody_iff (chunks : List (List UInt8)) :
    chunks.head?.filter (fun b => !b.isEmpty) = streamedBody chunks ↔
      chunks.tail.flatten = [] := by
  cases chunks with
  | nil => simp [streamedBody]
  | cons c cs =>
    rw [List.head?_cons, List.tail_cons, streamedBody, List.flatten_cons, Option.filter_some]
    cases c with
    | nil =>
      rw [List.nil_append]
      by_cases h : cs.flatten = []
      · simp [h]
      · simp [h]
    | cons b bs => simp

lemma body_of_mem_bridgeAttempts {ucb : BanditArm → VectorD → Nat → ℚ}
    {bridge : Option SocksBridge} {req : DownstreamRequest} {ctx : ProxyContext}
    {tries : Nat → SocksTry} {chunks : List (List UInt8)} (hreads : req.reads = chunks.map .ok)
    {p : ProxyNode × BridgeRequest} (hp : p ∈ bridgeAttempts ucb bridge req ctx tries) :
    p.2.body = chunks.head?.filter (fun b => !b.isEmpty) := by
  unfold bridgeAttempts at hp
  split at hp
  · cases hp
  · rename_i breq hbreq
    obtain ⟨a, -, rfl⟩ := List.mem_map.mp hp
    unfold bridgeRequest at hbreq
    split at hbreq
    · cases hbreq
    · split at hbreq
      · cases hbreq
      · rw [bridgeBody_chunks hreads] at hbreq
        cases hbreq
        rfl

/-- Every attempt is handed the whole body exactly when nothing follows the first chunk, or when
no attempt is made. -/
theorem bridge_body_whole_iff (ucb : BanditArm → VectorD → Nat → ℚ) (bridge : Option SocksBridge)
    (req : DownstreamRequest) (ctx : ProxyContext) (tries : Nat → SocksTry)
    (chunks : List (List UInt8)) (hreads : req.reads = chunks.map .ok) :
    (∀ p ∈ bridgeAttempts ucb bridge req ctx tries, p.2.body = streamedBody chunks) ↔
      chunks.tail.flatten = [] ∨ bridgeAttempts ucb bridge req ctx tries = [] := by
  rw [← firstChunk_eq_streamedBody_iff]
  constructor
  · intro hwhole
    cases hattempts : bridgeAttempts ucb bridge req ctx tries with
    | nil => exact .inr rfl
    | cons p ps =>
      have hp : p ∈ bridgeAttempts ucb bridge req ctx tries := by
        rw [hattempts]
        exact List.mem_cons_self
      exact .inl ((body_of_mem_bridgeAttempts hreads hp).symm.trans (hwhole p hp))
  · rintro (hfirst | hnone) p hp
    · exact (body_of_mem_bridgeAttempts hreads hp).trans hfirst
    · rw [hnone] at hp
      cases hp

/-- A router at rest with one SOCKS node. -/
def bridgeInput : SelectionView :=
  let router : RouterEngine :=
    .new [(ProxyNode.new "10.0.0.3" 1080 none none "US" "datacenter" "p" 1).withProto .socks5]
  { view := fun _ => router, scoring := router, gateway := ⟨router, ∅, .empty, 0⟩, context := 0,
    now := 0, draw := 0 }

/-- A POST whose body arrives in two chunks. -/
def splitPost (chunks : List (List UInt8)) : DownstreamRequest where
  method := "POST"
  uri := .origin ⟨"/", rfl⟩
  header := [("Host", asciiBytes "a.com")]
  isBodyEmpty := false
  reads := chunks.map .ok
  empty_ok := fun h => by cases h

def splitPostAttempts (chunks : List (List UInt8)) : List (ProxyNode × BridgeRequest) :=
  bridgeAttempts (fun _ _ _ => 0) (some (.new 20 10485760)) (splitPost chunks)
    (freshContext { targetDomain := "a.com", proto := some .socks5 } 3)
    (fun _ => ⟨false, bridgeInput, true, .response 200 0⟩)

theorem bridge_body_whole_iff_sample :
    (∀ p ∈ splitPostAttempts [[1, 2], []], p.2.body = streamedBody [[1, 2], []]) ↔
      List.flatten [([] : List UInt8)] = [] ∨ splitPostAttempts [[1, 2], []] = [] :=
  bridge_body_whole_iff _ _ (splitPost [[1, 2], []]) _ _ [[1, 2], []] rfl

theorem bridge_body_cut :
    splitPostAttempts [[1, 2], [3]] ≠ [] ∧
      ¬∀ p ∈ splitPostAttempts [[1, 2], [3]], p.2.body = streamedBody [[1, 2], [3]] := by
  decide +kernel

end IPProxyPool
