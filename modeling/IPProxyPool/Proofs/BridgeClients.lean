import IPProxyPool.Lib.KeyedCache
import IPProxyPool.Model.SocksBridge

/-!
# Clients of the bridge

The cache of clients is keyed by the address of a node, and a client carries the protocol and the
credentials of the node that it was built for. The two agree as long as nodes that differ in these
are kept apart by an eviction.
-/

namespace IPProxyPool
open AssocTable Transition KeyedCache

inductive BridgeEvent where
  | clientFor (node : ProxyNode) (now : Instant) (buildOk : Bool)
  | evictIdle (now : String → Instant)

/-- What a proxy URL is made from, with the key of the cache. -/
def egressKey (n : ProxyNode) :
    EgressProto × String × UInt16 × String × Option String × Option String :=
  (n.proto, n.ip, n.port, n.addr, n.username, n.password)

/-- The same protocol, address, user name and password. -/
def SameEgress (a b : ProxyNode) : Prop := egressKey a = egressKey b

instance (a b : ProxyNode) : Decidable (SameEgress a b) :=
  inferInstanceAs (Decidable (egressKey a = egressKey b))

/-- The client was built from the proxy URL of this very node. -/
def Client.MatchesNode (client : Client) (node : ProxyNode) : Prop :=
  proxyUrlForNode node = some client.proxyUrl ∧ SameEgress client.builtFor node

lemma sameEgress_equivalence : Equivalence SameEgress :=
  ⟨fun _ => rfl, fun h => h.symm, fun h h' => h.trans h'⟩

lemma proxyUrlForNode_congr {a b : ProxyNode} (h : SameEgress a b) :
    proxyUrlForNode a = proxyUrlForNode b := by
  simp only [SameEgress, egressKey, Prod.mk.injEq] at h
  obtain ⟨hproto, hip, hport, -, huser, hpass⟩ := h
  unfold proxyUrlForNode
  rw [hproto, hip, hport, huser, hpass]

namespace SocksBridge

def step (s : SocksBridge) : BridgeEvent → SocksBridge
  | .clientFor node now buildOk => (s.clientFor node now buildOk).2
  | .evictIdle now => (s.evictIdle now).2

/-- The node that the cached client of an address was built for. -/
def held (s : SocksBridge) (addr : String) : Option ProxyNode :=
  (s.clients.lookup addr).map (fun c => c.client.builtFor)

def requested : BridgeEvent → Option ProxyNode
  | .clientFor node _ _ => some node
  | .evictIdle _ => none

/-- A call of `client_for` returns a client of the node it is called with. -/
def ReturnsOwnClient (s : SocksBridge) (e : BridgeEvent) : Prop :=
  ∀ node now buildOk client, e = .clientFor node now buildOk →
    (s.clientFor node now buildOk).1 = some client → client.MatchesNode node

/-- Nodes at one address that differ in protocol or credentials have the client of the earlier one
evicted before the later one is used. -/
def EvictedBetween (s : SocksBridge) (events : List BridgeEvent) : Prop :=
  Separated step held requested ProxyNode.addr SameEgress s events

/-- Clients were built from the URL of the node on record. -/
def UrlsOwn (s : SocksBridge) : Prop :=
  ∀ addr c, s.clients.lookup addr = some c →
    proxyUrlForNode c.client.builtFor = some c.client.proxyUrl

variable {s : SocksBridge} {node : ProxyNode} {now : Instant} {buildOk : Bool}

lemma clientFor_hit {hit : CachedClient} (h : s.clients.lookup node.addr = some hit) :
    s.clientFor node now buildOk = (some hit.client,
      { s with clients := s.clients.insert node.addr { hit with lastUsed := now } }) := by
  unfold clientFor
  rw [h]

/-- Without an entry the call leaves everything as it is, or builds a client for the node. -/
lemma clientFor_miss (now : Instant) (buildOk : Bool) (h : s.clients.lookup node.addr = none) :
    s.clientFor node now buildOk = (none, s) ∨
      ∃ url, proxyUrlForNode node = some url ∧
        s.clientFor node now buildOk = (some ⟨url, node⟩,
          { s with clients := s.clients.insert node.addr ⟨⟨url, node⟩, now⟩ }) := by
  unfold clientFor
  rw [h]
  dsimp only
  split
  · exact .inl rfl
  · rename_i url hurl
    split
    · exact .inr ⟨url, hurl, rfl⟩
    · exact .inl rfl

lemma isCache : IsCache step held requested ProxyNode.addr where
  hit := by
    rintro s e node node₀ hr hheld
    cases e with
    | evictIdle now => cases hr
    | clientFor n now buildOk =>
      cases hr
      obtain ⟨hit, hlook, rfl⟩ := Option.map_eq_some_iff.mp hheld
      unfold held step
      dsimp only
      rw [clientFor_hit hlook]
      simp
  miss := by
    rintro s e node hr hheld
    cases e with
    | evictIdle now => cases hr
    | clientFor n now buildOk =>
      cases hr
      have hlook : s.clients.lookup node.addr = none := Option.map_eq_none_iff.mp hheld
      unfold step
      dsimp only
      rcases clientFor_miss now buildOk hlook with hnone | ⟨url, -, hbuilt⟩
      · rw [hnone]
        exact .inl hheld
      · rw [hbuilt]
        right
        simp [held]
  other := by
    rintro s e node addr hr hne
    cases e with
    | evictIdle now => cases hr
    | clientFor n now buildOk =>
      cases hr
      unfold step
      dsimp only
      cases hlook : s.clients.lookup node.addr with
      | some hit =>
        rw [clientFor_hit hlook]
        simp [held, AList.lookup_insert_ne hne]
      | none =>
        rcases clientFor_miss now buildOk hlook with hnone | ⟨url, -, hbuilt⟩
        · rw [hnone]
        · rw [hbuilt]
          simp [held, AList.lookup_insert_ne hne]
  evict := by
    rintro s e addr hr
    cases e with
    | clientFor n now buildOk => cases hr
    | evictIdle now =>
      unfold held step evictIdle
      dsimp only
      rw [lookup_retain]
      cases s.clients.lookup addr with
      | none => exact .inl rfl
      | some c =>
        rw [Option.filter_some]
        split
        · exact .inr rfl
        · exact .inl rfl

lemma urlsOwn_insert (h : s.UrlsOwn) {addr : String} {c : CachedClient}
    (hc : proxyUrlForNode c.client.builtFor = some c.client.proxyUrl) :
    ({ s with clients := s.clients.insert addr c } : SocksBridge).UrlsOwn := by
  intro addr' c' hlook
  rw [lookup_insert_eq] at hlook
  split at hlook
  · cases hlook
    exact hc
  · exact h addr' c' hlook

lemma urlsOwn_step (s : SocksBridge) (e : BridgeEvent) (h : s.UrlsOwn) : (s.step e).UrlsOwn := by
  cases e with
  | clientFor node now buildOk =>
    unfold step
    dsimp only
    cases hlook : s.clients.lookup node.addr with
    | some hit =>
      rw [clientFor_hit hlook]
      exact urlsOwn_insert h (h _ hit hlook)
    | none =>
      rcases clientFor_miss now buildOk hlook with hnone | ⟨url, hurl, hbuilt⟩
      · rw [hnone]
        exact h
      · rw [hbuilt]
        exact urlsOwn_insert h hurl
  | evictIdle now =>
    intro addr c hlook
    unfold step evictIdle at hlook
    rw [lookup_retain, Option.filter_eq_some_iff] at hlook
    exact h addr c hlook.1

lemma returnsOwnClient_iff (h : s.UrlsOwn) (e : BridgeEvent) :
    s.ReturnsOwnClient e ↔ Serves held requested ProxyNode.addr SameEgress s e := by
  constructor
  · intro hown node node₀ hr hheld
    cases e with
    | evictIdle now => cases hr
    | clientFor n now buildOk =>
      cases hr
      obtain ⟨hit, hlook, rfl⟩ := Option.map_eq_some_iff.mp hheld
      refine (hown node now buildOk hit.client rfl ?_).2
      rw [clientFor_hit hlook]
  · rintro hserves node now buildOk client rfl hreturned
    cases hlook : s.clients.lookup node.addr with
    | some hit =>
      rw [clientFor_hit hlook] at hreturned
      cases hreturned
      have hsame : SameEgress hit.client.builtFor node :=
        hserves node _ rfl (by rw [held, hlook, Option.map_some])
      exact ⟨(proxyUrlForNode_congr hsame).symm.trans (h _ hit hlook), hsame⟩
    | none =>
      -- a client that is built now is built for the node
      rcases clientFor_miss now buildOk hlook with hnone | ⟨url, hurl, hbuilt⟩
      · rw [hnone] at hreturned
        cases hreturned
      · rw [hbuilt] at hreturned
        cases hreturned
        exact ⟨hurl, rfl⟩

end SocksBridge

/-- In every run of `client_for` and `evict_idle` the clients returned are those of the nodes they
are asked for exactly when nodes that share an address but not protocol and credentials are
separated by an eviction. -/
theorem client_matches_node_iff (timeout maxBody : Nat) (events : List BridgeEvent) :
    Along SocksBridge.step SocksBridge.ReturnsOwnClient (.new timeout maxBody) events ↔
      (SocksBridge.new timeout maxBody).EvictedBetween events := by
  have hurls : (SocksBridge.new timeout maxBody).UrlsOwn := by
    intro addr c hlook
    cases hlook
  rw [along_congr SocksBridge.urlsOwn_step
    (fun s e h => SocksBridge.returnsOwnClient_iff h e) hurls]
  exact SocksBridge.isCache.along_serves_iff sameEgress_equivalence (fun _ => rfl) events

/-- A node that is added again with credentials gets the client without them. -/
theorem client_of_earlier_node :
    let plain := (ProxyNode.new "10.0.0.1" 1080 none none "ZZ" "free" "free-socks" 10).withProto
      .socks5
    let renewed := { plain with username := some "u", password := some "p" }
    ¬Along SocksBridge.step SocksBridge.ReturnsOwnClient (.new 20 10485760)
      [.clientFor plain 0 true, .clientFor renewed 1 true] := by
  rintro plain renewed ⟨-, hown, -⟩
  have hreturned : (((SocksBridge.new 20 10485760).step (.clientFor plain 0 true)).clientFor renewed
      1 true).1 = some ⟨"socks5h://10.0.0.1:1080", plain⟩ := by
    decide +kernel
  exact absurd (hown renewed 1 true _ rfl hreturned).2 (by decide)

end IPProxyPool
