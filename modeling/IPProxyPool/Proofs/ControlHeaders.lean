import IPProxyPool.Model.Egress

/-!
# Control headers on the two egress paths

The HTTP path removes five names and forwards the rest; the SOCKS path removes the same five and
then forwards what its allow list names. The directives of the gateway are among what the second
path drops and the first forwards.
-/

namespace IPProxyPool
open RustText

/-- The directives of a request, which `parse_routing_spec` reads. -/
def directiveHeaders : List String :=
  ["X-Proxy-Country", "X-Proxy-Session", "X-Proxy-Tier", "X-Proxy-Proto"]

def controlHeaders : List String := "X-API-Key" :: directiveHeaders

/-- Nothing but the credentials of the node reaches an HTTP upstream under the name. -/
def HiddenOnHttp (b64Encode : String → String) (node : Option ProxyNode) (header : HeaderMap)
    (name : String) : Prop :=
  ∀ g ∈ httpEgress b64Encode node header, eqIgnoreAsciiCase g.1 name = true →
    ownAuthorization b64Encode node = some g

def HiddenOnSocks (header : HeaderMap) (name : String) : Prop :=
  ∀ g ∈ socksEgress header, eqIgnoreAsciiCase g.1 name = false

/-- No control header leaves on either path, the only credentials that do are those of the node, and
the paths hide the same names of the request. -/
structure EgressHides (b64Encode : String → String) (node : Option ProxyNode) (header : HeaderMap) :
    Prop where
  http : ∀ c ∈ controlHeaders, (httpEgress b64Encode node header).containsKey c = false
  socks : ∀ c ∈ controlHeaders, HiddenOnSocks header c
  http_auth : HiddenOnHttp b64Encode node header "Proxy-Authorization"
  socks_auth : HiddenOnSocks header "Proxy-Authorization"
  same : ∀ f ∈ header, HiddenOnHttp b64Encode node header f.1 ↔ HiddenOnSocks header f.1

def Scrubbed (name : String) : Prop := ∃ s ∈ scrubbedHeaders, eqIgnoreAsciiCase name s = true

/-- The bridge passes the field on. -/
structure BridgePasses (f : String × List UInt8) : Prop where
  not_hop : isHopHeader f.1 = false
  allowed : isAllowedBridgeHeader f.1 = true
  legal : isHeaderName f.1 = true
  text : (headerToStr f.2).isSome

variable {b64Encode : String → String} {node : Option ProxyNode} {header : HeaderMap}
  {f g : String × List UInt8} {name : String}

/-! ### What the filters leave -/

lemma not_scrubbed_iff :
    ¬Scrubbed name ↔ ∀ s ∈ scrubbedHeaders, eqIgnoreAsciiCase name s = false := by
  simp [Scrubbed]

lemma scrubbed_congr (h : eqIgnoreAsciiCase f.1 g.1 = true) : Scrubbed f.1 ↔ Scrubbed g.1 := by
  unfold Scrubbed
  simp only [eqIgnoreAsciiCase_congr h]

lemma mem_requestFilterHeaders :
    f ∈ requestFilterHeaders header ↔ f ∈ alignHttp2Headers header ∧ ¬Scrubbed f.1 := by
  rw [requestFilterHeaders, mem_foldl_removeHeader, not_scrubbed_iff]

lemma ownAuthorization_name (h : ownAuthorization b64Encode node = some g) :
    g.1 = "Proxy-Authorization" := by
  unfold ownAuthorization at h
  simp only [Option.bind_eq_bind, Option.bind_eq_some_iff] at h
  obtain ⟨n, -, u, -, p, -, hg⟩ := h
  cases hg
  rfl

lemma scrubbed_ownAuthorization (h : ownAuthorization b64Encode node = some g) : Scrubbed g.1 :=
  ⟨"Proxy-Authorization", List.mem_cons_self, by simp [ownAuthorization_name h]⟩

/-- An HTTP node gets what `request_filter` leaves and its own credentials. -/
lemma mem_httpEgress :
    f ∈ httpEgress b64Encode node header ↔
      f ∈ requestFilterHeaders header ∨ ownAuthorization b64Encode node = some f := by
  unfold httpEgress upstreamRequestFilter
  rcases hown : ownAuthorization b64Encode node with _ | auth
  · simp
  · dsimp only
    rw [mem_insertHeader]
    constructor
    · rintro (⟨hf, -⟩ | rfl)
      · exact .inl hf
      · exact .inr rfl
    · rintro (hf | heq)
      · refine .inl ⟨hf, ?_⟩
        have hscrub := (mem_requestFilterHeaders.mp hf).2
        by_contra hname
        exact hscrub ((scrubbed_congr (by simpa using hname)).mpr (scrubbed_ownAuthorization hown))
      · exact .inr (Option.some.inj heq).symm

lemma exists_mem_socksEgress_iff :
    (∃ g ∈ socksEgress header, eqIgnoreAsciiCase g.1 name = true) ↔
      ∃ g ∈ requestFilterHeaders header, eqIgnoreAsciiCase g.1 name = true ∧ BridgePasses g := by
  unfold socksEgress sanitizeBridgeHeaders bridgeRequestHeaders
  constructor
  · rintro ⟨⟨k, v⟩, hmem, hname⟩
    obtain ⟨hmem, hpasses⟩ := List.mem_filter.mp hmem
    obtain ⟨g, hg, hgv⟩ := List.mem_filterMap.mp hmem
    obtain ⟨v', hv, heq⟩ := Option.map_eq_some_iff.mp hgv
    obtain ⟨rfl, rfl⟩ := Prod.mk.inj heq
    simp only [Bool.and_eq_true, Bool.not_eq_true'] at hpasses
    obtain ⟨⟨⟨hhop, hallowed⟩, hlegal⟩, -⟩ := hpasses
    exact ⟨g, hg, hname, hhop, hallowed, hlegal, by rw [hv]; rfl⟩
  · rintro ⟨g, hg, hname, hhop, hallowed, hlegal, htext⟩
    obtain ⟨v, hv⟩ := Option.isSome_iff_exists.mp htext
    refine ⟨(g.1, v), List.mem_filter.mpr ⟨List.mem_filterMap.mpr ⟨g, hg, by rw [hv]; rfl⟩, ?_⟩,
      hname⟩
    simp [hhop, hallowed, hlegal, isHeaderValue_of_headerToStr hv]

/-! ### Names the paths agree on -/

lemma isAllowedBridgeHeader_congr {a b : String} (h : eqIgnoreAsciiCase a b = true) :
    isAllowedBridgeHeader a = isAllowedBridgeHeader b := by
  unfold isAllowedBridgeHeader
  rw [(eqIgnoreAsciiCase_iff a b).mp h]

lemma chromeHeaders_not_allowed : ∀ p ∈ chromeHeaders, isAllowedBridgeHeader p.1 = false := by
  decide +kernel

lemma directiveHeaders_not_allowed : ∀ c ∈ directiveHeaders, isAllowedBridgeHeader c = false := by
  decide +kernel

lemma directiveHeaders_not_scrubbed : ∀ c ∈ directiveHeaders, ∀ s ∈ scrubbedHeaders,
    eqIgnoreAsciiCase c s = false := by
  decide +kernel

lemma directiveHeaders_not_chrome : ∀ c ∈ directiveHeaders, ∀ p ∈ chromeHeaders,
    eqIgnoreAsciiCase c p.1 = false := by
  decide +kernel

/-- The gateway inserts no field that its bridge allows. -/
lemma mem_alignHttp2Headers_of_passes (h : BridgePasses f) :
    f ∈ alignHttp2Headers header ↔ f ∈ header := by
  apply mem_foldl_insertHeader_of_ne
  intro p hp
  by_contra hname
  have hsame : eqIgnoreAsciiCase f.1 p.1 = true := by simpa using hname
  have hallowed := isAllowedBridgeHeader_congr hsame
  rw [h.allowed, chromeHeaders_not_allowed p hp] at hallowed
  cases hallowed

lemma hiddenOnHttp_of_scrubbed (h : Scrubbed f.1) : HiddenOnHttp b64Encode node header f.1 := by
  intro g hg hname
  rcases mem_httpEgress.mp hg with hg | hown
  · exact absurd ((scrubbed_congr hname).mpr h) (mem_requestFilterHeaders.mp hg).2
  · exact hown

lemma not_hiddenOnSocks_iff :
    ¬HiddenOnSocks header name ↔ ∃ g ∈ requestFilterHeaders header,
      eqIgnoreAsciiCase g.1 name = true ∧ BridgePasses g := by
  rw [← exists_mem_socksEgress_iff]
  unfold HiddenOnSocks
  push Not
  simp only [ne_eq, Bool.not_eq_false]

lemma hiddenOnSocks_of_scrubbed (h : Scrubbed f.1) : HiddenOnSocks header f.1 := by
  by_contra hne
  obtain ⟨g, hg, hname, -⟩ := not_hiddenOnSocks_iff.mp hne
  exact (mem_requestFilterHeaders.mp hg).2 ((scrubbed_congr hname).mpr h)

/-- A name of the request that is not removed reaches an HTTP upstream. -/
lemma not_hiddenOnHttp (hf : f ∈ header) (hs : ¬Scrubbed f.1) :
    ¬HiddenOnHttp b64Encode node header f.1 := by
  intro hhidden
  obtain ⟨g, hg, hname⟩ : ∃ g ∈ alignHttp2Headers header, eqIgnoreAsciiCase g.1 f.1 = true :=
    exists_mem_foldl_insertHeader chromeHeaders hf
  have hkept : g ∈ requestFilterHeaders header :=
    mem_requestFilterHeaders.mpr ⟨hg, fun h => hs ((scrubbed_congr hname).mp h)⟩
  have hown := hhidden g (mem_httpEgress.mpr (.inl hkept)) hname
  exact hs ((scrubbed_congr hname).mp (scrubbed_ownAuthorization hown))

lemma same_hidden_iff (hf : f ∈ header) :
    (HiddenOnHttp b64Encode node header f.1 ↔ HiddenOnSocks header f.1) ↔
      Scrubbed f.1 ∨ ∃ g ∈ header, eqIgnoreAsciiCase g.1 f.1 = true ∧ BridgePasses g := by
  by_cases hs : Scrubbed f.1
  · simp [hs, hiddenOnHttp_of_scrubbed hs, hiddenOnSocks_of_scrubbed hs]
  · have hhttp : ¬HiddenOnHttp b64Encode node header f.1 := not_hiddenOnHttp hf hs
    simp only [hhttp, false_iff, hs, false_or, not_hiddenOnSocks_iff]
    refine exists_congr (fun g => and_congr_left (fun hg => ?_))
    rw [mem_requestFilterHeaders, mem_alignHttp2Headers_of_passes hg.2]
    exact and_iff_left (fun h => hs ((scrubbed_congr hg.1).mp h))

/-! ### Control headers -/

lemma hiddenOnSocks_control {c : String} (hc : c ∈ controlHeaders) : HiddenOnSocks header c := by
  rcases List.mem_cons.mp hc with rfl | hc
  · exact hiddenOnSocks_of_scrubbed (f := ("X-API-Key", [])) ⟨"X-API-Key", by decide, by simp⟩
  · by_contra hne
    obtain ⟨g, -, hname, hpasses⟩ := not_hiddenOnSocks_iff.mp hne
    have hallowed := isAllowedBridgeHeader_congr hname
    rw [hpasses.allowed, directiveHeaders_not_allowed c hc] at hallowed
    cases hallowed

lemma containsKey_httpEgress_apiKey :
    (httpEgress b64Encode node header).containsKey "X-API-Key" = false := by
  rw [containsKey_eq_false]
  intro g hg
  by_contra hname
  have hkey : eqIgnoreAsciiCase g.1 "X-API-Key" = true := by simpa using hname
  rcases mem_httpEgress.mp hg with hg | hown
  · exact (mem_requestFilterHeaders.mp hg).2 ⟨"X-API-Key", by decide, hkey⟩
  · rw [ownAuthorization_name hown] at hkey
    exact absurd hkey (by decide)

/-- A directive reaches the HTTP upstream exactly as it came in. -/
lemma containsKey_httpEgress_directive {c : String} (hc : c ∈ directiveHeaders) :
    (httpEgress b64Encode node header).containsKey c = false ↔ header.containsKey c = false := by
  rw [containsKey_eq_false, containsKey_eq_false]
  have hsame : ∀ g : String × List UInt8, eqIgnoreAsciiCase g.1 c = true →
      (g ∈ httpEgress b64Encode node header ↔ g ∈ header) := by
    intro g hname
    have hchrome : ∀ p ∈ chromeHeaders, eqIgnoreAsciiCase g.1 p.1 = false := fun p hp => by
      rw [eqIgnoreAsciiCase_congr hname]
      exact directiveHeaders_not_chrome c hc p hp
    have hscrub : ¬Scrubbed g.1 := not_scrubbed_iff.mpr (fun s hs => by
      rw [eqIgnoreAsciiCase_congr hname]
      exact directiveHeaders_not_scrubbed c hc s hs)
    rw [mem_httpEgress, mem_requestFilterHeaders, alignHttp2Headers,
      mem_foldl_insertHeader_of_ne _ hchrome, and_iff_left hscrub]
    exact or_iff_left (fun hown => hscrub (scrubbed_ownAuthorization hown))
  constructor
  · intro h g hg
    by_contra hname
    have hmem := (hsame g (by simpa using hname)).mpr hg
    exact hname (h g hmem)
  · intro h g hg
    by_contra hname
    have hmem := (hsame g (by simpa using hname)).mp hg
    exact hname (h g hmem)

lemma http_hides_controls_iff :
    (∀ c ∈ controlHeaders, (httpEgress b64Encode node header).containsKey c = false) ↔
      ∀ c ∈ directiveHeaders, header.containsKey c = false := by
  rw [controlHeaders, List.forall_mem_cons]
  simp only [containsKey_httpEgress_apiKey, true_and]
  exact forall₂_congr (fun c hc => containsKey_httpEgress_directive hc)

lemma directive_disagrees {c : String} (hc : c ∈ directiveHeaders)
    (hname : eqIgnoreAsciiCase f.1 c = true) :
    ¬(Scrubbed f.1 ∨ ∃ g ∈ header, eqIgnoreAsciiCase g.1 f.1 = true ∧ BridgePasses g) := by
  rintro (hscrub | ⟨g, -, hg, hpasses⟩)
  · refine not_scrubbed_iff.mpr (fun s hs => ?_) hscrub
    rw [eqIgnoreAsciiCase_congr hname]
    exact directiveHeaders_not_scrubbed c hc s hs
  · have hallowed := (isAllowedBridgeHeader_congr hg).trans (isAllowedBridgeHeader_congr hname)
    rw [hpasses.allowed, directiveHeaders_not_allowed c hc] at hallowed
    cases hallowed

/-- For every request and node: the HTTP path hides the control headers if and only if the request
has no directive in its headers, and the two paths hide all that they should and the same names if
and only if every field of the request is removed by both or passed by the bridge. -/
theorem egressHides_iff (b64Encode : String → String) (node : Option ProxyNode)
    (header : HeaderMap) :
    ((∀ c ∈ controlHeaders, (httpEgress b64Encode node header).containsKey c = false) ↔
        ∀ c ∈ directiveHeaders, header.containsKey c = false) ∧
      (EgressHides b64Encode node header ↔
        ∀ f ∈ header, Scrubbed f.1 ∨
          ∃ g ∈ header, eqIgnoreAsciiCase g.1 f.1 = true ∧ BridgePasses g) := by
  refine ⟨http_hides_controls_iff, fun h f hf => (same_hidden_iff hf).mp (h.same f hf), fun h => ?_⟩
  refine ⟨http_hides_controls_iff.mpr (fun c hc => ?_), fun c hc => hiddenOnSocks_control hc,
    hiddenOnHttp_of_scrubbed (f := ("Proxy-Authorization", [])) ⟨_, List.mem_cons_self, by simp⟩,
    hiddenOnSocks_of_scrubbed (f := ("Proxy-Authorization", [])) ⟨_, List.mem_cons_self, by simp⟩,
    fun f hf => (same_hidden_iff hf).mpr (h f hf)⟩
  rw [containsKey_eq_false]
  intro f hf
  by_contra hname
  exact directive_disagrees hc (by simpa using hname) (h f hf)

/-- A request with a country in its headers, sent through an HTTP node. -/
theorem country_directive_leaks :
    ¬∀ (b64Encode : String → String) (node : Option ProxyNode) (header : HeaderMap),
      EgressHides b64Encode node header := by
  intro h
  have hhidden := (h id none [("x-proxy-country", [117, 115])]).http "X-Proxy-Country" (by decide)
  revert hhidden
  decide

end IPProxyPool
