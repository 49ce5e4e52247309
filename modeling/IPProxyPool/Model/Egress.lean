import IPProxyPool.Model.Headers

/-!
# Headers on the way out

What becomes of the header fields of an admitted request on the two egress paths. Both start from
the fields as `request_filter` leaves them; the HTTP path adds the credentials of the node, the
SOCKS path keeps what its bridge allows. The base64 encoder is a parameter.
-/

namespace IPProxyPool
open RustText

def asciiBytes (s : String) : List UInt8 := s.toList.map (fun c => UInt8.ofNat c.toNat)

/-- `remove_header`: every field under the name goes. -/
def HeaderMap.removeHeader (header : HeaderMap) (name : String) : HeaderMap :=
  header.filter (fun f => !eqIgnoreAsciiCase f.1 name)

/-- `insert_header`: the fields under the name are replaced. -/
def HeaderMap.insertHeader (header : HeaderMap) (name : String) (value : List UInt8) : HeaderMap :=
  header.removeHeader name ++ [(name, value)]

/-- The fields that `align_http2_headers` inserts, in this order. -/
def chromeHeaders : List (String × String) :=
  [("sec-ch-ua", "\"Chromium\";v=\"124\", \"Google Chrome\";v=\"124\", \"Not-A.Brand\";v=\"99\""),
    ("sec-ch-ua-mobile", "?0"),
    ("sec-ch-ua-platform", "\"Windows\""),
    ("sec-fetch-dest", "document"),
    ("sec-fetch-mode", "navigate"),
    ("sec-fetch-site", "none"),
    ("sec-fetch-user", "?1"),
    ("upgrade-insecure-requests", "1")]

def alignHttp2Headers (header : HeaderMap) : HeaderMap :=
  chromeHeaders.foldl (fun h p => h.insertHeader p.1 (asciiBytes p.2)) header

/-- The names that `request_filter` removes. -/
def scrubbedHeaders : List String :=
  ["Proxy-Authorization", "Proxy-Connection", "X-Forwarded-For", "X-API-Key", "Via"]

/-- The last steps of `request_filter` on a request that it lets pass. -/
def requestFilterHeaders (header : HeaderMap) : HeaderMap :=
  scrubbedHeaders.foldl HeaderMap.removeHeader (alignHttp2Headers header)

/-- The credentials of the selected node, where it has both parts. -/
def ownAuthorization (b64Encode : String → String) (node : Option ProxyNode) :
    Option (String × List UInt8) := do
  let node ← node
  let u ← node.username
  let p ← node.password
  some ("Proxy-Authorization", asciiBytes ("Basic " ++ b64Encode (u ++ ":" ++ p)))

def upstreamRequestFilter (b64Encode : String → String) (node : Option ProxyNode)
    (header : HeaderMap) : HeaderMap :=
  match ownAuthorization b64Encode node with
  | some auth => header.insertHeader auth.1 auth.2
  | none => header

/-- What reaches an HTTP node. -/
def httpEgress (b64Encode : String → String) (node : Option ProxyNode) (header : HeaderMap) :
    HeaderMap :=
  upstreamRequestFilter b64Encode node (requestFilterHeaders header)

/-! ### The bridge -/

def hopHeaders : List String :=
  ["connection", "transfer-encoding", "keep-alive", "proxy-authenticate", "proxy-authorization",
    "trailer", "upgrade", "te"]

def isHopHeader (name : String) : Bool := toAsciiLowercase name ∈ hopHeaders

def bridgeForwardHeaders : List String :=
  ["host", "user-agent", "accept", "accept-language", "accept-encoding", "content-type",
    "content-length", "referer", "origin", "cookie", "authorization", "range", "if-modified-since",
    "if-none-match", "cache-control", "pragma", "x-requested-with"]

def isAllowedBridgeHeader (name : String) : Bool :=
  let lower := toAsciiLowercase name
  if startsWith lower "x-proxy-" then false
  else if lower ∈ bridgeForwardHeaders then true
  else startsWith lower "x-"

/-- `HeaderName::from_str` succeeds: a token of at most 65535 characters. -/
def isHeaderName (name : String) : Bool :=
  name ≠ "" && byteLen name ≤ 65535 &&
    name.toList.all (fun c => c.isAlphanum || c ∈ "!#$%&'*+-.^_|~".toList || c.toNat == 96)

/-- `HeaderValue::from_str` succeeds: no control character but the tab. -/
def isHeaderValue (value : String) : Bool :=
  value.toList.all (fun c => (32 ≤ c.toNat && c.toNat ≠ 127) || c.toNat == 9)

def sanitizeBridgeHeaders (headers : List (String × String)) : List (String × String) :=
  headers.filter (fun f =>
    !isHopHeader f.1 && isAllowedBridgeHeader f.1 && isHeaderName f.1 && isHeaderValue f.2)

/-- The fields that `serve_via_socks` hands to the bridge: those whose value is text. -/
def bridgeRequestHeaders (header : HeaderMap) : List (String × String) :=
  header.filterMap (fun f => (headerToStr f.2).map (fun v => (f.1, v)))

/-- What reaches the target through a SOCKS node. -/
def socksEgress (header : HeaderMap) : List (String × String) :=
  sanitizeBridgeHeaders (bridgeRequestHeaders (requestFilterHeaders header))

/-! ### Text values -/

lemma toNat_ofNat_byte (b : UInt8) : (Char.ofNat b.toNat).toNat = b.toNat := by
  have hlt : b.toNat < 256 := b.toNat_lt
  have hvalid : b.toNat.isValidChar := .inl (by omega)
  rw [Char.ofNat, dif_pos hvalid]
  rfl

/-- The text of a value is a legal value, and its bytes are the value. -/
lemma headerToStr_spec {value : List UInt8} {v : String} (h : headerToStr value = some v) :
    isHeaderValue v = true ∧ asciiBytes v = value := by
  unfold headerToStr at h
  split at h
  · rename_i hall
    cases h
    constructor
    · unfold isHeaderValue
      rw [String.toList_ofList, List.all_map]
      rw [List.all_eq_true] at hall ⊢
      intro b hb
      have hb' := hall b hb
      simp only [Function.comp_apply, toNat_ofNat_byte]
      simp only [Bool.or_eq_true, Bool.and_eq_true, decide_eq_true_eq, beq_iff_eq] at hb' ⊢
      omega
    · unfold asciiBytes
      rw [String.toList_ofList, List.map_map]
      refine (List.map_congr_left (fun b _ => ?_)).trans (List.map_id value)
      rw [Function.comp_apply, toNat_ofNat_byte, UInt8.ofNat_toNat, id]
  · cases h

lemma isHeaderValue_of_headerToStr {value : List UInt8} {v : String}
    (h : headerToStr value = some v) : isHeaderValue v = true :=
  (headerToStr_spec h).1

/-! ### Fields by name -/

variable {header : HeaderMap} {f : String × List UInt8}

lemma mem_removeHeader {name : String} :
    f ∈ header.removeHeader name ↔ f ∈ header ∧ eqIgnoreAsciiCase f.1 name = false := by
  simp [HeaderMap.removeHeader, List.mem_filter]

lemma mem_insertHeader {name : String} {value : List UInt8} :
    f ∈ header.insertHeader name value ↔
      f ∈ header ∧ eqIgnoreAsciiCase f.1 name = false ∨ f = (name, value) := by
  rw [HeaderMap.insertHeader, List.mem_append, mem_removeHeader, List.mem_singleton]

lemma containsKey_eq_false {name : String} :
    header.containsKey name = false ↔ ∀ f ∈ header, eqIgnoreAsciiCase f.1 name = false := by
  simp [HeaderMap.containsKey, HeaderMap.get]

lemma eqIgnoreAsciiCase_comm (a b : String) : eqIgnoreAsciiCase a b = eqIgnoreAsciiCase b a := by
  rw [Bool.eq_iff_iff, eqIgnoreAsciiCase_iff, eqIgnoreAsciiCase_iff]
  exact eq_comm

/-- Names are compared through their lower-case form. -/
lemma eqIgnoreAsciiCase_congr {a b : String} (h : eqIgnoreAsciiCase a b = true) (c : String) :
    eqIgnoreAsciiCase a c = eqIgnoreAsciiCase b c := by
  rw [Bool.eq_iff_iff, eqIgnoreAsciiCase_iff, eqIgnoreAsciiCase_iff,
    (eqIgnoreAsciiCase_iff a b).mp h]

lemma mem_foldl_removeHeader (names : List String) :
    f ∈ names.foldl HeaderMap.removeHeader header ↔
      f ∈ header ∧ ∀ name ∈ names, eqIgnoreAsciiCase f.1 name = false := by
  induction names generalizing header with
  | nil => simp
  | cons name names ih =>
    rw [List.foldl_cons, ih, mem_removeHeader, List.forall_mem_cons, and_assoc]

/-- Fields under other names are untouched by insertions. -/
lemma mem_foldl_insertHeader_of_ne (ps : List (String × String))
    (h : ∀ p ∈ ps, eqIgnoreAsciiCase f.1 p.1 = false) :
    f ∈ ps.foldl (fun h p => h.insertHeader p.1 (asciiBytes p.2)) header ↔ f ∈ header := by
  induction ps generalizing header with
  | nil => rfl
  | cons p ps ih =>
    have hp := h p List.mem_cons_self
    rw [List.foldl_cons, ih (fun q hq => h q (List.mem_cons_of_mem _ hq)), mem_insertHeader]
    constructor
    · rintro (⟨hf, -⟩ | rfl)
      · exact hf
      · simp at hp
    · exact fun hf => .inl ⟨hf, hp⟩

/-- An insertion may replace a field but leaves one under its name. -/
lemma exists_mem_foldl_insertHeader (ps : List (String × String)) (hf : f ∈ header) :
    ∃ g ∈ ps.foldl (fun h p => h.insertHeader p.1 (asciiBytes p.2)) header,
      eqIgnoreAsciiCase g.1 f.1 = true := by
  induction ps generalizing header f with
  | nil => exact ⟨f, hf, eqIgnoreAsciiCase_self f.1⟩
  | cons p ps ih =>
    rw [List.foldl_cons]
    by_cases hp : eqIgnoreAsciiCase f.1 p.1 = true
    · have hnew : (p.1, asciiBytes p.2) ∈ header.insertHeader p.1 (asciiBytes p.2) :=
        mem_insertHeader.mpr (.inr rfl)
      obtain ⟨g, hg, hname⟩ := ih hnew
      refine ⟨g, hg, ?_⟩
      rw [eqIgnoreAsciiCase_comm, eqIgnoreAsciiCase_congr hp, eqIgnoreAsciiCase_comm]
      exact hname
    · exact ih (mem_insertHeader.mpr (.inl ⟨hf, by simpa using hp⟩))

end IPProxyPool
