import IPProxyPool.Lib.Url
import IPProxyPool.Model.NodeValidation
import IPProxyPool.Model.SocksBridge
import IPProxyPool.Model.SocksHandshake

/-!
# Upstream credentials

User name and password of a node travel in two proxy URLs and in a Basic value. The escape set
leaves the colon alone, so they come back unless the user name holds one; host and port always do.
-/

namespace IPProxyPool
open RustText RustNet Wire

/-! ### The escape set -/

/-- What `encode_userinfo` writes for one byte. -/
def encodeByte (b : UInt8) : List Char :=
  if isUserinfoByte b then [Char.ofNat b.toNat] else '%' :: (hexByte b).toList

lemma toList_encodeUserinfo (s : String) :
    (encodeUserinfo s).toList = (utf8 s).flatMap encodeByte := by
  unfold encodeUserinfo utf8
  rw [String.toList_join, List.flatMap_map]
  congr 1
  funext b
  unfold encodeByte
  split
  · simp
  · simp

/-- A byte is written as itself or as an escape. -/
def readsBack (b : UInt8) : Bool :=
  match encodeByte b with
  | [c] => c ≠ '%' ∧ String.utf8EncodeChar c = [b]
  | ['%', hi, lo] => toDigit 16 hi = some (b.toNat / 16) ∧ toDigit 16 lo = some (b.toNat % 16)
  | _ => false

/-- Nothing that is written for a byte ends the authority or splits it. -/
lemma encodeByte_checks (b : UInt8) :
    readsBack b = true ∧
      (encodeByte b).all (fun c => !Url.endsAuthority c && c != '@') = true ∧
      (b ≠ 58 → (encodeByte b).contains ':' = false) := by
  exact forall_byte (P := fun b => readsBack b = true ∧
    (encodeByte b).all (fun c => !Url.endsAuthority c && c != '@') = true ∧
    (b ≠ 58 → (encodeByte b).contains ':' = false)) (by decide +kernel) b

lemma percentDecode_encodeByte (b : UInt8) (rest : List Char) :
    Url.percentDecode (encodeByte b ++ rest) = b :: Url.percentDecode rest := by
  have h := (encodeByte_checks b).1
  unfold readsBack at h
  split at h
  · rename_i c hc
    rw [decide_eq_true_eq] at h
    rw [hc, List.singleton_append, Url.percentDecode_char h.1, h.2]
    rfl
  · rename_i hi lo hc
    rw [decide_eq_true_eq] at h
    rw [hc, List.cons_append, List.cons_append, List.singleton_append,
      Url.percentDecode_escape h.1 h.2]
    have hsum : b.toNat / 16 * 16 + b.toNat % 16 = b.toNat := by omega
    rw [hsum, UInt8.ofNat_toNat]
  · cases h

lemma percentDecode_encode (bs : Bytes) : Url.percentDecode (bs.flatMap encodeByte) = bs := by
  induction bs with
  | nil => rfl
  | cons b bs ih => rw [List.flatMap_cons, percentDecode_encodeByte, ih]

lemma plain_encode (bs : Bytes) : Url.Plain (bs.flatMap encodeByte) := by
  intro c hc
  obtain ⟨b, -, hcb⟩ := List.mem_flatMap.mp hc
  have hall := List.all_eq_true.mp (encodeByte_checks b).2.1 c hcb
  simpa using hall

lemma colon_notMem_encode {bs : Bytes} (h : 58 ∉ bs) : ':' ∉ bs.flatMap encodeByte := by
  intro hc
  obtain ⟨b, hb, hcb⟩ := List.mem_flatMap.mp hc
  have hnone := (encodeByte_checks b).2.2 (fun h58 => h (h58 ▸ hb))
  simp [hcb] at hnone

/-- Splitting at the first colon finds the two parts exactly where the first has no colon. -/
lemma splitOnce_encode_iff (u p : Bytes) :
    (∃ name word, splitOnce ':' (u.flatMap encodeByte ++ ':' :: p.flatMap encodeByte) =
        some (name, word) ∧ Url.percentDecode name = u ∧ Url.percentDecode word = p) ↔
      58 ∉ u := by
  constructor
  · rintro ⟨name, word, hsplit, hname, -⟩ hmem
    obtain ⟨x, y, rfl, hx⟩ := List.eq_append_cons_of_mem hmem
    have hcolon : encodeByte 58 = [':'] := by decide
    have hshort : splitOnce ':' ((x ++ 58 :: y).flatMap encodeByte ++ ':' :: p.flatMap encodeByte) =
        some (x.flatMap encodeByte, y.flatMap encodeByte ++ ':' :: p.flatMap encodeByte) := by
      rw [List.flatMap_append, List.flatMap_cons, hcolon, List.append_assoc]
      exact splitOnce_append (colon_notMem_encode hx) _
    cases hsplit.symm.trans hshort
    rw [percentDecode_encode] at hname
    have hlen := congrArg List.length hname
    simp at hlen
  · intro h
    exact ⟨_, _, splitOnce_append (colon_notMem_encode h) _, percentDecode_encode u,
      percentDecode_encode p⟩

/-- The same of the text before its base64 form. -/
lemma upTo_colon_iff (u p : Bytes) : upTo 58 (u ++ 58 :: p) = some (u, p) ↔ 58 ∉ u := by
  simp [upTo_eq_some]

/-! ### The URLs -/

lemma normalizeIp_text {ip ip' : String} (h : normalizeIp ip = .ok ip') :
    ∃ addr : Ipv4Addr, ip' = addr.text := by
  unfold normalizeIp at h
  split at h
  · rename_i addr _
    cases h
    exact ⟨addr, rfl⟩
  · cases h
  · cases h

lemma plain_of_digits {s : List Char} (h : ∀ c ∈ s, c.isDigit = true ∨ c = '.') : Url.Plain s := by
  intro c hc
  constructor
  · by_contra hends
    rw [Bool.not_eq_false] at hends
    simp only [Url.endsAuthority, Bool.or_eq_true, decide_eq_true_eq] at hends
    rcases h c hc with hd | rfl
    · rcases hends with ((rfl | rfl) | rfl) | rfl
      all_goals exact absurd hd (by decide)
    · exact absurd hends (by decide)
  · rintro rfl
    rcases h _ hc with hd | hd
    · exact absurd hd (by decide)
    · cases hd

lemma text_digits (addr : Ipv4Addr) : ∀ c ∈ addr.text.toList, c.isDigit = true ∨ c = '.' := by
  have hoctet : ∀ o : Fin 256, ∀ c ∈ octetText o, c.isDigit = true :=
    fun o c hc => Nat.isDigit_of_mem_toDigits (by decide) (by decide) hc
  intro c hc
  simp only [Ipv4Addr.text, String.toList_ofList, List.mem_append, List.mem_cons] at hc
  rcases hc with h | rfl | h | rfl | h | rfl | h
  · exact .inl (hoctet _ c h)
  · exact .inr rfl
  · exact .inl (hoctet _ c h)
  · exact .inr rfl
  · exact .inl (hoctet _ c h)
  · exact .inr rfl
  · exact .inl (hoctet _ c h)

lemma port_digits (port : UInt16) : ∀ c ∈ (toString port.toNat).toList, c.isDigit = true := by
  intro c hc
  have hlist : (toString port.toNat).toList = Nat.toDigits 10 port.toNat := Nat.toList_repr
  rw [hlist] at hc
  exact Nat.isDigit_of_mem_toDigits (by decide) (by decide) hc

/-- The URL of a proxy with credentials, under any scheme. -/
def proxyUrl (scheme : String) (node : ProxyNode) (u p : String) : String :=
  scheme ++ "://" ++ encodeUserinfo u ++ ":" ++ encodeUserinfo p ++ "@" ++ node.ip ++ ":" ++
    toString node.port.toNat

/-- Host and port are the node's; the user information is the two encoded parts. -/
lemma parse_proxyUrl {scheme : String} (hscheme : ':' ∉ scheme.toList) {node : ProxyNode}
    {ip : String} (hip : normalizeIp ip = .ok node.ip) (u p : String) :
    Url.parse (proxyUrl scheme node u p) =
      some ⟨some ((utf8 u).flatMap encodeByte ++ ':' :: (utf8 p).flatMap encodeByte),
        node.ip.toList, (toString node.port.toNat).toList⟩ := by
  obtain ⟨addr, haddr⟩ := normalizeIp_text hip
  have hhost : Url.Plain node.ip.toList := plain_of_digits (haddr ▸ text_digits addr)
  have hport : Url.Plain (toString node.port.toNat).toList :=
    plain_of_digits (fun c hc => .inl (port_digits node.port c hc))
  have hcolon : ':' ∉ (toString node.port.toNat).toList := fun hc =>
    absurd (port_digits node.port _ hc) (by decide)
  have hends : ∀ c ∈ ((utf8 u).flatMap encodeByte ++ ':' :: (utf8 p).flatMap encodeByte) ++
      '@' :: (node.ip.toList ++ ':' :: (toString node.port.toNat).toList),
      Url.endsAuthority c = false := by
    intro c hc
    simp only [List.mem_append, List.mem_cons] at hc
    rcases hc with (hc | rfl | hc) | rfl | hc | rfl | hc
    · exact (plain_encode _ c hc).1
    · decide
    · exact (plain_encode _ c hc).1
    · decide
    · exact (hhost c hc).1
    · decide
    · exact (hport c hc).1
  rw [Url.parse_append hscheme hends]
  · exact Url.parseAuthority_userinfo hhost hport hcolon
  · simp [proxyUrl, toList_encodeUserinfo]

/-- The URL leads to the node. -/
def UrlReaches (url : String) (node : ProxyNode) : Prop :=
  ∃ authority, Url.parse url = some authority ∧ authority.host = node.ip.toList ∧
    authority.port = (toString node.port.toNat).toList

/-- Splitting the user information at its first colon and decoding gives back both parts. -/
def UrlCarries (url u p : String) : Prop :=
  ∃ userinfo name word, (Url.parse url).bind Url.Authority.userinfo = some userinfo ∧
    splitOnce ':' userinfo = some (name, word) ∧ Url.percentDecode name = utf8 u ∧
    Url.percentDecode word = utf8 p

lemma urlCarries_iff {scheme : String} (hscheme : ':' ∉ scheme.toList) {node : ProxyNode}
    {ip : String} (hip : normalizeIp ip = .ok node.ip) (u p : String) :
    UrlCarries (proxyUrl scheme node u p) u p ↔ 58 ∉ utf8 u := by
  rw [← splitOnce_encode_iff (utf8 u) (utf8 p)]
  unfold UrlCarries
  rw [parse_proxyUrl hscheme hip]
  simp

/-! ### The Basic value -/

/-- What the base64 codec promises on one text: visible characters that are decoded to it. -/
structure Base64Pair (b64Encode : String → String) (b64Decode : String → Option Bytes)
    (s : String) : Prop where
  visible : (b64Encode s).toList.all (fun c => 32 ≤ c.toNat && c.toNat < 127) = true
  inverse : b64Decode (b64Encode s) = some (utf8 s)

/-- The server decodes the field and splits it at its first colon. -/
def BasicCarries (b64Decode : String → Option Bytes) (header : HeaderMap) (u p : String) : Prop :=
  ∃ text encoded bytes, header.getStr "Proxy-Authorization" = some text ∧
    stripPrefix "Basic " text = some encoded ∧ b64Decode encoded = some bytes ∧
    upTo 58 bytes = some (utf8 u, utf8 p)

lemma headerToStr_asciiBytes {s : String}
    (h : s.toList.all (fun c => 32 ≤ c.toNat && c.toNat < 127) = true) :
    headerToStr (asciiBytes s) = some s := by
  have hchar : ∀ c ∈ s.toList, (UInt8.ofNat c.toNat).toNat = c.toNat := by
    intro c hc
    have hvisible := List.all_eq_true.mp h c hc
    simp only [Bool.and_eq_true, decide_eq_true_eq] at hvisible
    rw [UInt8.toNat_ofNat']
    exact Nat.mod_eq_of_lt (by omega)
  unfold headerToStr asciiBytes
  rw [if_pos]
  · rw [List.map_map, Option.some.injEq]
    have hid : s.toList.map (fun c => Char.ofNat (UInt8.ofNat c.toNat).toNat) = s.toList := by
      refine (List.map_congr_left (fun c hc => ?_)).trans (List.map_id _)
      rw [hchar c hc, Char.ofNat_toNat, id]
    exact (congrArg String.ofList hid).trans String.ofList_toList
  · rw [List.all_map, List.all_eq_true]
    intro c hc
    have hvisible := List.all_eq_true.mp h c hc
    simp only [Bool.and_eq_true, decide_eq_true_eq] at hvisible
    simp [hchar c hc, hvisible]

lemma get_insertHeader (header : HeaderMap) (name : String) (value : Bytes) :
    (header.insertHeader name value).get name = some value := by
  have hgone : (header.removeHeader name).find? (fun f => eqIgnoreAsciiCase f.1 name) = none := by
    rw [List.find?_eq_none]
    intro f hf
    rw [(mem_removeHeader.mp hf).2]
    simp
  simp [HeaderMap.get, HeaderMap.insertHeader, List.find?_append, hgone, eqIgnoreAsciiCase_self]

lemma stripPrefix_append (pre s : String) : stripPrefix pre (pre ++ s) = some s := by
  simp [stripPrefix]

lemma basicCarries_iff {b64Encode : String → String} {b64Decode : String → Option Bytes}
    {node : ProxyNode} {u p : String} (hu : node.username = some u) (hp : node.password = some p)
    (h : Base64Pair b64Encode b64Decode (u ++ ":" ++ p)) (header : HeaderMap) :
    BasicCarries b64Decode (upstreamRequestFilter b64Encode (some node) header) u p ↔
      58 ∉ utf8 u := by
  have hown : ownAuthorization b64Encode (some node) =
      some ("Proxy-Authorization", asciiBytes ("Basic " ++ b64Encode (u ++ ":" ++ p))) := by
    simp [ownAuthorization, hu, hp]
  have hvisible : ("Basic " ++ b64Encode (u ++ ":" ++ p)).toList.all
      (fun c => 32 ≤ c.toNat && c.toNat < 127) = true := by
    rw [String.toList_append, List.all_append, h.visible]
    rfl
  have hfield : (upstreamRequestFilter b64Encode (some node) header).getStr
      "Proxy-Authorization" = some ("Basic " ++ b64Encode (u ++ ":" ++ p)) := by
    rw [upstreamRequestFilter, hown, HeaderMap.getStr, get_insertHeader, Option.bind_some,
      headerToStr_asciiBytes hvisible]
  have hcolon : utf8 ":" = [58] := by decide +kernel
  have hbytes : utf8 (u ++ ":" ++ p) = utf8 u ++ 58 :: utf8 p := by
    rw [utf8_append, utf8_append, hcolon, List.append_assoc, List.singleton_append]
  rw [← upTo_colon_iff (utf8 u) (utf8 p), ← hbytes]
  unfold BasicCarries
  constructor
  · rintro ⟨text, encoded, bytes, htext, hencoded, hdecoded, hsplit⟩
    cases hfield.symm.trans htext
    cases (stripPrefix_append _ _).symm.trans hencoded
    cases h.inverse.symm.trans hdecoded
    exact hsplit
  · intro hsplit
    exact ⟨_, _, _, hfield, stripPrefix_append _ _, h.inverse, hsplit⟩

/-! ### All encodings -/

/-- The proxy URLs of a node: the prober's, and the bridge's where it takes the node. -/
def proxyUrls (node : ProxyNode) : List String :=
  proxyUrlFor node :: (proxyUrlForNode node).toList

lemma mem_proxyUrls {node : ProxyNode} {u p : String} (hu : node.username = some u)
    (hp : node.password = some p) {url : String} (h : url ∈ proxyUrls node) :
    ∃ scheme : String, ':' ∉ scheme.toList ∧ url = proxyUrl scheme node u p := by
  rcases List.mem_cons.mp h with rfl | hbridge
  · refine ⟨proberScheme node.proto, ?_, ?_⟩
    · cases node.proto <;> decide
    · simp only [proxyUrlFor, hu, hp]
      rfl
  · rw [Option.mem_toList, proxyUrlForNode, hu, hp, Option.bind_eq_bind,
      Option.bind_eq_some_iff] at hbridge
    obtain ⟨scheme, hscheme, hurl⟩ := hbridge
    refine ⟨scheme, ?_, ?_⟩
    · cases hproto : node.proto with
      | http =>
        rw [hproto] at hscheme
        cases hscheme
      | socks5 =>
        rw [hproto] at hscheme
        cases hscheme
        decide
      | socks4 =>
        rw [hproto] at hscheme
        cases hscheme
        decide
    · rw [← Option.some.inj hurl]
      simp [proxyUrl, String.append_assoc]

/-- The URLs of an accepted node lead to it whatever its credentials are; and the credentials come
back from the URLs and from the Basic value exactly when the user name holds no colon (58). -/
theorem credentials_survive_iff {b64Encode : String → String} {b64Decode : String → Option Bytes}
    {node accepted : ProxyNode} {u p : String} (haccept : normalizeAndValidate node = .ok accepted)
    (hu : accepted.username = some u) (hp : accepted.password = some p)
    (hb64 : Base64Pair b64Encode b64Decode (u ++ ":" ++ p)) (header : HeaderMap) :
    (∀ url ∈ proxyUrls accepted, UrlReaches url accepted) ∧
    ((∀ url ∈ proxyUrls accepted, UrlCarries url u p) ∧
        BasicCarries b64Decode (upstreamRequestFilter b64Encode (some accepted) header) u p ↔
      58 ∉ utf8 u) := by
  have hip : normalizeIp node.ip = .ok accepted.ip :=
    ((normalizeAndValidate_eq_ok_iff node accepted).mp haccept).ip_ok
  constructor
  · intro url hurl
    obtain ⟨scheme, hscheme, rfl⟩ := mem_proxyUrls hu hp hurl
    exact ⟨_, parse_proxyUrl hscheme hip u p, rfl, rfl⟩
  · rw [basicCarries_iff hu hp hb64 header, and_iff_right_iff_imp]
    intro hcolon url hurl
    obtain ⟨scheme, hscheme, rfl⟩ := mem_proxyUrls hu hp hurl
    exact (urlCarries_iff hscheme hip u p).mpr hcolon

theorem credentials_survive_plain :
    let node := (ProxyNode.new "10.0.0.2" 1080 (some "user") (some "p@:w") "ZZ" "residential"
      "acme" 10).withProto .socks5
    (∀ url ∈ proxyUrls node, UrlReaches url node) ∧
    ((∀ url ∈ proxyUrls node, UrlCarries url "user" "p@:w") ∧
        BasicCarries (fun _ => some (utf8 "user:p@:w"))
          (upstreamRequestFilter (fun _ => "dXNlcjpwQDp3") (some node) []) "user" "p@:w" ↔
      58 ∉ utf8 "user") := by
  intro node
  have haccept : normalizeAndValidate node = .ok node := by decide +kernel
  exact credentials_survive_iff haccept rfl rfl ⟨by decide, by decide +kernel⟩ []

/-- A colon in the user name moves the boundary between the two. -/
theorem credentials_split_at_colon :
    let node := (ProxyNode.new "10.0.0.2" 1080 (some "a:b") (some "c") "ZZ" "residential"
      "acme" 10).withProto .socks5
    normalizeAndValidate node = .ok node ∧ ¬UrlCarries (proxyUrlFor node) "a:b" "c" ∧
      ¬upTo 58 (utf8 "a:b:c") = some (utf8 "a:b", utf8 "c") := by
  refine ⟨by decide +kernel, ?_, by decide +kernel⟩
  rintro ⟨userinfo, name, word, huser, hsplit, hname, -⟩
  have hparse : (Url.parse (proxyUrlFor ((ProxyNode.new "10.0.0.2" 1080 (some "a:b") (some "c") "ZZ"
      "residential" "acme" 10).withProto .socks5))).bind Url.Authority.userinfo =
      some "a:b:c".toList := by decide +kernel
  cases hparse.symm.trans huser
  cases hsplit
  exact absurd hname (by decide +kernel)

end IPProxyPool
