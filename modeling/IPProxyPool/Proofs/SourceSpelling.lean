import IPProxyPool.Proofs.HtmlScan

/-!
# One spelling for one address

The API and the raw lists keep an address as the source spells it, and the check that they share
reads more spellings than one. The scanner of HTML pages prints what it has read.
-/

namespace IPProxyPool
open RustText RustNet

/-- What a source delivers. -/
inductive SourceBody where
  | api (body : String)
  | html (bytes : List UInt8) (defaultProto : FreeProto)
  | raw (body : String) (defaultProto : FreeProto)

/-- The parser of the source emits the node. -/
def SourceBody.Emits (fromStr : String → Option Json) (source : String) (n : RawNode) :
    SourceBody → Prop
  | .api body => n ∈ ApiSource.parse fromStr source body
  | .html bytes defaultProto =>
    ∃ nodes, HtmlSource.extract source bytes defaultProto = .ok nodes ∧ n ∈ nodes
  | .raw body defaultProto => n ∈ GitHubSource.parseWith source body defaultProto

/-- No address that the parser takes over is spelled otherwise than as a plain dotted quad. -/
def SourceBody.SpelledPlainly (fromStr : String → Option Json) : SourceBody → Prop
  | .api body => ∀ item ∈ ApiSource.items fromStr body,
    isRoutableIp (ApiSource.itemIp item) = true → ApiSource.anonymityPasses item = true →
      ApiSource.itemPort item ≠ none → PlainQuad (ApiSource.itemIp item)
  | .html _ _ => True
  | .raw body _ => ∀ line ∈ lines body, startsWith (trimString line) "#" = false →
    ∀ ip port, GitHubSource.lineEndpoint (trimString line) = some (ip, some port) →
      isRoutableIp ip = true → PlainQuad ip

/-- The address is in its printed form and routable, and there is a port. -/
structure CanonicalNode (n : RawNode) : Prop where
  address : ∃ addr : Ipv4Addr, n.ip = addr.text ∧ Routable addr
  port_ne_zero : n.port ≠ 0

/-- All nodes are canonical, so that one endpoint has one key. -/
structure OneSpelling (emitted : RawNode → Prop) : Prop where
  canonical : ∀ n, emitted n → CanonicalNode n
  one_key : ∀ n m, emitted n → emitted m → ipOctets n.ip = ipOctets m.ip → n.port = m.port →
    n.addr = m.addr

/-- A node that one of the fetched sources emits. -/
def EmittedBy (fromStr : String → Option Json) (fetched : List (String × SourceBody))
    (n : RawNode) : Prop :=
  ∃ f ∈ fetched, f.2.Emits fromStr f.1 n

/-- A node whose address has passed the check is canonical exactly if its address is plain. -/
lemma canonicalNode_iff {n : RawNode} (hip : isRoutableIp n.ip = true) (hport : n.port ≠ 0) :
    CanonicalNode n ↔ PlainQuad n.ip := by
  obtain ⟨addr, hread, hroutable⟩ := (isRoutableIp_iff n.ip).mp hip
  constructor
  · rintro ⟨⟨addr', heq, -⟩, -⟩
    rw [heq, ipOctets_text] at hread
    cases hread
    exact (eq_text_iff (heq ▸ ipOctets_text addr)).mp heq
  · exact fun hplain => ⟨⟨addr, (eq_text_iff hread).mpr hplain, hroutable⟩, hport⟩

lemma ne_zero_of_nonZeroPort {port : Option UInt16} {p : UInt16}
    (h : nonZeroPort port = some p) : p ≠ 0 := by
  have hpos := (Option.filter_eq_some_iff.mp h).2
  rintro rfl
  exact absurd hpos (by decide)

/-! ### The API -/

lemma ApiSource.parseItem_eq_some_iff {source : String} {item : Json} {n : RawNode} :
    ApiSource.parseItem source item = some n ↔
      isRoutableIp (ApiSource.itemIp item) = true ∧ ApiSource.anonymityPasses item = true ∧
        ∃ port, ApiSource.itemPort item = some port ∧
          n = ⟨ApiSource.itemIp item, port, ApiSource.itemProto item,
            ApiSource.itemCountry item, source⟩ := by
  have hempty : isRoutableIp "" = false := by decide +kernel
  unfold ApiSource.parseItem
  dsimp only
  split
  · rename_i h
    rw [String.isEmpty_iff.mp h, hempty]
    simp
  · cases isRoutableIp (ApiSource.itemIp item) with
    | false => simp
    | true =>
      cases ApiSource.anonymityPasses item with
      | false => simp
      | true => simp [eq_comm]

/-! ### Raw lists -/

lemma firstWord_noBlank (s : String) : ∀ c ∈ (firstWord s).toList, isWhitespace c = false := by
  intro c hc
  rw [firstWord, String.toList_ofList] at hc
  simpa using List.mem_takeWhile_imp hc

/-- The octet check before `is_routable_ip` rejects nothing that it would not reject. -/
lemma octets_ok {ip : String} (htrim : trimString ip = ip) (h : isRoutableIp ip = true) :
    ((split '.' ip).length ≠ 4 || (split '.' ip).any (fun o => (parseUnsigned 256 o).isNone) ||
      (split '.' ip).all (fun o => o == "0" || o == "00" || o == "000")) = false := by
  obtain ⟨addr, hread, hroutable⟩ := (isRoutableIp_iff ip).mp h
  obtain ⟨a, b, c, d, hsplit, ha, hb, hc, hd⟩ := ipOctets_eq_some hread
  rw [htrim] at hsplit
  have hsome : ∀ {o : String} {n : Fin 256}, parseOctet o = some n →
      (parseUnsigned 256 o).isNone = false := by
    intro o n ho
    obtain ⟨m, hm, -⟩ := Option.bind_eq_some_iff.mp ho
    rw [hm]
    rfl
  have hzero : (a == "0" || a == "00" || a == "000") = false := by
    rw [← Bool.not_eq_true]
    intro hz
    simp only [Bool.or_eq_true, beq_iff_eq] at hz
    have hparse : parseOctet a = some 0 := by
      rcases hz with (rfl | rfl) | rfl <;> decide +kernel
    rw [ha] at hparse
    exact hroutable.first.1 (Option.some.inj hparse)
  rw [hsplit]
  simp only [List.length_cons, List.length_nil, List.any_cons, List.any_nil, List.all_cons,
    hsome ha, hsome hb, hsome hc, hsome hd, hzero, Bool.or_self, Bool.false_and, Bool.or_false]
  rfl

lemma lineEndpoint_trimmed {line ip : String} {port : Option UInt16}
    (h : GitHubSource.lineEndpoint line = some (ip, port)) : trimString ip = ip := by
  obtain ⟨p, hp, heq⟩ := Option.map_eq_some_iff.mp h
  cases heq
  have hblank : ∀ c ∈ p.1, isWhitespace c = false := fun c hc =>
    firstWord_noBlank line c ((rsplitOnce_fst_prefixed hp).subset hc)
  rw [trimString, String.toList_ofList, trim_eq_self hblank]

/-- The nodes of a list of lines, without the checks that reject nothing. -/
lemma GitHubSource.parseLine_eq_some_iff {source line : String} {defaultProto : FreeProto}
    {n : RawNode} : GitHubSource.parseLine source defaultProto line = some n ↔
      startsWith (trimString line) "#" = false ∧ ∃ ip port,
        GitHubSource.lineEndpoint (trimString line) = some (ip, some port) ∧
          isRoutableIp ip = true ∧
            n = ⟨ip, port, sniffProto (toAsciiLowercase (trimString line)) defaultProto, none,
              source⟩ := by
  have hempty : GitHubSource.lineEndpoint "" = none := by decide +kernel
  unfold GitHubSource.parseLine
  dsimp only
  by_cases hskip : ((trimString line).isEmpty || startsWith (trimString line) "#") = true
  · rw [if_pos hskip]
    rcases Bool.or_eq_true_iff.mp hskip with hnil | hcomment
    · rw [String.isEmpty_iff.mp hnil, hempty]
      simp
    · simp [hcomment]
  · rw [if_neg hskip]
    simp only [Bool.or_eq_true, not_or, Bool.not_eq_true] at hskip
    rw [hskip.2]
    rcases hend : GitHubSource.lineEndpoint (trimString line) with _ | ⟨ip, _ | port⟩
    · simp
    · simp
    · dsimp only
      have htrim := lineEndpoint_trimmed hend
      cases hroutable : isRoutableIp ip with
      | false =>
        constructor
        · intro h
          split at h
          · cases h
          · cases h
        · rintro ⟨-, ip', port', heq, hr, -⟩
          cases heq
          rw [hroutable] at hr
          cases hr
      | true =>
        rw [octets_ok htrim hroutable]
        constructor
        · intro h
          cases h
          exact ⟨rfl, ip, port, rfl, hroutable, rfl⟩
        · rintro ⟨-, ip', port', heq, -, rfl⟩
          cases heq
          rfl

/-! ### The three parsers -/

lemma SourceBody.emits_api {fromStr : String → Option Json} {source body : String} {n : RawNode} :
    (SourceBody.api body).Emits fromStr source n ↔
      ∃ item ∈ ApiSource.items fromStr body, ApiSource.parseItem source item = some n :=
  List.mem_filterMap

lemma SourceBody.emits_raw {fromStr : String → Option Json} {source body : String}
    {defaultProto : FreeProto} {n : RawNode} :
    (SourceBody.raw body defaultProto).Emits fromStr source n ↔
      ∃ line ∈ lines body, GitHubSource.parseLine source defaultProto line = some n :=
  List.mem_filterMap

lemma lineEndpoint_port_ne_zero {line ip : String} {port : UInt16}
    (h : GitHubSource.lineEndpoint line = some (ip, some port)) : port ≠ 0 := by
  obtain ⟨p, -, heq⟩ := Option.map_eq_some_iff.mp h
  exact ne_zero_of_nonZeroPort (Prod.mk.inj heq).2

variable (fromStr : String → Option Json)

lemma SourceBody.canonical_api (source body : String) :
    (∀ n, (SourceBody.api body).Emits fromStr source n → CanonicalNode n) ↔
      (SourceBody.api body).SpelledPlainly fromStr := by
  constructor
  · intro h item hitem hip hanon hport
    obtain ⟨port, hport⟩ := Option.ne_none_iff_exists'.mp hport
    have hparse : ApiSource.parseItem source item = some ⟨ApiSource.itemIp item, port,
        ApiSource.itemProto item, ApiSource.itemCountry item, source⟩ :=
      ApiSource.parseItem_eq_some_iff.mpr ⟨hip, hanon, port, hport, rfl⟩
    refine (canonicalNode_iff ?_ ?_).mp (h _ (SourceBody.emits_api.mpr ⟨item, hitem, hparse⟩))
    · exact hip
    · exact ne_zero_of_nonZeroPort hport
  · intro h n hn
    obtain ⟨item, hitem, hparse⟩ := SourceBody.emits_api.mp hn
    obtain ⟨hip, hanon, port, hport, rfl⟩ := ApiSource.parseItem_eq_some_iff.mp hparse
    refine (canonicalNode_iff ?_ ?_).mpr (h item hitem hip hanon (by simp [hport]))
    · exact hip
    · exact ne_zero_of_nonZeroPort hport

lemma SourceBody.canonical_html (source : String) (bytes : List UInt8) (defaultProto : FreeProto)
    {n : RawNode} (h : (SourceBody.html bytes defaultProto).Emits fromStr source n) :
    CanonicalNode n := by
  obtain ⟨nodes, heq, hn⟩ := h
  obtain ⟨nodes', heq', hadds⟩ := HtmlSource.extract_adds source bytes defaultProto
  rw [heq] at heq'
  cases heq'
  obtain ⟨addr, hip⟩ := hadds.canonical n hn
  obtain ⟨⟨k, len, -, hrow⟩, hroutable⟩ := (hadds.listed_iff addr n.port).mp ⟨n, hn, hip, rfl⟩
  exact ⟨⟨addr, hip, hroutable⟩, hrow.row.port_ne_zero⟩

lemma SourceBody.canonical_raw (source body : String) (defaultProto : FreeProto) :
    (∀ n, (SourceBody.raw body defaultProto).Emits fromStr source n → CanonicalNode n) ↔
      (SourceBody.raw body defaultProto).SpelledPlainly fromStr := by
  constructor
  · intro h line hline hcomment ip port hend hip
    have hparse : GitHubSource.parseLine source defaultProto line = some ⟨ip, port,
        sniffProto (toAsciiLowercase (trimString line)) defaultProto, none, source⟩ :=
      GitHubSource.parseLine_eq_some_iff.mpr ⟨hcomment, ip, port, hend, hip, rfl⟩
    refine (canonicalNode_iff ?_ ?_).mp (h _ (SourceBody.emits_raw.mpr ⟨line, hline, hparse⟩))
    · exact hip
    · exact lineEndpoint_port_ne_zero hend
  · intro h n hn
    obtain ⟨line, hline, hparse⟩ := SourceBody.emits_raw.mp hn
    obtain ⟨hcomment, ip, port, hend, hip, rfl⟩ := GitHubSource.parseLine_eq_some_iff.mp hparse
    refine (canonicalNode_iff ?_ ?_).mpr (h line hline hcomment ip port hend hip)
    · exact hip
    · exact lineEndpoint_port_ne_zero hend

/-- A parser emits canonical nodes only exactly if the source spells plainly. -/
lemma SourceBody.canonical_iff (source : String) (b : SourceBody) :
    (∀ n, b.Emits fromStr source n → CanonicalNode n) ↔ b.SpelledPlainly fromStr := by
  cases b with
  | api body => exact SourceBody.canonical_api fromStr source body
  | html bytes defaultProto =>
    exact ⟨fun _ => trivial,
      fun _ n hn => SourceBody.canonical_html fromStr source bytes defaultProto hn⟩
  | raw body defaultProto => exact SourceBody.canonical_raw fromStr source body defaultProto

/-- Canonical nodes of one endpoint have one key. -/
lemma CanonicalNode.addr_eq {n m : RawNode} (hn : CanonicalNode n) (hm : CanonicalNode m)
    (hip : ipOctets n.ip = ipOctets m.ip) (hport : n.port = m.port) : n.addr = m.addr := by
  obtain ⟨a, ha, -⟩ := hn.address
  obtain ⟨b, hb, -⟩ := hm.address
  rw [ha, hb, ipOctets_text, ipOctets_text] at hip
  rw [RawNode.addr, RawNode.addr, ha, hb, Option.some.inj hip, hport]

/-- Whatever the sources deliver, their nodes are canonical exactly if no address that is taken over
has blanks around it, a sign or a leading zero. -/
theorem one_spelling_iff (fetched : List (String × SourceBody)) :
    OneSpelling (EmittedBy fromStr fetched) ↔ ∀ f ∈ fetched, f.2.SpelledPlainly fromStr := by
  constructor
  · exact fun h f hf =>
      (f.2.canonical_iff fromStr f.1).mp (fun n hn => h.canonical n ⟨f, hf, hn⟩)
  · intro h
    have hcanonical : ∀ n, EmittedBy fromStr fetched n → CanonicalNode n := by
      rintro n ⟨f, hf, hn⟩
      exact (f.2.canonical_iff fromStr f.1).mpr (h f hf) n hn
    exact ⟨hcanonical, fun n m hn hm => (hcanonical n hn).addr_eq (hcanonical m hm)⟩

/-- Two spellings of one address in a raw list become two nodes. -/
theorem padded_address_kept :
    ¬OneSpelling (EmittedBy (fun _ => none) [("list", .raw "008.8.8.8:80" .http)]) := by
  intro h
  have hemitted : EmittedBy (fun _ => none) [("list", .raw "008.8.8.8:80" .http)]
      ⟨"008.8.8.8", 80, .http, none, "list"⟩ := by
    refine ⟨_, List.mem_singleton_self _, ?_⟩
    change _ ∈ GitHubSource.parseWith "list" "008.8.8.8:80" .http
    decide +kernel
  obtain ⟨addr, hip, -⟩ := (h.canonical _ hemitted).address
  have hread : ipOctets "008.8.8.8" = some ⟨8, 8, 8, 8⟩ := by decide +kernel
  dsimp only at hip
  rw [hip, ipOctets_text] at hread
  cases hread
  exact absurd hip (by decide +kernel)

end IPProxyPool
