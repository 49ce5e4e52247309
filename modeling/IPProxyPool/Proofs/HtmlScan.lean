import IPProxyPool.Proofs.HtmlRows
import IPProxyPool.Proofs.SourceAddress

/-!
# What the HTML scanner finds

The scanner stands at some positions of a page and steps over others. It takes the rows at which it
stands, and misses what begins inside one of them.
-/

namespace IPProxyPool
open RustText RustNet Scanner

namespace HtmlSource

/-! ### The scan -/

/-- Neither a digit nor a dot stands before position `i`. -/
def FreshAt (bytes : List UInt8) (i : Nat) : Prop :=
  ∀ j c, j + 1 = i → bytes[j]? = some c → isAsciiDigit c = false ∧ c ≠ '.'.toUInt8

structure RowAt (separates : List UInt8 → Prop) (bytes : List UInt8) (i : Nat) (addr : Ipv4Addr)
    (port : UInt16) (n : Nat) : Prop where
  fresh : FreshAt bytes i
  row : Row separates (bytes.drop i) addr port n

variable {bytes : List UInt8} {i n : Nat} {addr : Ipv4Addr} {port : UInt16}

lemma insideToken_cases (hi : i ≤ bytes.length) :
    insideToken bytes i = .ok false ∧ FreshAt bytes i ∨
      insideToken bytes i = .ok true ∧ ¬FreshAt bytes i := by
  cases i with
  | zero => exact .inl ⟨rfl, fun j c hj => by omega⟩
  | succ j =>
    obtain ⟨c, hc⟩ : ∃ c, bytes[j]? = some c := ⟨_, List.getElem?_eq_getElem (by omega)⟩
    have hread : insideToken bytes (j + 1) = .ok (isAsciiDigit c || c == '.'.toUInt8) := by
      rw [insideToken, if_pos j.succ_pos, Nat.add_sub_cancel, readAt, hc]
      rfl
    rw [hread]
    cases hin : isAsciiDigit c || c == '.'.toUInt8 with
    | false =>
      refine .inl ⟨rfl, fun k d hk hd => ?_⟩
      obtain rfl : k = j := by omega
      rw [hc] at hd
      cases hd
      rw [Bool.or_eq_false_iff] at hin
      exact ⟨hin.1, by simpa using hin.2⟩
    | true =>
      refine .inr ⟨rfl, fun hfresh => ?_⟩
      obtain ⟨hdigit, hdot⟩ := hfresh j c rfl hc
      simp [hdigit, hdot] at hin

/-- A row begins with a digit and does not go beyond the text. -/
lemma Row.bounds {separates : List UInt8 → Prop} {l : List UInt8}
    (h : Row separates l addr port n) :
    0 < n ∧ n ≤ l.length ∧ ∃ c tail, l = c :: tail ∧ isAsciiDigit c = true := by
  cases h with
  | @intro w sep wp rest _ _ haddr _ _ _ _ =>
    cases haddr with
    | @intro wa _ _ _ _ ha _ _ _ =>
      obtain ⟨c, wa, rfl⟩ := List.exists_cons_of_ne_nil ha.ne_nil
      refine ⟨?_, ?_, c, _, rfl, ha.digits c List.mem_cons_self⟩
      · simp only [List.length_append, List.length_cons]
        omega
      · simp only [List.length_append, List.length_cons]
        omega

lemma RowAt.add_le {separates : List UInt8 → Prop} (h : RowAt separates bytes i addr port n) :
    0 < n ∧ i + n ≤ bytes.length := by
  obtain ⟨hpos, hle, -⟩ := h.row.bounds
  rw [List.length_drop] at hle
  omega

section Turns
variable (source : String) (defaultProto : FreeProto) (fuel : Nat) (out : List RawNode)

/-- At a row the scan takes its node, if the address is routable, and goes on behind the row. -/
lemma extractFrom_row (h : RowAt IsSkipped bytes i addr port n) :
    ∃ proto, extractFrom source bytes defaultProto (fuel + 1) i out =
      extractFrom source bytes defaultProto fuel (i + n)
        (if isRoutableIp addr.text then out ++ [⟨addr.text, port, proto, none, source⟩]
          else out) := by
  obtain ⟨hpos, hle⟩ := h.add_le
  have hat : At bytes i (bytes.drop i) := .of_le (by omega)
  obtain ⟨-, -, c, tail, htail, hc⟩ := h.row.bounds
  have hcons := hat
  rw [htail] at hcons
  have hinside : insideToken bytes i = .ok false := by
    rcases insideToken_cases hat.bound with ⟨hno, -⟩ | ⟨-, hfresh⟩
    · exact hno
    · exact absurd h.fresh hfresh
  have hwindow : slice bytes (i - 200) i = .ok ((bytes.drop (i - 200)).take (i - (i - 200))) :=
    if_pos ⟨Nat.sub_le _ _, hat.bound⟩
  refine ⟨sniffProto (toAsciiLowercase (lossyText ((bytes.drop (i - 200)).take (i - (i - 200)))))
    defaultProto, ?_⟩
  rw [extractFrom, if_pos hcons.lt]
  simp only [bind, Except.bind, hcons.readAt, hc, Bool.not_true, Bool.false_eq_true, if_false,
    hinside, hat.slice_end, matchIpPort_row h.row, hwindow]
  cases isRoutableIp addr.text <;> rfl

/-- Where no row begins the scan goes on with the next byte. -/
lemma extractFrom_byte (hi : i < bytes.length)
    (hno : ∀ addr port n, ¬RowAt IsSkipped bytes i addr port n) :
    extractFrom source bytes defaultProto (fuel + 1) i out =
      extractFrom source bytes defaultProto fuel (i + 1) out := by
  have hat : At bytes i (bytes.drop i) := .of_le hi.le
  have hcons : At bytes i (bytes[i] :: bytes.drop (i + 1)) := by
    rwa [← List.drop_eq_getElem_cons hi]
  rw [extractFrom, if_pos hi]
  simp only [bind, Except.bind, hcons.readAt]
  by_cases hdigit : isAsciiDigit bytes[i] = true
  · simp only [hdigit, Bool.not_true, Bool.false_eq_true, if_false]
    rcases insideToken_cases hat.bound with ⟨hinside, hfresh⟩ | ⟨hinside, -⟩
    · rcases matchIpPort_cases (bytes.drop i) with hnone | ⟨addr, port, n, hrow⟩
      · simp only [hinside, hat.slice_end, hnone, Bool.false_eq_true, if_false]
      · exact absurd ⟨hfresh, hrow⟩ (hno addr port n)
    · simp only [hinside, if_true]
  · simp only [hdigit, Bool.not_false, if_true]

end Turns

/-- One turn of the scan. -/
inductive ScanStep (bytes : List UInt8) : Nat → Nat → Prop
  | row {i n : Nat} {addr : Ipv4Addr} {port : UInt16} (h : RowAt IsSkipped bytes i addr port n) :
      ScanStep bytes i (i + n)
  | byte {i : Nat} (hi : i < bytes.length)
      (hno : ∀ addr port n, ¬RowAt IsSkipped bytes i addr port n) : ScanStep bytes i (i + 1)

/-- The scan stands at position `k`. -/
def StandsAt (bytes : List UInt8) (k : Nat) : Prop := Relation.ReflTransGen (ScanStep bytes) 0 k

/-- From position `i` on the scan comes to a row of this endpoint. -/
def Scans (bytes : List UInt8) (i : Nat) (addr : Ipv4Addr) (port : UInt16) : Prop :=
  ∃ k n, Relation.ReflTransGen (ScanStep bytes) i k ∧ RowAt IsSkipped bytes k addr port n

/-- A node of this endpoint is in the list. -/
def Listed (nodes : List RawNode) (addr : Ipv4Addr) (port : UInt16) : Prop :=
  ∃ m ∈ nodes, m.ip = addr.text ∧ m.port = port

/-- At most one row begins at a position. -/
lemma RowAt.unique {addr' : Ipv4Addr} {port' : UInt16} {n' : Nat}
    (h : RowAt IsSkipped bytes i addr port n) (h' : RowAt IsSkipped bytes i addr' port' n') :
    addr' = addr ∧ port' = port ∧ n' = n := by
  have hmatch := matchIpPort_row h.row
  rw [matchIpPort_row h'.row] at hmatch
  simp only [Except.ok.injEq, Option.some.injEq, Prod.mk.injEq] at hmatch
  exact ⟨text_injective hmatch.1, hmatch.2.1, hmatch.2.2⟩

lemma ScanStep.lt {k : Nat} (h : ScanStep bytes i k) : i < bytes.length := by
  cases h with
  | row hrow =>
    have hle := hrow.add_le
    omega
  | byte hi _ => exact hi

lemma not_scans_end (hi : ¬i < bytes.length) : ¬Scans bytes i addr port := by
  rintro ⟨k, n, hreach, hrow⟩
  have hk : k = i := by
    rcases hreach.cases_head with heq | ⟨j, hstep, -⟩
    · exact heq.symm
    · exact absurd hstep.lt hi
  have hle := hrow.add_le
  omega

/-- At a row the scan finds this row and what it finds behind it. -/
lemma scans_row {addr' : Ipv4Addr} {port' : UInt16} (h : RowAt IsSkipped bytes i addr port n) :
    Scans bytes i addr' port' ↔ addr' = addr ∧ port' = port ∨ Scans bytes (i + n) addr' port' := by
  constructor
  · rintro ⟨k, m, hreach, hrow⟩
    rcases hreach.cases_head with rfl | ⟨j, hstep, hrest⟩
    · obtain ⟨haddr, hport, -⟩ := h.unique hrow
      exact .inl ⟨haddr, hport⟩
    · cases hstep with
      | row hrow' =>
        obtain ⟨-, -, rfl⟩ := h.unique hrow'
        exact .inr ⟨k, m, hrest, hrow⟩
      | byte _ hno => exact absurd h (hno addr port n)
  · rintro (⟨rfl, rfl⟩ | ⟨k, m, hreach, hrow⟩)
    · exact ⟨i, n, .refl, h⟩
    · exact ⟨k, m, .head (.row h) hreach, hrow⟩

lemma scans_byte {addr' : Ipv4Addr} {port' : UInt16} (hi : i < bytes.length)
    (hno : ∀ addr port n, ¬RowAt IsSkipped bytes i addr port n) :
    Scans bytes i addr' port' ↔ Scans bytes (i + 1) addr' port' := by
  constructor
  · rintro ⟨k, m, hreach, hrow⟩
    rcases hreach.cases_head with rfl | ⟨j, hstep, hrest⟩
    · exact absurd hrow (hno addr' port' m)
    · cases hstep with
      | row hrow' => exact absurd hrow' (hno _ _ _)
      | byte _ _ => exact ⟨k, m, hrest, hrow⟩
  · rintro ⟨k, m, hreach, hrow⟩
    exact ⟨k, m, .head (.byte hi hno) hreach, hrow⟩

/-- What the scan from a position on adds to the list: a node of each routable row that it comes to,
and nothing else. -/
structure ScanAdds (bytes : List UInt8) (i : Nat) (nodes : List RawNode) : Prop where
  canonical : ∀ m ∈ nodes, ∃ addr : Ipv4Addr, m.ip = addr.text
  listed_iff : ∀ addr port, Listed nodes addr port ↔ Scans bytes i addr port ∧ Routable addr

lemma ScanAdds.of_byte {nodes : List RawNode} (hi : i < bytes.length)
    (hno : ∀ addr port n, ¬RowAt IsSkipped bytes i addr port n)
    (h : ScanAdds bytes (i + 1) nodes) : ScanAdds bytes i nodes :=
  ⟨h.canonical, fun addr port => by rw [scans_byte hi hno, h.listed_iff]⟩

lemma ScanAdds.of_skipped {nodes : List RawNode} (h : RowAt IsSkipped bytes i addr port n)
    (hbogon : ¬Routable addr) (hrest : ScanAdds bytes (i + n) nodes) :
    ScanAdds bytes i nodes := by
  refine ⟨hrest.canonical, fun addr' port' => ?_⟩
  rw [scans_row h, hrest.listed_iff]
  constructor
  · exact fun ⟨hscans, hroutable⟩ => ⟨.inr hscans, hroutable⟩
  · rintro ⟨⟨rfl, -⟩ | hscans, hroutable⟩
    · exact absurd hroutable hbogon
    · exact ⟨hscans, hroutable⟩

lemma ScanAdds.of_row {nodes : List RawNode} {m : RawNode} (h : RowAt IsSkipped bytes i addr port n)
    (hroutable : Routable addr) (hip : m.ip = addr.text) (hport : m.port = port)
    (hrest : ScanAdds bytes (i + n) nodes) : ScanAdds bytes i (m :: nodes) := by
  refine ⟨List.forall_mem_cons.mpr ⟨⟨addr, hip⟩, hrest.canonical⟩, fun addr' port' => ?_⟩
  rw [scans_row h]
  constructor
  · rintro ⟨x, hx, hxip, hxport⟩
    rcases List.mem_cons.mp hx with rfl | hx
    · obtain rfl := text_injective (hip.symm.trans hxip)
      exact ⟨.inl ⟨rfl, hxport.symm.trans hport⟩, hroutable⟩
    · obtain ⟨hscans, hr⟩ := (hrest.listed_iff addr' port').mp ⟨x, hx, hxip, hxport⟩
      exact ⟨.inr hscans, hr⟩
  · rintro ⟨⟨rfl, rfl⟩ | hscans, hr⟩
    · exact ⟨m, List.mem_cons_self, hip, hport⟩
    · obtain ⟨x, hx, hxip, hxport⟩ := (hrest.listed_iff addr' port').mpr ⟨hscans, hr⟩
      exact ⟨x, List.mem_cons_of_mem m hx, hxip, hxport⟩

/-- With fuel for the rest of the text the scan comes to the end, without a fault. -/
lemma extractFrom_adds (source : String) (defaultProto : FreeProto) {fuel : Nat}
    (hfuel : bytes.length - i < fuel) (out : List RawNode) :
    ∃ nodes, extractFrom source bytes defaultProto fuel i out = .ok (out ++ nodes) ∧
      ScanAdds bytes i nodes := by
  induction fuel generalizing i out with
  | zero => omega
  | succ fuel ih =>
    by_cases hi : i < bytes.length
    · by_cases hrow : ∃ addr port n, RowAt IsSkipped bytes i addr port n
      · obtain ⟨addr, port, n, hrow⟩ := hrow
        obtain ⟨proto, hturn⟩ := extractFrom_row source defaultProto fuel out hrow
        have hle := hrow.add_le
        rw [hturn]
        by_cases hroutable : isRoutableIp addr.text = true
        · obtain ⟨nodes, heq, hadds⟩ := ih (i := i + n) (by omega)
            (out ++ [⟨addr.text, port, proto, none, source⟩])
          rw [if_pos hroutable, heq, List.append_assoc, List.singleton_append]
          exact ⟨_, rfl, .of_row hrow ((isRoutableIp_text addr).mp hroutable) rfl rfl hadds⟩
        · obtain ⟨nodes, heq, hadds⟩ := ih (i := i + n) (by omega) out
          rw [if_neg hroutable, heq]
          exact ⟨nodes, rfl, .of_skipped hrow (mt (isRoutableIp_text addr).mpr hroutable) hadds⟩
      · have hno : ∀ addr port n, ¬RowAt IsSkipped bytes i addr port n :=
          fun addr port n h => hrow ⟨addr, port, n, h⟩
        obtain ⟨nodes, heq, hadds⟩ := ih (i := i + 1) (by omega) out
        rw [extractFrom_byte source defaultProto fuel out hi hno, heq]
        exact ⟨nodes, rfl, hadds.of_byte hi hno⟩
    · refine ⟨[], ?_, by simp, fun addr port => ?_⟩
      · rw [extractFrom, if_neg hi, List.append_nil]
      · simp [Listed, not_scans_end hi]

theorem extract_adds (source : String) (bytes : List UInt8) (defaultProto : FreeProto) :
    ∃ nodes, extract source bytes defaultProto = .ok nodes ∧ ScanAdds bytes 0 nodes := by
  have hfuel : bytes.length - 0 < bytes.length + 1 := by omega
  obtain ⟨nodes, heq, hadds⟩ := extractFrom_adds source defaultProto hfuel []
  exact ⟨nodes, heq, hadds⟩

/-! ### Where the scan does not stand -/

/-- The scan steps over position `k`: it lies inside a row at which the scan stands. -/
def Covered (bytes : List UInt8) (k : Nat) : Prop :=
  ∃ i addr port n, StandsAt bytes i ∧ RowAt IsSkipped bytes i addr port n ∧ i < k ∧ k < i + n

/-- The scan leaves out a position only where it steps over it. -/
theorem standsAt_or_covered {k : Nat} (hk : k ≤ bytes.length) :
    StandsAt bytes k ∨ Covered bytes k := by
  induction k with
  | zero => exact .inl .refl
  | succ k ih =>
    rcases ih (by omega) with hstands | ⟨i, addr, port, n, hi, hrow, hlt, hend⟩
    · by_cases hrow : ∃ addr port n, RowAt IsSkipped bytes k addr port n
      · obtain ⟨addr, port, n, hrow⟩ := hrow
        have hpos := hrow.add_le
        by_cases hone : n = 1
        · subst hone
          exact .inl (.tail hstands (.row hrow))
        · exact .inr ⟨k, addr, port, n, hstands, hrow, by omega, by omega⟩
      · have hno : ∀ addr port n, ¬RowAt IsSkipped bytes k addr port n :=
          fun addr port n h => hrow ⟨addr, port, n, h⟩
        exact .inl (.tail hstands (.byte (by omega) hno))
    · by_cases hlast : k + 1 = i + n
      · rw [hlast]
        exact .inl (.tail hi (.row hrow))
      · exact .inr ⟨i, addr, port, n, hi, hrow, by omega, by omega⟩

lemma Row.mono {separates separates' : List UInt8 → Prop}
    (himp : ∀ sep, separates sep → separates' sep) {l : List UInt8}
    (h : Row separates l addr port n) : Row separates' l addr port n := by
  cases h with
  | intro haddr hsep hport hne hstop => exact .intro haddr (himp _ hsep) hport hne hstop

/-! ### What a scan must give -/

/-- Every `a.b.c.d:port` with a routable address has its node. -/
def MissesNothing (bytes : List UInt8) (nodes : List RawNode) : Prop :=
  ∀ i addr port n, RowAt IsColon bytes i addr port n → Routable addr → Listed nodes addr port

/-- Every node has its address in the text, and behind it, after a colon or blanks and tags, its
port. -/
def Witnessed (bytes : List UInt8) (nodes : List RawNode) : Prop :=
  ∀ m ∈ nodes, ∃ i addr n, m.ip = addr.text ∧ RowAt IsSeparator bytes i addr m.port n

/-- The scan ends without a fault, misses nothing and invents nothing. -/
def ScanMeets (bytes : List UInt8) (result : Except Fault (List RawNode)) : Prop :=
  ∃ nodes, result = .ok nodes ∧ MissesNothing bytes nodes ∧ Witnessed bytes nodes

/-- No endpoint is lost inside a row and none rests on a stray `>`. -/
structure RowsApart (bytes : List UInt8) : Prop where
  covered : ∀ k addr port n, RowAt IsColon bytes k addr port n → Routable addr →
    Covered bytes k → ∃ i m, StandsAt bytes i ∧ RowAt IsSkipped bytes i addr port m
  separated : ∀ i addr port n, StandsAt bytes i → RowAt IsSkipped bytes i addr port n →
    Routable addr → ∃ k m, RowAt IsSeparator bytes k addr port m

/-- The scan always ends without a fault. It misses nothing and invents nothing exactly when each
address that begins inside an earlier row is met with its port elsewhere, and each row that is met
has a proper separator, there or elsewhere. -/
theorem scan_meets_iff (source : String) (bytes : List UInt8) (defaultProto : FreeProto) :
    (∃ nodes, extract source bytes defaultProto = .ok nodes) ∧
      (ScanMeets bytes (extract source bytes defaultProto) ↔ RowsApart bytes) := by
  obtain ⟨nodes, heq, hadds⟩ := extract_adds source bytes defaultProto
  refine ⟨⟨nodes, heq⟩, ?_⟩
  rw [heq]
  constructor
  · rintro ⟨_, hok, hmisses, hwitnessed⟩
    cases hok
    constructor
    · intro k addr port n hrow hroutable _
      obtain ⟨⟨i, m, hstands, hmet⟩, -⟩ :=
        (hadds.listed_iff addr port).mp (hmisses k addr port n hrow hroutable)
      exact ⟨i, m, hstands, hmet⟩
    · intro i addr port n hstands hrow hroutable
      obtain ⟨m, hm, hip, rfl⟩ :=
        (hadds.listed_iff addr port).mpr ⟨⟨i, n, hstands, hrow⟩, hroutable⟩
      obtain ⟨k, addr', len, hip', hsep⟩ := hwitnessed m hm
      obtain rfl := text_injective (hip.symm.trans hip')
      exact ⟨k, len, hsep⟩
  · intro h
    refine ⟨nodes, rfl, fun k addr port n hrow hroutable => ?_, fun m hm => ?_⟩
    · rw [hadds.listed_iff]
      refine ⟨?_, hroutable⟩
      have hle : k ≤ bytes.length := by
        have hend := hrow.add_le
        omega
      rcases standsAt_or_covered hle with hstands | hcovered
      · exact ⟨k, n, hstands, hrow.fresh, hrow.row.mono (fun _ => .inl)⟩
      · obtain ⟨i, len, hstands, hmet⟩ := h.covered k addr port n hrow hroutable hcovered
        exact ⟨i, len, hstands, hmet⟩
    · obtain ⟨addr, hip⟩ := hadds.canonical m hm
      obtain ⟨⟨i, n, hstands, hrow⟩, hroutable⟩ :=
        (hadds.listed_iff addr m.port).mp ⟨m, hm, hip, rfl⟩
      obtain ⟨k, len, hsep⟩ := h.separated i addr m.port n hstands hrow hroutable
      exact ⟨k, addr, len, hip, hsep⟩

/-- Two addresses on one line, of which the second has a port. -/
def twoAddresses : List UInt8 := "1.2.3.4 5.6.7.8:80".toList.map Char.toUInt8

/-- The first octet of the second address is taken for the port of the first one. -/
theorem second_address_missed :
    ¬ScanMeets twoAddresses (extract "list" twoAddresses .http) := by
  rintro ⟨nodes, heq, hmisses, -⟩
  have hnodes : nodes.map (fun m => (m.ip, m.port)) = [("1.2.3.4", 5)] := by
    have hscan : (extract "list" twoAddresses .http).toOption.map
        (List.map (fun m => (m.ip, m.port))) = some [("1.2.3.4", 5)] := by
      decide +kernel
    rw [heq] at hscan
    exact Option.some.inj hscan
  have hrow : RowAt IsColon twoAddresses 8 ⟨5, 6, 7, 8⟩ 80 10 := by
    refine ⟨fun j c hj hc => ?_, ?_⟩
    · obtain rfl : j = 7 := by omega
      have hblank : twoAddresses[7]? = some ' '.toUInt8 := by decide +kernel
      obtain rfl : ' '.toUInt8 = c := Option.some.inj (hblank.symm.trans hc)
      decide
    · have hdrop : twoAddresses.drop 8 = (['5'.toUInt8] ++ '.'.toUInt8 :: (['6'.toUInt8] ++
          '.'.toUInt8 :: (['7'.toUInt8] ++ '.'.toUInt8 :: ['8'.toUInt8]))) ++
          ([':'.toUInt8] ++ (['8'.toUInt8, '0'.toUInt8] ++ [])) := by
        decide +kernel
      rw [hdrop]
      have hnumeral {c : UInt8} {w : List UInt8} {n : Nat}
          (hall : (c :: w).all isAsciiDigit = true) (hv : numeralValue (c :: w) = n) :
          Numeral (c :: w) n :=
        ⟨List.cons_ne_nil c w, List.all_eq_true.mp hall, hv⟩
      exact .intro (.intro (hnumeral rfl rfl) (hnumeral rfl rfl) (hnumeral rfl rfl)
        (hnumeral rfl rfl)) rfl (hnumeral rfl rfl) (by decide) (by simp)
  obtain ⟨m, hm, hip, -⟩ := hmisses 8 _ _ _ hrow (by
    rw [← isRoutableIp_text]
    decide +kernel)
  have hmem : (m.ip, m.port) ∈ [("1.2.3.4", 5)] := by
    rw [← hnodes]
    exact List.mem_map_of_mem hm
  rw [List.mem_singleton, hip, Prod.mk.injEq] at hmem
  exact absurd hmem.1 (by decide +kernel)

end HtmlSource

end IPProxyPool
