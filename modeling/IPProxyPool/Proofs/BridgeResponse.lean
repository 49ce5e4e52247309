import IPProxyPool.Model.BridgeService

/-!
# The response of a bridged request

What the client is sent of an upstream response: the status and the body as they are, the fields
up to repeated names, and never a content length.
-/

namespace IPProxyPool
open RustText

/-- `fetch` followed by `write_bridge_response`, for a response of the upstream. -/
def SocksBridge.relay (s : SocksBridge) (resp : UpstreamResponse) : Option DownstreamResponse :=
  match s.readResponse resp with
  | .ok r => (writeBridgeResponse r).toOption
  | .error _ => none

/-- A field that the client should get. -/
def isForwarded (f : String × List UInt8) : Bool :=
  !isHopHeader f.1 && !eqIgnoreAsciiCase f.1 "content-length" && (headerToStr f.2).isSome

/-- The response but for its content length. -/
structure BodyAndFieldsIntact (resp : UpstreamResponse) (body : List UInt8)
    (out : DownstreamResponse) : Prop where
  status_eq : out.status = resp.status
  fields_eq : ∀ f ∈ resp.headers, isForwarded f = true → out.headers.count f = resp.headers.count f
  body_eq : out.writes.flatten = body

/-- The client gets the whole response, with the length of its body. -/
structure Intact (resp : UpstreamResponse) (body : List UInt8) (out : DownstreamResponse) : Prop
    extends BodyAndFieldsIntact resp body out where
  length_eq : ∃ f ∈ out.headers, eqIgnoreAsciiCase f.1 "content-length" = true ∧
    f.2 = asciiBytes (toString body.length)

/-- No two fields that are forwarded share a name. -/
def DistinctNames (headers : HeaderMap) : Prop :=
  (headers.filter isForwarded).Pairwise (fun f g => eqIgnoreAsciiCase f.1 g.1 = false)

/-! ### The body -/

/-- The writes add up to the rest of the body. -/
lemma flatten_writeLoop (body : List UInt8) (off : Nat) :
    (writeLoop body off).flatten = body.drop off := by
  fun_induction writeLoop body off with
  | case1 off hlt stop ih =>
    have hstop : off ≤ stop := by omega
    have hrest : body.drop stop = (body.drop off).drop (stop - off) := by
      rw [List.drop_drop, Nat.add_sub_cancel' hstop]
    rw [List.flatten_cons, ih, hrest, List.take_append_drop]
  | case2 off hge => simp [List.drop_eq_nil_of_le (Nat.not_lt.mp hge)]

/-- The sum saturates only where the vector could not be made. -/
lemma chunk_fits_iff (current incoming maxBody : Nat) :
    withinBodyCap current incoming maxBody = true ∧ ¬isizeMax < current + incoming ↔
      current + incoming ≤ maxBody ∧ current + incoming ≤ isizeMax := by
  have hwords : isizeMax < u64Max := by decide
  unfold withinBodyCap saturatingAdd
  rw [decide_eq_true_eq]
  omega

lemma readBody_ok {maxBody : Nat} {body : List UInt8} {chunks : List (List UInt8)}
    (hcap : body.length + chunks.flatten.length ≤ maxBody)
    (hmem : body.length + chunks.flatten.length ≤ isizeMax) :
    readBody maxBody body (chunks.map .ok) = .ok (body ++ chunks.flatten) := by
  induction chunks generalizing body with
  | nil => simp [readBody]
  | cons c cs ih =>
    rw [List.flatten_cons, List.length_append] at hcap hmem
    obtain ⟨hwithin, hroom⟩ := (chunk_fits_iff body.length c.length maxBody).mpr
      ⟨by omega, by omega⟩
    rw [List.map_cons, readBody, hwithin, if_neg (by decide), if_neg hroom,
      ih (by rw [List.length_append]; omega) (by rw [List.length_append]; omega),
      List.append_assoc, List.flatten_cons]

lemma length_of_readBody {maxBody : Nat} {body b : List UInt8} {chunks : List (List UInt8)}
    (hcap : body.length ≤ maxBody) (hmem : body.length ≤ isizeMax)
    (h : readBody maxBody body (chunks.map .ok) = .ok b) :
    b = body ++ chunks.flatten ∧ b.length ≤ maxBody ∧ b.length ≤ isizeMax := by
  induction chunks generalizing body with
  | nil =>
    cases h
    exact ⟨by simp, hcap, hmem⟩
  | cons c cs ih =>
    rw [List.map_cons, readBody] at h
    split at h
    · cases h
    · rename_i hwithin
      split at h
      · cases h
      · rename_i hroom
        obtain ⟨hcap', hmem'⟩ := (chunk_fits_iff body.length c.length maxBody).mp
          ⟨by simpa using hwithin, hroom⟩
        obtain ⟨heq, hlen⟩ := ih (by rwa [List.length_append]) (by rwa [List.length_append]) h
        exact ⟨by rw [heq, List.append_assoc, List.flatten_cons], hlen⟩

/-! ### The fields -/

/-- The fields of a list inserted one after the other. -/
def insertAll (head fields : HeaderMap) : HeaderMap :=
  fields.foldl (fun h f => h.insertHeader f.1 f.2) head

/-- The two translations of the fields come to inserting those that are forwarded. -/
lemma foldl_writeHeader (head headers : HeaderMap)
    (hnames : ∀ f ∈ headers, isHeaderName f.1 = true) :
    (bridgeResponseHeaders headers).foldl writeHeader head =
      insertAll head (headers.filter isForwarded) := by
  induction headers generalizing head with
  | nil => rfl
  | cons f fs ih =>
    have hname := hnames f List.mem_cons_self
    have hrest := fun head => ih head (fun g hg => hnames g (List.mem_cons_of_mem f hg))
    unfold bridgeResponseHeaders at hrest ⊢
    cases hhop : isHopHeader f.1 with
    | true =>
      rw [List.filterMap_cons_none (by simp [hhop]),
        List.filter_cons_of_neg (by simp [isForwarded, hhop])]
      exact hrest head
    | false =>
      cases htext : headerToStr f.2 with
      | none =>
        rw [List.filterMap_cons_none (by simp [hhop, htext]),
          List.filter_cons_of_neg (by simp [isForwarded, htext])]
        exact hrest head
      | some v =>
        obtain ⟨hlegal, hbytes⟩ := headerToStr_spec htext
        rw [List.filterMap_cons_some (b := (f.1, v)) (by simp [hhop, htext]), List.foldl_cons]
        cases hlength : eqIgnoreAsciiCase f.1 "content-length" with
        | true =>
          rw [List.filter_cons_of_neg (by simp [isForwarded, hlength]), writeHeader, if_pos hlength]
          exact hrest head
        | false =>
          rw [List.filter_cons_of_pos (by simp [isForwarded, hhop, hlength, htext]), writeHeader,
            if_neg (by simp [hlength]), if_pos (by simp [hname, hlegal]), hbytes]
          exact hrest _

lemma mem_insertAll {head fields : HeaderMap} {f : String × List UInt8}
    (h : f ∈ insertAll head fields) : f ∈ head ∨ f ∈ fields := by
  induction fields generalizing head with
  | nil => exact .inl h
  | cons g gs ih =>
    rcases ih h with hhead | hrest
    · rcases mem_insertHeader.mp hhead with ⟨hf, -⟩ | rfl
      · exact .inl hf
      · exact .inr List.mem_cons_self
    · exact .inr (List.mem_cons_of_mem g hrest)

/-- No name twice. -/
abbrev NamesDiffer (fields : HeaderMap) : Prop :=
  fields.Pairwise (fun f g => eqIgnoreAsciiCase f.1 g.1 = false)

lemma namesDiffer_insertHeader {head : HeaderMap} (h : NamesDiffer head) (name : String)
    (value : List UInt8) : NamesDiffer (head.insertHeader name value) := by
  refine List.pairwise_append.mpr ⟨h.sublist List.filter_sublist, List.pairwise_singleton _ _, ?_⟩
  intro f hf g hg
  rw [List.mem_singleton] at hg
  rw [hg]
  exact (mem_removeHeader.mp hf).2

lemma namesDiffer_insertAll {head : HeaderMap} (h : NamesDiffer head) (fields : HeaderMap) :
    NamesDiffer (insertAll head fields) := by
  induction fields generalizing head with
  | nil => exact h
  | cons f fs ih => exact ih (namesDiffer_insertHeader h f.1 f.2)

/-- Where no name is repeated, nothing is replaced. -/
lemma insertAll_of_namesDiffer {head fields : HeaderMap} (h : NamesDiffer (head ++ fields)) :
    insertAll head fields = head ++ fields := by
  induction fields generalizing head with
  | nil => exact (List.append_nil head).symm
  | cons f fs ih =>
    have hkeep : head.removeHeader f.1 = head := by
      refine List.filter_eq_self.mpr (fun g hg => ?_)
      rw [(List.pairwise_append.mp h).2.2 g hg f List.mem_cons_self]
      rfl
    have hnext : head.insertHeader f.1 f.2 = head ++ [f] := by
      rw [HeaderMap.insertHeader, hkeep]
    change insertAll (head.insertHeader f.1 f.2) fs = head ++ f :: fs
    rw [hnext, ih (by rwa [List.append_assoc, List.singleton_append]), List.append_assoc,
      List.singleton_append]

lemma nodup_of_namesDiffer {fields : HeaderMap} (h : NamesDiffer fields) : fields.Nodup :=
  h.imp (fun hname heq => by rw [heq, eqIgnoreAsciiCase_self] at hname; cases hname)

/-- Every field survives with its multiplicity exactly where no name is repeated. -/
lemma count_insertAll_iff (fields : HeaderMap) :
    (∀ f ∈ fields, (insertAll [] fields).count f = fields.count f) ↔ NamesDiffer fields := by
  constructor
  · intro hcount
    have hout : NamesDiffer (insertAll [] fields) :=
      namesDiffer_insertAll List.Pairwise.nil fields
    refine List.pairwise_iff_forall_sublist.mpr (fun {f g} hsub => ?_)
    have hf : f ∈ fields := hsub.subset List.mem_cons_self
    have hg : g ∈ fields := hsub.subset (List.mem_cons_of_mem f List.mem_cons_self)
    have hkept : ∀ x ∈ fields, x ∈ insertAll [] fields := by
      intro x hx
      rw [← List.count_pos_iff, hcount x hx]
      exact List.count_pos_iff.mpr hx
    by_cases hfg : f = g
    · -- the same field twice would have to be there twice
      subst hfg
      have htwo : 2 ≤ fields.count f := by simpa using hsub.count_le f
      have hone := List.nodup_iff_count_le_one.mp (nodup_of_namesDiffer hout) f
      rw [hcount f hf] at hone
      omega
    · have hsymm : Std.Symm (fun a b : String × List UInt8 => eqIgnoreAsciiCase a.1 b.1 = false) :=
        ⟨fun a b hab => by rwa [eqIgnoreAsciiCase_comm]⟩
      exact hout.forall (hkept f hf) (hkept g hg) hfg
  · intro h f _
    rw [insertAll_of_namesDiffer (by simpa using h), List.nil_append]

/-! ### The whole response -/

variable {s : SocksBridge} {resp : UpstreamResponse} {chunks : List (List UInt8)}
  {out : DownstreamResponse}

lemma relay_eq_some (hstream : resp.stream = chunks.map .ok) (h : s.relay resp = some out) :
    out.status = resp.status ∧
      out.headers = insertAll [] (resp.headers.filter isForwarded) ∧
      out.writes.flatten = chunks.flatten := by
  unfold SocksBridge.relay SocksBridge.readResponse at h
  split at h
  · rename_i r hr
    split at hr
    · cases hr
    · rw [hstream] at hr
      split at hr
      · rename_i body hbody
        cases hr
        have heq := (length_of_readBody (Nat.zero_le _) (Nat.zero_le _) hbody).1
        rw [List.nil_append] at heq
        unfold writeBridgeResponse at h
        rw [if_pos resp.status_ok] at h
        cases h
        refine ⟨rfl, foldl_writeHeader [] resp.headers resp.names_ok, ?_⟩
        simp [flatten_writeLoop, heq]
      · cases hr
  · cases h

lemma no_contentLength (hstream : resp.stream = chunks.map .ok) (h : s.relay resp = some out) :
    ∀ f ∈ out.headers, eqIgnoreAsciiCase f.1 "content-length" = false := by
  intro f hf
  rw [(relay_eq_some hstream h).2.1] at hf
  rcases mem_insertAll hf with hnil | hforwarded
  · cases hnil
  · have hkept := (List.mem_filter.mp hforwarded).2
    simp only [isForwarded, Bool.and_eq_true, Bool.not_eq_true'] at hkept
    exact hkept.1.2

lemma not_intact (hstream : resp.stream = chunks.map .ok) (h : s.relay resp = some out) :
    ¬Intact resp chunks.flatten out := by
  rintro ⟨-, f, hf, hname, -⟩
  rw [no_contentLength hstream h f hf] at hname
  cases hname

/-- A response is relayed exactly when neither its declared nor its actual length is over the
cap, and the body fits in memory. -/
lemma relay_isSome_iff (hstream : resp.stream = chunks.map .ok) :
    (s.relay resp).isSome ↔ contentLengthOverCap resp.contentLength s.maxBody = false ∧
      chunks.flatten.length ≤ s.maxBody ∧ chunks.flatten.length ≤ isizeMax := by
  unfold SocksBridge.relay SocksBridge.readResponse
  rw [hstream]
  cases hdeclared : contentLengthOverCap resp.contentLength s.maxBody with
  | true => simp
  | false =>
    rw [if_neg (by decide)]
    cases hbody : readBody s.maxBody [] (chunks.map .ok) with
    | ok body =>
      obtain ⟨rfl, hcap, hmem⟩ := length_of_readBody (Nat.zero_le _) (Nat.zero_le _) hbody
      refine iff_of_true ?_ ⟨rfl, hcap, hmem⟩
      dsimp only
      unfold writeBridgeResponse
      rw [if_pos resp.status_ok]
      rfl
    | error e =>
      refine iff_of_false (by simp) (fun hfits => ?_)
      rw [readBody_ok (by simpa using hfits.2.1) (by simpa using hfits.2.2)] at hbody
      cases hbody

lemma relay_eq_none_of_over_cap (hstream : resp.stream = chunks.map .ok)
    (hover : s.maxBody < chunks.flatten.length) : s.relay resp = none := by
  rw [← Option.not_isSome_iff_eq_none, relay_isSome_iff hstream]
  rintro ⟨-, hcap, -⟩
  omega

lemma bodyAndFieldsIntact_iff (hstream : resp.stream = chunks.map .ok)
    (h : s.relay resp = some out) :
    BodyAndFieldsIntact resp chunks.flatten out ↔ DistinctNames resp.headers := by
  obtain ⟨hstatus, hheaders, hbody⟩ := relay_eq_some hstream h
  have hcount : ∀ f, isForwarded f = true →
      (resp.headers.filter isForwarded).count f = resp.headers.count f :=
    fun f hf => List.count_filter hf
  refine Iff.trans ?_ (count_insertAll_iff (resp.headers.filter isForwarded))
  constructor
  · intro hintact f hf
    obtain ⟨hmem, hforwarded⟩ := List.mem_filter.mp hf
    rw [← hheaders, hintact.fields_eq f hmem hforwarded, hcount f hforwarded]
  · refine fun hfields => ⟨hstatus, fun f hmem hforwarded => ?_, hbody⟩
    rw [hheaders, hfields f (List.mem_filter.mpr ⟨hmem, hforwarded⟩), hcount f hforwarded]

/-- A response within the cap reaches the client whole, and a larger one is no success. -/
def RelayedIntact (s : SocksBridge) (resp : UpstreamResponse) (body : List UInt8) : Prop :=
  (body.length ≤ s.maxBody → ∃ out, s.relay resp = some out ∧ Intact resp body out) ∧
    (s.maxBody < body.length → s.relay resp = none)

/-- No response is relayed whole, since its length is never written; one that is over the cap is
refused. Every other response is relayed unless it declares a length over the cap, with its status
and body, and with all its fields exactly where no name is repeated among those forwarded. -/
theorem bridge_response_intact_iff (s : SocksBridge) (resp : UpstreamResponse)
    (chunks : List (List UInt8)) (hstream : resp.stream = chunks.map .ok) :
    (RelayedIntact s resp chunks.flatten ↔ s.maxBody < chunks.flatten.length) ∧
      ((s.relay resp).isSome ↔ contentLengthOverCap resp.contentLength s.maxBody = false ∧
        chunks.flatten.length ≤ s.maxBody ∧ chunks.flatten.length ≤ isizeMax) ∧
      ∀ out, s.relay resp = some out →
        (out.status = resp.status ∧ out.writes.flatten = chunks.flatten) ∧
          (BodyAndFieldsIntact resp chunks.flatten out ↔ DistinctNames resp.headers) := by
  refine ⟨⟨fun hintact => ?_, fun hover => ?_⟩, relay_isSome_iff hstream, fun out hout => ?_⟩
  · by_contra hcap
    obtain ⟨out, hout, hwhole⟩ := hintact.1 (Nat.le_of_not_lt hcap)
    exact not_intact hstream hout hwhole
  · exact ⟨fun hcap => absurd hover (Nat.not_lt.mpr hcap),
      fun _ => relay_eq_none_of_over_cap hstream hover⟩
  · obtain ⟨hstatus, -, hbody⟩ := relay_eq_some hstream hout
    exact ⟨⟨hstatus, hbody⟩, bodyAndFieldsIntact_iff hstream hout⟩

/-- A login that sets two cookies. -/
def loginResponse : UpstreamResponse where
  status := 200
  status_ok := by decide
  headers := [("set-cookie", asciiBytes "a=1"), ("set-cookie", asciiBytes "b=2")]
  names_ok := by decide
  contentLength := some 2
  stream := [.ok [111], .ok [107]]

theorem bridge_response_intact_iff_login :
    (RelayedIntact (.new 20 10) loginResponse [111, 107] ↔ 10 < 2) ∧
      (((SocksBridge.new 20 10).relay loginResponse).isSome ↔
        contentLengthOverCap (some 2) 10 = false ∧ 2 ≤ 10 ∧ 2 ≤ isizeMax) ∧
      ∀ out, (SocksBridge.new 20 10).relay loginResponse = some out →
        (out.status = 200 ∧ out.writes.flatten = [111, 107]) ∧
          (BodyAndFieldsIntact loginResponse [111, 107] out ↔
            DistinctNames loginResponse.headers) :=
  bridge_response_intact_iff (.new 20 10) loginResponse [[111], [107]] rfl

/-- The client gets one of the two cookies and no content length. -/
theorem login_not_intact :
    ((SocksBridge.new 20 10).relay loginResponse).map DownstreamResponse.headers =
        some [("set-cookie", asciiBytes "b=2")] ∧
      ¬RelayedIntact (.new 20 10) loginResponse [111, 107] := by
  refine ⟨by decide +kernel, fun hintact => ?_⟩
  obtain ⟨out, hout, hwhole⟩ := hintact.1 (by decide)
  have hstream : loginResponse.stream = [[111], [107]].map .ok := rfl
  exact not_intact hstream hout hwhole

end IPProxyPool
