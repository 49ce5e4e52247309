import IPProxyPool.Model.Headers

/-!
# Headers against user-name tokens

Country, session, tier and protocol can each be given by a header and by tokens of the Basic user
name. A token overwrites the first three whatever the headers say, and yields for the protocol
only, so the headers come first exactly when no token contradicts them.
-/

namespace IPProxyPool
open RustText

/-- The tokens of the user name of a Basic `Proxy-Authorization` header. -/
def userTokens (b64Decode : String → Option (List UInt8)) (header : HeaderMap) : List String :=
  match (header.getStr "Proxy-Authorization").bind (basicUser b64Decode) with
  | some user => split '_' user
  | none => []

/-- The values of the tokens with one prefix, in the order of the tokens. -/
def tokenValues (pre : String) (tokens : List String) : List String :=
  tokens.filterMap (stripPrefix pre)

/-- A field is decided by its header where there is one, else by one of its tokens. -/
structure HeaderFirst {α : Type} (fromHeader : Option α) (fromTokens : List α)
    (field : Option α) : Prop where
  header : ∀ v, fromHeader = some v → field = some v
  token : fromHeader = none → fromTokens ≠ [] → ∃ v ∈ fromTokens, field = some v
  absent : fromHeader = none → fromTokens = [] → field = none

/-- All four directives of a request put the header first. A protocol counts, in a header and in a
token, where it is a valid one. -/
structure DirectivesPrecede (b64Decode : String → Option (List UInt8)) (header : HeaderMap) :
    Prop where
  country : HeaderFirst (header.getStr "X-Proxy-Country")
    (tokenValues "country-" (userTokens b64Decode header)) (parseRoutingSpec b64Decode header).country
  session : HeaderFirst (header.getStr "X-Proxy-Session")
    (tokenValues "session-" (userTokens b64Decode header))
    (parseRoutingSpec b64Decode header).sessionId
  tier : HeaderFirst (header.getStr "X-Proxy-Tier")
    (tokenValues "tier-" (userTokens b64Decode header)) (parseRoutingSpec b64Decode header).tier
  proto : HeaderFirst ((header.getStr "X-Proxy-Proto").bind EgressProto.fromToken)
    ((tokenValues "proto-" (userTokens b64Decode header)).filterMap EgressProto.fromToken)
    (parseRoutingSpec b64Decode header).proto

/-- No token of the kind, or the last one repeats the header. -/
def Unopposed (fromHeader : Option String) (fromTokens : List String) : Prop :=
  ∀ v ∈ fromHeader, ∀ last ∈ fromTokens.getLast?, last = v

/-! ### What the tokens leave -/

lemma stripPrefix_eq_none {pre pre' token v : String} (h : stripPrefix pre token = some v)
    (h₁ : ¬pre.toList <+: pre'.toList) (h₂ : ¬pre'.toList <+: pre.toList) :
    stripPrefix pre' token = none := by
  unfold stripPrefix at h ⊢
  split at h
  · rename_i hpre
    rw [List.isPrefixOf_iff_prefix] at hpre
    rw [if_neg]
    rw [List.isPrefixOf_iff_prefix]
    intro hpre'
    rcases List.prefix_or_prefix_of_prefix hpre hpre' with hp | hp
    · exact h₁ hp
    · exact h₂ hp
  · cases h

/-- A token sets the one field whose prefix it has. -/
lemma applyToken_eq (spec : RoutingSpec) (token : String) :
    applyToken spec token =
      { spec with
        country := (stripPrefix "country-" token).or spec.country
        sessionId := (stripPrefix "session-" token).or spec.sessionId
        tier := (stripPrefix "tier-" token).or spec.tier
        proto := spec.proto.or ((stripPrefix "proto-" token).bind EgressProto.fromToken) } := by
  unfold applyToken
  rcases hc : stripPrefix "country-" token with _ | c
  · rcases hs : stripPrefix "session-" token with _ | s
    · rcases ht : stripPrefix "tier-" token with _ | t
      · rcases hp : stripPrefix "proto-" token with _ | p
        · simp
        · rcases spec with ⟨country, sessionId, tier, targetDomain, proto⟩
          cases proto <;> simp
      · have hp : stripPrefix "proto-" token = none :=
          stripPrefix_eq_none ht (by decide) (by decide)
        simp [hp]
    · have ht : stripPrefix "tier-" token = none := stripPrefix_eq_none hs (by decide) (by decide)
      have hp : stripPrefix "proto-" token = none := stripPrefix_eq_none hs (by decide) (by decide)
      simp [ht, hp]
  · have hs : stripPrefix "session-" token = none := stripPrefix_eq_none hc (by decide) (by decide)
    have ht : stripPrefix "tier-" token = none := stripPrefix_eq_none hc (by decide) (by decide)
    have hp : stripPrefix "proto-" token = none := stripPrefix_eq_none hc (by decide) (by decide)
    simp [hs, ht, hp]

lemma getLast?_filterMap_or {α β : Type} (f : α → Option β) (a : α) (l : List α) (b : Option β) :
    ((a :: l).filterMap f).getLast?.or b = (l.filterMap f).getLast?.or ((f a).or b) := by
  rw [List.filterMap_cons]
  cases f a with
  | none => simp
  | some b' =>
    rw [Option.some_or, List.getLast?_cons]
    cases (l.filterMap f).getLast? <;> rfl

/-- The last token decides for country, session and tier, the first valid one for the protocol. -/
lemma foldl_applyToken (tokens : List String) (spec : RoutingSpec) :
    tokens.foldl applyToken spec =
      { spec with
        country := (tokenValues "country-" tokens).getLast?.or spec.country
        sessionId := (tokenValues "session-" tokens).getLast?.or spec.sessionId
        tier := (tokenValues "tier-" tokens).getLast?.or spec.tier
        proto := spec.proto.or
          ((tokenValues "proto-" tokens).filterMap EgressProto.fromToken).head? } := by
  induction tokens generalizing spec with
  | nil => simp [tokenValues]
  | cons token tokens ih =>
    have hproto : ((tokenValues "proto-" (token :: tokens)).filterMap EgressProto.fromToken).head? =
        ((stripPrefix "proto-" token).bind EgressProto.fromToken).or
          ((tokenValues "proto-" tokens).filterMap EgressProto.fromToken).head? := by
      unfold tokenValues
      rw [List.filterMap_cons]
      rcases stripPrefix "proto-" token with _ | v
      · rfl
      · dsimp only [Option.bind_some]
        rw [List.filterMap_cons]
        cases EgressProto.fromToken v <;> rfl
    rw [List.foldl_cons, ih, applyToken_eq, hproto]
    simp only [tokenValues, getLast?_filterMap_or, Option.or_assoc]

lemma parseRoutingSpec_eq (b64Decode : String → Option (List UInt8)) (header : HeaderMap) :
    parseRoutingSpec b64Decode header =
      (userTokens b64Decode header).foldl applyToken (headerSpec header) := by
  unfold parseRoutingSpec userTokens
  cases (header.getStr "Proxy-Authorization").bind (basicUser b64Decode) <;> rfl

/-! ### When the header comes first -/

lemma headerFirst_getLast_iff (fromHeader : Option String) (fromTokens : List String) :
    HeaderFirst fromHeader fromTokens (fromTokens.getLast?.or fromHeader) ↔
      Unopposed fromHeader fromTokens := by
  constructor
  · rintro h v hv last hlast
    have hfield := h.header v hv
    rw [Option.mem_def.mp hlast] at hfield
    exact Option.some.inj hfield
  · intro h
    refine ⟨fun v hv => ?_, fun hnone hne => ?_, fun hnone hnil => ?_⟩
    · rcases hlast : fromTokens.getLast? with _ | last
      · exact hv
      · rw [h v hv last hlast]
        rfl
    · refine ⟨fromTokens.getLast hne, List.getLast_mem hne, ?_⟩
      rw [List.getLast?_eq_some_getLast hne]
      rfl
    · rw [hnone, hnil]
      rfl

lemma headerFirst_head {α : Type} (fromHeader : Option α) (fromTokens : List α) :
    HeaderFirst fromHeader fromTokens (fromHeader.or fromTokens.head?) := by
  refine ⟨fun v hv => ?_, fun hnone hne => ?_, fun hnone hnil => ?_⟩
  · rw [hv]
    rfl
  · obtain ⟨v, rest, rfl⟩ := List.exists_cons_of_ne_nil hne
    exact ⟨v, List.mem_cons_self, by rw [hnone]; rfl⟩
  · rw [hnone, hnil]
    rfl

/-- For every header map and every decoder, all four directives put the header first if and only
if country, session and tier are each not opposed by a token. -/
theorem directives_precede_iff (b64Decode : String → Option (List UInt8)) (header : HeaderMap) :
    DirectivesPrecede b64Decode header ↔
      Unopposed (header.getStr "X-Proxy-Country")
          (tokenValues "country-" (userTokens b64Decode header)) ∧
        Unopposed (header.getStr "X-Proxy-Session")
          (tokenValues "session-" (userTokens b64Decode header)) ∧
        Unopposed (header.getStr "X-Proxy-Tier")
          (tokenValues "tier-" (userTokens b64Decode header)) := by
  have hspec := (parseRoutingSpec_eq b64Decode header).trans (foldl_applyToken _ _)
  have hproto := headerFirst_head ((header.getStr "X-Proxy-Proto").bind EgressProto.fromToken)
    ((tokenValues "proto-" (userTokens b64Decode header)).filterMap EgressProto.fromToken)
  constructor
  · rintro ⟨hcountry, hsession, htier, -⟩
    rw [hspec] at hcountry hsession htier
    exact ⟨(headerFirst_getLast_iff _ _).mp hcountry, (headerFirst_getLast_iff _ _).mp hsession,
      (headerFirst_getLast_iff _ _).mp htier⟩
  · rintro ⟨hcountry, hsession, htier⟩
    refine ⟨?_, ?_, ?_, ?_⟩
    · rw [hspec]
      exact (headerFirst_getLast_iff _ _).mpr hcountry
    · rw [hspec]
      exact (headerFirst_getLast_iff _ _).mpr hsession
    · rw [hspec]
      exact (headerFirst_getLast_iff _ _).mpr htier
    · rw [hspec]
      exact hproto

/-- A request with country `jp` in the header and `us` in the user name `country-us`. -/
def opposedHeader : HeaderMap :=
  [("x-proxy-country", [106, 112]),
    ("proxy-authorization", [66, 97, 115, 105, 99, 32, 89, 50, 57, 49, 98, 110, 82, 121, 101, 83, 49,
      49, 99, 119, 61, 61])]

/-- The decoder of that one value. -/
def opposedDecode (b64 : String) : Option (List UInt8) :=
  if b64 = "Y291bnRyeS11cw==" then some [99, 111, 117, 110, 116, 114, 121, 45, 117, 115] else none

/-- The request is routed to `us`. -/
theorem token_overrides_header : ¬DirectivesPrecede opposedDecode opposedHeader := by
  intro h
  have hfield := h.country.header "jp" (by decide)
  revert hfield
  decide

end IPProxyPool
