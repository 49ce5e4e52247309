import IPProxyPool.Model.NodeValidation

/-!
# What a validated node guarantees

Each check of the validator is read off as a condition on the node that enters and as a guarantee
about the node that leaves. The documentation promises one thing more, that credentials come in
pairs. A username without a password is let through.
-/

namespace IPProxyPool
open RustText RustNet

/-! ### Fields -/

def TwoUppercaseLetters (country : String) : Prop :=
  ∃ a b : Char, country.toList = [a, b] ∧ a.isUpper = true ∧ b.isUpper = true

/-- `free` in any case, and whatever begins with `free-` in any case. -/
def FreeName (provider : String) : Prop :=
  toAsciiLowercase provider = "free" ∨
    reservedProviderPrefix.toList <+: (toAsciiLowercase provider).toList

def ManagedTier (tier : String) : Prop :=
  tier = "datacenter" ∨ tier = "residential" ∨ tier = "mobile"

/-- What the provider check asks of a name without blanks around it. -/
structure ProviderName (provider : String) : Prop where
  nonempty : provider ≠ ""
  no_control : ∀ c ∈ provider.toList, isControl c = false
  not_free : ¬FreeName provider

/-- The nodes that the validator lets through. -/
structure Acceptable (n : ProxyNode) : Prop where
  ip : ∃ addr, parseIpAddr (trimString n.ip) = some (.v4 addr)
  port : n.port ≠ 0
  country_len : byteLen (trimString n.country) = 2
  country_alpha : ∀ c ∈ (trimString n.country).toList, c.isAlpha = true
  tier : ManagedTier (canonicalTier (trimString n.tier))
  provider : ProviderName (trimString n.provider)
  provider_len : byteLen (trimString n.provider) ≤ maxProviderBytes
  weight : n.weight ≤ maxWeight
  username : ∀ u, n.username = some u → u ≠ "" ∧ byteLen u ≤ maxUsernameBytes
  password : ∀ p, n.password = some p → n.username.isSome ∧ byteLen p ≤ maxPasswordBytes

/-- What holds of every node that leaves the validator. -/
structure Guaranteed (m : ProxyNode) : Prop where
  ip : ∃ addr : Ipv4Addr, m.ip = addr.text
  addr : m.addr = m.ip ++ ":" ++ toString m.port.toNat
  port : 0 < m.port
  country : TwoUppercaseLetters m.country
  tier : ManagedTier m.tier
  provider : ProviderName m.provider
  provider_trim : trimString m.provider = m.provider
  weight : m.weight ≤ 100

/-- What the documentation of the validator promises. -/
structure Promised (m : ProxyNode) : Prop extends Guaranteed m where
  paired : m.username.isSome ↔ m.password.isSome

lemma freeName_iff (provider : String) : FreeName provider ↔ isReservedProvider provider = true := by
  have hfree : toAsciiLowercase "free" = "free" := by decide +kernel
  unfold FreeName isReservedProvider
  rw [Bool.or_eq_true, eqIgnoreAsciiCase_iff, startsWith_iff, hfree]

lemma isUpper_toUpper {c : Char} (h : c.isAlpha = true) : c.toUpper.isUpper = true :=
  of_ascii (P := fun c => c.isAlpha = true → c.toUpper.isUpper = true) (by decide +kernel)
    (isAlpha_lt h) h

/-- Letters take one byte each. -/
lemma twoUppercaseLetters_of_alpha {s : String} (hlen : byteLen s = 2)
    (halpha : ∀ c ∈ s.toList, c.isAlpha = true) : TwoUppercaseLetters (toAsciiUppercase s) := by
  have hsize : byteLen s = s.toList.length := by
    have hofList := byteLen_eq_length (fun c hc => (letterFacts (halpha c hc)).size_eq)
    rwa [String.ofList_toList] at hofList
  obtain ⟨a, b, hs⟩ := List.length_eq_two.mp (hsize.symm.trans hlen)
  rw [hs] at halpha
  refine ⟨a.toUpper, b.toUpper, ?_, isUpper_toUpper (halpha a (by simp)),
    isUpper_toUpper (halpha b (by simp))⟩
  rw [toAsciiUppercase, String.toList_ofList, hs]
  rfl

lemma providerName_of_ok {provider p : String} (h : normalizeProvider provider = .ok p) :
    ProviderName p := by
  obtain ⟨-, hne, -, hctl, hfree⟩ := (normalizeProvider_eq_ok_iff provider p).mp h
  refine ⟨hne, ?_, ?_⟩
  · simpa [List.any_eq_false] using hctl
  · rw [freeName_iff, hfree]
    exact Bool.false_ne_true

lemma normalizeProvider_of_name {provider : String} (h : ProviderName (trimString provider))
    (hlen : byteLen (trimString provider) ≤ maxProviderBytes) :
    normalizeProvider provider = .ok (trimString provider) := by
  refine (normalizeProvider_eq_ok_iff _ _).mpr ⟨rfl, h.nonempty, hlen, ?_, ?_⟩
  · simpa [List.any_eq_false] using h.no_control
  · rw [← Bool.not_eq_true, ← freeName_iff]
    exact h.not_free

/-! ### The validator -/

section Validator

variable {n m : ProxyNode}

lemma Acceptable.accepts (h : Acceptable n) : ∃ m, normalizeAndValidate n = .ok m := by
  obtain ⟨ip, hip⟩ : ∃ ip, normalizeIp n.ip = .ok ip := by
    obtain ⟨addr, haddr⟩ := h.ip
    exact ⟨addr.text, (normalizeIp_eq_ok_iff _ _).mpr ⟨addr, haddr, rfl⟩⟩
  obtain ⟨country, hcountry⟩ : ∃ country, normalizeCountry n.country = .ok country :=
    ⟨_, (normalizeCountry_eq_ok_iff _ _).mpr ⟨h.country_len, h.country_alpha, rfl⟩⟩
  obtain ⟨tier, htier⟩ : ∃ tier, normalizeTier n.tier = .ok tier :=
    ⟨_, (normalizeTier_eq_ok_iff _ _).mpr ⟨rfl, h.tier⟩⟩
  have hprovider := normalizeProvider_of_name h.provider h.provider_len
  have hcredentials := (checkCredentials_eq_ok_iff _ _).mpr ⟨h.username, h.password⟩
  exact ⟨_, (normalizeAndValidate_eq_ok_iff n { n with
    ip := ip, addr := addrOf ip n.port, country := country, tier := tier,
    provider := trimString n.provider }).mpr ⟨hip, (checkPort_eq_ok_iff n.port).mpr h.port,
      hcountry, htier, hprovider, (checkWeight_eq_ok_iff n.weight).mpr h.weight, hcredentials, rfl⟩⟩

lemma Accepts.acceptable (h : Accepts n m) : Acceptable n := by
  obtain ⟨addr, hip, -⟩ := (normalizeIp_eq_ok_iff _ _).mp h.ip_ok
  obtain ⟨hlen, halpha, -⟩ := (normalizeCountry_eq_ok_iff _ _).mp h.country_ok
  obtain ⟨htier, hmanaged⟩ := (normalizeTier_eq_ok_iff _ _).mp h.tier_ok
  obtain ⟨hprovider, -, hproviderLen, -⟩ := (normalizeProvider_eq_ok_iff _ _).mp h.provider_ok
  obtain ⟨husername, hpassword⟩ := (checkCredentials_eq_ok_iff _ _).mp h.credentials_ok
  exact {
    ip := ⟨addr, hip⟩
    port := (checkPort_eq_ok_iff n.port).mp h.port_ok
    country_len := hlen
    country_alpha := halpha
    tier := htier ▸ hmanaged
    provider := hprovider ▸ providerName_of_ok h.provider_ok
    provider_len := hprovider ▸ hproviderLen
    weight := (checkWeight_eq_ok_iff n.weight).mp h.weight_ok
    username := husername
    password := hpassword }

theorem acceptable_iff (n : ProxyNode) : Acceptable n ↔ ∃ m, normalizeAndValidate n = .ok m :=
  ⟨Acceptable.accepts, fun ⟨m, hm⟩ => ((normalizeAndValidate_eq_ok_iff n m).mp hm).acceptable⟩

/-- Validation does not touch the port, the weight or the credentials. -/
lemma Accepts.frame (h : Accepts n m) :
    m.port = n.port ∧ m.weight = n.weight ∧ m.username = n.username ∧ m.password = n.password := by
  rw [h.eq]
  exact ⟨rfl, rfl, rfl, rfl⟩

theorem Accepts.guaranteed (h : Accepts n m) : Guaranteed m := by
  have hacc := h.acceptable
  obtain ⟨hport, hweight, -, -⟩ := h.frame
  obtain ⟨addr, -, hip⟩ := (normalizeIp_eq_ok_iff _ _).mp h.ip_ok
  obtain ⟨-, -, hcountry⟩ := (normalizeCountry_eq_ok_iff _ _).mp h.country_ok
  have hprovider := ((normalizeProvider_eq_ok_iff _ _).mp h.provider_ok).1
  exact {
    ip := ⟨addr, hip.symm⟩
    addr := by
      rw [hport, h.eq]
      rfl
    port := by
      rw [hport]
      exact UInt16.pos_iff_ne_zero.mpr hacc.port
    country := hcountry ▸ twoUppercaseLetters_of_alpha hacc.country_len hacc.country_alpha
    tier := ((normalizeTier_eq_ok_iff _ _).mp h.tier_ok).2
    provider := providerName_of_ok h.provider_ok
    provider_trim := by rw [hprovider, trimString_idem]
    weight := hweight ▸ hacc.weight }

/-- A password never comes alone, so the pairing can only fail for want of a password. -/
lemma Acceptable.paired_iff (h : Acceptable n) :
    (n.username.isSome ↔ n.password.isSome) ↔ (n.username.isSome → n.password.isSome) := by
  refine ⟨Iff.mp, fun hpair => ⟨hpair, fun hp => ?_⟩⟩
  obtain ⟨p, hp⟩ := Option.isSome_iff_exists.mp hp
  exact (h.password p hp).1

lemma Accepts.promised_iff (h : Accepts n m) :
    Promised m ↔ (n.username.isSome → n.password.isSome) := by
  obtain ⟨-, -, husername, hpassword⟩ := h.frame
  rw [← h.acceptable.paired_iff, ← husername, ← hpassword]
  exact ⟨Promised.paired, fun hpair => ⟨h.guaranteed, hpair⟩⟩

/-- The validator keeps its promise for every node but the acceptable ones with a username and no
password. What it returns it returns again in any case. -/
theorem normalizeAndValidate_promised_iff (n : ProxyNode) :
    (∀ m, normalizeAndValidate n = .ok m → Promised m ∧ normalizeAndValidate m = .ok m) ↔
      (Acceptable n → n.username.isSome → n.password.isSome) := by
  constructor
  · intro h hacc
    obtain ⟨m, hm⟩ := hacc.accepts
    exact ((normalizeAndValidate_eq_ok_iff n m).mp hm).promised_iff.mp (h m hm).1
  · intro hpair m hm
    have hacc := (normalizeAndValidate_eq_ok_iff n m).mp hm
    exact ⟨hacc.promised_iff.mpr (hpair hacc.acceptable), normal_of_accepted hm⟩

def loneUsername : ProxyNode :=
  .new "203.0.113.9" 8080 (some "user") none "US" "datacenter" "acme" 10

theorem normalizeAndValidate_unpaired :
    normalizeAndValidate loneUsername = .ok loneUsername ∧ ¬Promised loneUsername := by
  refine ⟨by decide +kernel, fun h => ?_⟩
  exact absurd (h.paired.mp rfl) (by decide)

end Validator

end IPProxyPool
