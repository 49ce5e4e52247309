import Mathlib.Data.String.Basic
import IPProxyPool.Lib.Ip
import IPProxyPool.Model.Node

/-!
# Validation of operator-managed nodes

`normalize_and_validate` of `node_registry.rs`, one function for each field it rewrites. Errors
keep the value they complain about; `text` renders them. The `Debug` form of a string is a
parameter of the rendering.
-/

namespace IPProxyPool
open RustText RustNet

def maxManagedNodes : Nat := 10000
def maxWeight : Nat := 100
def reservedProviderPrefix : String := "free-"
def maxProviderBytes : Nat := 64
def maxUsernameBytes : Nat := 256
def maxPasswordBytes : Nat := 512

/-- The reasons for which a node, or a list of nodes, is invalid. -/
inductive NodeError where
  | ipv6Unsupported
  | notIpv4 (ip : String)
  | portZero
  | badCountry (country : String)
  | badTier (tier : String)
  | providerEmpty
  | providerTooLong
  | providerControl
  | providerReserved
  | weightExceeds (weight : Nat)
  | usernameEmpty
  | usernameTooLong
  | passwordTooLong
  | passwordWithoutUsername
  | unknownProto (proto : String)
  | limitReached
  | tooManyNodes (n : Nat)
  deriving DecidableEq, Repr

def NodeError.text (debug : String → String) : NodeError → String
  | .ipv6Unsupported => "IPv6 is not supported (`addr` is ip:port and would be ambiguous)"
  | .notIpv4 ip => debug ip ++ " is not a valid IPv4 address"
  | .portZero => "port must be in 1..=65535"
  | .badCountry country => "country " ++ debug country ++ " must be 2 ASCII letters (e.g. US)"
  | .badTier tier => "tier " ++ debug tier ++
      " must be datacenter/residential/mobile (free is managed by FreePool)"
  | .providerEmpty => "provider is empty"
  | .providerTooLong => "provider exceeds " ++ toString maxProviderBytes ++ " bytes"
  | .providerControl => "provider contains control characters"
  | .providerReserved =>
      "provider prefix " ++ debug reservedProviderPrefix ++ " is reserved by FreePool"
  | .weightExceeds weight => "weight " ++ toString weight ++ " exceeds " ++ toString maxWeight
  | .usernameEmpty => "username is empty"
  | .usernameTooLong => "username exceeds " ++ toString maxUsernameBytes ++ " bytes"
  | .passwordTooLong => "password exceeds " ++ toString maxPasswordBytes ++ " bytes"
  | .passwordWithoutUsername => "password requires username (credentials must be paired)"
  | .unknownProto proto => "proto " ++ debug proto ++ " is not one of http/socks5/socks4"
  | .limitReached => "managed node limit reached (" ++ toString maxManagedNodes ++ ")"
  | .tooManyNodes n => toString n ++ " nodes exceed limit " ++ toString maxManagedNodes

def normalizeIp (ip : String) : Except NodeError String :=
  match parseIpAddr (trimString ip) with
  | some (.v4 addr) => .ok addr.text
  | some .v6 => .error .ipv6Unsupported
  | none => .error (.notIpv4 ip)

def normalizeCountry (country : String) : Except NodeError String :=
  let country := trimString country
  if byteLen country ≠ 2 ∨ country.toList.all Char.isAlpha = false then .error (.badCountry country)
  else .ok (toAsciiUppercase country)

def normalizeTier (tier : String) : Except NodeError String :=
  let tier := canonicalTier (trimString tier)
  if tier = "datacenter" ∨ tier = "residential" ∨ tier = "mobile" then .ok tier
  else .error (.badTier tier)

/-- The provider names that the registry leaves to the free pool. -/
def isReservedProvider (provider : String) : Bool :=
  eqIgnoreAsciiCase provider "free" ||
    startsWith (toAsciiLowercase provider) reservedProviderPrefix

def normalizeProvider (provider : String) : Except NodeError String :=
  let provider := trimString provider
  if provider = "" then .error .providerEmpty
  else if maxProviderBytes < byteLen provider then .error .providerTooLong
  else if provider.toList.any isControl then .error .providerControl
  else if isReservedProvider provider then .error .providerReserved
  else .ok provider

def checkCredentials (username password : Option String) : Except NodeError Unit :=
  match username, password with
  | none, none => .ok ()
  | some u, password =>
    if u = "" then .error .usernameEmpty
    else if maxUsernameBytes < byteLen u then .error .usernameTooLong
    else
      match password with
      | some p => if maxPasswordBytes < byteLen p then .error .passwordTooLong else .ok ()
      | none => .ok ()
  | none, some _ => .error .passwordWithoutUsername

def checkPort (port : UInt16) : Except NodeError Unit :=
  if port = 0 then .error .portZero else .ok ()

def checkWeight (weight : Nat) : Except NodeError Unit :=
  if maxWeight < weight then .error (.weightExceeds weight) else .ok ()

/-- `normalize_and_validate`. The exit address passes through unchecked. -/
def normalizeAndValidate (node : ProxyNode) : Except NodeError ProxyNode := do
  let ip ← normalizeIp node.ip
  checkPort node.port
  let country ← normalizeCountry node.country
  let tier ← normalizeTier node.tier
  let provider ← normalizeProvider node.provider
  checkWeight node.weight
  checkCredentials node.username node.password
  return { node with
    ip := ip, addr := addrOf ip node.port, country := country, tier := tier, provider := provider }

/-- A node the validator returns as it is. -/
def Normal (n : ProxyNode) : Prop := normalizeAndValidate n = .ok n

instance (n : ProxyNode) : Decidable (Normal n) :=
  inferInstanceAs (Decidable (normalizeAndValidate n = .ok n))

/-! ### What the validator accepts -/

/-- The checks behind an accepted node `n` and the node `m` returned for it. -/
structure Accepts (n m : ProxyNode) : Prop where
  ip_ok : normalizeIp n.ip = .ok m.ip
  port_ok : checkPort n.port = .ok ()
  country_ok : normalizeCountry n.country = .ok m.country
  tier_ok : normalizeTier n.tier = .ok m.tier
  provider_ok : normalizeProvider n.provider = .ok m.provider
  weight_ok : checkWeight n.weight = .ok ()
  credentials_ok : checkCredentials n.username n.password = .ok ()
  eq : m = { n with
    ip := m.ip, addr := addrOf m.ip n.port, country := m.country, tier := m.tier,
    provider := m.provider }

lemma except_bind_eq_ok {ε : Type*} {α β : Type} {x : Except ε α} {f : α → Except ε β} {b : β} :
    (x >>= f) = .ok b ↔ ∃ a, x = .ok a ∧ f a = .ok b := by
  cases x with
  | error e => simp [Bind.bind, Except.bind]
  | ok a => simp [Bind.bind, Except.bind]

lemma except_map_eq_ok {ε : Type*} {α β : Type} {x : Except ε α} {f : α → β} {b : β} :
    x.map f = .ok b ↔ ∃ a, x = .ok a ∧ f a = b := by
  cases x with
  | error e => simp [Except.map]
  | ok a => simp [Except.map]

theorem normalizeAndValidate_eq_ok_iff (n m : ProxyNode) :
    normalizeAndValidate n = .ok m ↔ Accepts n m := by
  unfold normalizeAndValidate
  simp only [except_bind_eq_ok]
  constructor
  · rintro ⟨ip, hip, ⟨⟩, hport, country, hcountry, tier, htier, provider, hprovider, ⟨⟩, hweight,
      ⟨⟩, hcred, hm⟩
    cases hm
    exact ⟨hip, hport, hcountry, htier, hprovider, hweight, hcred, rfl⟩
  · intro h
    refine ⟨m.ip, h.ip_ok, (), h.port_ok, m.country, h.country_ok, m.tier, h.tier_ok, m.provider,
      h.provider_ok, (), h.weight_ok, (), h.credentials_ok, ?_⟩
    exact congrArg Except.ok h.eq.symm

lemma normalizeIp_eq_ok_iff (ip s : String) :
    normalizeIp ip = .ok s ↔
      ∃ addr, parseIpAddr (trimString ip) = some (.v4 addr) ∧ addr.text = s := by
  unfold normalizeIp
  rcases parseIpAddr (trimString ip) with _ | addr | _
  · simp
  · simp
  · simp

lemma normalizeIp_idem {ip ip' : String} (h : normalizeIp ip = .ok ip') :
    normalizeIp ip' = .ok ip' := by
  obtain ⟨addr, -, rfl⟩ := (normalizeIp_eq_ok_iff ip ip').mp h
  have htrim : trimString addr.text = addr.text := by
    unfold trimString
    rw [trim_eq_self (text_noBlank addr), String.ofList_toList]
  refine (normalizeIp_eq_ok_iff _ _).mpr ⟨addr, ?_, rfl⟩
  rw [htrim, parseIpAddr_text]

lemma normalizeCountry_eq_ok_iff (country c : String) :
    normalizeCountry country = .ok c ↔
      byteLen (trimString country) = 2 ∧ (∀ x ∈ (trimString country).toList, x.isAlpha = true) ∧
        toAsciiUppercase (trimString country) = c := by
  unfold normalizeCountry
  dsimp only
  rw [← List.all_eq_true]
  split
  · rename_i hbad
    simp only [reduceCtorEq, false_iff]
    rintro ⟨hlen, hall, -⟩
    rcases hbad with hbad | hbad
    · exact hbad hlen
    · rw [hall] at hbad
      cases hbad
  · rename_i hgood
    rw [not_or, not_not, Bool.not_eq_false] at hgood
    rw [Except.ok.injEq]
    exact ⟨fun hc => ⟨hgood.1, hgood.2, hc⟩, fun h => h.2.2⟩

lemma byteLen_eq_length {l : List Char} (h : ∀ c ∈ l, c.utf8Size = 1) :
    byteLen (String.ofList l) = l.length := by
  unfold byteLen
  rw [String.utf8ByteSize_ofList]
  induction l with
  | nil => rfl
  | cons c cs ih =>
    rw [String.utf8Len_cons, ih (fun d hd => h d (List.mem_cons_of_mem _ hd)),
      h c List.mem_cons_self, List.length_cons]

lemma normalizeCountry_idem {country c : String} (h : normalizeCountry country = .ok c) :
    normalizeCountry c = .ok c := by
  obtain ⟨hlen, halpha, rfl⟩ := (normalizeCountry_eq_ok_iff country c).mp h
  generalize trimString country = s at hlen halpha
  have hfacts : ∀ x ∈ s.toList, LetterFacts x := fun x hx => letterFacts (halpha x hx)
  have hupper : ∀ x ∈ (s.toList.map Char.toUpper), x.isAlpha = true := by
    intro x hx
    obtain ⟨y, hy, rfl⟩ := List.mem_map.mp hx
    exact (hfacts y hy).upper_alpha
  have htrim : trimString (toAsciiUppercase s) = toAsciiUppercase s := by
    unfold trimString toAsciiUppercase
    rw [String.toList_ofList, trim_eq_self (fun x hx => (letterFacts (hupper x hx)).not_blank)]
  have hsize : byteLen (toAsciiUppercase s) = 2 := by
    have hs : byteLen s = s.toList.length := by
      have hofList := byteLen_eq_length (fun x hx => (hfacts x hx).size_eq)
      rwa [String.ofList_toList] at hofList
    unfold toAsciiUppercase
    rw [byteLen_eq_length (fun x hx => (letterFacts (hupper x hx)).size_eq), List.length_map, ← hs,
      hlen]
  have hidem : toAsciiUppercase (toAsciiUppercase s) = toAsciiUppercase s := by
    unfold toAsciiUppercase
    rw [String.toList_ofList, List.map_map]
    refine congrArg String.ofList (List.map_congr_left (fun x hx => ?_))
    exact (hfacts x hx).upper_upper
  have hall : (toAsciiUppercase s).toList.all Char.isAlpha = true := by
    unfold toAsciiUppercase
    rw [String.toList_ofList]
    exact List.all_eq_true.mpr hupper
  unfold normalizeCountry
  dsimp only
  rw [htrim, hsize, hall, if_neg (by simp), hidem]

lemma normalizeTier_eq_ok_iff (tier t : String) :
    normalizeTier tier = .ok t ↔
      canonicalTier (trimString tier) = t ∧ (t = "datacenter" ∨ t = "residential" ∨ t = "mobile") := by
  unfold normalizeTier
  dsimp only
  generalize canonicalTier (trimString tier) = s
  split
  · rename_i hs
    rw [Except.ok.injEq]
    exact ⟨fun h => ⟨h, h ▸ hs⟩, fun h => h.1⟩
  · rename_i hs
    simp only [reduceCtorEq, false_iff]
    rintro ⟨rfl, ht⟩
    exact hs ht

/-- The three tiers the registry manages are canonical and carry no blanks. -/
lemma normalizeTier_idem {tier t : String} (h : normalizeTier tier = .ok t) :
    normalizeTier t = .ok t ∧ canonicalTier t = t := by
  obtain ⟨-, ht⟩ := (normalizeTier_eq_ok_iff tier t).mp h
  rcases ht with rfl | rfl | rfl
  · decide +kernel
  · decide +kernel
  · decide +kernel

lemma normalizeProvider_eq_ok_iff (provider p : String) :
    normalizeProvider provider = .ok p ↔
      p = trimString provider ∧ p ≠ "" ∧ byteLen p ≤ maxProviderBytes ∧
        p.toList.any isControl = false ∧ isReservedProvider p = false := by
  unfold normalizeProvider
  dsimp only
  generalize trimString provider = s
  constructor
  · intro h
    split at h
    · cases h
    · split at h
      · cases h
      · split at h
        · cases h
        · split at h
          · cases h
          · rename_i hne hlen hctl hres
            rw [Except.ok.injEq] at h
            subst h
            exact ⟨rfl, hne, Nat.not_lt.mp hlen, by simpa using hctl, by simpa using hres⟩
  · rintro ⟨rfl, hne, hlen, hctl, hres⟩
    rw [if_neg hne, if_neg (Nat.not_lt.mpr hlen), if_neg (by simp [hctl]), if_neg (by simp [hres])]

lemma normalizeProvider_idem {provider p : String} (h : normalizeProvider provider = .ok p) :
    normalizeProvider p = .ok p := by
  obtain ⟨hp, hrest⟩ := (normalizeProvider_eq_ok_iff provider p).mp h
  refine (normalizeProvider_eq_ok_iff p p).mpr ⟨?_, hrest⟩
  rw [hp, trimString_idem]

lemma checkPort_eq_ok_iff (port : UInt16) : checkPort port = .ok () ↔ port ≠ 0 := by
  unfold checkPort
  split
  · rename_i hport
    simp [hport]
  · rename_i hport
    simp [hport]

lemma checkWeight_eq_ok_iff (weight : Nat) : checkWeight weight = .ok () ↔ weight ≤ maxWeight := by
  unfold checkWeight
  split
  · rename_i hweight
    simp [Nat.not_le.mpr hweight]
  · rename_i hweight
    simp [Nat.not_lt.mp hweight]

/-- A username may stand alone: its branch does not ask for a password. -/
lemma checkCredentials_eq_ok_iff (username password : Option String) :
    checkCredentials username password = .ok () ↔
      (∀ u, username = some u → u ≠ "" ∧ byteLen u ≤ maxUsernameBytes) ∧
        ∀ p, password = some p → username.isSome ∧ byteLen p ≤ maxPasswordBytes := by
  unfold checkCredentials
  rcases username with _ | u
  · rcases password with _ | p
    · simp
    · simp
  · dsimp only
    by_cases hu : u = ""
    · simp [hu]
    by_cases hlen : maxUsernameBytes < byteLen u
    · simp [hu, hlen]
    rw [if_neg hu, if_neg hlen]
    rcases password with _ | p
    · simp [hu, Nat.not_lt.mp hlen]
    by_cases hp : maxPasswordBytes < byteLen p
    · simp [hp]
    · simp [hp, hu, Nat.not_lt.mp hlen, Nat.not_lt.mp hp]

/-- What the validator returns is a node it accepts unchanged. -/
theorem normal_of_accepted {n m : ProxyNode} (h : normalizeAndValidate n = .ok m) : Normal m := by
  have hacc := (normalizeAndValidate_eq_ok_iff n m).mp h
  have hport : m.port = n.port := by rw [hacc.eq]
  have haddr : m.addr = addrOf m.ip m.port := by rw [hport, hacc.eq]
  refine (normalizeAndValidate_eq_ok_iff m m).mpr ⟨normalizeIp_idem hacc.ip_ok, ?_,
    normalizeCountry_idem hacc.country_ok, (normalizeTier_idem hacc.tier_ok).1,
    normalizeProvider_idem hacc.provider_ok, ?_, ?_, ?_⟩
  · rw [hport]
    exact hacc.port_ok
  · rw [hacc.eq]
    exact hacc.weight_ok
  · rw [hacc.eq]
    exact hacc.credentials_ok
  · rw [← haddr]

lemma Normal.accepts {n : ProxyNode} (h : Normal n) : Accepts n n :=
  (normalizeAndValidate_eq_ok_iff n n).mp h

lemma Normal.addr_eq {n : ProxyNode} (h : Normal n) : n.addr = addrOf n.ip n.port :=
  congrArg ProxyNode.addr h.accepts.eq

lemma Normal.canonicalTier_eq {n : ProxyNode} (h : Normal n) : canonicalTier n.tier = n.tier :=
  (normalizeTier_idem h.accepts.tier_ok).2

lemma Normal.not_reserved {n : ProxyNode} (h : Normal n) : isReservedProvider n.provider = false :=
  ((normalizeProvider_eq_ok_iff _ _).mp h.accepts.provider_ok).2.2.2.2

lemma Normal.weight_le {n : ProxyNode} (h : Normal n) : n.weight ≤ maxWeight :=
  (checkWeight_eq_ok_iff n.weight).mp h.accepts.weight_ok

/-- A normal node stays normal under another admissible weight. -/
lemma Normal.withWeight {n : ProxyNode} (h : Normal n) {w : Nat} (hw : w ≤ maxWeight) :
    Normal { n with weight := w } := by
  have hacc := h.accepts
  refine (normalizeAndValidate_eq_ok_iff _ _).mpr ⟨hacc.ip_ok, hacc.port_ok, hacc.country_ok,
    hacc.tier_ok, hacc.provider_ok, ?_, hacc.credentials_ok, ?_⟩
  · exact (checkWeight_eq_ok_iff w).mpr hw
  · dsimp only
    rw [← h.addr_eq]

/-- The exit address plays no part in validation. -/
lemma Normal.withExitIp {n : ProxyNode} (h : Normal n) (exitIp : Option String) :
    Normal (n.withExitIp exitIp) := by
  have hacc := h.accepts
  refine (normalizeAndValidate_eq_ok_iff _ _).mpr ⟨hacc.ip_ok, hacc.port_ok, hacc.country_ok,
    hacc.tier_ok, hacc.provider_ok, hacc.weight_ok, hacc.credentials_ok, ?_⟩
  unfold ProxyNode.withExitIp
  dsimp only
  rw [← h.addr_eq]

end IPProxyPool
