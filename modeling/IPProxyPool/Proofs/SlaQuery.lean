import IPProxyPool.Model.Warehouse
import IPProxyPool.Model.NodeValidation

/-!
# Whose rows the query selects

The query upper-cases the country of the pair it is asked for, and the rows of a node carry the
country as its source gave it. A query selects the rows of its own nodes when that country has no
lower-case letters, and rests on an empty window when it has.
-/

namespace IPProxyPool
open RustText

/-- The database compares a column with a quoted literal, letter by letter, when the literal holds
nothing but letters, digits, hyphens, underscores and dots. -/
def ComparesLiterals (satisfies : String → TelemetryRow → Bool) : Prop :=
  ∀ provider country row, isSafeLiteral provider = true → isSafeLiteral country = true →
    (satisfies ("provider = '" ++ provider ++ "' AND country = '" ++ country ++ "'") row = true ↔
      row.provider = provider ∧ row.country = country)

def NoLowercase (s : String) : Prop := ∀ c ∈ s.toList, c.isLower = false

instance (s : String) : Decidable (NoLowercase s) :=
  decidable_of_iff (s.toList.all (fun c => !c.isLower) = true) (by simp [NoLowercase])

/-! ### Upper case -/

lemma toUpper_eq_self_iff (c : Char) : c.toUpper = c ↔ c.isLower = false := by
  by_cases h : c.toNat < 128
  · have hall : ∀ n : Fin 128, (Char.ofNat n).toUpper = Char.ofNat n ↔
        (Char.ofNat n).isLower = false := by
      decide +kernel
    exact of_ascii (P := fun c => c.toUpper = c ↔ c.isLower = false) hall h
  · have hz : ¬(c.val ≥ 'a'.val ∧ c.val ≤ 'z'.val) := by
      rintro ⟨-, hz⟩
      have hle : c.toNat ≤ 122 := UInt32.le_iff_toNat_le.mp hz
      omega
    have hupper : c.toUpper = c := by
      unfold Char.toUpper
      rw [dif_neg hz]
    have hlower : c.isLower = false := by
      unfold Char.isLower
      rw [← Bool.not_eq_true, Bool.and_eq_true, decide_eq_true_eq, decide_eq_true_eq]
      exact hz
    exact iff_of_true hupper hlower

lemma toAsciiUppercase_eq_self_iff (s : String) :
    toAsciiUppercase s = s ↔ NoLowercase s := by
  have hlist : toAsciiUppercase s = s ↔ s.toList.map Char.toUpper = s.toList := by
    rw [← String.toList_inj, toAsciiUppercase, String.toList_ofList]
  rw [hlist]
  unfold NoLowercase
  constructor
  · intro h c hc
    have heq : s.toList.map Char.toUpper = s.toList.map id := by rw [h, List.map_id]
    exact (toUpper_eq_self_iff c).mp (List.map_inj_left.mp heq c hc)
  · intro h
    conv_rhs => rw [← List.map_id s.toList]
    exact List.map_congr_left (fun c hc => (toUpper_eq_self_iff c).mpr (h c hc))

/-! ### Literals -/

/-- Which characters a safe literal is made of. -/
def isSafeChar (c : Char) : Bool := c.isAlphanum || c = '-' || c = '_' || c = '.'

lemma isSafeLiteral_iff (s : String) :
    isSafeLiteral s = true ↔ s ≠ "" ∧ byteLen s ≤ 64 ∧ ∀ c ∈ s.toList, isSafeChar c = true := by
  unfold isSafeLiteral
  rw [Bool.and_eq_true, Bool.and_eq_true, List.all_eq_true, decide_eq_true_eq, decide_eq_true_eq,
    and_assoc]
  rfl

/-- Upper case keeps a character safe, and of one byte; a quote is not safe. -/
lemma safeChar_facts {c : Char} (h : isSafeChar c = true) :
    isSafeChar c.toUpper = true ∧ c.toUpper.utf8Size = c.utf8Size ∧ c ≠ singleQuote := by
  have hascii : c.toNat < 128 := by
    unfold isSafeChar Char.isAlphanum at h
    simp only [Bool.or_eq_true, decide_eq_true_eq] at h
    rcases h with (((halpha | hdigit) | rfl) | rfl) | rfl
    · exact isAlpha_lt halpha
    · unfold Char.isDigit at hdigit
      rw [Bool.and_eq_true, decide_eq_true_eq, decide_eq_true_eq] at hdigit
      have hle : c.toNat ≤ 57 := UInt32.le_iff_toNat_le.mp hdigit.2
      omega
    · decide
    · decide
    · decide
  have hall : ∀ n : Fin 128, isSafeChar (Char.ofNat n) = true →
      isSafeChar (Char.ofNat n).toUpper = true ∧
        (Char.ofNat n).toUpper.utf8Size = (Char.ofNat n).utf8Size ∧
        Char.ofNat n ≠ singleQuote := by
    decide +kernel
  exact of_ascii (P := fun c => isSafeChar c = true → isSafeChar c.toUpper = true ∧
    c.toUpper.utf8Size = c.utf8Size ∧ c ≠ singleQuote) hall hascii h

lemma isSafeLiteral_toAsciiUppercase {s : String} (h : isSafeLiteral s = true) :
    isSafeLiteral (toAsciiUppercase s) = true := by
  rw [isSafeLiteral_iff] at h ⊢
  obtain ⟨hne, hlen, hchars⟩ := h
  have hlist : (toAsciiUppercase s).toList = s.toList.map Char.toUpper := by
    rw [toAsciiUppercase, String.toList_ofList]
  refine ⟨?_, ?_, ?_⟩
  · intro hempty
    apply hne
    rw [← String.toList_inj] at hempty ⊢
    rw [hlist] at hempty
    simpa using hempty
  · have hsize : ∀ l : List Char, (∀ c ∈ l, isSafeChar c = true) →
        byteLen (String.ofList (l.map Char.toUpper)) = byteLen (String.ofList l) := by
      intro l hl
      induction l with
      | nil => rfl
      | cons c l ih =>
        rw [List.map_cons, byteLen_ofList_cons, byteLen_ofList_cons,
          ih (fun d hd => hl d (List.mem_cons_of_mem c hd)),
          (safeChar_facts (hl c List.mem_cons_self)).2.1]
    have hupper := hsize s.toList hchars
    rw [String.ofList_toList] at hupper
    exact hupper.le.trans hlen
  · intro c hc
    rw [hlist] at hc
    obtain ⟨d, hd, rfl⟩ := List.mem_map.mp hc
    exact (safeChar_facts (hchars d hd)).1

/-- A safe literal has nothing to escape. -/
lemma sqlQuote_of_safe {s : String} (h : isSafeLiteral s = true) :
    sqlQuote s = "'" ++ s ++ "'" := by
  have hchars := ((isSafeLiteral_iff s).mp h).2.2
  have hplain : s.toList.flatMap (fun c => if c = singleQuote then ['\\', c] else [c]) =
      s.toList := by
    have hcongr : s.toList.flatMap (fun c => if c = singleQuote then ['\\', c] else [c]) =
        s.toList.flatMap (fun c => [c]) := by
      apply List.flatMap_congr
      intro c hc
      exact if_neg (safeChar_facts (hchars c hc)).2.2
    rw [hcongr, List.flatMap_singleton']
  unfold sqlQuote
  rw [hplain, String.ofList_toList]
  rfl

/-! ### The condition of the query -/

lemma slaPair_of_safe {provider country : String} (hprovider : isSafeLiteral provider = true)
    (hcountry : isSafeLiteral country = true) :
    slaPair provider country = "provider = '" ++ provider ++ "' AND country = '" ++
      toAsciiUppercase country ++ "'" := by
  unfold slaPair
  rw [sqlQuote_of_safe hprovider, sqlQuote_of_safe (isSafeLiteral_toAsciiUppercase hcountry)]
  apply String.toList_injective
  simp

lemma slaSql_of_safe (debug : String → String) {provider country : String}
    (hprovider : isSafeLiteral provider = true) (hcountry : isSafeLiteral country = true) :
    slaSql debug provider country = .ok (slaSelect ++ slaPair provider country ++ slaWindow) := by
  unfold slaSql
  rw [hprovider, hcountry]
  rfl

section Database

variable {satisfies : String → TelemetryRow → Bool} {debug : String → String}
  {provider country : String}

lemma slaSelects_iff (hprovider : isSafeLiteral provider = true)
    (hcountry : isSafeLiteral country = true) (row : TelemetryRow) :
    SlaSelects satisfies debug provider country row ↔
      satisfies (slaPair provider country) row = true := by
  unfold SlaSelects
  rw [slaSql_of_safe debug hprovider hcountry]
  constructor
  · rintro ⟨condition, htext, hrow⟩
    have hlists := congrArg String.toList (Except.ok.inj htext)
    rw [String.toList_append, String.toList_append, String.toList_append, String.toList_append,
      List.append_cancel_right_eq, List.append_cancel_left_eq, String.toList_inj] at hlists
    rw [hlists]
    exact hrow
  · exact fun hrow => ⟨_, rfl, hrow⟩

/-- The query selects the rows whose country is the upper-case form of the one asked for. -/
lemma satisfies_slaPair_iff (hdb : ComparesLiterals satisfies)
    (hprovider : isSafeLiteral provider = true) (hcountry : isSafeLiteral country = true)
    (row : TelemetryRow) :
    satisfies (slaPair provider country) row = true ↔
      row.provider = provider ∧ row.country = toAsciiUppercase country := by
  rw [slaPair_of_safe hprovider hcountry]
  exact hdb provider (toAsciiUppercase country) row hprovider
    (isSafeLiteral_toAsciiUppercase hcountry)

end Database

/-! ### Rows of a node -/

/-- The labels go through the event and the row unchanged. -/
lemma loggedRow_labels (w : WireFormat) {rec : RequestRecord} {n : ProxyNode}
    (hnode : rec.ctx.currentNode = some n) (i : LoggingInputs) (eventId : String) :
    (loggedRow w rec i eventId).provider = n.provider ∧
      (loggedRow w rec i eventId).country = n.country := by
  have hlabels : nodeLabels rec.ctx.currentNode = (n.provider, n.tier, n.country) := by
    rw [hnode]
    rfl
  have hprovider : (loggedRow w rec i eventId).provider = (nodeLabels rec.ctx.currentNode).1 := rfl
  have hcountry : (loggedRow w rec i eventId).country = (nodeLabels rec.ctx.currentNode).2.2 := rfl
  rw [hprovider, hcountry, hlabels]
  exact ⟨rfl, rfl⟩

lemma satisfies_own_iff {satisfies : String → TelemetryRow → Bool}
    (hdb : ComparesLiterals satisfies) {n : ProxyNode}
    (hprovider : isSafeLiteral n.provider = true) (hcountry : isSafeLiteral n.country = true)
    (w : WireFormat) {rec : RequestRecord} (hnode : rec.ctx.currentNode = some n)
    (i : LoggingInputs) (eventId : String) :
    satisfies (slaPair n.provider n.country) (loggedRow w rec i eventId) = true ↔
      NoLowercase n.country := by
  obtain ⟨hp, hc⟩ := loggedRow_labels w hnode i eventId
  rw [satisfies_slaPair_iff hdb hprovider hcountry, hp, hc, ← toAsciiUppercase_eq_self_iff]
  constructor
  · exact fun h => h.2.symm
  · exact fun h => ⟨rfl, h.symm⟩

/-- A query for the pair of a node selects the rows that are logged for the node exactly when the
country of the node has no lower-case letters. The rate of a window of such rows is then their
success rate, and otherwise that of an empty window, which is healthy. -/
theorem own_rows_selected_iff (satisfies : String → TelemetryRow → Bool)
    (hdb : ComparesLiterals satisfies) (debug : String → String) (w : WireFormat) (n : ProxyNode)
    (hprovider : isSafeLiteral n.provider = true) (hcountry : isSafeLiteral n.country = true) :
    (∀ rec i eventId, rec.ctx.currentNode = some n →
      (SlaSelects satisfies debug n.provider n.country (loggedRow w rec i eventId) ↔
        NoLowercase n.country)) ∧
      ∀ served : List (RequestRecord × LoggingInputs × String),
        (∀ x ∈ served, x.1.ctx.currentNode = some n) →
          let window := served.map (fun x => loggedRow w x.1 x.2.1 x.2.2)
          queryProviderSla satisfies debug window n.provider n.country =
            .ok (if NoLowercase n.country then normalizeSlaRate (successRate window) else 100) := by
  constructor
  · intro rec i eventId hnode
    rw [slaSelects_iff hprovider hcountry]
    exact satisfies_own_iff hdb hprovider hcountry w hnode i eventId
  · intro served hserved window
    have hrows : ∀ row ∈ window,
        (satisfies (slaPair n.provider n.country) row = true ↔ NoLowercase n.country) := by
      intro row hrow
      obtain ⟨x, hx, rfl⟩ := List.mem_map.mp hrow
      exact satisfies_own_iff hdb hprovider hcountry w (hserved x hx) x.2.1 x.2.2
    unfold queryProviderSla
    rw [slaSql_of_safe debug hprovider hcountry]
    dsimp only
    by_cases hupper : NoLowercase n.country
    · rw [if_pos hupper, List.filter_eq_self.mpr (fun row hrow => (hrows row hrow).mpr hupper)]
    · have hnone : window.filter (satisfies (slaPair n.provider n.country)) = [] := by
        rw [List.filter_eq_nil_iff]
        exact fun row hrow hrow' => hupper ((hrows row hrow).mp hrow')
      rw [if_neg hupper, hnone]
      rfl

/-- The registry admits a country in upper case only. -/
theorem noLowercase_of_normal {n : ProxyNode} (h : Normal n) : NoLowercase n.country := by
  obtain ⟨-, halpha, hupper⟩ := (normalizeCountry_eq_ok_iff _ _).mp h.accepts.country_ok
  rw [← hupper]
  intro c hc
  rw [toAsciiUppercase, String.toList_ofList] at hc
  obtain ⟨d, hd, rfl⟩ := List.mem_map.mp hc
  exact (toUpper_eq_self_iff d.toUpper).mp (letterFacts (halpha d hd)).upper_upper

/-! ### A database -/

/-- Splits a condition at its quotes and compares what stands between them with the columns. -/
def readsCondition (condition : String) (row : TelemetryRow) : Bool :=
  split singleQuote condition = ["provider = ", row.provider, " AND country = ", row.country, ""]

lemma split_safe {s : String} (h : isSafeLiteral s = true) : split singleQuote s = [s] :=
  split_eq_singleton_iff.mpr ⟨rfl, fun hquote =>
    (safeChar_facts (((isSafeLiteral_iff s).mp h).2.2 _ hquote)).2.2 rfl⟩

lemma comparesLiterals_readsCondition : ComparesLiterals readsCondition := by
  intro provider country row hprovider hcountry
  have htext : "provider = '" ++ provider ++ "' AND country = '" ++ country ++ "'" =
      "provider = " ++ String.singleton singleQuote ++ (provider ++ String.singleton singleQuote ++
        (" AND country = " ++ String.singleton singleQuote ++
          (country ++ String.singleton singleQuote ++ ""))) := by
    apply String.toList_injective
    simp [singleQuote]
  have hplain : split singleQuote "provider = " = ["provider = "] ∧
      split singleQuote " AND country = " = [" AND country = "] ∧ split singleQuote "" = [""] := by
    decide
  have hsplit : split singleQuote
      ("provider = '" ++ provider ++ "' AND country = '" ++ country ++ "'") =
      ["provider = ", provider, " AND country = ", country, ""] := by
    rw [htext, split_append_sep, split_append_sep, split_append_sep, split_append_sep,
      split_safe hprovider, split_safe hcountry, hplain.1, hplain.2.1, hplain.2.2]
    rfl
  unfold readsCondition
  rw [hsplit, decide_eq_true_eq]
  simp only [List.cons.injEq, true_and, and_true]
  exact and_congr eq_comm eq_comm

/-- A reader that knows no payload, and a calendar that counts milliseconds. -/
def plainWire : WireFormat := ⟨fun _ => none, some⟩

/-- A node of a list that spells its country so. -/
def listed (country : String) : ProxyNode :=
  .new "10.0.0.1" 8080 none none country "free" "free-list" 10

/-- A request that the node has answered with a status of its own choice. -/
def answeredBy (n : ProxyNode) : RequestRecord where
  ctx := { routingSpec := {}, currentNode := some n }
  status := 502
  ending := .upstream

def answeredInputs : LoggingInputs where
  traceId := "t"
  clientIp := "192.0.2.1"
  tenantId := none
  errorType := none
  durationMs := 40
  nowUnixMs := 1700000000000

theorem own_rows_selected_iff_upper :
    SlaSelects readsCondition id "free-list" "US"
      (loggedRow plainWire (answeredBy (listed "US")) answeredInputs "1") :=
  ((own_rows_selected_iff readsCondition comparesLiterals_readsCondition id plainWire (listed "US")
    (by decide +kernel) (by decide +kernel)).1 _ _ _ rfl).mpr (by decide +kernel)

/-- The failing node of a list that writes `us` is not seen by the query for its own pair. -/
theorem lowercase_rows_missed :
    isSafeLiteral (listed "us").provider = true ∧ isSafeLiteral (listed "us").country = true ∧
      ¬SlaSelects readsCondition id (listed "us").provider (listed "us").country
        (loggedRow plainWire (answeredBy (listed "us")) answeredInputs "1") := by
  have hprovider : isSafeLiteral (listed "us").provider = true := by decide +kernel
  have hcountry : isSafeLiteral (listed "us").country = true := by decide +kernel
  refine ⟨hprovider, hcountry, ?_⟩
  rw [slaSelects_iff hprovider hcountry,
    satisfies_own_iff comparesLiterals_readsCondition hprovider hcountry plainWire rfl]
  decide +kernel

end IPProxyPool
