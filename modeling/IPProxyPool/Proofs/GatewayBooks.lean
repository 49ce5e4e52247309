import IPProxyPool.Lib.RunLog
import IPProxyPool.Lib.TableCount
import IPProxyPool.Model.GatewayBooks

/-!
# The books of the gateway agree

Over any run of overlapping requests, what the metrics count, what the account of the tenant adds up
and what the telemetry events say is the same, and the slots that are taken are those of the open
requests. Which keys open the gateway is decided by the two variables that `main` reads.
-/

namespace IPProxyPool
open RustText AssocTable Transition

/-! ### The counters of requests -/

/-- The series that `observe` writes. -/
structure RequestCounters where
  req2xx : Nat
  req4xx : Nat
  req5xx : Nat
  reqOther : Nat
  req402 : Nat
  req429 : Nat
  bytesTotal : Nat
  durations : Nat
  byProvider : Table (StatusClass × String) Nat
  forbidden : Table String Nat

def MetricsRegistry.requestCounters (m : MetricsRegistry) : RequestCounters where
  req2xx := m.req2xx
  req4xx := m.req4xx
  req5xx := m.req5xx
  reqOther := m.reqOther
  req402 := m.req402
  req429 := m.req429
  bytesTotal := m.bytesTotal
  durations := (m.histograms .duration).count
  byProvider := m.reqByProvider
  forbidden := m.forbiddenByProvider

def hasClass (c : StatusClass) (e : TelemetryMessage) : Bool := statusClass e.statusCode = c

/-- The counters say what the events say. The label of a request without a node is `none`, which a
provider may have as its name; the refusals of a provider are counted for nodes only. -/
structure CountersAgree (c : RequestCounters) (events : List TelemetryMessage) : Prop where
  ok : c.req2xx = events.countP (hasClass .ok)
  client : c.req4xx = events.countP (hasClass .clientError)
  server : c.req5xx = events.countP (hasClass .serverError)
  other : c.reqOther = events.countP (hasClass .other)
  noBalance : c.req402 = events.countP (fun e => e.statusCode = 402)
  tooMany : c.req429 = events.countP (fun e => e.statusCode = 429)
  bytes : c.bytesTotal = (events.map TelemetryMessage.transferredBytes).sum
  durations : c.durations = events.length
  provider : ∀ s p, countOf c.byProvider (s, p) =
    events.countP (fun e => hasClass s e && e.provider = p)
  forbidden : ∀ p, p ≠ "none" → countOf c.forbidden p =
    events.countP (fun e => decide (e.statusCode = 403) && e.provider = p)

namespace MetricsRegistry

variable (m : MetricsRegistry)

lemma requestCounters_observeHistogram {h : HistogramName} (hh : h ≠ .duration) (ms : Nat) :
    (m.observeHistogram h ms).requestCounters = m.requestCounters := by
  have hcells : (m.observeHistogram h ms).histograms .duration = m.histograms .duration :=
    Function.update_of_ne hh.symm _ _
  unfold requestCounters
  rw [hcells]
  rfl

lemma requestCounters_observeStage (stage : String) (ms : Nat) :
    (m.observeStage stage ms).requestCounters = m.requestCounters := by
  unfold observeStage stageHistogram
  split
  · exact requestCounters_observeHistogram m (by decide) ms
  · split
    · exact requestCounters_observeHistogram m (by decide) ms
    · split
      · exact requestCounters_observeHistogram m (by decide) ms
      · rfl

lemma requestCounters_sampleFullLog (status : Nat) :
    (m.sampleFullLog status).requestCounters = m.requestCounters := by
  unfold sampleFullLog
  split <;> rfl

/-- Nothing but `observe` writes the counters of requests. -/
lemma requestCounters_step {call : MetricsCall}
    (h : ∀ status provider bytes ms, call ≠ .observe status provider bytes ms) :
    (m.step call).requestCounters = m.requestCounters := by
  cases call with
  | observe status provider bytes ms => exact absurd rfl (h status provider bytes ms)
  | observeStage stage ms => exact requestCounters_observeStage m stage ms
  | noteFreeFwdLatency ms => exact requestCounters_observeHistogram m (by decide) ms
  | sampleFullLog status => exact requestCounters_sampleFullLog m status
  | markSinkOk backend now => cases backend <;> rfl
  | markSinkFailed backend => cases backend <;> rfl
  | noteBreakerTrigger status =>
    simp only [step, noteBreakerTrigger]
    split <;> rfl
  | _ => rfl

lemma count_observe (ms : Nat) (c : AtomicHistogram.Cells) :
    (c.observe latencyLayout ms).count = c.count + 1 := by
  unfold AtomicHistogram.Cells.observe
  cases latencyLayout.bucketOf ms <;> rfl

/-- The counters of classes and of the two statuses after `observe`. -/
lemma statusCounters_observe (status : Nat) (provider : Option String) (bytes ms : Nat) :
    let c := m.requestCounters
    let c' := (m.observe status provider bytes ms).requestCounters
    c'.req2xx = c.req2xx + (if statusClass status = .ok then 1 else 0) ∧
      c'.req4xx = c.req4xx + (if statusClass status = .clientError then 1 else 0) ∧
      c'.req5xx = c.req5xx + (if statusClass status = .serverError then 1 else 0) ∧
      c'.reqOther = c.reqOther + (if statusClass status = .other then 1 else 0) ∧
      c'.req402 = c.req402 + (if status = 402 then 1 else 0) ∧
      c'.req429 = c.req429 + (if status = 429 then 1 else 0) := by
  intro c c'
  have hcounted : c'.req2xx = (m.countStatus status).req2xx ∧
      c'.req4xx = (m.countStatus status).req4xx ∧ c'.req5xx = (m.countStatus status).req5xx ∧
      c'.reqOther = (m.countStatus status).reqOther ∧
      c'.req402 = (m.countStatus status).req402 ∧ c'.req429 = (m.countStatus status).req429 :=
    ⟨rfl, rfl, rfl, rfl, rfl, rfl⟩
  obtain ⟨h2, h4, h5, ho, h402, h429⟩ := hcounted
  rw [h2, h4, h5, ho, h402, h429]
  have hclient : statusClass status ≠ .clientError → status ≠ 402 ∧ status ≠ 429 := by
    intro hne
    constructor <;> (rintro rfl; exact hne rfl)
  unfold countStatus
  cases hclass : statusClass status with
  | clientError =>
    refine ⟨rfl, rfl, rfl, rfl, ?_, ?_⟩ <;> dsimp only <;> split <;> rfl
  | _ =>
    obtain ⟨hne402, hne429⟩ := hclient (by rw [hclass]; decide)
    simp [hne402, hne429, c, requestCounters]

/-- The other series after `observe`. -/
lemma labelCounters_observe (status : Nat) (provider : Option String) (bytes ms : Nat) :
    let c := m.requestCounters
    let c' := (m.observe status provider bytes ms).requestCounters
    c'.bytesTotal = c.bytesTotal + bytes ∧ c'.durations = c.durations + 1 ∧
      c'.byProvider = addTo c.byProvider (statusClass status, provider.getD "none") 1 ∧
      c'.forbidden = match provider with
        | some p => if status = 403 then addTo c.forbidden p 1 else c.forbidden
        | none => c.forbidden := by
  intro c c'
  have hstatus : (m.countStatus status).bytesTotal = c.bytesTotal ∧
      (m.countStatus status).histograms = m.histograms ∧
      (m.countStatus status).reqByProvider = c.byProvider ∧
      (m.countStatus status).forbiddenByProvider = c.forbidden := by
    unfold countStatus
    split <;> exact ⟨rfl, rfl, rfl, rfl⟩
  obtain ⟨hbytes, hhist, hprovider, hforbidden⟩ := hstatus
  refine ⟨?_, ?_, ?_, ?_⟩
  · change (m.countStatus status).bytesTotal + bytes = _
    rw [hbytes]
  · change (Function.update (m.countStatus status).histograms .duration
      (((m.countStatus status).histograms .duration).observe latencyLayout ms) .duration).count = _
    rw [Function.update_self, hhist]
    exact count_observe ms (m.histograms .duration)
  · change addTo (m.countStatus status).reqByProvider _ 1 = _
    rw [hprovider]
  · change (match provider with
      | some p => if status = 403 then addTo (m.countStatus status).forbiddenByProvider p 1
          else (m.countStatus status).forbiddenByProvider
      | none => (m.countStatus status).forbiddenByProvider) = _
    rw [hforbidden]


end MetricsRegistry

/-- One more event. -/
lemma CountersAgree.observe {m : MetricsRegistry} {events : List TelemetryMessage}
    (h : CountersAgree m.requestCounters events) (e : TelemetryMessage) (provider : Option String)
    (ms : Nat) (hprovider : e.provider = provider.getD "none") :
    CountersAgree (m.observe e.statusCode provider e.transferredBytes ms).requestCounters
      (events ++ [e]) := by
  obtain ⟨h2, h4, h5, ho, h402, h429⟩ :=
    m.statusCounters_observe e.statusCode provider e.transferredBytes ms
  obtain ⟨hbytes, hdurations, hlabels, hforbidden⟩ :=
    m.labelCounters_observe e.statusCode provider e.transferredBytes ms
  refine ⟨?_, ?_, ?_, ?_, ?_, ?_, ?_, ?_, fun s p => ?_, fun p hp => ?_⟩
  · rw [h2, List.countP_append, h.ok]
    simp [hasClass]
  · rw [h4, List.countP_append, h.client]
    simp [hasClass]
  · rw [h5, List.countP_append, h.server]
    simp [hasClass]
  · rw [ho, List.countP_append, h.other]
    simp [hasClass]
  · rw [h402, List.countP_append, h.noBalance]
    simp
  · rw [h429, List.countP_append, h.tooMany]
    simp
  · rw [hbytes, h.bytes]
    simp
  · rw [hdurations, h.durations]
    simp
  · rw [hlabels, countOf_addTo, List.countP_append, h.provider s p, ← hprovider,
      List.countP_singleton]
    simp only [Prod.mk.injEq, hasClass, Bool.and_eq_true, decide_eq_true_eq, eq_comm (a := s),
      eq_comm (a := p)]
  · rw [hforbidden, List.countP_append, ← h.forbidden p hp, List.countP_singleton, hprovider]
    cases provider with
    | none => simp [hp.symm]
    | some q =>
      dsimp only [Option.getD_some]
      by_cases hstatus : e.statusCode = 403
      · rw [if_pos hstatus, countOf_addTo]
        simp only [hstatus, decide_true, Bool.true_and, decide_eq_true_eq, eq_comm (a := p)]
      · rw [if_neg hstatus]
        simp only [hstatus, decide_false, Bool.false_and, Bool.false_eq_true, if_false, add_zero]

/-! ### What `request_filter` does -/

/-- The counters of the accounts are far from the largest value of a word. -/
def Roomy (tenants : Table String TenantAccount) : Prop :=
  ∀ key account, tenants.lookup key = some account →
    account.inFlight ≤ account.maxConcurrency ∧ account.maxConcurrency + 1 < wordSize

/-- The key that a request is authenticated with. -/
def presentedKey (requireApiKey : Bool) (header : HeaderMap) : Option String :=
  match header.getStr "X-API-Key" with
  | some key => some key
  | none => if requireApiKey then none else some defaultApiKey

/-- An account that takes one more request. -/
structure Admits (tenants : Table String TenantAccount) (apiKey : String) (limiterOk : Bool)
    (account : TenantAccount) : Prop where
  registered : tenants.lookup apiKey = some account
  passes : tenantChecks account limiterOk = .ok ()
  free : account.inFlight < account.maxConcurrency

lemma wrappingSub_wrappingAdd {n : Nat} (h : n + 1 < wordSize) :
    wrappingSub (wrappingAdd n 1) 1 = n := by
  unfold wrappingSub wrappingAdd
  rw [Nat.mod_eq_of_lt h, Nat.add_sub_assoc (by decide)]
  unfold wordSize at *
  omega

lemma lookup_insert_same {tenants : Table String TenantAccount} {key : String}
    {account : TenantAccount} (h : tenants.lookup key = some account) (key' : String) :
    (tenants.insert key account).lookup key' = tenants.lookup key' := by
  rw [lookup_insert_eq]
  split
  · rename_i hkey
    rw [hkey, h]
  · rfl

/-- A request is refused and no account changes, or the account takes it. -/
lemma authenticate_cases {tenants : Table String TenantAccount} (hroomy : Roomy tenants)
    (apiKey : String) (limiterOk : Bool) :
    (∃ msg, (authenticateAndThrottle tenants apiKey limiterOk).1 = .error msg ∧
        (∀ account, ¬Admits tenants apiKey limiterOk account) ∧
        ∀ key, (authenticateAndThrottle tenants apiKey limiterOk).2.lookup key =
          tenants.lookup key) ∨
      ∃ account, Admits tenants apiKey limiterOk account ∧
        authenticateAndThrottle tenants apiKey limiterOk = (.ok account,
          tenants.insert apiKey { account with inFlight := account.inFlight + 1 }) := by
  unfold authenticateAndThrottle
  cases hlookup : tenants.lookup apiKey with
  | none =>
    refine .inl ⟨_, rfl, fun account h => ?_, fun _ => rfl⟩
    exact Option.some_ne_none account (h.registered.symm.trans hlookup)
  | some tenant =>
    obtain ⟨hle, hmax⟩ := hroomy apiKey tenant hlookup
    have honly : ∀ account, Admits tenants apiKey limiterOk account → account = tenant := by
      intro account h
      exact Option.some.inj (h.registered.symm.trans hlookup)
    dsimp only
    cases hchecks : tenantChecks tenant limiterOk with
    | error msg =>
      refine .inl ⟨msg, rfl, fun account h => ?_, fun _ => rfl⟩
      obtain rfl := honly account h
      cases hchecks.symm.trans h.passes
    | ok _ =>
      dsimp only
      by_cases hfull : tenant.maxConcurrency ≤ tenant.inFlight
      · rw [if_pos hfull, wrappingSub_wrappingAdd (by omega)]
        refine .inl ⟨_, rfl, fun account h => ?_, lookup_insert_same hlookup⟩
        obtain rfl := honly account h
        exact absurd h.free (Nat.not_lt_of_le hfull)
      · have hadd : wrappingAdd tenant.inFlight 1 = tenant.inFlight + 1 :=
          Nat.mod_eq_of_lt (by omega)
        rw [if_neg hfull, hadd]
        exact .inr ⟨tenant, ⟨hlookup, hchecks, Nat.lt_of_not_le hfull⟩, rfl⟩

/-! ### The calls as runs of the gate -/

/-- A call of `authenticate_and_throttle` is the run of its atomic steps that nobody interrupts. -/
theorem authenticate_eq_run {s : GateState} {i : ContextAddr} (hi : s.phase i = .idle)
    {tenants : Table String TenantAccount} {apiKey : String}
    (h : tenants.lookup apiKey = some s.account) (limiterOk : Bool) :
    let s' := run GateState.step s [.check i limiterOk, .fetchAdd i, .compare i, .fetchSub i]
    (authenticateAndThrottle tenants apiKey limiterOk).2.lookup apiKey = some s'.account ∧
      ((∃ account, (authenticateAndThrottle tenants apiKey limiterOk).1 = .ok account) ↔
        s'.phase i = .granted) := by
  intro s'
  unfold authenticateAndThrottle
  rw [h]
  dsimp only
  cases hchecks : tenantChecks s.account limiterOk with
  | error msg =>
    have hs' : s' = s := by
      simp only [s', run_cons, run_nil, GateState.step, hi, hchecks]
    rw [hs', hi]
    exact ⟨h, by simp⟩
  | ok _ =>
    dsimp only
    by_cases hfull : s.account.maxConcurrency ≤ s.account.inFlight
    · rw [if_pos hfull]
      simp only [s', run_cons, run_nil, GateState.step, hi, hchecks, GateState.move,
        GateState.setInFlight, Function.update_self, hfull, if_true]
      simp
    · rw [if_neg hfull]
      simp only [s', run_cons, run_nil, GateState.step, hi, hchecks, GateState.move,
        GateState.setInFlight, Function.update_self, hfull, if_false]
      simp

/-- A call of `release_and_meter` by the owner of a slot is the run of its atomic steps that nobody
interrupts. -/
theorem releaseAndMeter_eq_run {s : GateState} {i : ContextAddr} (hi : s.phase i = .granted)
    (bytes : Nat) (tier : String) (hpos : s.account.inFlight ≠ 0) :
    let s' := run GateState.step s
      [.release i bytes tier, .compareExchange i false, .meter i, .deduct i]
    s'.account = releaseAndMeter s.account bytes tier ∧ s'.phase i = .idle := by
  intro s'
  unfold releaseAndMeter
  rw [if_neg hpos]
  simp only [s', run_cons, run_nil, GateState.step, hi, GateState.move, GateState.setInFlight,
    Function.update_self, hpos, if_false, and_self, if_true]

lemma statusForAuthError_mem (msg : String) : statusForAuthError msg ∈ [400, 402, 403, 429] := by
  unfold statusForAuthError
  split
  · simp
  · split <;> simp

namespace Gateway

variable {b64Decode : String → Option (List UInt8)}

/-- A request with a target that shows a key whose account takes it. -/
def Enters (g : Gateway) (header : HeaderMap) (limiterOk : Bool) (apiKey : String)
    (account : TenantAccount) : Prop :=
  ((header.getStr "Host").map trimString).getD "" ≠ "" ∧
    presentedKey g.requireApiKey header = some apiKey ∧
    Admits g.tenants apiKey limiterOk account

variable (b64Decode) in
/-- What `request_filter` leaves behind: an answer and no trace in the accounts, or a slot of the
account whose key was shown. -/
lemma requestFilter_cases (g : Gateway) (hroomy : Roomy g.tenants) (clientIp : String)
    (header : HeaderMap) (limiterOk : Bool) (freshTrace : String) :
    let p := g.requestFilter b64Decode clientIp header limiterOk freshTrace
    (p.1.apiKey = none ∧ p.1.tenantId = none ∧
        (∃ status ∈ [400, 402, 403, 429], p.1.responded = some status) ∧
        (∀ apiKey account, ¬g.Enters header limiterOk apiKey account) ∧
        ∀ key, p.2.lookup key = g.tenants.lookup key) ∨
      ∃ apiKey account, g.Enters header limiterOk apiKey account ∧ p.1.apiKey = some apiKey ∧
        p.1.tenantId = some account.tenantId ∧
        p.2 = g.tenants.insert apiKey { account with inFlight := account.inFlight + 1 } := by
  intro p
  by_cases hhost : ((header.getStr "Host").map trimString).getD "" = ""
  · have hp : p = ({ clientIp := clientIp, responded := some 400 }, g.tenants) := if_pos hhost
    rw [hp]
    exact .inl ⟨rfl, rfl, ⟨400, by simp, rfl⟩, fun _ _ h => h.1 hhost, fun _ => rfl⟩
  · by_cases hmissing :
      shouldRejectMissingApiKey g.requireApiKey (header.getStr "X-API-Key").isSome = true
    · have hp : p = ({ clientIp := clientIp, responded := some 403 }, g.tenants) :=
        (if_neg hhost).trans (if_pos hmissing)
      have hnone : presentedKey g.requireApiKey header = none := by
        unfold shouldRejectMissingApiKey at hmissing
        unfold presentedKey
        cases hkey : header.getStr "X-API-Key" with
        | none => simp_all
        | some key => simp_all
      rw [hp]
      refine .inl ⟨rfl, rfl, ⟨403, by simp, rfl⟩, fun _ _ h => ?_, fun _ => rfl⟩
      exact Option.some_ne_none _ (h.2.1.symm.trans hnone)
    · have hkey : presentedKey g.requireApiKey header =
          some ((header.getStr "X-API-Key").getD defaultApiKey) := by
        unfold shouldRejectMissingApiKey at hmissing
        unfold presentedKey
        cases hkey : header.getStr "X-API-Key" with
        | none => simp_all
        | some key => rfl
      generalize hshown : (header.getStr "X-API-Key").getD defaultApiKey = apiKey at hkey
      rcases authenticate_cases hroomy apiKey limiterOk with
        ⟨msg, hmsg, hno, hsame⟩ | ⟨account, hadmits, heq⟩
      · generalize hresult : authenticateAndThrottle g.tenants apiKey limiterOk = result
          at hmsg hsame
        obtain ⟨answer, tenants⟩ := result
        obtain rfl : answer = .error msg := hmsg
        have hp : p = ({ clientIp := clientIp, responded := some (statusForAuthError msg) },
            tenants) := by
          change g.requestFilter b64Decode clientIp header limiterOk freshTrace = _
          unfold requestFilter
          rw [if_neg hhost, if_neg hmissing, hshown]
          dsimp only
          rw [hresult]
        rw [hp]
        refine .inl ⟨rfl, rfl, ⟨_, statusForAuthError_mem msg, rfl⟩,
          fun apiKey' account h => ?_, hsame⟩
        obtain rfl := Option.some.inj (h.2.1.symm.trans hkey)
        exact hno account h.2.2
      · have hp : p.1.apiKey = some apiKey ∧ p.1.tenantId = some account.tenantId ∧
            p.2 = g.tenants.insert apiKey { account with inFlight := account.inFlight + 1 } := by
          change (g.requestFilter b64Decode clientIp header limiterOk freshTrace).1.apiKey = _ ∧
            (g.requestFilter b64Decode clientIp header limiterOk freshTrace).1.tenantId = _ ∧
            (g.requestFilter b64Decode clientIp header limiterOk freshTrace).2 = _
          unfold requestFilter
          rw [if_neg hhost, if_neg hmissing, hshown]
          dsimp only
          rw [heq]
          exact ⟨rfl, rfl, rfl⟩
        exact .inr ⟨apiKey, account, ⟨hhost, hkey, hadmits⟩, hp⟩

/-! ### The invariant -/

/-- The tenant that a key belongs to. -/
def idOf (tenants : Table String TenantAccount) (apiKey : String) : Option String :=
  (tenants.lookup apiKey).map TenantAccount.tenantId

def holds (apiKey : String) (r : OpenRequest) : Bool := r.apiKey = some apiKey

def bytesOf (tenantId : String) (events : List TelemetryMessage) : Nat :=
  ((events.filter (fun e => e.tenantId = some tenantId)).map
    TelemetryMessage.transferredBytes).sum

/-- Without Redis nothing is emitted, and there are no events to agree with. -/
structure BooksInv (g : Gateway) : Prop where
  counters : g.hasTelemetry = true → CountersAgree g.metrics.requestCounters g.emitted
  distinct : ∀ apiKey apiKey' id, idOf g.tenants apiKey = some id →
    idOf g.tenants apiKey' = some id → apiKey = apiKey'
  owner : ∀ i r, g.requests.lookup i = some r → r.tenantId = r.apiKey.bind (idOf g.tenants) ∧
    (∀ apiKey, r.apiKey = some apiKey → apiKey ∈ g.tenants)
  roomy : Roomy g.tenants
  slots : ∀ apiKey account, g.tenants.lookup apiKey = some account →
    account.inFlight = countValues (holds apiKey) g.requests
  bytes : g.hasTelemetry = true → ∀ apiKey account, g.tenants.lookup apiKey = some account →
    account.totalBytes = bytesOf account.tenantId g.emitted % wordSize

/-- Accounts that differ in what the admin interface sets only. -/
structure SameBooks (account account' : TenantAccount) : Prop where
  tenantId : account'.tenantId = account.tenantId
  inFlight : account'.inFlight = account.inFlight
  maxConcurrency : account'.maxConcurrency = account.maxConcurrency
  totalBytes : account'.totalBytes = account.totalBytes

lemma idOf_insert {tenants : Table String TenantAccount} {apiKey : String}
    {account account' : TenantAccount} (h : tenants.lookup apiKey = some account)
    (hid : account'.tenantId = account.tenantId) (key : String) :
    idOf (tenants.insert apiKey account') key = idOf tenants key := by
  unfold idOf
  rw [lookup_insert_eq]
  split
  · rename_i hkey
    rw [hkey, h, Option.map_some, Option.map_some, hid]
  · rfl

variable {g : Gateway}

/-- The admin interface touches none of the books. -/
lemma BooksInv.setAccount (h : g.BooksInv) {apiKey : String} {account account' : TenantAccount}
    (hlookup : g.tenants.lookup apiKey = some account) (hsame : SameBooks account account') :
    BooksInv { g with tenants := g.tenants.insert apiKey account' } := by
  have hid := idOf_insert hlookup hsame.tenantId
  refine ⟨h.counters, ?_, ?_, ?_, ?_, ?_⟩
  · intro key key' id hkey hkey'
    rw [hid] at hkey hkey'
    exact h.distinct key key' id hkey hkey'
  · intro i r hr
    obtain ⟨howner, hmem⟩ := h.owner i r hr
    refine ⟨?_, fun key hkey => (AList.mem_insert _).mpr (.inr (hmem key hkey))⟩
    rw [howner]
    exact Option.bind_congr (fun key _ => (hid key).symm)
  · intro key a ha
    rw [lookup_insert_eq] at ha
    split at ha
    · cases ha
      rw [hsame.inFlight, hsame.maxConcurrency]
      exact h.roomy apiKey account hlookup
    · exact h.roomy key a ha
  · intro key a ha
    rw [lookup_insert_eq] at ha
    split at ha
    · rename_i hkey
      cases ha
      rw [hsame.inFlight, hkey]
      exact h.slots apiKey account hlookup
    · exact h.slots key a ha
  · intro htele key a ha
    rw [lookup_insert_eq] at ha
    split at ha
    · cases ha
      rw [hsame.totalBytes, hsame.tenantId]
      exact h.bytes htele apiKey account hlookup
    · exact h.bytes htele key a ha

/-- A request that is answered at once leaves no trace in the accounts. -/
lemma BooksInv.refuse (h : g.BooksInv) {i : Nat} (hi : i ∉ g.requests) {r : OpenRequest}
    {tenants : Table String TenantAccount} (hkey : r.apiKey = none) (hid : r.tenantId = none)
    (hsame : ∀ key, tenants.lookup key = g.tenants.lookup key) :
    BooksInv { g with tenants := tenants, requests := g.requests.insert i r } := by
  have hids : idOf tenants = idOf g.tenants := by
    funext key
    unfold idOf
    rw [hsame key]
  refine ⟨h.counters, ?_, ?_, ?_, ?_, ?_⟩
  · intro key key' id
    rw [hids]
    exact h.distinct key key' id
  · intro j r' hr
    rw [hids]
    rw [lookup_insert_eq] at hr
    split at hr
    · cases hr
      rw [hkey, hid]
      exact ⟨rfl, fun key hnone => by cases hnone⟩
    · obtain ⟨howner, hmem⟩ := h.owner j r' hr
      refine ⟨howner, fun key hk => ?_⟩
      rw [← AList.lookup_isSome, hsame, AList.lookup_isSome]
      exact hmem key hk
  · intro key account hlookup
    rw [hsame] at hlookup
    exact h.roomy key account hlookup
  · intro key account hlookup
    rw [hsame] at hlookup
    have hnot : holds key r = false := by simp [holds, hkey]
    rw [h.slots key account hlookup, countValues_insert_of_notMem hi, hnot]
    rfl
  · intro htele key account hlookup
    rw [hsame] at hlookup
    exact h.bytes htele key account hlookup

/-- A request that enters takes one slot. -/
lemma BooksInv.enter (h : g.BooksInv) {i : Nat} (hi : i ∉ g.requests) {r : OpenRequest}
    {apiKey : String} {limiterOk : Bool} {account : TenantAccount}
    (hadmits : Admits g.tenants apiKey limiterOk account) (hkey : r.apiKey = some apiKey)
    (hid : r.tenantId = some account.tenantId) :
    BooksInv { g with
      tenants := g.tenants.insert apiKey { account with inFlight := account.inFlight + 1 }
      requests := g.requests.insert i r } := by
  have hlookup := hadmits.registered
  have hids : ∀ key, idOf (g.tenants.insert apiKey
      { account with inFlight := account.inFlight + 1 }) key = idOf g.tenants key :=
    idOf_insert hlookup rfl
  have hown : idOf g.tenants apiKey = some account.tenantId := by
    unfold idOf
    rw [hlookup]
    rfl
  refine ⟨h.counters, ?_, ?_, ?_, ?_, ?_⟩
  · intro key key' id hk hk'
    rw [hids] at hk hk'
    exact h.distinct key key' id hk hk'
  · intro j r' hr
    rw [lookup_insert_eq] at hr
    split at hr
    · cases hr
      rw [hkey, hid]
      refine ⟨?_, fun key hk => ?_⟩
      · rw [Option.bind_some, hids, hown]
      · cases hk
        exact (AList.mem_insert _).mpr (.inl rfl)
    · obtain ⟨howner, hmem⟩ := h.owner j r' hr
      refine ⟨?_, fun key hk => (AList.mem_insert _).mpr (.inr (hmem key hk))⟩
      rw [howner]
      exact Option.bind_congr (fun key _ => (hids key).symm)
  · intro key a ha
    rw [lookup_insert_eq] at ha
    split at ha
    · cases ha
      exact ⟨hadmits.free, (h.roomy apiKey account hlookup).2⟩
    · exact h.roomy key a ha
  · intro key a ha
    rw [lookup_insert_eq] at ha
    rw [countValues_insert_of_notMem hi]
    split at ha
    · rename_i hk
      cases ha
      have hthis : holds key r = true := by simp [holds, hkey, hk]
      rw [hthis, hk, ← h.slots apiKey account hlookup]
      rfl
    · rename_i hk
      have hother : holds key r = false := by
        simp only [holds, hkey, decide_eq_false_iff_not, Option.some.injEq]
        exact fun heq => hk heq.symm
      rw [hother, h.slots key a ha]
      rfl
  · intro htele key a ha
    rw [lookup_insert_eq] at ha
    split at ha
    · cases ha
      exact h.bytes htele apiKey account hlookup
    · exact h.bytes htele key a ha

/-- What `logging` reports to the registry is what it emits. -/
lemma counters_logging {m : MetricsRegistry} {events : List TelemetryMessage}
    (h : CountersAgree m.requestCounters events) (ctx : OpenRequest) (o : RequestOutcome)
    (clocks : LoggingClocks) :
    CountersAgree ((loggingCalls o clocks).foldl MetricsRegistry.step m).requestCounters
      (events ++ [telemetryOf ctx o clocks]) := by
  have hprovider : (telemetryOf ctx o clocks).provider =
      (o.node.map ProxyNode.provider).getD "none" := rfl
  unfold loggingCalls
  simp only [List.foldl_cons, List.foldl_nil, MetricsRegistry.step]
  rw [MetricsRegistry.requestCounters_sampleFullLog]
  refine CountersAgree.observe ?_ (telemetryOf ctx o clocks) _ clocks.nowMs hprovider
  rw [MetricsRegistry.requestCounters_observeStage, MetricsRegistry.requestCounters_observeStage,
    MetricsRegistry.requestCounters_observeStage]
  exact h

lemma bytesOf_append (tenantId : String) (events : List TelemetryMessage) (e : TelemetryMessage) :
    bytesOf tenantId (events ++ [e]) =
      bytesOf tenantId events + if e.tenantId = some tenantId then e.transferredBytes else 0 := by
  unfold bytesOf
  rw [List.filter_append, List.map_append, List.sum_append]
  by_cases h : e.tenantId = some tenantId <;> simp [h]

/-- The account of a request that ends gives its slot back and books its bytes. -/
lemma lookup_released (h : g.BooksInv) {i : Nat} {r : OpenRequest}
    (hr : g.requests.lookup i = some r) (o : RequestOutcome) {key : String}
    {account : TenantAccount} (hlookup : (released g.tenants r.apiKey o).lookup key = some account) :
    ∃ old, g.tenants.lookup key = some old ∧ account.tenantId = old.tenantId ∧
      account.maxConcurrency = old.maxConcurrency ∧
      account.inFlight + (if holds key r then 1 else 0) = old.inFlight ∧
      account.totalBytes = if holds key r then wrappingAdd old.totalBytes o.transferredBytes
        else old.totalBytes := by
  unfold released at hlookup
  cases hkey : r.apiKey with
  | none =>
    rw [hkey] at hlookup
    have hnot : holds key r = false := by simp [holds, hkey]
    rw [hnot]
    exact ⟨account, hlookup, rfl, rfl, rfl, rfl⟩
  | some apiKey =>
    obtain ⟨old, hold⟩ := (mem_iff_lookup _ _).mp ((h.owner i r hr).2 apiKey hkey)
    rw [hkey] at hlookup
    dsimp only at hlookup
    rw [hold] at hlookup
    dsimp only at hlookup
    rw [lookup_insert_eq] at hlookup
    split at hlookup
    · rename_i hk
      cases hlookup
      have hthis : holds key r = true := by simp [holds, hkey, hk]
      have hpos : 0 < old.inFlight := by
        rw [h.slots apiKey old hold, ← hk]
        exact countValues_pos hr hthis
      rw [hthis, hk]
      refine ⟨old, hold, ?_⟩
      unfold releaseAndMeter
      rw [if_neg (by omega)]
      refine ⟨rfl, rfl, ?_, rfl⟩
      simp only [if_true]
      omega
    · rename_i hk
      have hother : holds key r = false := by
        simp only [holds, hkey, decide_eq_false_iff_not, Option.some.injEq]
        exact fun heq => hk heq.symm
      rw [hother]
      exact ⟨account, hlookup, rfl, rfl, rfl, rfl⟩

lemma idOf_released (tenants : Table String TenantAccount) (apiKey : Option String)
    (o : RequestOutcome) (key : String) :
    idOf (released tenants apiKey o) key = idOf tenants key := by
  unfold released
  split
  · rfl
  · split
    · rfl
    · rename_i account hlookup
      refine idOf_insert hlookup ?_ key
      unfold releaseAndMeter
      split <;> rfl

lemma mem_released {tenants : Table String TenantAccount} {apiKey : Option String}
    {o : RequestOutcome} {key : String} (h : key ∈ tenants) : key ∈ released tenants apiKey o := by
  unfold released
  split
  · exact h
  · split
    · exact h
    · exact (AList.mem_insert _).mpr (.inr h)

/-- A request names the tenant whose key it has. -/
lemma BooksInv.tenant_iff (h : g.BooksInv) {i : Nat} {r : OpenRequest}
    (hr : g.requests.lookup i = some r) {key : String} {account : TenantAccount}
    (hlookup : g.tenants.lookup key = some account) :
    r.tenantId = some account.tenantId ↔ holds key r = true := by
  have hid : idOf g.tenants key = some account.tenantId := by
    unfold idOf
    rw [hlookup]
    rfl
  rw [(h.owner i r hr).1]
  constructor
  · intro heq
    obtain ⟨apiKey, hkey, hown⟩ := Option.bind_eq_some_iff.mp heq
    obtain rfl := h.distinct apiKey key account.tenantId hown hid
    simp [holds, hkey]
  · intro hkey
    rw [of_decide_eq_true hkey]
    exact hid

/-- A request that ends is written into the three books. -/
lemma BooksInv.finish (h : g.BooksInv) {i : Nat} {r : OpenRequest}
    (hr : g.requests.lookup i = some r) (o : RequestOutcome) (clocks : LoggingClocks) :
    BooksInv { g.logging r o clocks with requests := g.requests.erase i } := by
  have hemitted : g.hasTelemetry = true →
      (g.logging r o clocks).emitted = g.emitted ++ [telemetryOf r o clocks] := fun h => if_pos h
  have hids : idOf (released g.tenants r.apiKey o) = idOf g.tenants :=
    funext (idOf_released g.tenants r.apiKey o)
  refine ⟨fun htele => ?_, ?_, ?_, ?_, ?_, ?_⟩
  · change CountersAgree _ (g.logging r o clocks).emitted
    rw [hemitted htele]
    exact counters_logging (h.counters htele) r o clocks
  · intro key key' id
    change idOf (released g.tenants r.apiKey o) key = some id →
      idOf (released g.tenants r.apiKey o) key' = some id → key = key'
    rw [hids]
    exact h.distinct key key' id
  · intro j r' hr'
    change r'.tenantId = r'.apiKey.bind (idOf (released g.tenants r.apiKey o)) ∧
      ∀ key, r'.apiKey = some key → key ∈ released g.tenants r.apiKey o
    rw [lookup_erase_eq] at hr'
    split at hr'
    · cases hr'
    · rw [hids]
      obtain ⟨howner, hmem⟩ := h.owner j r' hr'
      exact ⟨howner, fun key hk => mem_released (hmem key hk)⟩
  · intro key account hlookup
    obtain ⟨old, hold, -, hmax, hslots, -⟩ := lookup_released h hr o hlookup
    obtain ⟨hle, hlt⟩ := h.roomy key old hold
    rw [hmax]
    refine ⟨?_, hlt⟩
    omega
  · intro key account hlookup
    obtain ⟨old, hold, -, -, hslots, -⟩ := lookup_released h hr o hlookup
    have hcount := countValues_erase (p := holds key) hr
    change account.inFlight = countValues (holds key) (g.requests.erase i)
    rw [h.slots key old hold] at hslots
    omega
  · intro htele key account hlookup
    obtain ⟨old, hold, hid, -, -, hbytes⟩ := lookup_released h hr o hlookup
    have hevent : (telemetryOf r o clocks).tenantId = some old.tenantId ↔ holds key r = true :=
      h.tenant_iff hr hold
    change account.totalBytes = bytesOf account.tenantId (g.logging r o clocks).emitted % wordSize
    rw [hemitted htele, bytesOf_append, hid, hbytes, h.bytes htele key old hold]
    by_cases hthis : holds key r = true
    · rw [if_pos hthis, if_pos (hevent.mpr hthis)]
      exact Nat.mod_add_mod _ _ _
    · rw [if_neg hthis, if_neg (fun heq => hthis (hevent.mp heq)), Nat.add_zero]

lemma booksInv_step (h : g.BooksInv) (e : GatewayEvent) : (g.step b64Decode e).BooksInv := by
  cases e with
  | arrive i clientIp header limiterOk freshTrace =>
    simp only [step]
    split
    · exact h
    · rename_i hi
      rcases requestFilter_cases b64Decode g h.roomy clientIp header limiterOk
        freshTrace with
        ⟨hkey, hid, -, -, hsame⟩ | ⟨apiKey, account, henters, hkey, hid, htenants⟩
      · exact h.refuse hi hkey hid hsame
      · rw [htenants]
        exact h.enter hi henters.2.2 hkey hid
  | finish i outcome clocks =>
    simp only [step]
    split
    · exact h
    · rename_i r hr
      exact h.finish hr _ clocks
  | setActive apiKey active =>
    simp only [step]
    split
    · exact h
    · rename_i account hlookup
      exact h.setAccount hlookup ⟨rfl, rfl, rfl, rfl⟩
  | setBalance apiKey balanceUsd =>
    simp only [step]
    split
    · exact h
    · rename_i account hlookup
      exact h.setAccount hlookup ⟨rfl, rfl, rfl, rfl⟩
  | report call =>
    have hother : (∀ status provider bytes ms, call ≠ .observe status provider bytes ms) →
        BooksInv { g with metrics := g.metrics.step call } := by
      intro hne
      refine ⟨fun htele => ?_, h.distinct, h.owner, h.roomy, h.slots, h.bytes⟩
      change CountersAgree (g.metrics.step call).requestCounters g.emitted
      rw [MetricsRegistry.requestCounters_step _ hne]
      exact h.counters htele
    cases call with
    | observe status provider bytes ms => exact h
    | _ => exact hother (by simp)

variable (b64Decode) in
/-- Neither the configuration nor the registered keys ever change. -/
lemma config_step (h : g.BooksInv) (e : GatewayEvent) :
    (g.step b64Decode e).requireApiKey = g.requireApiKey ∧
      (g.step b64Decode e).hasTelemetry = g.hasTelemetry ∧
      ∀ apiKey, apiKey ∈ (g.step b64Decode e).tenants → apiKey ∈ g.tenants := by
  cases e with
  | arrive i clientIp header limiterOk freshTrace =>
    simp only [step]
    split
    · exact ⟨rfl, rfl, fun _ hmem => hmem⟩
    · rcases requestFilter_cases b64Decode g h.roomy clientIp header limiterOk
        freshTrace with ⟨-, -, -, -, hsame⟩ | ⟨apiKey, account, henters, -, -, htenants⟩
      · refine ⟨rfl, rfl, fun key hmem => ?_⟩
        rw [← AList.lookup_isSome, hsame, AList.lookup_isSome] at hmem
        exact hmem
      · refine ⟨rfl, rfl, fun key hmem => ?_⟩
        rw [htenants] at hmem
        exact mem_of_mem_overwrite henters.2.2.registered hmem
  | finish i outcome clocks =>
    simp only [step]
    split
    · exact ⟨rfl, rfl, fun _ hmem => hmem⟩
    · rename_i r hr
      refine ⟨rfl, rfl, fun key hmem => ?_⟩
      rw [← AList.lookup_isSome, Option.isSome_iff_exists] at hmem
      obtain ⟨account, hlookup⟩ := hmem
      obtain ⟨old, hold, -⟩ := lookup_released h hr _ hlookup
      exact mem_of_lookup hold
  | setActive apiKey active =>
    simp only [step]
    split
    · exact ⟨rfl, rfl, fun _ hmem => hmem⟩
    · rename_i account hlookup
      exact ⟨rfl, rfl, fun key hmem => mem_of_mem_overwrite hlookup hmem⟩
  | setBalance apiKey balanceUsd =>
    simp only [step]
    split
    · exact ⟨rfl, rfl, fun _ hmem => hmem⟩
    · rename_i account hlookup
      exact ⟨rfl, rfl, fun key hmem => mem_of_mem_overwrite hlookup hmem⟩
  | report call => cases call <;> exact ⟨rfl, rfl, fun _ hmem => hmem⟩

/-! ### The start -/

lemma lookup_startTenants {apiKeyEnv : Option String} {apiKey : String} {account : TenantAccount}
    (h : (startTenants apiKeyEnv).lookup apiKey = some account) :
    apiKey = effectiveKey apiKeyEnv ∧ effectiveKey apiKeyEnv ≠ "" ∧
      account = newTenantAccount "default" tenantSentinelQuota tenantSentinelQuota := by
  unfold startTenants at h
  split at h
  · rw [AList.lookup_empty] at h
    cases h
  · rename_i hne
    unfold registerTenant at h
    rw [lookup_insert_eq] at h
    split at h
    · rename_i hkey
      cases h
      exact ⟨hkey, hne, rfl⟩
    · rw [AList.lookup_empty] at h
      cases h

lemma countersAgree_initial : CountersAgree ({} : MetricsRegistry).requestCounters [] := by
  refine ⟨rfl, rfl, rfl, rfl, rfl, rfl, rfl, rfl, fun _ _ => rfl, fun _ _ => rfl⟩

lemma booksInv_start (apiKeyEnv requireEnv : Option String) (hasTelemetry : Bool) :
    (start apiKeyEnv requireEnv hasTelemetry).BooksInv := by
  refine ⟨fun _ => countersAgree_initial, ?_, ?_, ?_, ?_, ?_⟩
  · intro key key' id hk hk'
    obtain ⟨account, ha, -⟩ := Option.map_eq_some_iff.mp hk
    obtain ⟨account', ha', -⟩ := Option.map_eq_some_iff.mp hk'
    rw [(lookup_startTenants ha).1, (lookup_startTenants ha').1]
  · intro i r hr
    change (∅ : Table Nat OpenRequest).lookup i = some r at hr
    rw [AList.lookup_empty] at hr
    cases hr
  · intro key account hlookup
    rw [(lookup_startTenants hlookup).2.2]
    exact ⟨Nat.zero_le _, by decide⟩
  · intro key account hlookup
    rw [(lookup_startTenants hlookup).2.2]
    rfl
  · intro _ key account hlookup
    rw [(lookup_startTenants hlookup).2.2]
    rfl

/-- A gateway that `main` has started and that has run for a while. -/
structure RunInv (apiKeyEnv requireEnv : Option String) (hasTelemetry : Bool) (g : Gateway) :
    Prop where
  books : g.BooksInv
  required : g.requireApiKey = requireApiKeyEnv requireEnv
  telemetry : g.hasTelemetry = hasTelemetry
  keys : ∀ apiKey ∈ g.tenants, apiKey = effectiveKey apiKeyEnv ∧ apiKey ≠ ""

lemma runInv_step {apiKeyEnv requireEnv : Option String} {hasTelemetry : Bool}
    (h : g.RunInv apiKeyEnv requireEnv hasTelemetry) (e : GatewayEvent) :
    (g.step b64Decode e).RunInv apiKeyEnv requireEnv hasTelemetry := by
  obtain ⟨hrequired, htelemetry, hkeys⟩ := config_step b64Decode h.books e
  exact ⟨booksInv_step h.books e, hrequired.trans h.required, htelemetry.trans h.telemetry,
    fun apiKey hmem => h.keys apiKey (hkeys apiKey hmem)⟩

lemma runInv_start (apiKeyEnv requireEnv : Option String) (hasTelemetry : Bool) :
    (start apiKeyEnv requireEnv hasTelemetry).RunInv apiKeyEnv requireEnv hasTelemetry := by
  refine ⟨booksInv_start apiKeyEnv requireEnv hasTelemetry, rfl, rfl, fun apiKey hmem => ?_⟩
  obtain ⟨account, hlookup⟩ := (mem_iff_lookup _ _).mp hmem
  obtain ⟨hkey, hne, -⟩ := lookup_startTenants hlookup
  exact ⟨hkey, hkey ▸ hne⟩

/-! ### Who gets in -/

/-- The key, if any, that a request has shown which this event lets in. -/
def entered (b64Decode : String → Option (List UInt8)) (g : Gateway) :
    GatewayEvent → List (Option String)
  | .arrive i clientIp header limiterOk freshTrace =>
    if i ∈ g.requests then []
    else if (g.requestFilter b64Decode clientIp header limiterOk freshTrace).1.apiKey.isSome then
      [header.getStr "X-API-Key"]
    else []
  | _ => []

/-- What opens the gateway: without `API_KEY` the public default key, shown or, where no key is
required, assumed; with a usable `API_KEY` that key alone; with an unusable one nothing. -/
def Opens (apiKeyEnv requireEnv shown : Option String) : Prop :=
  match apiKeyEnv with
  | none => shown = some defaultApiKey ∨ shown = none ∧ requireEnv = some "0"
  | some raw => trimString raw ≠ "" ∧ trimString raw ≠ defaultApiKey ∧
    shown = some (trimString raw)

/-- An arrival is let in with one slot of its account, or answered with no account changed. -/
def Answers (b64Decode : String → Option (List UInt8)) (g : Gateway) (e : GatewayEvent) : Prop :=
  ∀ i clientIp header limiterOk freshTrace, e = .arrive i clientIp header limiterOk freshTrace →
    i ∉ g.requests →
    (∃ apiKey account r, g.Enters header limiterOk apiKey account ∧
        (g.step b64Decode e).requests.lookup i = some r ∧ r.apiKey = some apiKey ∧
        r.tenantId = some account.tenantId ∧
        (g.step b64Decode e).tenants =
          g.tenants.insert apiKey { account with inFlight := account.inFlight + 1 }) ∨
      ∃ r, (g.step b64Decode e).requests.lookup i = some r ∧ r.apiKey = none ∧
        (∃ status ∈ [400, 402, 403, 429], r.responded = some status) ∧
        (∀ apiKey account, ¬g.Enters header limiterOk apiKey account) ∧
        ∀ key, (g.step b64Decode e).tenants.lookup key = g.tenants.lookup key

lemma BooksInv.answers (h : g.BooksInv) (e : GatewayEvent) : g.Answers b64Decode e := by
  rintro i clientIp header limiterOk freshTrace rfl hi
  have hstep : g.step b64Decode (.arrive i clientIp header limiterOk freshTrace) =
      { g with
        tenants := (g.requestFilter b64Decode clientIp header limiterOk freshTrace).2
        requests := g.requests.insert i
          (g.requestFilter b64Decode clientIp header limiterOk freshTrace).1 } := if_neg hi
  rw [hstep]
  rcases requestFilter_cases b64Decode g h.roomy clientIp header limiterOk freshTrace
    with ⟨hkey, -, hstatus, hno, hsame⟩ | ⟨apiKey, account, henters, hkey, hid, htenants⟩
  · exact .inr ⟨_, AList.lookup_insert _, hkey, hstatus, hno, hsame⟩
  · exact .inl ⟨apiKey, account, _, henters, AList.lookup_insert _, hkey, hid, htenants⟩

lemma resolveApiKey_some {raw : String} (h : effectiveKey (some raw) ≠ "") :
    trimString raw ≠ "" ∧ trimString raw ≠ defaultApiKey ∧
      effectiveKey (some raw) = trimString raw := by
  unfold effectiveKey resolveApiKey at h ⊢
  dsimp only at h ⊢
  by_cases hempty : trimString raw = ""
  · rw [if_pos hempty] at h
    exact absurd rfl h
  · rw [if_neg hempty] at h ⊢
    by_cases hdefault : trimString raw = defaultApiKey
    · rw [if_pos hdefault] at h
      exact absurd rfl h
    · rw [if_neg hdefault]
      exact ⟨hempty, hdefault, rfl⟩

lemma RunInv.opens {apiKeyEnv requireEnv : Option String} {hasTelemetry : Bool}
    (h : g.RunInv apiKeyEnv requireEnv hasTelemetry) {header : HeaderMap} {limiterOk : Bool}
    {apiKey : String} {account : TenantAccount}
    (henters : g.Enters header limiterOk apiKey account) :
    Opens apiKeyEnv requireEnv (header.getStr "X-API-Key") := by
  obtain ⟨hkey, hne⟩ := h.keys apiKey (mem_of_lookup henters.2.2.registered)
  have hshown := henters.2.1
  rw [h.required] at hshown
  unfold presentedKey requireApiKeyEnv at hshown
  cases hget : header.getStr "X-API-Key" with
  | some shown =>
    rw [hget] at hshown
    obtain rfl := Option.some.inj hshown
    cases apiKeyEnv with
    | none => exact .inl (congrArg some hkey)
    | some raw =>
      obtain ⟨htrim, hdefault, heq⟩ := resolveApiKey_some (hkey ▸ hne)
      exact ⟨htrim, hdefault, congrArg some (hkey.trans heq)⟩
  | none =>
    rw [hget] at hshown
    dsimp only at hshown
    split at hshown
    · cases hshown
    · rename_i hoff
      obtain rfl := Option.some.inj hshown
      cases apiKeyEnv with
      | none => exact .inr ⟨rfl, by simpa using hoff⟩
      | some raw =>
        obtain ⟨-, hdefault, heq⟩ := resolveApiKey_some (hkey ▸ hne)
        exact absurd (heq.symm.trans hkey.symm) hdefault

end Gateway

/-- Over any run of overlapping requests, admin steps and other reports: the counters of requests,
of their statuses, of their bytes and of their providers say what the emitted events say; the
account of a tenant has booked the bytes of the events that name it, modulo the word, and its slots
are taken by the open requests that were let in with its key. -/
theorem gateway_books_agree (b64Decode : String → Option (List UInt8))
    (apiKeyEnv requireEnv : Option String) (events : List GatewayEvent) :
    let g := run (Gateway.step b64Decode) (Gateway.start apiKeyEnv requireEnv true) events
    CountersAgree g.metrics.requestCounters g.emitted ∧
      ∀ apiKey account, g.tenants.lookup apiKey = some account →
        account.totalBytes = Gateway.bytesOf account.tenantId g.emitted % wordSize ∧
        account.inFlight = countValues (Gateway.holds apiKey) g.requests ∧
        account.inFlight ≤ account.maxConcurrency := by
  intro g
  have hinv : g.RunInv apiKeyEnv requireEnv true :=
    run_invariant (J := Gateway.RunInv apiKeyEnv requireEnv true)
      (fun g e h => Gateway.runInv_step h e) (Gateway.runInv_start apiKeyEnv requireEnv true) events
  have hbooks := hinv.books
  exact ⟨hbooks.counters hinv.telemetry, fun apiKey account hlookup =>
    ⟨hbooks.bytes hinv.telemetry apiKey account hlookup, hbooks.slots apiKey account hlookup,
      (hbooks.roomy apiKey account hlookup).1⟩⟩

/-- Whatever the requests of a run are, those that get in have shown what the configuration asks
for: the public default key works only while `API_KEY` is unset, no key only if moreover none is
required, and an unusable `API_KEY` lets nobody in. Every arrival takes one slot of the account
whose key it has shown, or is answered and changes no account. -/
theorem keys_that_open (b64Decode : String → Option (List UInt8))
    (apiKeyEnv requireEnv : Option String) (hasTelemetry : Bool) (events : List GatewayEvent) :
    let start := Gateway.start apiKeyEnv requireEnv hasTelemetry
    (∀ shown ∈ log (Gateway.step b64Decode) (Gateway.entered b64Decode) start events,
        Gateway.Opens apiKeyEnv requireEnv shown) ∧
      Along (Gateway.step b64Decode) (Gateway.Answers b64Decode) start events := by
  intro start
  have hstart := Gateway.runInv_start apiKeyEnv requireEnv hasTelemetry
  refine ⟨?_, ?_⟩
  · refine forall_mem_log (J := Gateway.RunInv apiKeyEnv requireEnv hasTelemetry)
      (fun g e h => Gateway.runInv_step h e) (fun g e h shown hshown => ?_) hstart events
    cases e with
    | arrive i clientIp header limiterOk freshTrace =>
      simp only [Gateway.entered] at hshown
      split at hshown
      · cases hshown
      · split at hshown
        · rename_i hin
          rw [List.mem_singleton.mp hshown]
          rcases Gateway.requestFilter_cases b64Decode g h.books.roomy clientIp header
            limiterOk freshTrace with ⟨hkey, -⟩ | ⟨apiKey, account, henters, -⟩
          · rw [hkey] at hin
            cases hin
          · exact h.opens henters
        · cases hshown
    | _ => cases hshown
  · exact along_of_invariant (J := Gateway.RunInv apiKeyEnv requireEnv hasTelemetry)
      (fun g e h => Gateway.runInv_step h e) (fun g e h => h.books.answers e) hstart events

end IPProxyPool
