import IPProxyPool.Model.Tenant
import IPProxyPool.Proofs.QuarantineKey

/-!
# Session isolation between tenants

The keys that belong to a tenant are the strings that start with its id and a colon. Since an id
may contain colons itself, the keys of two tenants are apart exactly when neither id continues the
other after a colon.
-/

namespace IPProxyPool
open RustText AssocTable Transition

/-- Effects of any requests of one tenant, in any interleaving, each with the spec its request was
parsed to. -/
def RouterEngine.tenantStep (tenant : String) (r : RouterEngine)
    (e : RoutingSpec × RequestEffect) : RouterEngine :=
  r.requestStep (applyTenantNamespace e.1 (some tenant)) e.2

/-- The binding that a request of the tenant is pinned to. -/
def RouterEngine.tenantBinding (tenant : String) (r : RouterEngine) (spec : RoutingSpec) :
    Option (ProxyNode × Instant) :=
  r.sessionBinding (applyTenantNamespace spec (some tenant))

/-- No session key is shared, no requests of `t₁` change what a request of `t₂` is pinned to, and
the namespace is put on only once. -/
structure SessionsIsolated (t₁ t₂ : String) : Prop where
  keys_differ : ∀ s₁ s₂, namespacedSession t₁ s₁ ≠ namespacedSession t₂ s₂
  bindings_kept : ∀ (r : RouterEngine) (effects : List (RoutingSpec × RequestEffect))
    (spec : RoutingSpec),
    (run (RouterEngine.tenantStep t₁) r effects).tenantBinding t₂ spec = r.tenantBinding t₂ spec
  idempotent : ∀ (t : String) (spec : RoutingSpec),
    applyTenantNamespace (applyTenantNamespace spec (some t)) (some t) =
      applyTenantNamespace spec (some t)

lemma startsWith_namespacedSession (t s : String) :
    startsWith (namespacedSession t s) (t ++ ":") = true := by
  unfold namespacedSession
  split
  · assumption
  · simp [startsWith_iff]

lemma namespacedSession_of_startsWith {t s : String} (h : startsWith s (t ++ ":") = true) :
    namespacedSession t s = s := by
  unfold namespacedSession
  rw [if_pos h]

lemma applyTenantNamespace_idem (t : String) (spec : RoutingSpec) :
    applyTenantNamespace (applyTenantNamespace spec (some t)) (some t) =
      applyTenantNamespace spec (some t) := by
  unfold applyTenantNamespace
  rcases hs : spec.sessionId with _ | session
  · simp [hs]
  · by_cases ht : t = ""
    · simp [hs, ht]
    · simp [ht, namespacedSession_of_startsWith (startsWith_namespacedSession t session)]

/-- Two different ids can start the same key only when one continues the other after a colon. -/
lemma startsWith_of_common {t₁ t₂ k : String} (hne : t₁ ≠ t₂)
    (h₁ : startsWith k (t₁ ++ ":") = true) (h₂ : startsWith k (t₂ ++ ":") = true) :
    startsWith t₂ (t₁ ++ ":") = true ∨ startsWith t₁ (t₂ ++ ":") = true := by
  have hcolon : (":" : String).toList = [':'] := rfl
  simp only [startsWith_iff, String.toList_append, hcolon] at h₁ h₂ ⊢
  have hext : ∀ a b : String, a ≠ b → a.toList ++ [':'] <+: b.toList ++ [':'] →
      a.toList ++ [':'] <+: b.toList := by
    intro a b hab hpre
    rcases List.prefix_concat_iff.mp hpre with heq | hpre
    · exact absurd (String.toList_injective (List.append_cancel_right heq)) hab
    · exact hpre
  rcases List.prefix_or_prefix_of_prefix h₁ h₂ with h | h
  · exact .inl (hext t₁ t₂ hne h)
  · exact .inr (hext t₂ t₁ hne.symm h)

/-- An id that continues another after a colon shares a key with it. -/
lemma shared_key {t₁ t₂ : String} (h : startsWith t₂ (t₁ ++ ":") = true) :
    namespacedSession t₁ (t₂ ++ ":") = namespacedSession t₂ (t₂ ++ ":") := by
  rw [startsWith_iff] at h
  rw [namespacedSession_of_startsWith, namespacedSession_of_startsWith]
  · simp [startsWith_iff]
  · rw [startsWith_iff, String.toList_append (s := t₂)]
    exact h.trans (List.prefix_append _ _)

namespace RouterEngine

variable {r : RouterEngine} {spec : RoutingSpec}

lemma lookup_bindSession_ne {selected : Option ProxyNode} {now : Instant} {key : String}
    (h : spec.sessionId ≠ some key) :
    (r.bindSession spec selected now).sessionStore.lookup key = r.sessionStore.lookup key := by
  unfold bindSession
  cases hs : spec.sessionId with
  | none => rfl
  | some sessionId =>
    cases selected with
    | none => rfl
    | some node =>
      dsimp only
      split
      · exact AList.lookup_insert_ne (fun hk => h (by rw [hs, hk]))
      · rfl

lemma lookup_selectNodeExcluding_ne {excluded : List String} {now : Instant} {draw : Nat}
    {key : String} (h : spec.sessionId ≠ some key) :
    (r.selectNodeExcluding spec excluded now draw).2.sessionStore.lookup key =
      r.sessionStore.lookup key := by
  unfold selectNodeExcluding
  dsimp only
  split
  · rfl
  · exact lookup_bindSession_ne h

lemma sessionStore_processEntry (event : TelemetryEvent) (now : Instant) :
    (r.processEntry event now).sessionStore = r.sessionStore := by
  unfold processEntry
  split
  · split
    · exact sessionStore_applyQuarantine _ _ _
    · rfl
  · rfl

/-- A request binds the key of its own spec and no other. -/
lemma lookup_requestStep_ne {e : RequestEffect} {key : String} (h : spec.sessionId ≠ some key) :
    (r.requestStep spec e).sessionStore.lookup key = r.sessionStore.lookup key := by
  cases e with
  | select excluded now draw => exact lookup_selectNodeExcluding_ne h
  | report event now =>
    unfold requestStep
    rw [sessionStore_processEntry]

end RouterEngine

lemma sessionId_applyTenantNamespace {t : String} (ht : t ≠ "") (spec : RoutingSpec) :
    (applyTenantNamespace spec (some t)).sessionId =
      spec.sessionId.map (namespacedSession t) := by
  unfold applyTenantNamespace
  cases hs : spec.sessionId with
  | none => simp [hs]
  | some session => simp [ht]

lemma tenantBinding_step {t₁ t₂ : String} (h₁ : t₁ ≠ "") (h₂ : t₂ ≠ "")
    (hkeys : ∀ s₁ s₂, namespacedSession t₁ s₁ ≠ namespacedSession t₂ s₂)
    (r : RouterEngine) (e : RoutingSpec × RequestEffect) (spec : RoutingSpec) :
    (r.tenantStep t₁ e).tenantBinding t₂ spec = r.tenantBinding t₂ spec := by
  unfold RouterEngine.tenantBinding RouterEngine.sessionBinding
  rw [sessionId_applyTenantNamespace h₂]
  cases spec.sessionId with
  | none => rfl
  | some s₂ =>
    dsimp only [Option.map_some]
    split
    · apply RouterEngine.lookup_requestStep_ne
      rw [sessionId_applyTenantNamespace h₁]
      cases e.1.sessionId with
      | none => simp
      | some s₁ => simpa using hkeys s₁ s₂
    · rfl

/-- Tenants are isolated exactly when neither id continues the other after a colon. -/
theorem sessions_isolated_iff {t₁ t₂ : String} (h₁ : t₁ ≠ "") (h₂ : t₂ ≠ "") (hne : t₁ ≠ t₂) :
    SessionsIsolated t₁ t₂ ↔
      startsWith t₂ (t₁ ++ ":") = false ∧ startsWith t₁ (t₂ ++ ":") = false := by
  constructor
  · intro h
    constructor
    · by_contra hc
      rw [Bool.not_eq_false] at hc
      exact h.keys_differ _ _ (shared_key hc)
    · by_contra hc
      rw [Bool.not_eq_false] at hc
      exact h.keys_differ _ _ (shared_key hc).symm
  · rintro ⟨h12, h21⟩
    have hkeys : ∀ s₁ s₂, namespacedSession t₁ s₁ ≠ namespacedSession t₂ s₂ := by
      intro s₁ s₂ heq
      have hs₂ := startsWith_namespacedSession t₂ s₂
      rw [← heq] at hs₂
      rcases startsWith_of_common hne (startsWith_namespacedSession t₁ s₁) hs₂ with h | h
      · rw [h12] at h
        exact Bool.false_ne_true h
      · rw [h21] at h
        exact Bool.false_ne_true h
    refine ⟨hkeys, fun r effects spec => ?_, applyTenantNamespace_idem⟩
    exact run_invariant (J := fun r' => r'.tenantBinding t₂ spec = r.tenantBinding t₂ spec)
      (fun r' e ih => (tenantBinding_step h₁ h₂ hkeys r' e spec).trans ih) rfl effects

theorem plain_tenants_isolated : SessionsIsolated "acme" "globex" :=
  (sessions_isolated_iff (by decide) (by decide) (by decide)).mpr ⟨by decide, by decide⟩

/-- Tenant `acme` asks for session `eu:42` and is given the key of session `42` of tenant
`acme:eu`, so that its request decides the node of the other tenant. -/
theorem nested_tenant_ids_share_session :
    ¬(∀ t₁ t₂ : String, t₁ ≠ "" → t₂ ≠ "" → t₁ ≠ t₂ → SessionsIsolated t₁ t₂) ∧
      namespacedSession "acme" "eu:42" = namespacedSession "acme:eu" "42" ∧
      let node := ProxyNode.new "10.0.0.1" 8080 none none "US" "datacenter" "p" 1
      let r := RouterEngine.tenantStep "acme" (.new [node])
        ({ sessionId := some "eu:42" }, .select [] 0 0)
      (RouterEngine.new [node]).tenantBinding "acme:eu" { sessionId := some "42" } = none ∧
        r.tenantBinding "acme:eu" { sessionId := some "42" } = some (node, 0) := by
  refine ⟨fun h => ?_, by decide, by decide⟩
  exact (h "acme" "acme:eu" (by decide) (by decide) (by decide)).keys_differ "eu:42" "42"
    (by decide)

end IPProxyPool
