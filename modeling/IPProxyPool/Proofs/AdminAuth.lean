import IPProxyPool.Model.Admin

/-!
# Admin authentication

The middleware compares the presented key with the configured one, and an unset key is the empty
string. It fails closed except on one kind of request: no key is configured, and the request
carries a key header with nothing in it.
-/

namespace IPProxyPool
open RustText

/-- The request carries the key: after `Admin ` in its first `Authorization` field, or, where that
field does not begin so, in its first `X-Admin-Key` field. -/
def Presents (headers : HeaderMap) (key : String) : Prop :=
  headers.getStr "Authorization" = some ("Admin " ++ key) ∨
    (∀ key', headers.getStr "Authorization" ≠ some ("Admin " ++ key')) ∧
      headers.getStr "X-Admin-Key" = some key

lemma stripPrefix_eq_some_iff (pre s t : String) : stripPrefix pre s = some t ↔ s = pre ++ t := by
  unfold stripPrefix
  constructor
  · intro h
    split at h
    · rename_i hpre
      obtain ⟨rest, hrest⟩ := List.isPrefixOf_iff_prefix.mp hpre
      rw [Option.some.injEq, ← hrest, List.drop_left] at h
      apply String.toList_injective
      rw [← hrest, ← h, String.toList_append, String.toList_ofList]
    · cases h
  · rintro rfl
    have hpre : pre.toList.isPrefixOf (pre ++ t).toList = true := by
      rw [List.isPrefixOf_iff_prefix, String.toList_append]
      exact List.prefix_append _ _
    rw [if_pos hpre, String.toList_append, List.drop_left, String.ofList_toList]

lemma providedKey_eq_some_iff (headers : HeaderMap) (key : String) :
    providedKey headers = some key ↔ Presents headers key := by
  unfold providedKey Presents
  cases hadmin : (headers.getStr "Authorization").bind (stripPrefix "Admin ") with
  | some found =>
    obtain ⟨auth, hauth, hstrip⟩ := Option.bind_eq_some_iff.mp hadmin
    have hfound : auth = "Admin " ++ found := (stripPrefix_eq_some_iff _ _ _).mp hstrip
    rw [hauth, hfound]
    constructor
    · intro h
      rw [Option.some.inj h]
      exact .inl rfl
    · rintro (h | ⟨hno, -⟩)
      · have happend := Option.some.inj h
        rw [(String.append_right_inj _).mp happend]
      · exact absurd rfl (hno found)
  | none =>
    have hno : ∀ key', headers.getStr "Authorization" ≠ some ("Admin " ++ key') := by
      intro key' hauth
      rw [hauth, Option.bind_some, (stripPrefix_eq_some_iff _ _ _).mpr rfl] at hadmin
      cases hadmin
    constructor
    · intro h
      exact .inr ⟨hno, h⟩
    · rintro (h | ⟨-, h⟩)
      · exact absurd h (hno key)
      · exact h

/-- The middleware lets a request through exactly when a key is configured and the request carries
it, and answers every other request with 401. -/
def FailClosed (env : Option String) (headers : HeaderMap) : Prop :=
  ∀ (α : Type) (next : α),
    (adminApiKeyOf env ≠ "" ∧ Presents headers (adminApiKeyOf env) →
      authMiddleware (adminApiKeyOf env) headers next = .ok next) ∧
    (¬(adminApiKeyOf env ≠ "" ∧ Presents headers (adminApiKeyOf env)) →
      authMiddleware (adminApiKeyOf env) headers next =
        .error (errorResponse 401 "missing or invalid admin key"))

lemma authMiddleware_of_presents {headers : HeaderMap} {key : String} (h : Presents headers key)
    {α : Type} (next : α) : authMiddleware key headers next = .ok next := by
  unfold authMiddleware
  rw [(providedKey_eq_some_iff headers key).mpr h]
  simp

lemma authMiddleware_of_not_presents {headers : HeaderMap} {key : String}
    (h : ¬Presents headers key) {α : Type} (next : α) :
    authMiddleware key headers next = .error (errorResponse 401 "missing or invalid admin key") := by
  unfold authMiddleware
  cases hkey : providedKey headers with
  | none => rfl
  | some provided =>
    have hne : provided ≠ key := by
      rintro rfl
      exact h ((providedKey_eq_some_iff headers provided).mp hkey)
    dsimp only
    rw [if_pos hne]

/-- Authentication fails closed on a request unless no key is configured and the request carries
an empty one. -/
theorem fail_closed_iff (env : Option String) (headers : HeaderMap) :
    FailClosed env headers ↔ ¬(adminApiKeyOf env = "" ∧ Presents headers "") := by
  constructor
  · rintro h ⟨hkey, hempty⟩
    have hrefused := (h Unit ()).2 (fun hboth => hboth.1 hkey)
    rw [hkey, authMiddleware_of_presents hempty] at hrefused
    cases hrefused
  · intro h α next
    by_cases hpresents : Presents headers (adminApiKeyOf env)
    · have hkey : adminApiKeyOf env ≠ "" := by
        intro hkey
        rw [hkey] at hpresents
        exact h ⟨hkey, hpresents⟩
      exact ⟨fun _ => authMiddleware_of_presents hpresents next,
        fun hno => absurd ⟨hkey, hpresents⟩ hno⟩
    · exact ⟨fun hboth => absurd hboth.2 hpresents,
        fun _ => authMiddleware_of_not_presents hpresents next⟩

/-- With no key configured, an empty `X-Admin-Key` field opens the API. -/
theorem empty_key_admitted :
    ¬FailClosed none [("x-admin-key", [])] ∧
      authMiddleware (adminApiKeyOf none) [("x-admin-key", [])] "handler" = .ok "handler" := by
  have hempty : Presents [("x-admin-key", [])] "" := by
    refine .inr ⟨?_, by decide⟩
    intro key'
    have hnone : HeaderMap.getStr [("x-admin-key", [])] "Authorization" = none := by decide
    rw [hnone]
    simp
  refine ⟨fun h => ?_, authMiddleware_of_presents hempty _⟩
  have hrefused := (h Unit ()).2 (fun hboth => hboth.1 rfl)
  have hkey : adminApiKeyOf none = "" := rfl
  rw [hkey, authMiddleware_of_presents hempty] at hrefused
  cases hrefused

end IPProxyPool
