import Mathlib.Data.List.Infix
import IPProxyPool.Lib.Run

/-!
# Caches with a key

A cache that builds an entry for the first request under a key and answers later requests under
the same key with it, until the entry is evicted. `held` says for which request the entry under a
key was built. Whether an entry serves a request that it was not built for depends on the whole
history; the results here find the request it was built for.
-/

namespace KeyedCache
open Transition

variable {σ ε ρ κ : Type*}

/-- The laws of a cache. `request` is the request of an event, if it is one; any other event may
evict. -/
structure IsCache (step : σ → ε → σ) (held : σ → κ → Option ρ) (request : ε → Option ρ)
    (key : ρ → κ) : Prop where
  hit : ∀ {s e r r₀}, request e = some r → held s (key r) = some r₀ →
    held (step s e) (key r) = some r₀
  miss : ∀ {s e r}, request e = some r → held s (key r) = none →
    held (step s e) (key r) = none ∨ held (step s e) (key r) = some r
  other : ∀ {s e r k}, request e = some r → k ≠ key r → held (step s e) k = held s k
  evict : ∀ {s e k}, request e = none → held (step s e) k = none ∨ held (step s e) k = held s k

/-- The entry under `k` is there in every state of the run. -/
def Stays (step : σ → ε → σ) (held : σ → κ → Option ρ) (k : κ) (s : σ) (es : List ε) : Prop :=
  ∀ pre, pre <+: es → held (run step s pre) k ≠ none

variable {step : σ → ε → σ} {held : σ → κ → Option ρ} {request : ε → Option ρ} {key : ρ → κ}

lemma stays_nil {k : κ} {s : σ} (h : held s k ≠ none) : Stays step held k s [] := by
  intro pre hpre
  rw [List.prefix_nil.mp hpre]
  exact h

lemma Stays.cons {k : κ} {s : σ} {e : ε} {es : List ε} (hs : held s k ≠ none)
    (h : Stays step held k (step s e) es) : Stays step held k s (e :: es) := by
  intro pre hpre
  cases pre with
  | nil => exact hs
  | cons f pre =>
    obtain ⟨rfl, hrest⟩ := List.cons_prefix_cons.mp hpre
    exact h pre hrest

lemma Stays.tail {k : κ} {s : σ} {e : ε} {es : List ε} (h : Stays step held k s (e :: es)) :
    Stays step held k (step s e) es :=
  fun pre hpre => h (e :: pre) ((List.prefix_cons_inj e).mpr hpre)

namespace IsCache

variable (h : IsCache step held request key)

include h

/-- A step keeps the entry under a key, evicts it, or builds the one that is requested. -/
lemma step_cases (s : σ) (e : ε) (k : κ) :
    held (step s e) k = held s k ∨ held (step s e) k = none ∨
      ∃ r, request e = some r ∧ key r = k ∧ held s k = none ∧ held (step s e) k = some r := by
  cases hr : request e with
  | none =>
    rcases h.evict (s := s) (k := k) hr with hgone | hkept
    · exact .inr (.inl hgone)
    · exact .inl hkept
  | some r =>
    by_cases hk : k = key r
    · subst hk
      cases hheld : held s (key r) with
      | some r₀ => exact .inl (h.hit hr hheld)
      | none =>
        rcases h.miss hr hheld with hnone | hbuilt
        · exact .inr (.inl hnone)
        · exact .inr (.inr ⟨r, rfl, rfl, rfl, hbuilt⟩)
    · exact .inl (h.other hr hk)

/-- An entry that is there throughout is the same throughout. -/
lemma held_of_stays {s : σ} {es : List ε} {k : κ} {r : ρ} (hs : held s k = some r)
    (hstays : Stays step held k s es) : held (run step s es) k = some r := by
  induction es generalizing s with
  | nil => exact hs
  | cons e es ih =>
    refine ih ?_ hstays.tail
    have hthere : held (step s e) k ≠ none := hstays [e] ⟨es, rfl⟩
    rcases h.step_cases s e k with hkept | hgone | ⟨r', -, -, hnone, -⟩
    · exact hkept.trans hs
    · exact absurd hgone hthere
    · rw [hs] at hnone
      cases hnone

/-- Every entry goes back to a request that it was built for, and has been there since. -/
lemma exists_origin {s : σ} (hempty : ∀ k, held s k = none) (es : List ε) {k : κ} {r : ρ}
    (hheld : held (run step s es) k = some r) :
    ∃ pre e post, es = pre ++ [e] ++ post ∧ request e = some r ∧ key r = k ∧
      Stays step held k (run step s (pre ++ [e])) post := by
  induction es using List.reverseRecOn with
  | nil =>
    rw [run_nil, hempty k] at hheld
    cases hheld
  | append_singleton es e ih =>
    rw [run_append, run_cons, run_nil] at hheld
    have hthere : held (step (run step s es) e) k ≠ none := by simp [hheld]
    rcases h.step_cases (run step s es) e k with hkept | hgone | ⟨r', hr, hkey, -, hbuilt⟩
    · obtain ⟨pre, f, post, rfl, hreq, hkey, hstays⟩ := ih (hkept.symm.trans hheld)
      refine ⟨pre, f, post ++ [e], by simp, hreq, hkey, ?_⟩
      intro mid hmid
      rcases List.prefix_concat_iff.mp hmid with rfl | hshort
      · have hsplit : run step (run step s (pre ++ [f])) (post ++ [e]) =
            step (run step s (pre ++ [f] ++ post)) e := by
          rw [← run_append, ← List.append_assoc, run_append, run_cons, run_nil]
        rw [hsplit]
        exact hthere
      · exact hstays mid hshort
    · exact absurd hgone hthere
    · rw [hbuilt] at hheld
      cases hheld
      refine ⟨es, e, [], (List.append_nil _).symm, hr, hkey, stays_nil ?_⟩
      rw [run_append, run_cons, run_nil]
      exact hthere

end IsCache

/-- The entry that answers a request was built for one of the same kind. -/
def Serves (held : σ → κ → Option ρ) (request : ε → Option ρ) (key : ρ → κ)
    (same : ρ → ρ → Prop) (s : σ) (e : ε) : Prop :=
  ∀ r r₀, request e = some r → held s (key r) = some r₀ → same r₀ r

/-- Two requests under one key that are not of the same kind have the entry evicted between
them. -/
def Separated (step : σ → ε → σ) (held : σ → κ → Option ρ) (request : ε → Option ρ) (key : ρ → κ)
    (same : ρ → ρ → Prop) (s : σ) (es : List ε) : Prop :=
  ∀ pre a mid b r r', pre ++ [a] ++ mid ++ [b] <+: es → request a = some r → request b = some r' →
    key r = key r' → Stays step held (key r) (run step s (pre ++ [a])) mid → same r r'

/-- From an empty cache every request is answered by an entry of its own kind exactly when requests
of different kinds are separated by evictions. -/
theorem IsCache.along_serves_iff (h : IsCache step held request key) {same : ρ → ρ → Prop}
    (hsame : Equivalence same) {s : σ} (hempty : ∀ k, held s k = none) (es : List ε) :
    Along step (Serves held request key same) s es ↔
      Separated step held request key same s es := by
  rw [along_iff_positions]
  constructor
  · intro hserves pre a mid b r r' hpos ha hb hkey hstays
    obtain ⟨r₀, hr₀⟩ := Option.ne_none_iff_exists'.mp (hstays [] List.nil_prefix)
    rw [run_nil] at hr₀
    have hfirst : same r₀ r := by
      rw [run_append, run_cons, run_nil] at hr₀
      cases hbefore : held (run step s pre) (key r) with
      | some r₁ =>
        rw [h.hit ha hbefore] at hr₀
        cases hr₀
        refine hserves pre a ?_ r r₀ ha hbefore
        exact ((List.prefix_append _ _).trans (List.prefix_append _ _)).trans hpos
      | none =>
        rcases h.miss ha hbefore with hnone | hbuilt
        · rw [hnone] at hr₀
          cases hr₀
        · rw [hbuilt] at hr₀
          cases hr₀
          exact hsame.refl r
    have hheld := h.held_of_stays hr₀ hstays
    rw [← run_append, hkey] at hheld
    exact hsame.trans (hsame.symm hfirst) (hserves _ b hpos r' r₀ hb hheld)
  · intro hsep pre e hpos r r₀ hr hheld
    obtain ⟨p, a, mid, rfl, ha, hkey, hstays⟩ := h.exists_origin hempty pre hheld
    rw [← hkey] at hstays
    exact hsep p a mid e r₀ r hpos ha hr hkey hstays

end KeyedCache
