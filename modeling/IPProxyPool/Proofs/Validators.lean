import IPProxyPool.Model.ConditionalGet

/-!
# What the validators stand for

The values of a response are cached before its status and its body are looked at. They stand for a
body that was delivered exactly as long as no other response brings new ones.
-/

namespace IPProxyPool

namespace SourceAnswer

/-- A successful response whose body is delivered. -/
def delivers : SourceAnswer → Bool
  | failed _ => false
  | response status _ (.ok _) => 200 ≤ status && status < 300
  | response _ _ (.error _) => false

def successful : SourceAnswer → Bool
  | failed _ => false
  | response status _ _ => 200 ≤ status && status < 300

/-- The headers of a response that has any. -/
def headers : SourceAnswer → HeaderMap
  | failed _ => []
  | response _ headers _ => headers

/-- The server says that nothing was modified. -/
def notModified : SourceAnswer → Bool
  | failed _ => false
  | response status _ _ => status = 304

end SourceAnswer

/-- What `conditional_get` may do to the caches. -/
structure CachesFollow (url : String) (v : Validators) (answer : SourceAnswer) : Prop where
  changes : (conditionalGet url answer v).2 ≠ v →
    (∃ body, (conditionalGet url answer v).1 = .ok (some body)) ∧ answer.successful = true
  error_keeps : ∀ error, (conditionalGet url answer v).1 = .error error →
    (conditionalGet url answer v).2 = v
  not_modified_keeps : (conditionalGet url answer v).1 = .ok none →
    (conditionalGet url answer v).2 = v
  status_keeps : answer.successful = false → (conditionalGet url answer v).2 = v

/-- The response says that nothing was modified, or it is successful and its body is delivered, or
it brings no validator that is not cached already. -/
def BringsNothingUnread (v : Validators) (answer : SourceAnswer) : Prop :=
  answer.notModified = true ∨ answer.delivers = true ∨ v.store answer.headers = v

variable {url : String} {v : Validators} {answer : SourceAnswer}

/-- The caches after a call. -/
lemma conditionalGet_snd (url : String) (v : Validators) (answer : SourceAnswer) :
    (conditionalGet url answer v).2 =
      if answer.notModified then v else v.store answer.headers := by
  cases answer with
  | failed error => rfl
  | response status headers body =>
    unfold conditionalGet
    dsimp only
    split
    · rename_i h
      subst h
      rfl
    · rename_i h
      have hstatus : (SourceAnswer.response status headers body).notModified = false := by
        simpa [SourceAnswer.notModified] using h
      rw [hstatus]
      cases body <;> rfl

/-- A call that returns a body read it from a response, which is not a 304. -/
lemma conditionalGet_fst_of_delivers (url : String) (v : Validators)
    (h : answer.delivers = true) :
    (∃ body, (conditionalGet url answer v).1 = .ok (some body)) ∧ answer.successful = true := by
  match answer, h with
  | .response status headers (.ok text), h =>
    have hstatus : status ≠ 304 := by
      simp only [SourceAnswer.delivers, Bool.and_eq_true, decide_eq_true_eq] at h
      omega
    unfold conditionalGet
    dsimp only
    rw [if_neg hstatus]
    exact ⟨⟨text, rfl⟩, h⟩

lemma delivers_of_ok {body : String} (h : (conditionalGet url answer v).1 = .ok (some body))
    (hsuccess : answer.successful = true) : answer.delivers = true := by
  match answer, hsuccess with
  | .response status headers (.ok text), hsuccess => exact hsuccess
  | .response status headers (.error error), hsuccess =>
    unfold conditionalGet at h
    dsimp only at h
    split at h
    · cases h
    · cases h

lemma cachesFollow_of_delivers (url : String) (v : Validators) (h : answer.delivers = true) :
    CachesFollow url v answer := by
  obtain ⟨⟨body, hbody⟩, hsuccess⟩ := conditionalGet_fst_of_delivers url v h
  refine ⟨fun _ => ⟨⟨body, hbody⟩, hsuccess⟩, fun error herror => ?_, fun hnone => ?_,
    fun hfail => ?_⟩
  · rw [hbody] at herror
    cases herror
  · rw [hbody] at hnone
    cases hnone
  · rw [hsuccess] at hfail
    cases hfail

lemma cachesFollow_of_kept (h : (conditionalGet url answer v).2 = v) : CachesFollow url v answer :=
  ⟨fun hne => absurd h hne, fun _ _ => h, fun _ => h, fun _ => h⟩

theorem caches_follow_iff (url : String) (v : Validators) (answer : SourceAnswer) :
    CachesFollow url v answer ↔ BringsNothingUnread v answer := by
  have hsnd := conditionalGet_snd url v answer
  constructor
  · intro h
    by_cases hmod : answer.notModified = true
    · exact .inl hmod
    · rw [if_neg hmod] at hsnd
      by_cases hsame : v.store answer.headers = v
      · exact .inr (.inr hsame)
      · obtain ⟨⟨body, hbody⟩, hsuccess⟩ := h.changes (hsnd ▸ hsame)
        exact .inr (.inl (delivers_of_ok hbody hsuccess))
  · intro h
    rcases h with hmod | hdelivers | hsame
    · apply cachesFollow_of_kept
      rw [hsnd, if_pos hmod]
    · exact cachesFollow_of_delivers url v hdelivers
    · apply cachesFollow_of_kept
      rw [hsnd, hsame, ite_self]

/-- A transfer that breaks off, and an error page: both leave their `ETag` behind. -/
theorem unread_etag_cached :
    ¬CachesFollow "u" ⟨none, none⟩
        (.response 200 [("etag", "v1".toUTF8.toList)] (.error "connection reset")) ∧
      ¬CachesFollow "u" ⟨none, none⟩
        (.response 500 [("etag", "v1".toUTF8.toList)] (.ok "internal error")) := by
  constructor
  · intro h
    have hkeeps := h.error_keeps _ rfl
    revert hkeeps
    decide +kernel
  · intro h
    have hkeeps := h.status_keeps rfl
    revert hkeeps
    decide +kernel

end IPProxyPool
