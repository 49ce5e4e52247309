import IPProxyPool.Model.BridgeService

/-!
# The policed target and the contacted one

Routing takes the target domain from the `Host` header, the bridge takes its URL from the request
line where that is in absolute form. Elsewhere it pastes the header in front of the path, so that
the two agree unless the header holds a character that ends an authority.
-/

namespace IPProxyPool
open RustText

/-- The authority of a URL. -/
def urlAuthority (url : String) : String :=
  match splitOnce ':' url.toList with
  | some (_, '/' :: '/' :: rest) => String.ofList (rest.takeWhile (fun c => !isUriDelimiter c))
  | _ => ""

/-- No character of the text ends an authority. -/
def NoDelimiter (l : List Char) : Prop := ∀ c ∈ l, isUriDelimiter c = false

instance (l : List Char) : Decidable (NoDelimiter l) :=
  inferInstanceAs (Decidable (∀ c ∈ l, isUriDelimiter c = false))

/-- The host before the first delimiter. -/
def authorityOf (h : String) : String :=
  String.ofList (h.toList.takeWhile (fun c => !isUriDelimiter c))

lemma urlAuthority_append {scheme : String} (hs : ':' ∉ scheme.toList) (rest : String) :
    urlAuthority (scheme ++ "://" ++ rest) = authorityOf rest := by
  have hlist : (scheme ++ "://" ++ rest).toList =
      scheme.toList ++ ':' :: '/' :: '/' :: rest.toList := by
    simp
  unfold urlAuthority
  rw [hlist, splitOnce_append hs]
  rfl

lemma takeWhile_append_delimiter (l : List Char) {d : Char} (hd : isUriDelimiter d = true)
    (rest : List Char) :
    (l ++ d :: rest).takeWhile (fun c => !isUriDelimiter c) =
      l.takeWhile (fun c => !isUriDelimiter c) := by
  induction l with
  | nil => simp [hd]
  | cons x xs ih => simp only [List.cons_append, List.takeWhile_cons, ih]

lemma takeWhile_eq_self {l : List Char} (h : NoDelimiter l) :
    l.takeWhile (fun c => !isUriDelimiter c) = l :=
  List.takeWhile_eq_self_iff.mpr (fun c hc => by rw [h c hc]; rfl)

lemma authorityOf_append (h : String) (path : UriPath) :
    authorityOf (h ++ path.val) = authorityOf h := by
  obtain ⟨rest, hrest⟩ := (startsWith_iff path.val "/").mp path.property
  unfold authorityOf
  rw [String.toList_append, ← hrest]
  exact congrArg String.ofList (takeWhile_append_delimiter h.toList rfl rest)

lemma authorityOf_val (a : UriAuthority) : authorityOf a.val = a.val := by
  unfold authorityOf
  rw [takeWhile_eq_self a.property, String.ofList_toList]

/-! ### Normalising the part before a delimiter -/

lemma noDelimiter_takeWhile (l : List Char) :
    NoDelimiter (l.takeWhile (fun c => !isUriDelimiter c)) := by
  intro c hc
  simpa using List.mem_takeWhile_imp hc

lemma isUriDelimiter_toLower (c : Char) : isUriDelimiter c.toLower = isUriDelimiter c :=
  apply_toLower isUriDelimiter (by decide +kernel) c

lemma noDelimiter_trimEndMatches (l : List Char) :
    NoDelimiter (trimEndMatches '.' l) ↔ NoDelimiter l := by
  constructor
  · intro h c hc
    rw [← List.rdropWhile_append_rtakeWhile (p := (· == '.')) (l := l), List.mem_append] at hc
    rcases hc with hkept | hdots
    · exact h c hkept
    · have hdot := List.mem_rtakeWhile_imp hdots
      rw [beq_iff_eq.mp hdot]
      rfl
  · exact fun h c hc => h c ((List.rdropWhile_prefix _ _).subset hc)

/-- A domain holds a delimiter exactly where the host part of its text does. -/
lemma noDelimiter_normalizeDomain (h : String) :
    NoDelimiter (normalizeDomain h).toList ↔ NoDelimiter (hostPart (trim h.toList)) := by
  unfold normalizeDomain
  dsimp only
  split
  · rename_i hempty
    rw [List.isEmpty_iff.mp hempty]
    exact iff_of_true (fun c hc => by cases hc) (fun c hc => by cases hc)
  · refine Iff.trans ?_ (noDelimiter_trimEndMatches _)
    rw [toList_toAsciiLowercase, String.toList_ofList]
    unfold NoDelimiter
    rw [List.forall_mem_map]
    simp only [isUriDelimiter_toLower]

/-- The host part holds every delimiter of the text, except behind the brackets of a literal. -/
lemma bracketed_of_noDelimiter {l : List Char} (hclean : NoDelimiter (hostPart l)) {d : Char}
    (hd : d ∈ l) (hdelim : isUriDelimiter d = true) :
    ∃ inner rest, l = '[' :: (inner ++ ']' :: rest) ∧ ']' ∉ inner ∧ NoDelimiter inner := by
  have hno : ¬NoDelimiter l := fun h => by rw [h d hd] at hdelim; cases hdelim
  unfold hostPart at hclean
  split at hclean
  · rename_i stripped
    split at hclean
    · rename_i inner rest hsplit
      obtain ⟨rfl, hnot⟩ := splitOnce_eq_some hsplit
      exact ⟨inner, rest, rfl, hnot, hclean⟩
    · exact absurd hclean hno
  · split at hclean
    · rename_i pre port hsplit
      split at hclean
      · rename_i hport
        obtain rfl := rsplitOnce_eq_some hsplit
        simp only [Bool.and_eq_true, List.all_eq_true] at hport
        rcases List.mem_append.mp hd with hpre | hrest
        · rw [hclean d hpre] at hdelim
          cases hdelim
        · -- neither the colon nor a digit is a delimiter
          rcases List.mem_cons.mp hrest with rfl | hdigit
          · cases hdelim
          · have hnum := hport.1 d hdigit
            simp only [isUriDelimiter, Bool.or_eq_true, beq_iff_eq] at hdelim
            rcases hdelim with (rfl | rfl) | rfl <;> cases hnum
      · exact absurd hclean hno
    · exact absurd hclean hno

lemma hostPart_bracketed {inner : List Char} (hinner : ']' ∉ inner) (post : List Char) :
    hostPart ('[' :: (inner ++ ']' :: post)) = inner := by
  unfold hostPart
  simp only [splitOnce_append hinner]

lemma normalizeDomain_bracketed {pre inner : List Char}
    (hpre : ∀ c ∈ pre, isWhitespace c = true) (hinner : ']' ∉ inner) (post : List Char) :
    normalizeDomain (String.ofList (pre ++ '[' :: (inner ++ ']' :: post))) =
      toAsciiLowercase (String.ofList (trimEndMatches '.' inner)) := by
  unfold normalizeDomain
  dsimp only
  rw [String.toList_ofList, trim_append_cons hpre (by decide) (by decide), if_neg (by simp),
    hostPart_bracketed hinner]

lemma isUriDelimiter_of_whitespace {c : Char} (h : isWhitespace c = true) :
    isUriDelimiter c = false := by
  by_contra hdelim
  simp only [Bool.not_eq_false, isUriDelimiter, Bool.or_eq_true, beq_iff_eq] at hdelim
  rcases hdelim with (rfl | rfl) | rfl <;> cases h

/-- What precedes the first delimiter names the same domain exactly where the domain holds no
delimiter. -/
lemma normalizeDomain_authorityOf (h : String) :
    normalizeDomain (authorityOf h) = normalizeDomain h ↔
      NoDelimiter (normalizeDomain h).toList := by
  constructor
  · intro heq
    rw [← heq, noDelimiter_normalizeDomain]
    unfold authorityOf
    rw [String.toList_ofList]
    exact fun c hc =>
      noDelimiter_takeWhile h.toList c ((hostPart_sublist _).trans (trim_sublist _) |>.subset hc)
  · intro hclean
    rw [noDelimiter_normalizeDomain] at hclean
    by_cases hall : NoDelimiter h.toList
    · rw [authorityOf, takeWhile_eq_self hall, String.ofList_toList]
    · unfold NoDelimiter at hall
      push Not at hall
      obtain ⟨d, hd, hdelim⟩ := hall
      have hdelim : isUriDelimiter d = true := by simpa using hdelim
      have htrim : d ∈ trim h.toList := by
        refine mem_trim hd ?_
        by_contra hw
        rw [isUriDelimiter_of_whitespace (by simpa using hw)] at hdelim
        cases hdelim
      obtain ⟨inner, rest, htext, hinner, hno⟩ := bracketed_of_noDelimiter hclean htrim hdelim
      obtain ⟨pre, post, heq, hpre, -⟩ := exists_eq_append_trim h.toList
      rw [htext, List.cons_append, List.append_assoc, List.cons_append] at heq
      have hkept : ∀ c ∈ pre ++ '[' :: (inner ++ [']']), (!isUriDelimiter c) = true := by
        intro c hc
        simp only [List.mem_append, List.mem_cons, List.not_mem_nil, or_false] at hc
        rcases hc with hc | rfl | hc | rfl
        · rw [isUriDelimiter_of_whitespace (hpre c hc)]
          rfl
        · rfl
        · rw [hno c hc]
          rfl
        · rfl
      have hcut : h.toList.takeWhile (fun c => !isUriDelimiter c) =
          pre ++ '[' :: (inner ++
            ']' :: (rest ++ post).takeWhile (fun c => !isUriDelimiter c)) := by
        have hlist : h.toList = (pre ++ '[' :: (inner ++ [']'])) ++ (rest ++ post) := by
          rw [heq]
          simp
        rw [hlist, List.takeWhile_append_of_pos hkept]
        simp
      have hwhole : h = String.ofList (pre ++ '[' :: (inner ++ ']' :: (rest ++ post))) := by
        rw [← heq, String.ofList_toList]
      rw [authorityOf, hcut, normalizeDomain_bracketed hpre hinner, hwhole,
        normalizeDomain_bracketed hpre hinner]

/-! ### The two targets -/

section Targets

variable (b64Decode : String → Option (List UInt8)) (header : HeaderMap)

/-- The domain that is contacted is the one that is policed. -/
def TargetsAgree (url : String) : Prop :=
  normalizeDomain (urlAuthority url) = (parseRoutingSpec b64Decode header).targetDomain

instance (url : String) : Decidable (TargetsAgree b64Decode header url) :=
  inferInstanceAs (Decidable (_ = _))

variable {b64Decode header}

lemma targetsAgree_absolute {s : UriScheme} {a : UriAuthority} {p : UriPath} :
    TargetsAgree b64Decode header (Uri.absolute s a p).text ↔
      normalizeDomain a.val = (parseRoutingSpec b64Decode header).targetDomain := by
  have htext : (Uri.absolute s a p).text = s.val ++ "://" ++ (a.val ++ p.val) := by
    rw [Uri.text, String.append_assoc]
  rw [TargetsAgree, htext, urlAuthority_append s.property, authorityOf_append, authorityOf_val]

lemma targetsAgree_host {h : String} (hhost : header.getStr "Host" = some h) (path : UriPath) :
    TargetsAgree b64Decode header ("http://" ++ h ++ path.val) ↔
      NoDelimiter (parseRoutingSpec b64Decode header).targetDomain.toList := by
  have htext : "http://" ++ h ++ path.val = "http" ++ "://" ++ (h ++ path.val) := by
    rw [← String.append_assoc]
    rfl
  rw [TargetsAgree, htext, urlAuthority_append (by decide), authorityOf_append,
    targetDomain_parseRoutingSpec, hhost]
  exact normalizeDomain_authorityOf h

end Targets

def hostHeader (host : String) : HeaderMap := [("Host", asciiBytes host)]

def targetAuthority : UriAuthority where
  val := "api.target.com:8443"
  property := by
    have hall : "api.target.com:8443".toList.all (fun c => !isUriDelimiter c) = true := by decide
    exact fun c hc => by simpa using List.all_eq_true.mp hall c hc

end IPProxyPool
