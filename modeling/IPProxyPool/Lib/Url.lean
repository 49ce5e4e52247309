import IPProxyPool.Lib.Ip

/-!
# Authorities of URLs

Scheme, user information, host and port of a URL, and percent-decoding. A backslash ends the
authority as well, as it does for the special schemes.
-/

namespace Url
open RustText

structure Authority where
  userinfo : Option (List Char)
  host : List Char
  port : List Char
  deriving DecidableEq, Repr

def endsAuthority (c : Char) : Bool := c = '/' || c = '?' || c = '#' || c = '\\'

/-- The user information ends at the last at sign, the host at the last colon after it. -/
def parseAuthority (s : List Char) : Option Authority :=
  let (userinfo, hostPort) :=
    match rsplitOnce '@' s with
    | some (userinfo, hostPort) => (some userinfo, hostPort)
    | none => (none, s)
  (rsplitOnce ':' hostPort).map (fun p => ⟨userinfo, p.1, p.2⟩)

def parse (url : String) : Option Authority :=
  match splitOnce ':' url.toList with
  | some (_, '/' :: '/' :: rest) => parseAuthority (rest.takeWhile (fun c => !endsAuthority c))
  | _ => none

/-- A percent sign without two hexadecimal digits after it stands for itself. -/
def percentDecode : List Char → List UInt8
  | [] => []
  | '%' :: hi :: lo :: rest =>
    match RustNet.toDigit 16 hi, RustNet.toDigit 16 lo with
    | some a, some b => UInt8.ofNat (a * 16 + b) :: percentDecode rest
    | _, _ => 37 :: percentDecode (hi :: lo :: rest)
  | c :: rest => String.utf8EncodeChar c ++ percentDecode rest

lemma percentDecode_char {c : Char} (h : c ≠ '%') (rest : List Char) :
    percentDecode (c :: rest) = String.utf8EncodeChar c ++ percentDecode rest := by
  cases rest with
  | nil => simp [percentDecode]
  | cons hi rest =>
    cases rest with
    | nil => simp [percentDecode]
    | cons lo rest =>
      rw [percentDecode.eq_3]
      intro hi' lo' rest' hc
      exact absurd hc h

lemma percentDecode_escape {hi lo : Char} {a b : Nat} (hhi : RustNet.toDigit 16 hi = some a)
    (hlo : RustNet.toDigit 16 lo = some b) (rest : List Char) :
    percentDecode ('%' :: hi :: lo :: rest) = UInt8.ofNat (a * 16 + b) :: percentDecode rest := by
  rw [percentDecode, hhi, hlo]

/-- No character that ends the authority or splits it. -/
def Plain (s : List Char) : Prop := ∀ c ∈ s, endsAuthority c = false ∧ c ≠ '@'

lemma rsplitOnce_eq_none {c : Char} {l : List Char} (h : c ∉ l) : rsplitOnce c l = none := by
  induction l with
  | nil => rfl
  | cons x xs ih =>
    rw [List.mem_cons, not_or] at h
    rw [rsplitOnce, ih h.2]
    exact if_neg (Ne.symm h.1)

lemma rsplitOnce_append {c : Char} {b : List Char} (h : c ∉ b) (a : List Char) :
    rsplitOnce c (a ++ c :: b) = some (a, b) := by
  induction a with
  | nil => simp [rsplitOnce, rsplitOnce_eq_none h]
  | cons x xs ih => simp [rsplitOnce, ih]

/-- Host and port are found behind any plain user information. -/
lemma parseAuthority_userinfo {userinfo host port : List Char} (hhost : Plain host)
    (hport : Plain port) (hcolon : ':' ∉ port) :
    parseAuthority (userinfo ++ '@' :: (host ++ ':' :: port)) = some ⟨some userinfo, host, port⟩ := by
  have hat : '@' ∉ host ++ ':' :: port := by
    intro h
    rcases List.mem_append.mp h with h | h
    · exact (hhost _ h).2 rfl
    · rcases List.mem_cons.mp h with h | h
      · cases h
      · exact (hport _ h).2 rfl
  simp [parseAuthority, rsplitOnce_append hat, rsplitOnce_append hcolon]

lemma parse_append {scheme : String} {authority : List Char} (hscheme : ':' ∉ scheme.toList)
    (h : ∀ c ∈ authority, endsAuthority c = false) {url : String}
    (hurl : url.toList = scheme.toList ++ "://".toList ++ authority) :
    parse url = parseAuthority authority := by
  have hsplit : splitOnce ':' url.toList =
      some (scheme.toList, '/' :: '/' :: authority) := by
    rw [hurl, List.append_assoc]
    exact splitOnce_append hscheme _
  have htake : authority.takeWhile (fun c => !endsAuthority c) = authority :=
    List.takeWhile_eq_self_iff.mpr (by simpa using h)
  simp only [parse, hsplit, htake]

end Url
