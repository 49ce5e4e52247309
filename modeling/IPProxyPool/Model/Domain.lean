import IPProxyPool.Lib.Text

/-!
# Domain normalisation

`normalize_domain` is applied to the same host a different number of times on the different
paths of the gateway, so whether a second application changes anything decides whether the
paths address the same quarantine entries.
-/

namespace IPProxyPool
open RustText

/-- The host part: the text in brackets of an IPv6 literal, or what precedes a numeric port. -/
def hostPart (host : List Char) : List Char :=
  match host with
  | '[' :: stripped =>
    match splitOnce ']' stripped with
    | some (inner, _) => inner
    | none => host
  | _ =>
    match rsplitOnce ':' host with
    | some (pre, port) => if port.all Char.isDigit && !port.isEmpty then pre else host
    | none => host

def normalizeDomain (raw : String) : String :=
  let host := trim raw.toList
  if host.isEmpty then ""
  else toAsciiLowercase (String.ofList (trimEndMatches '.' (hostPart host)))

def StableDomain (d : String) : Prop := normalizeDomain d = d

instance (d : String) : Decidable (StableDomain d) :=
  inferInstanceAs (Decidable (normalizeDomain d = d))

example : normalizeDomain " Example.COM.:8080 " = "example.com" := by decide
example : normalizeDomain "[::1]:8080" = "::1" := by decide
example : normalizeDomain "::1" = ":" := by decide

lemma hostPart_sublist (host : List Char) : (hostPart host).Sublist host := by
  unfold hostPart
  split
  · split
    · rename_i inner _ hsplit
      exact (splitOnce_fst_prefixed hsplit).sublist.trans (List.sublist_cons_self _ _)
    · exact List.Sublist.refl _
  · split
    · rename_i pre _ hsplit
      split
      · exact (rsplitOnce_fst_prefixed hsplit).sublist
      · exact List.Sublist.refl _
    · exact List.Sublist.refl _

/-- Normalising only removes characters and changes the case of letters. -/
lemma byteLen_normalizeDomain_le (raw : String) : byteLen (normalizeDomain raw) ≤ byteLen raw := by
  unfold normalizeDomain
  dsimp only
  split
  · exact Nat.zero_le _
  · rw [byteLen_toAsciiLowercase]
    have hsub : (trimEndMatches '.' (hostPart (trim raw.toList))).Sublist raw.toList :=
      (List.rdropWhile_prefix _ _).sublist.trans
        ((hostPart_sublist _).trans (trim_sublist raw.toList))
    calc byteLen (String.ofList (trimEndMatches '.' (hostPart (trim raw.toList))))
        ≤ byteLen (String.ofList raw.toList) := byteLen_le_of_sublist hsub
      _ = byteLen raw := by rw [String.ofList_toList]

end IPProxyPool
