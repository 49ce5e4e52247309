import IPProxyPool.Model.Breaker

/-!
# Deltas on the wire

The sender joins the parts of a quarantine with a separator that it does not escape and checks the
length of the normalised domain; the receiver splits at every separator and checks the length of
the domain as it came. A quarantine survives exactly when neither difference shows.
-/

namespace IPProxyPool
open RustText

/-- Every instance that receives the delta applies what the sender applied. -/
structure SurvivesWire (domain ip : String) (ttlSecs : Nat) : Prop where
  parsed : parseDeltaMessage (quarantineDeltaMessage domain ip ttlSecs) = some (domain, ip, ttlSecs)
  applied : ∀ (r : RouterEngine) (now : Instant),
    r.applyDelta (quarantineDeltaMessage domain ip ttlSecs) now =
      (true, r.applyQuarantine domain ip ttlSecs now)

lemma split_quarantineDeltaMessage (domain ip : String) (ttlSecs : Nat) :
    split '|' (quarantineDeltaMessage domain ip ttlSecs) =
      "QUARANTINE" :: (split '|' domain ++ (split '|' ip ++ [toString ttlSecs])) := by
  have hdigits : split '|' (toString ttlSecs) = [toString ttlSecs] := by
    rw [split_eq_singleton_iff]
    refine ⟨rfl, fun hmem => ?_⟩
    have hlist : (toString ttlSecs).toList = Nat.toDigits 10 ttlSecs := Nat.toList_repr
    rw [hlist] at hmem
    exact absurd (Nat.isDigit_of_mem_toDigits (by decide) (by decide) hmem) (by decide)
  have hmessage : quarantineDeltaMessage domain ip ttlSecs =
      "QUARANTINE" ++ String.singleton '|' ++
        (domain ++ String.singleton '|' ++ (ip ++ String.singleton '|' ++ toString ttlSecs)) := by
    apply String.toList_injective
    unfold quarantineDeltaMessage
    simp
  have hkind : split '|' "QUARANTINE" = ["QUARANTINE"] :=
    split_eq_singleton_iff.mpr ⟨rfl, by decide⟩
  rw [hmessage, split_append_sep, split_append_sep, split_append_sep, hdigits, hkind]
  rfl

/-- A message that is accepted has no separator in its parts. -/
lemma notMem_sep_of_parsed {domain ip : String} {ttlSecs : Nat}
    (h : parseDeltaMessage (quarantineDeltaMessage domain ip ttlSecs) ≠ none) :
    '|' ∉ domain.toList ∧ '|' ∉ ip.toList := by
  have hlen : (split '|' domain ++ (split '|' ip ++ [toString ttlSecs])).length = 3 := by
    unfold parseDeltaMessage at h
    rw [split_quarantineDeltaMessage] at h
    split at h
    · rename_i heq
      have hparts := (List.cons.inj heq).2
      rw [hparts]
      rfl
    · exact absurd rfl h
  have hdomain := List.length_pos_iff.mpr (split_ne_nil '|' domain)
  have hip := List.length_pos_iff.mpr (split_ne_nil '|' ip)
  simp only [List.length_append, List.length_singleton] at hlen
  constructor
  · intro hmem
    have htwo := two_le_length_splitOn hmem
    rw [split, List.length_map] at hlen
    omega
  · intro hmem
    have htwo := two_le_length_splitOn hmem
    rw [split, split, List.length_map, List.length_map] at hlen
    rw [split, List.length_map] at hdomain
    omega

lemma parseDeltaMessage_of_notMem_sep {domain ip : String} (hdomain : '|' ∉ domain.toList)
    (hip : '|' ∉ ip.toList) {ttlSecs : Nat} (hmax : ttlSecs ≤ quarantineMaxTtlSecs) :
    parseDeltaMessage (quarantineDeltaMessage domain ip ttlSecs) =
      if 0 < ttlSecs ∧ ttlSecs ≤ quarantineMaxTtlSecs ∧ validQuarantineTarget domain ip ∧
          byteLen domain ≤ quarantineDomainMaxBytes then some (domain, ip, ttlSecs)
      else none := by
  have hword : ttlSecs < 2 ^ 64 := hmax.trans_lt (by decide)
  unfold parseDeltaMessage
  rw [split_quarantineDeltaMessage, split_eq_singleton_iff.mpr ⟨rfl, hdomain⟩,
    split_eq_singleton_iff.mpr ⟨rfl, hip⟩]
  dsimp only [List.singleton_append]
  rw [if_pos rfl, parseUnsigned_toString hword]
  rfl

/-- For every quarantine that passes the checks of the sender, short after normalisation or not, the
delta survives if and only if neither the domain nor the address contains the separator and the
domain is short before normalisation. -/
theorem survivesWire_iff {domain ip : String} {ttlSecs : Nat}
    (hvalid : validQuarantineTarget domain ip = true)
    (hpos : 1 ≤ ttlSecs) (hmax : ttlSecs ≤ quarantineMaxTtlSecs) :
    SurvivesWire domain ip ttlSecs ↔
      '|' ∉ domain.toList ∧ '|' ∉ ip.toList ∧ byteLen domain ≤ quarantineDomainMaxBytes := by
  constructor
  · rintro ⟨hparsed, -⟩
    obtain ⟨hdomain, hip⟩ := notMem_sep_of_parsed (by rw [hparsed]; simp)
    refine ⟨hdomain, hip, ?_⟩
    rw [parseDeltaMessage_of_notMem_sep hdomain hip hmax] at hparsed
    split at hparsed
    · rename_i hchecks
      exact hchecks.2.2.2
    · cases hparsed
  · rintro ⟨hdomain, hip, hlen⟩
    have hparsed : parseDeltaMessage (quarantineDeltaMessage domain ip ttlSecs) =
        some (domain, ip, ttlSecs) := by
      rw [parseDeltaMessage_of_notMem_sep hdomain hip hmax,
        if_pos ⟨hpos, hmax, hvalid, hlen⟩]
    refine ⟨hparsed, fun r now => ?_⟩
    unfold RouterEngine.applyDelta RouterEngine.applyQuarantine
    rw [hparsed, if_pos hvalid]

/-- A plain host name. -/
theorem survivesWire_plain :
    SurvivesWire "example.com" "10.0.0.9" 60 ↔
      '|' ∉ "example.com".toList ∧ '|' ∉ "10.0.0.9".toList ∧
        byteLen "example.com" ≤ quarantineDomainMaxBytes :=
  survivesWire_iff (by decide) (by decide) (by decide)

/-- The sender quarantines the domain of the host `a|b`, and no other instance does. -/
theorem separator_in_host_lost :
    ¬(∀ domain ip : String, ∀ ttlSecs : Nat, validQuarantineTarget domain ip = true →
      byteLen (normalizeDomain domain) ≤ quarantineDomainMaxBytes → 1 ≤ ttlSecs →
      ttlSecs ≤ quarantineMaxTtlSecs → SurvivesWire domain ip ttlSecs) := by
  intro h
  have hparsed := (h "a|b" "10.0.0.9" 60 (by decide) (by decide) (by decide) (by decide)).parsed
  exact (notMem_sep_of_parsed (by rw [hparsed]; simp)).1 (by decide)

end IPProxyPool
