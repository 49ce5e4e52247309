import IPProxyPool.Model.Anonymity

/-!
# What elite promises

The exit that the check service reports is compared with the baseline as a whole. The grades keep
their promise exactly where the reported value holds the baseline as its whole, or not at all.
-/

namespace IPProxyPool
open RustText AssocTable

/-- The baseline, trimmed, occurs in the reported exit. -/
def ReportsBaseline (baselineIp exit : String) : Prop :=
  contains exit (trimString baselineIp) = true

/-- What the grade of an exit promises about the address of the client. -/
structure GradeHides (baselineIp exit : String) (echoed : Table String String)
    (anon : AnonLevel) : Prop where
  elite_exit : anon = .elite → ¬ReportsBaseline baselineIp exit
  elite_headers : anon = .elite → ∀ name value, echoed.lookup name = some value →
    toAsciiLowercase name ∈ disclosureHeaders →
      contains value (trimString baselineIp) = false
  transparent : ReportsBaseline baselineIp exit → anon = .transparent

variable {baselineIp exit : String} {echoed : Table String String}

lemma classifyAnonymity_of_eq (h : trimString exit = trimString baselineIp) :
    classifyAnonymity baselineIp (some exit) echoed = .transparent := by
  unfold classifyAnonymity
  dsimp only
  rw [if_pos h]

lemma classifyAnonymity_ne_transparent (h : trimString exit ≠ trimString baselineIp) :
    classifyAnonymity baselineIp (some exit) echoed ≠ .transparent := by
  unfold classifyAnonymity
  dsimp only
  rw [if_neg h]
  split
  · exact AnonLevel.noConfusion
  · exact AnonLevel.noConfusion

/-- An elite exit discloses nothing in the headers. -/
lemma not_disclosed_of_elite (h : classifyAnonymity baselineIp (some exit) echoed = .elite)
    {name value : String} (hlook : echoed.lookup name = some value)
    (hname : toAsciiLowercase name ∈ disclosureHeaders) :
    contains value (trimString baselineIp) = false := by
  unfold classifyAnonymity at h
  dsimp only at h
  split at h
  · cases h
  · split at h
    · cases h
    · rename_i hdisclosed
      by_contra hcontains
      refine hdisclosed (List.any_eq_true.mpr ⟨⟨name, value⟩, ?_, ?_⟩)
      · exact (mem_entries_iff echoed name value).mpr hlook
      · simp only [Bool.and_eq_true, List.contains_iff_mem]
        exact ⟨hname, by simpa using hcontains⟩

/-- The grade keeps its promise exactly when the baseline, where the exit reports it, is all that
the exit reports. -/
theorem grade_hides_iff (baselineIp exit : String) (echoed : Table String String) :
    GradeHides baselineIp exit echoed (classifyAnonymity baselineIp (some exit) echoed) ↔
      (ReportsBaseline baselineIp exit → trimString exit = trimString baselineIp) := by
  constructor
  · intro h hreports
    by_contra hne
    exact classifyAnonymity_ne_transparent hne (h.transparent hreports)
  · intro h
    refine ⟨fun helite hreports => ?_, fun helite name value => not_disclosed_of_elite helite,
      fun hreports => classifyAnonymity_of_eq (h hreports)⟩
    rw [classifyAnonymity_of_eq (h hreports)] at helite
    cases helite

/-- A forwarding proxy makes the service report the client before the proxy. -/
theorem listed_client_elite :
    ¬GradeHides "198.51.100.7" "198.51.100.7, 203.0.113.9" ∅
      (classifyAnonymity "198.51.100.7" (some "198.51.100.7, 203.0.113.9") ∅) := by
  intro h
  refine h.elite_exit (by decide +kernel) ?_
  unfold ReportsBaseline
  decide +kernel

/-- The grade of a check is the grade of the exit and the headers that it read. -/
theorem checkOne_eq_some {ipBody headersBody canaryBody : Option Json} {elapsedMs : Nat}
    {res : FullCheckResult}
    (h : checkOne ipBody headersBody canaryBody baselineIp elapsedMs = some res) :
    ∃ body, headersBody = some body ∧
      res.anon = classifyAnonymity baselineIp res.exitIp (echoedHeaders body) := by
  unfold checkOne at h
  obtain ⟨ip, -, h⟩ := Option.bind_eq_some_iff.mp h
  obtain ⟨body, hbody, h⟩ := Option.bind_eq_some_iff.mp h
  obtain ⟨canary, -, h⟩ := Option.bind_eq_some_iff.mp h
  dsimp only at h
  split at h
  · cases h
    exact ⟨body, hbody, rfl⟩
  · cases h

end IPProxyPool
