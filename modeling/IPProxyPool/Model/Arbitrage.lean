import IPProxyPool.Model.Writers

/-!
# Vendor arbitrage

The policy of `vendor_arbitrage.rs` and its two branches. The queries of a branch run
concurrently and their results are applied one after the other in the order in which they
complete, so a branch is a list of results.
-/

namespace IPProxyPool
open RustText

/-- A value of type `f64`, as the query returns it. -/
inductive SlaValue where
  | nan
  | negInf
  | finite (q : ℚ)
  | posInf
  deriving DecidableEq

/-- `normalize_sla_rate`: an empty window counts as healthy. -/
def normalizeSlaRate : SlaValue → ℚ
  | .nan => 100
  | .negInf => 0
  | .finite q => max 0 (min q 100)
  | .posInf => 100

def slaDerateBelow : ℚ := 80
def slaRestoreAbove : ℚ := 95
def weightCut : Nat := 0
def weightFull : Nat := 100

/-- `arbitrage_action`; `none` holds the weight. -/
def arbitrageAction (successRate : ℚ) : Option Nat :=
  if successRate < slaDerateBelow then some weightCut
  else if slaRestoreAbove < successRate then some weightFull
  else none

def freePoolAction (successRate : ℚ) : Option ℚ :=
  if successRate < 50 then some 0
  else if successRate < 80 then some (1 / 2)
  else none

/-- A vendor, a country, and what the query for them came to. -/
structure SlaResult where
  vendor : String
  country : String
  outcome : Except String SlaValue

/-- How the task of one query ends: with a rate, with an error, at its time limit, or by a panic,
after which there is nothing to apply. -/
inductive QueryOutcome where
  | rate (raw : SlaValue)
  | failed (debug : String)
  | timedOut
  | joinFailed
  deriving DecidableEq

/-- The mapped result of a task; `perQueryTimeout` is the limit as it is printed. -/
def QueryOutcome.mapped (perQueryTimeout : String) : QueryOutcome → Option (Except String SlaValue)
  | .rate raw => some (.ok raw)
  | .failed debug => some (.error ("sla query failed: " ++ debug))
  | .timedOut => some (.error ("sla query timeout after " ++ perQueryTimeout))
  | .joinFailed => none

/-- `sla_query_concurrent` for pairs whose tasks end in the order `completed`. -/
def slaQueryConcurrent (perQueryTimeout : String) (query : String → String → QueryOutcome)
    (completed : List (String × String)) : List SlaResult :=
  completed.filterMap (fun p =>
    ((query p.1 p.2).mapped perQueryTimeout).map (fun outcome => ⟨p.1, p.2, outcome⟩))

namespace RouterEngine

/-- One result of the paid branch; a failed query holds the weights. -/
def applyPaidResult (r : RouterEngine) (result : SlaResult) : RouterEngine :=
  match result.outcome with
  | .error _ => r
  | .ok raw =>
    match arbitrageAction (normalizeSlaRate raw) with
    | some weight => r.adjustVendorWeight result.vendor result.country weight
    | none => r

def applyFreeResult (r : RouterEngine) (result : SlaResult) : RouterEngine :=
  match result.outcome with
  | .error _ => r
  | .ok raw =>
    match freePoolAction (normalizeSlaRate raw) with
    | some factor => r.scaleVendorWeights result.vendor result.country factor
    | none => r

/-- The pairs that the free branch audits. -/
def freePairs (r : RouterEngine) : List (String × String) :=
  ((r.pools.filter (fun n => startsWith n.provider "free-")).map
    (fun n => (n.provider, n.country))).dedup

/-- `audit_free_with`. The results come in the order in which the queries end, a permutation of the
audited pairs. -/
def auditFreeWith (r : RouterEngine) (perQueryTimeout : String)
    (query : String → String → QueryOutcome) (completed : List (String × String)) : RouterEngine :=
  (slaQueryConcurrent perQueryTimeout query completed).foldl applyFreeResult r

lemma freePairs_free {r : RouterEngine} {p : String × String} (hp : p ∈ r.freePairs) :
    startsWith p.1 "free-" = true := by
  obtain ⟨n, hn, rfl⟩ := List.mem_map.mp (List.mem_dedup.mp hp)
  exact (List.mem_filter.mp hn).2

end RouterEngine

example : arbitrageAction (normalizeSlaRate .nan) = some 100 := by decide
example : arbitrageAction (normalizeSlaRate (.finite (799 / 10))) = some 0 := by decide +kernel
example : freePoolAction 95 = none := by decide

end IPProxyPool
