import IPProxyPool.Model.FreeTick

/-!
# Suspension of sources

`SourceGuard` and the part of `fetch_all` that asks it: a source whose fetches keep yielding
nothing is suspended and probed at every so many ticks. What a fetch comes to is an input.
-/

namespace IPProxyPool

structure FetchOutcome where
  nodes : List RawNode
  notModified : Bool

/-- A fetch ends with an outcome, with an error or at its timeout. -/
inductive SourceFetch where
  | fetched (outcome : FetchOutcome)
  | failed
  | timedOut

/-- What the guard is told: errors and timeouts count as an outcome without nodes. -/
def SourceFetch.outcome : SourceFetch → FetchOutcome
  | fetched outcome => outcome
  | failed => ⟨[], false⟩
  | timedOut => ⟨[], false⟩

/-- Neither nodes nor the word that nothing was modified. -/
def FetchOutcome.zeroYield (o : FetchOutcome) : Bool := !(o.notModified || !o.nodes.isEmpty)

/-- Ticks and the interval of the probes are `u64`, the counters `u32`. -/
structure SourceGuard where
  maxZero : Nat
  retryEvery : Nat
  zeroCycles : Nat
  suspendedAtTick : Option Nat
  maxZero_pos : 0 < maxZero
  maxZero_lt : maxZero < 2 ^ 32
  retryEvery_pos : 0 < retryEvery

namespace SourceGuard

def new (maxZero : UInt32) (retryEvery : UInt64) : SourceGuard where
  maxZero := max maxZero.toNat 1
  retryEvery := max retryEvery.toNat 1
  zeroCycles := 0
  suspendedAtTick := none
  maxZero_pos := lt_max_of_lt_right Nat.one_pos
  maxZero_lt := max_lt maxZero.toNat_lt (by decide)
  retryEvery_pos := lt_max_of_lt_right Nat.one_pos

def shouldFetch (g : SourceGuard) (tick : Nat) : Bool :=
  match g.suspendedAtTick with
  | none => true
  | some t => t ≤ tick && (tick - t) % g.retryEvery = 0

/-- `note_outcome`. The count of a release build wraps. -/
def noteOutcome (g : SourceGuard) (outcome : FetchOutcome) (tick : Nat) : SourceGuard :=
  if outcome.zeroYield then
    let zeroCycles := (g.zeroCycles + 1) % 2 ^ 32
    { g with
      zeroCycles := zeroCycles
      suspendedAtTick :=
        if g.maxZero ≤ zeroCycles then some (g.suspendedAtTick.getD tick)
        else g.suspendedAtTick }
  else { g with zeroCycles := 0, suspendedAtTick := none }

def suspended (g : SourceGuard) : Bool := g.suspendedAtTick.isSome

/-- One tick of one source in `fetch_all`. -/
def tick (g : SourceGuard) (now : Nat) (result : SourceFetch) : SourceGuard :=
  if g.shouldFetch now then g.noteOutcome result.outcome now else g

end SourceGuard

end IPProxyPool
