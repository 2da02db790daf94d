import MeshRouting.Backoff
import MeshRouting.Routing.Selector

/-!
# Samples of random choices

What is likely to be seen in a sample of draws, told without drawing. Clusters come up as often as
their shares say, jitters are spread evenly over those that can be drawn.
-/
namespace MeshRouting

/-! ### Picks -/

/-- How many of some draws fall on a cluster, most likely. -/
def RouteTarget.likelyDraws (target : RouteTarget) (draws : Nat) (name : String) : Nat :=
  min draws ((draws + 1) * target.share name / target.points)

namespace Selector

def sampleSize : Nat := 400

/-- The distinct clusters that a sample of picks shows, most likely. -/
def choices (s : Selector) (method : String) : Option NameSet :=
  (s.target? method).map fun target =>
    NameSet.ofList (target.names.filter (0 < target.likelyDraws sampleSize ·))

end Selector

/-! ### Delays -/

/-- How all delays of a sample compare to a limit. -/
inductive DelayRank where
  | allAtLeast
  | allBelow
  | mixed
  deriving DecidableEq, Repr

namespace DelayRank

def of (limit : UInt64) (delays : List UInt64) : DelayRank :=
  if delays.all (limit ≤ ·) then .allAtLeast
  else if delays.all (· < limit) then .allBelow
  else .mixed

end DelayRank

namespace BackoffPolicy

def sampleSize : Nat := 64

/-- The jitters of a sample, each in the middle of its part of the range. -/
def sampleJitters (capped : UInt64) : List UInt64 :=
  (List.range sampleSize).map fun i =>
    UInt64.ofNat ((Backoff.jitterRange capped).toNat * (2 * i + 1) / (2 * sampleSize))

/-- The delays of a sample for one attempt, if none of its sums is too great. -/
def sampleDelays (p : BackoffPolicy) (attempt : UInt32) : Option (List UInt64) :=
  (sampleJitters (p.cappedDelay attempt)).mapM (p.delay attempt)

/-- The delay that all of a sample have in common. -/
def commonDelay? : List UInt64 → Option UInt64
  | [] => none
  | delay :: others => if others.all (· == delay) then some delay else none

end BackoffPolicy
end MeshRouting
