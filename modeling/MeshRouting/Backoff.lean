/-!
# Exponential backoff

The wait before a retry doubles with each attempt up to a cap. A random jitter of less than a
tenth of the wait comes on top. Delays are milliseconds in 64-bit words: products and powers
stop at the greatest word, but there is no delay if the last sum does not fit in a word.
-/
namespace MeshRouting

structure BackoffPolicy where
  base : UInt64
  cap : UInt64
  deriving DecidableEq, Repr

/-- Five milliseconds at first, a second at most. -/
def BackoffPolicy.standard : BackoffPolicy := ⟨5, 1000⟩

namespace Backoff

/-- A number as a word, or the greatest word where it does not fit. -/
def saturate (n : Nat) : UInt64 := UInt64.ofNat (min n (UInt64.size - 1))

def powerOfTwo (exponent : Nat) : UInt64 :=
  if exponent < 64 then UInt64.ofNat (1 <<< exponent) else saturate UInt64.size

def times (a b : UInt64) : UInt64 := saturate (a.toNat * b.toNat)

/-- A sum, if it fits in a word. -/
def sum? (a b : UInt64) : Option UInt64 :=
  if a.toNat + b.toNat < UInt64.size then some (a + b) else none

/-- Jitters are drawn below this; there is none where it is zero. -/
def jitterRange (capped : UInt64) : UInt64 := capped / 10

/-- Whether a jitter can be drawn on top of a capped delay. -/
def CanDraw (capped jitter : UInt64) : Prop := jitter = 0 ∨ jitter < jitterRange capped

end Backoff

namespace BackoffPolicy

open Backoff

/-- The delay before jitter; attempts count from one. -/
def cappedDelay (p : BackoffPolicy) (attempt : UInt32) : UInt64 :=
  min (times p.base (powerOfTwo (attempt.toNat - 1))) p.cap

/-- The delay with a jitter, where the word holds both. -/
def delay (p : BackoffPolicy) (attempt : UInt32) (jitter : UInt64) : Option UInt64 :=
  if attempt = 0 then some 0 else sum? (p.cappedDelay attempt) jitter

end BackoffPolicy
end MeshRouting
