import AdMonitor.Span

/-!
# Retries

A post that failed for a passing reason is attempted again a bounded number of
times, with a delay that doubles from one attempt to the next.
-/

namespace AdMonitor

structure RetryPolicy where
  maxRetries : UInt32
  base : Span
  deriving Repr, DecidableEq

namespace RetryPolicy

def never : RetryPolicy := ⟨0, ⟨0⟩⟩

/-- Two retries, the first one after a quarter of a second. -/
def standard : RetryPolicy := ⟨2, ⟨250⟩⟩

def longest : Nat := UInt64.size - 1

/-- Half of the base, by which a delay may be lengthened at random. -/
def jitterLimit (policy : RetryPolicy) : Nat :=
  min policy.base.millis longest / 2

/--
The delay before a retry, counted from one: the base doubled for every
earlier retry, sixteen times at most, and lengthened by the given jitter.
-/
def delay (policy : RetryPolicy) (retry : UInt32) (jitter : Nat) : Span :=
  let doubled := min (min policy.base.millis longest * Nat.pow 2 (min (retry.toNat - 1) 16)) longest
  ⟨min (doubled + jitter) longest⟩

end RetryPolicy

end AdMonitor
