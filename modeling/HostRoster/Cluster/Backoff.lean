import HostRoster.Settings

/-!
# Retry delays

After a failed watch the program waits before it tries again. The wait doubles with every further
failure in a row, from the base of the settings up to their maximum, and a part below one tenth is
added at random so that many watchers do not return at the same moment.

The numbers are words of 64 bits. A product or a power that is too large becomes the largest word.
The sum with the random part is not held back in this way (`RetrySettings.overflows`): it wraps
around, unless the program checks its sums, which then breaks down.
-/

set_option autoImplicit false

namespace HostRoster

/-- The largest word. -/
def largestWord : Nat := Nat.pow 2 64 - 1

/-- The largest number of failures that is told apart. -/
def largestCount : Nat := Nat.pow 2 32 - 1

/-- A number as a word; what is too large becomes the largest word. -/
def saturate (value : Nat) : Nat := min value largestWord

/-- A power of two as a word; what is too large becomes the largest word. -/
def saturatingPowerOfTwo (exponent : Nat) : Nat :=
  if exponent < 64 then Nat.pow 2 exponent else largestWord

/-- The sum of two words; what is too large wraps around. -/
def wrappingSum (first second : Nat) : Nat := (first + second) % (largestWord + 1)

/-- The number of failures in a row after one more. -/
def nextFailures (failures : Nat) : Nat := min (failures + 1) largestCount

namespace RetrySettings

/-- The delay after this many failures in a row, without its random part. -/
def cappedDelay (retry : RetrySettings) (failures : Nat) : Nat :=
  min (saturate (retry.baseMilliseconds * saturatingPowerOfTwo (failures - 1)))
    retry.maxMilliseconds

/-- The number below which the random part of the delay stays; without one it is zero. -/
def jitterRange (retry : RetrySettings) (failures : Nat) : Nat := retry.cappedDelay failures / 10

/-- The random part of the delay for a random number. -/
def jitter (retry : RetrySettings) (failures draw : Nat) : Nat :=
  if 0 < retry.jitterRange failures then draw % retry.jitterRange failures else 0

/-- The delay in milliseconds after this many failures in a row, for a random number. -/
def delay (retry : RetrySettings) (failures draw : Nat) : Nat :=
  if failures = 0 then 0
  else wrappingSum (retry.cappedDelay failures) (retry.jitter failures draw)

/-- Whether the sum of a delay is too large for a word. -/
def overflows (retry : RetrySettings) (failures draw : Nat) : Bool :=
  failures ≠ 0 && largestWord < retry.cappedDelay failures + retry.jitter failures draw

end RetrySettings

end HostRoster
