import HostRoster.Cluster.Backoff

/-!
# What a delay is

The delay after failures in a row is computed in words of 64 bits. As the maximum of the settings
is a word as well, no product or power that becomes the largest word changes what comes of it: it is
the base, doubled with every failure after the first, up to the maximum (`RetrySettings.doubled`).
The delay is this and less than a tenth more, as long as that is a word too
(`RetrySettings.isDelay_delay`).
-/

set_option autoImplicit false

namespace HostRoster

theorem nextFailures_zero : nextFailures 0 = 1 := rfl

theorem nextFailures_ne_zero (failures : Nat) : nextFailures failures ≠ 0 := by
  have some : 0 < largestCount := by decide
  unfold nextFailures
  omega

namespace RetrySettings

variable {retry : RetrySettings}

/-- The base, doubled with every failure after the first, up to the maximum. -/
def doubled (retry : RetrySettings) (failures : Nat) : Nat :=
  min (retry.baseMilliseconds * Nat.pow 2 (failures - 1)) retry.maxMilliseconds

theorem cappedDelay_eq (bounded : retry.maxMilliseconds ≤ largestWord) (failures : Nat) :
    retry.cappedDelay failures = retry.doubled failures := by
  unfold cappedDelay doubled saturate saturatingPowerOfTwo
  by_cases small : failures - 1 < 64
  · rw [if_pos small]
    omega
  · rw [if_neg small]
    cases retry.baseMilliseconds with
    | zero => simp
    | succ base =>
        -- Both products lie beyond the maximum.
        have word : largestWord ≤ (base + 1) * largestWord := Nat.le_mul_of_pos_left _ (by omega)
        have power : largestWord ≤ Nat.pow 2 (failures - 1) :=
          Nat.le_trans (Nat.sub_le _ 1) (Nat.pow_le_pow_right (by omega) (by omega))
        have product : Nat.pow 2 (failures - 1) ≤ (base + 1) * Nat.pow 2 (failures - 1) :=
          Nat.le_mul_of_pos_left _ (by omega)
        omega

/-- The delay after this many failures in a row is a word, whatever its random part. -/
def Fits (retry : RetrySettings) (failures : Nat) : Prop :=
  retry.doubled failures + retry.doubled failures / 10 ≤ largestWord

theorem fits_of_max (room : retry.maxMilliseconds + retry.maxMilliseconds / 10 ≤ largestWord)
    (failures : Nat) : retry.Fits failures := by
  have most : retry.doubled failures ≤ retry.maxMilliseconds := Nat.min_le_right _ _
  unfold Fits
  omega

theorem jitter_le (retry : RetrySettings) (failures draw : Nat) :
    retry.jitter failures draw ≤ retry.cappedDelay failures / 10 := by
  unfold jitter
  split
  next some => exact Nat.le_of_lt (Nat.mod_lt draw some)
  next => exact Nat.zero_le _

section Fits

variable {failures : Nat} (bounded : retry.maxMilliseconds ≤ largestWord)
  (fits : retry.Fits failures)

include bounded fits

theorem sum_le (draw : Nat) :
    retry.cappedDelay failures + retry.jitter failures draw ≤ largestWord := by
  have tenth := retry.jitter_le failures draw
  rw [Fits, ← cappedDelay_eq bounded] at fits
  omega

theorem delay_eq (failed : failures ≠ 0) (draw : Nat) :
    retry.delay failures draw = retry.doubled failures + retry.jitter failures draw := by
  have word := sum_le bounded fits draw
  rw [delay, if_neg failed, wrappingSum, Nat.mod_eq_of_lt (Nat.lt_succ_of_le word),
    cappedDelay_eq bounded]

theorem overflows_eq_false (draw : Nat) : retry.overflows failures draw = false := by
  have word := sum_le bounded fits draw
  have enough : ¬ largestWord < retry.cappedDelay failures + retry.jitter failures draw := by omega
  rw [overflows, decide_eq_false enough, Bool.and_false]

end Fits

/-- So many milliseconds are a delay after this many failures in a row. -/
def IsDelay (retry : RetrySettings) (failures delay : Nat) : Prop :=
  ∃ jitter, delay = retry.doubled failures + jitter ∧
    if retry.doubled failures < 10 then jitter = 0 else jitter < retry.doubled failures / 10

theorem isDelay_delay (bounded : retry.maxMilliseconds ≤ largestWord) {failures : Nat}
    (fits : retry.Fits failures) (failed : failures ≠ 0) (draw : Nat) :
    retry.IsDelay failures (retry.delay failures draw) := by
  refine ⟨retry.jitter failures draw, delay_eq bounded fits failed draw, ?_⟩
  rw [← cappedDelay_eq bounded, jitter, jitterRange]
  by_cases few : retry.cappedDelay failures < 10
  · have none : ¬ 0 < retry.cappedDelay failures / 10 := by omega
    rw [if_pos few, if_neg none]
  · have some : 0 < retry.cappedDelay failures / 10 := by omega
    rw [if_neg few, if_pos some]
    exact Nat.mod_lt draw some

end RetrySettings

end HostRoster
