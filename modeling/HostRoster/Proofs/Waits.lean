import HostRoster.Proofs.Delays
import HostRoster.Proofs.Loading

/-!
# The waits between tries

The delay after failures in a row is the capped exponential `RetrySettings.doubled`, and less than a
tenth more: which delays there are depends on the draw alone (`exists_draw_iff`). The exponential
grows with each of its parameters (`doubled_mono`) and ends at the maximum (`doubled_eq_max`).

The delays of loaded settings are far from the limits of words, and never shorter than the base
(`RetrySettings.delay_capped_exponential`).
-/

set_option autoImplicit false

namespace HostRoster.RetrySettings

variable {retry other : RetrySettings} {failures more : Nat}

/-! ## The exponential -/

theorem doubled_mono (base : retry.baseMilliseconds ≤ other.baseMilliseconds)
    (longest : retry.maxMilliseconds ≤ other.maxMilliseconds) (later : failures ≤ more) :
    retry.doubled failures ≤ other.doubled more := by
  have power : Nat.pow 2 (failures - 1) ≤ Nat.pow 2 (more - 1) :=
    Nat.pow_le_pow_right (by omega) (by omega)
  have product := Nat.mul_le_mul base power
  unfold doubled
  omega

/-- After 65 failures the exponential has left the words behind. -/
theorem doubled_eq_max (bounded : retry.maxMilliseconds ≤ largestWord)
    (positive : 0 < retry.baseMilliseconds) (many : 65 ≤ failures) :
    retry.doubled failures = retry.maxMilliseconds := by
  have power : largestWord ≤ Nat.pow 2 (failures - 1) :=
    Nat.le_trans (Nat.sub_le _ 1) (Nat.pow_le_pow_right (by omega) (by omega))
  have product : Nat.pow 2 (failures - 1) ≤
      retry.baseMilliseconds * Nat.pow 2 (failures - 1) := Nat.le_mul_of_pos_left _ positive
  unfold doubled
  omega

theorem base_le_doubled (ordered : retry.baseMilliseconds ≤ retry.maxMilliseconds) :
    retry.baseMilliseconds ≤ retry.doubled failures := by
  have power : 0 < Nat.pow 2 (failures - 1) := Nat.pow_pos (by omega)
  have product : retry.baseMilliseconds ≤ retry.baseMilliseconds * Nat.pow 2 (failures - 1) :=
    Nat.le_mul_of_pos_right _ power
  unfold doubled
  omega

/-! ## The draw -/

theorem jitter_eq_zero (empty : retry.jitterRange failures = 0) (draw : Nat) :
    retry.jitter failures draw = 0 := by
  rw [jitter, if_neg (by omega)]

theorem jitter_lt (range : 0 < retry.jitterRange failures) (draw : Nat) :
    retry.jitter failures draw < retry.jitterRange failures := by
  rw [jitter, if_pos range]
  exact Nat.mod_lt draw range

section Fits

variable (bounded : retry.maxMilliseconds ≤ largestWord) (fits : retry.Fits failures)
  (failed : failures ≠ 0)

include bounded fits failed

/-- The delays there are, if they differ at all. -/
theorem exists_draw_iff (long : 10 ≤ retry.doubled failures) (milliseconds : Nat) :
    (∃ draw, retry.delay failures draw = milliseconds) ↔
      retry.doubled failures ≤ milliseconds ∧
        milliseconds ≤ retry.doubled failures + retry.doubled failures / 10 - 1 := by
  have capped := cappedDelay_eq bounded failures
  have range : 0 < retry.jitterRange failures := by
    rw [jitterRange, capped]
    omega
  constructor
  · rintro ⟨draw, rfl⟩
    have below := jitter_lt range draw
    rw [jitterRange, capped] at below
    rw [delay_eq bounded fits failed]
    omega
  · rintro ⟨least, most⟩
    refine ⟨milliseconds - retry.doubled failures, ?_⟩
    rw [delay_eq bounded fits failed, jitter, if_pos range, jitterRange, capped,
      Nat.mod_eq_of_lt (by omega)]
    omega

theorem delay_eq_doubled (short : retry.doubled failures < 10) (draw : Nat) :
    retry.delay failures draw = retry.doubled failures := by
  have empty : retry.jitterRange failures = 0 := by
    rw [jitterRange, cappedDelay_eq bounded]
    omega
  rw [delay_eq bounded fits failed, jitter_eq_zero empty, Nat.add_zero]

/-- Every delay lies between the exponential and a tenth more. -/
theorem delay_bounds (draw : Nat) :
    retry.doubled failures ≤ retry.delay failures draw ∧
      retry.delay failures draw ≤ retry.doubled failures + retry.doubled failures / 10 := by
  have tenth := retry.jitter_le failures draw
  rw [cappedDelay_eq bounded] at tenth
  rw [delay_eq bounded fits failed]
  omega

end Fits

/-! ## All delays -/

/-- **The delay is the exact capped exponential, and less than a tenth more.** The operations that
saturate do not show, and the random part is drawn from a range that is not empty, or not at all. As
long as the sum with a tenth is a word, the delay is the capped exponential if that is below ten,
and otherwise any number from there to just below a tenth more. The capped exponential grows with
the failures, with the base and with the maximum, which it reaches. For settings that have been
loaded the sum is always a word, and no delay is shorter than the base. -/
theorem delay_capped_exponential :
    (∀ (retry : RetrySettings) (failures : Nat), retry.maxMilliseconds ≤ largestWord →
      failures ≠ 0 →
      retry.cappedDelay failures = retry.doubled failures ∧
      (retry.jitterRange failures = 0 → ∀ draw, retry.jitter failures draw = 0) ∧
      (0 < retry.jitterRange failures →
        ∀ draw, retry.jitter failures draw < retry.jitterRange failures) ∧
      (retry.doubled failures + retry.doubled failures / 10 ≤ largestWord →
        (∀ draw, retry.delay failures draw ≤ largestWord) ∧
        (retry.doubled failures < 10 →
          ∀ draw, retry.delay failures draw = retry.doubled failures) ∧
        (10 ≤ retry.doubled failures → ∀ milliseconds,
          (∃ draw, retry.delay failures draw = milliseconds) ↔
            retry.doubled failures ≤ milliseconds ∧
              milliseconds ≤ retry.doubled failures + retry.doubled failures / 10 - 1))) ∧
    (∀ (retry other : RetrySettings) (failures more : Nat),
      retry.baseMilliseconds ≤ other.baseMilliseconds →
      retry.maxMilliseconds ≤ other.maxMilliseconds → failures ≤ more →
      retry.doubled failures ≤ other.doubled more) ∧
    (∀ retry : RetrySettings, retry.maxMilliseconds ≤ largestWord → 0 < retry.baseMilliseconds →
      ∀ failures, 65 ≤ failures → retry.doubled failures = retry.maxMilliseconds) ∧
    ∀ (reader : FileReader) (path : String) (settings : Settings),
      Settings.load reader path = .ok settings → ∀ failures draw, failures ≠ 0 →
        settings.watcher.retry.doubled failures + settings.watcher.retry.doubled failures / 10 ≤
          largestWord ∧
        settings.watcher.retry.delay failures draw ≤ largestWord ∧
        settings.watcher.retry.baseMilliseconds ≤ settings.watcher.retry.delay failures draw ∧
        1 ≤ settings.watcher.retry.delay failures draw := by
  refine ⟨?_, ?_, ?_, ?_⟩
  · intro retry failures bounded failed
    refine ⟨cappedDelay_eq bounded failures, jitter_eq_zero, jitter_lt, fun fits => ?_⟩
    refine ⟨fun draw => ?_, delay_eq_doubled bounded fits failed,
      exists_draw_iff bounded fits failed⟩
    exact Nat.le_trans (delay_bounds bounded fits failed draw).2 fits
  · exact fun retry other failures more base longest later => doubled_mono base longest later
  · exact fun retry bounded positive failures many => doubled_eq_max bounded positive many
  · intro reader path settings loaded failures draw failed
    obtain ⟨positive, ordered, small⟩ := Settings.delays_of_load loaded
    generalize settings.watcher.retry = retry at positive ordered small ⊢
    have half : Nat.pow 2 63 + Nat.pow 2 63 / 10 ≤ largestWord := by decide
    have least : retry.baseMilliseconds ≤ retry.doubled failures := base_le_doubled ordered
    have bounded : retry.maxMilliseconds ≤ largestWord := by omega
    have fits : retry.Fits failures := fits_of_max (by omega) failures
    have bounds := delay_bounds bounded fits failed draw
    unfold Fits at fits
    omega

/-- After 40 failures with the default settings the delay is some time from 60000 to 65999
milliseconds, and a file with a base of 7 alone is loaded to wait at least so long. -/
theorem delay_capped_exponential_of_defaults :
    (∀ milliseconds, (∃ draw, ({} : RetrySettings).delay 40 draw = milliseconds) ↔
      60000 ≤ milliseconds ∧ milliseconds ≤ 65999) ∧
    ({} : RetrySettings).doubled 3 ≤ ({} : RetrySettings).doubled 4 ∧
    (∀ failures, 65 ≤ failures → ({} : RetrySettings).doubled failures = 60000) ∧
    ∀ failures draw, failures ≠ 0 →
      7 ≤ ({ baseMilliseconds := 7 } : RetrySettings).delay failures draw := by
  obtain ⟨exact, grows, ends, loaded⟩ := delay_capped_exponential
  have bounded : ({} : RetrySettings).maxMilliseconds ≤ largestWord := by decide
  obtain ⟨-, -, -, within⟩ := exact {} 40 bounded (by decide)
  let settings : Settings := { watcher := { retry := { baseMilliseconds := 7 } } }
  let reader : FileReader := fun _ =>
    .ok "[watcher]\nretry.rate_limiter_base_ms = 7".toUTF8.toList
  have read : Settings.load reader "settings.toml" = .ok settings :=
    eq_ok_iff_toOption.mpr (by decide +kernel)
  refine ⟨(within (by decide)).2.2 (by decide), grows {} {} 3 4 (by decide) (by decide) (by decide),
    ends {} bounded (by decide), fun failures draw failed => ?_⟩
  exact (loaded reader "settings.toml" settings read failures draw failed).2.2.1

end HostRoster.RetrySettings
