import Mathlib.Algebra.Order.BigOperators.Group.Finset
import Mathlib.Algebra.Order.Ring.Pow
import SupportFlow.Documents.Relay
import SupportFlow.Foundations.Rounding

/-!
# The retry schedule and the no-start deadline

A worker that fails puts its message off by `retry_countdown`, and a relay that published an intent
looks at it again after `outbox_effective_recovery_seconds`. The two are computed apart from each
other: the countdown from the number of the retry and a jitter, the deadline from the settings.

`recovery_outlasts_history` is that the deadline is the longer one: the time that a lost message
stays invisible, every run of the worker up to its hard limit, and every countdown between two runs
end before it. It rests on one bound, that no countdown is longer than a minute.
-/

namespace SupportFlow

open Python

/-! ### The settings -/

/-- The settings that the two times are computed from, each within the bounds of its field. -/
structure Config.Settings where
  celeryVisibilityTimeoutSeconds : ℤ
  outboxRecoverySeconds : ℤ
  documentIngestionMaxRetries : ℕ
  documentIngestionHardTimeLimitSeconds : ℤ
  visibility_bounds :
    5 ≤ celeryVisibilityTimeoutSeconds ∧ celeryVisibilityTimeoutSeconds ≤ 86400
  recovery_bounds : 60 ≤ outboxRecoverySeconds ∧ outboxRecoverySeconds ≤ 86400
  retries_bound : documentIngestionMaxRetries ≤ 10
  hardLimit_bounds :
    2 ≤ documentIngestionHardTimeLimitSeconds ∧ documentIngestionHardTimeLimitSeconds ≤ 900

namespace Config.Settings

variable (settings : Settings)

/-- `outbox_effective_recovery_seconds`. -/
def outboxEffectiveRecoverySeconds : ℤ :=
  max settings.outboxRecoverySeconds
    (settings.celeryVisibilityTimeoutSeconds +
      settings.documentIngestionHardTimeLimitSeconds * (settings.documentIngestionMaxRetries + 1) +
      60 * settings.documentIngestionMaxRetries + 60)

/-- The policy that the relay runs with. -/
def relayPolicy : RelayPolicy where
  recoverySeconds := settings.outboxEffectiveRecoverySeconds
  extractingSeconds :=
    settings.documentIngestionHardTimeLimitSeconds + settings.celeryVisibilityTimeoutSeconds + 60

end Config.Settings

/-! ### The retry schedule -/

/-- What `random.random()` returns. -/
abbrev RandomDraw := {draw : ℚ // 0 ≤ draw ∧ draw < 1}

/-- The base of a countdown: a power of two, capped. -/
def retryBase (retryNumber : ℤ) : ℤ :=
  min 60 (2 ^ (max 0 retryNumber).toNat)

/-- The jitter of a countdown: the argument, clamped, or else drawn. -/
def jitterFraction (jitter : Option ℚ) (random : RandomDraw) : ℚ :=
  match jitter with
  | none => random
  | some jitter => max 0 (min 1 jitter)

/-- `retry_countdown`. -/
def retryCountdown (retryNumber : ℤ) (jitter : Option ℚ) (random : RandomDraw) : ℤ :=
  min 60 (retryBase retryNumber +
    pyRound (retryBase retryNumber * jitterFraction jitter random))

theorem one_le_retryBase (retryNumber : ℤ) : 1 ≤ retryBase retryNumber :=
  le_min (by norm_num) (one_le_pow₀ (by norm_num))

theorem retryBase_mono {m n : ℤ} (h : m ≤ n) : retryBase m ≤ retryBase n :=
  min_le_min_left 60 (pow_le_pow_right₀ (by norm_num) (by omega))

theorem jitterFraction_nonneg (jitter : Option ℚ) (random : RandomDraw) :
    0 ≤ jitterFraction jitter random := by
  cases jitter with
  | none => exact random.property.1
  | some jitter => exact le_max_left _ _

theorem jitterFraction_mono {j k : ℚ} (h : j ≤ k) (random : RandomDraw) :
    jitterFraction (some j) random ≤ jitterFraction (some k) random :=
  max_le_max_left 0 (min_le_min_left 1 h)

variable {m n : ℤ} {jitter jitter' : Option ℚ} {random random' : RandomDraw}

theorem retryCountdown_le : retryCountdown n jitter random ≤ 60 :=
  min_le_left _ _

/-- The jitter adds to the base, and takes nothing from it. -/
theorem retryBase_le_retryCountdown : retryBase n ≤ retryCountdown n jitter random := by
  have hround : 0 ≤ pyRound (retryBase n * jitterFraction jitter random) := by
    refine le_pyRound ?_
    have hbase : (0 : ℚ) ≤ retryBase n := by exact_mod_cast (one_le_retryBase n).trans' one_pos.le
    exact_mod_cast mul_nonneg hbase (jitterFraction_nonneg jitter random)
  refine le_min (min_le_left _ _) ?_
  omega

/-- **A countdown is at least the power of two, up to a minute.** A negative number of retries
counts as none, whose countdown is more than the fraction that the power then is. -/
theorem le_retryCountdown : min 60 ((2 : ℚ) ^ n) ≤ retryCountdown n jitter random := by
  have hbase : min 60 ((2 : ℚ) ^ n) ≤ retryBase n := by
    rcases le_total 0 n with hn | hn
    · obtain ⟨k, rfl⟩ := Int.eq_ofNat_of_zero_le hn
      rw [retryBase, max_eq_right hn, Int.toNat_natCast]
      push_cast
      exact le_of_eq (by norm_cast)
    · calc min 60 ((2 : ℚ) ^ n) ≤ 2 ^ n := min_le_right _ _
        _ ≤ 1 := zpow_le_one_of_nonpos₀ (by norm_num) hn
        _ ≤ retryBase n := by exact_mod_cast one_le_retryBase n
  exact hbase.trans (by exact_mod_cast retryBase_le_retryCountdown)

/-- **A countdown grows with the retry number and with the jitter.** -/
theorem retryCountdown_mono (hn : m ≤ n)
    (hjitter : jitterFraction jitter random ≤ jitterFraction jitter' random') :
    retryCountdown m jitter random ≤ retryCountdown n jitter' random' := by
  have hbase := retryBase_mono hn
  have hnonneg : (0 : ℚ) ≤ retryBase n := by exact_mod_cast (one_le_retryBase n).trans' one_pos.le
  have hproduct : (retryBase m : ℚ) * jitterFraction jitter random ≤
      retryBase n * jitterFraction jitter' random' :=
    mul_le_mul (by exact_mod_cast hbase) hjitter (jitterFraction_nonneg jitter random) hnonneg
  exact min_le_min_left 60 (add_le_add hbase (pyRound_mono hproduct))

/-! ### The deadline -/

/-- The countdowns of a worker's retries, in seconds. -/
def countdowns (retries : ℕ) (jitter : ℕ → Option ℚ) (random : ℕ → RandomDraw) : ℤ :=
  ∑ i ∈ Finset.range retries, retryCountdown i (jitter i) (random i)

theorem countdowns_le (retries : ℕ) (jitter : ℕ → Option ℚ) (random : ℕ → RandomDraw) :
    countdowns retries jitter random ≤ 60 * retries := by
  have hsum := Finset.sum_le_card_nsmul (Finset.range retries)
    (fun i ↦ retryCountdown i (jitter i) (random i)) 60 fun _ _ ↦ retryCountdown_le
  rw [Finset.card_range, nsmul_eq_mul, mul_comm] at hsum
  exact hsum

/-- The longest that a worker may be at a message after a publication: the message is lost once and
stays invisible, and every run ends at its hard limit. -/
def Config.Settings.workerHistory (settings : Settings) (jitter : ℕ → Option ℚ)
    (random : ℕ → RandomDraw) : ℤ :=
  settings.celeryVisibilityTimeoutSeconds +
    (settings.documentIngestionMaxRetries + 1) * settings.documentIngestionHardTimeLimitSeconds +
    countdowns settings.documentIngestionMaxRetries jitter random

/-- The deadline leaves a minute for every retry, and one more. -/
theorem workerHistory_lt (settings : Config.Settings) (jitter : ℕ → Option ℚ)
    (random : ℕ → RandomDraw) :
    settings.workerHistory jitter random < settings.outboxEffectiveRecoverySeconds := by
  have hcountdowns := countdowns_le settings.documentIngestionMaxRetries jitter random
  refine lt_of_lt_of_le ?_ (le_max_right _ _)
  rw [Config.Settings.workerHistory,
    mul_comm (settings.documentIngestionMaxRetries + 1 : ℤ) _]
  omega

/-- An intent whose publication succeeded is not looked at before the worker's history is over. -/
theorem finish_outlasts_history (settings : Config.Settings) (jitter : ℕ → Option ℚ)
    (random : ℕ → RandomDraw) (intent : DocumentIngestionIntent) (now : Instant) :
    now + seconds (settings.workerHistory jitter random) <
      (intent.finish settings.relayPolicy now true).availableAt := by
  have hlonger := workerHistory_lt settings jitter random
  show now + _ < now + seconds settings.outboxEffectiveRecoverySeconds
  exact (Int.add_lt_add_iff_left now).2 (Int.mul_lt_mul_of_pos_right hlonger (by decide))

/-- **The no-start deadline outlasts every worker history**, whatever the settings and the jitters
are; and each countdown is between the capped power of two and a minute, and grows with the number
of the retry and with the jitter. -/
theorem recovery_outlasts_history (settings : Config.Settings) (jitter : ℕ → Option ℚ)
    (random : ℕ → RandomDraw) :
    settings.workerHistory jitter random < settings.outboxEffectiveRecoverySeconds ∧
      (∀ (n : ℤ) (j : Option ℚ) (r : RandomDraw),
        min 60 ((2 : ℚ) ^ n) ≤ retryCountdown n j r ∧ retryCountdown n j r ≤ 60) ∧
      (∀ (m n : ℤ) (j : Option ℚ) (r : RandomDraw), m ≤ n →
        retryCountdown m j r ≤ retryCountdown n j r) ∧
      (∀ (n : ℤ) (j k : ℚ) (r : RandomDraw), j ≤ k →
        retryCountdown n (some j) r ≤ retryCountdown n (some k) r) ∧
      ∀ (n : ℤ) (r s : RandomDraw), r ≤ s → retryCountdown n none r ≤ retryCountdown n none s := by
  exact ⟨workerHistory_lt settings jitter random,
    fun n j r ↦ ⟨le_retryCountdown, retryCountdown_le⟩,
    fun m n j r h ↦ retryCountdown_mono h le_rfl,
    fun n j k r h ↦ retryCountdown_mono le_rfl (jitterFraction_mono h r),
    fun n r s h ↦ retryCountdown_mono le_rfl h⟩

end SupportFlow
