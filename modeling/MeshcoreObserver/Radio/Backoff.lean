import MeshcoreObserver.JsNumber

/-!
# The backoff

`computeBackoffDelay`, in doubles. Its factor is `Infinity` from the 1025th
attempt on. A delay that is not zero has overflowed or met its ceiling by then,
but zero times `Infinity` is `NaN`, which `Math.min` hands on.

The delay is handed to `setTimeout`, which waits one millisecond for whatever is
no number from 1 to `2 ** 31 - 1`. So a delay of zero waits the least a timer
waits, and a delay beyond that range, or `NaN`, hardly waits at all.
-/

namespace MeshcoreObserver

/-- `initialDelayMs * 2 ** exponent`. The product of a double with a power of two is exact unless
it overflows. -/
def exponentialDelay (initialDelayMs exponent : Nat) : JsNumber :=
  if exponent < 1024 then
    if initialDelayMs * 2 ^ exponent < 2 ^ 1024 then
      .finite (initialDelayMs * 2 ^ exponent : Nat)
    else .infinity false
  else if initialDelayMs = 0 then .nan
  else .infinity false

def computeBackoffDelay (attempt initialDelayMs maxDelayMs : Nat) : JsNumber :=
  (exponentialDelay initialDelayMs (attempt - 1)).min (.finite maxDelayMs)

/-- `TIMEOUT_MAX` of the timers. -/
def timeoutMax : Nat := 2147483647

/-- How long `setTimeout(callback, delayMs)` waits. -/
def timeoutMs : JsNumber → Nat
  | .finite delayMs => if 1 ≤ delayMs ∧ delayMs ≤ timeoutMax then ⌊delayMs⌋.toNat else 1
  | .nan | .infinity _ => 1

/-- The delay that is meant: doubled with each attempt, up to the ceiling. -/
def cappedDelay (attempt initialDelayMs maxDelayMs : Nat) : Nat :=
  min (initialDelayMs * 2 ^ (attempt - 1)) maxDelayMs

theorem timeoutMs_natCast (delayMs : Nat) :
    timeoutMs (.finite delayMs) = if delayMs ≤ timeoutMax then max 1 delayMs else 1 := by
  simp only [timeoutMs, Nat.one_le_cast, Nat.cast_le, Int.floor_natCast, Int.toNat_natCast]
  split
  · rename_i within
    rw [if_pos within.2, Nat.max_eq_right within.1]
  · split
    · omega
    · rfl

theorem pow_le_mul_pow {value earlier later : Nat} (positive : value ≠ 0)
    (before : earlier ≤ later) : 2 ^ earlier ≤ value * 2 ^ later := by
  have powers : 2 ^ earlier ≤ 2 ^ later := Nat.pow_le_pow_right (by omega) before
  exact powers.trans (Nat.le_mul_of_pos_left _ (Nat.pos_of_ne_zero positive))

section Delay

variable {attempt initialDelayMs maxDelayMs : Nat}

theorem computeBackoffDelay_of_zero (late : 1024 < attempt) :
    computeBackoffDelay attempt 0 maxDelayMs = .nan := by
  have overflows : ¬attempt - 1 < 1024 := by omega
  simp only [computeBackoffDelay, exponentialDelay, if_neg overflows, if_true,
    JsNumber.nan_min]

theorem computeBackoffDelay_eq (factor : initialDelayMs ≠ 0 ∨ attempt ≤ 1024)
    (ceiling : cappedDelay attempt initialDelayMs maxDelayMs < 2 ^ 1024) :
    computeBackoffDelay attempt initialDelayMs maxDelayMs =
      .finite (cappedDelay attempt initialDelayMs maxDelayMs) := by
  have overflows : 2 ^ 1024 ≤ initialDelayMs * 2 ^ (attempt - 1) →
      cappedDelay attempt initialDelayMs maxDelayMs = maxDelayMs := by
    intro large
    rw [cappedDelay] at ceiling ⊢
    omega
  rw [computeBackoffDelay, exponentialDelay]
  split
  · split
    · rw [JsNumber.finite_min_finite, cappedDelay, Nat.cast_min]
    · rename_i large
      rw [JsNumber.infinity_min_finite, overflows (Nat.le_of_not_lt large)]
  · rename_i late
    have positive : initialDelayMs ≠ 0 := factor.resolve_right (by omega)
    have large := pow_le_mul_pow positive (Nat.le_of_not_lt late)
    rw [if_neg positive, JsNumber.infinity_min_finite, overflows large]

/-- The delay handed to `setTimeout` is the one that is meant, and is waited for, exactly when no
zero has met the overflow of the factor and it is in the range of the timers. -/
theorem computeBackoffDelay_eq_iff :
    (computeBackoffDelay attempt initialDelayMs maxDelayMs =
          .finite (cappedDelay attempt initialDelayMs maxDelayMs) ∧
        timeoutMs (computeBackoffDelay attempt initialDelayMs maxDelayMs) =
          max 1 (cappedDelay attempt initialDelayMs maxDelayMs)) ↔
      (initialDelayMs ≠ 0 ∨ attempt ≤ 1024) ∧
        cappedDelay attempt initialDelayMs maxDelayMs ≤ timeoutMax := by
  constructor
  · rintro ⟨same, waits⟩
    constructor
    · by_contra early
      rw [not_or, not_not, Nat.not_le] at early
      rw [early.1, computeBackoffDelay_of_zero early.2] at same
      cases same
    · by_contra long
      rw [same, timeoutMs_natCast, if_neg long] at waits
      rw [timeoutMax] at long
      omega
  · rintro ⟨factor, short⟩
    have ceiling : cappedDelay attempt initialDelayMs maxDelayMs < 2 ^ 1024 := by
      rw [timeoutMax] at short
      omega
    have same := computeBackoffDelay_eq factor ceiling
    refine ⟨same, ?_⟩
    rw [same, timeoutMs_natCast, if_pos short]

end Delay

theorem cappedDelay_mono {earlier later : Nat} (before : earlier ≤ later)
    (initialDelayMs maxDelayMs : Nat) :
    cappedDelay earlier initialDelayMs maxDelayMs ≤
      cappedDelay later initialDelayMs maxDelayMs := by
  have powers : 2 ^ (earlier - 1) ≤ 2 ^ (later - 1) := Nat.pow_le_pow_right (by omega) (by omega)
  have exponentials := Nat.mul_le_mul_left initialDelayMs powers
  rw [cappedDelay, cappedDelay]
  omega

example : computeBackoffDelay 1025 0 60000 = .nan :=
  computeBackoffDelay_of_zero (by decide)

end MeshcoreObserver
