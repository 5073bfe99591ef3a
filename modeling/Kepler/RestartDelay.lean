/-
This file is about the delay before an automatic restart (`compute_restart_delay` in
`config/restart.rs`), which grows with the number of restarts since the service was last healthy.

The delay is the base delay times a power of the backoff factor, and at most the cap. The product is
converted to a duration before the cap is applied, and that conversion panics when it does not fit.
-/

import Kepler.Library.Binary64
import Mathlib.Algebra.Order.Ring.Int
import Mathlib.Algebra.Order.Group.Int
import Mathlib.Algebra.Ring.Parity
import Mathlib.Algebra.Order.Ring.Abs

namespace Kepler

/-! ### Restart delays -/

/-- The nanoseconds of a `Duration`, which counts seconds in 64 bits. -/
abbrev Duration := Fin (2 ^ 64 * 10 ^ 9)

/-- `Duration::from_secs_f64`, which panics when the seconds do not fit. -/
def Duration.fromNanos (nanos : Nat) : Option Duration :=
  if fits : nanos < 2 ^ 64 * 10 ^ 9 then some ⟨nanos, fits⟩ else none

/-- The delay times the factor to the power of the count, for an integer factor. An infinite product
is none, and a negative one is replaced by zero. -/
def delayNanos (base : Duration) (factor : Int) (count : UInt32) : Option Nat :=
  -- The count is converted to a signed number, and a negative power is a fraction.
  let exponent := count.toInt32.toInt
  let power := factor ^ exponent.natAbs
  if 0 ≤ exponent then some (base.val * power).toNat
  else if power = 0 then none
  else some (if power < 0 then 0 else Binary64.roundQuotient base power.natAbs)

/-- `compute_restart_delay`. A panic is no delay. -/
def computeRestartDelay (base cap : Duration) (factor : Int) (count : UInt32) : Option Duration :=
  if base = 0 then some 0
  else ((delayNanos base factor count).bind Duration.fromNanos).map fun computed =>
    if cap ≠ 0 ∧ cap < computed then cap else computed

/-- The documented delay is the product, at most the cap. Without a cap the product may not fit. -/
def IsRestartDelay (product : Int) (cap delay : Duration) : Prop :=
  if cap = 0 then delay.val = product ∨ product < 0 ∨ 2 ^ 64 * 10 ^ 9 ≤ product
  else delay.val = min product cap.val

/-- The product fits a duration, and no large count stands for a negative power. -/
def DelayFits (base cap : Duration) (factor : Int) (count : UInt32) : Prop :=
  let product := base.val * factor ^ count.toNat
  if count.toNat < 2 ^ 31 then product < 2 ^ 64 * 10 ^ 9 ∧ (cap = 0 ∨ 0 ≤ product)
  else factor ≠ 0 ∧ (cap = 0 ∨ 0 ≤ product ∧ (factor.natAbs = 1 ∨
    cap.val ≤ Binary64.roundQuotient base (factor.natAbs ^ (2 ^ 32 - count.toNat))))

variable {base : Duration} {factor : Int} {count : UInt32}

theorem toInt_toInt32 (count : UInt32) : count.toInt32.toInt =
    if count.toNat < 2 ^ 31 then (count.toNat : Int) else count.toNat - 2 ^ 32 := by
  have same : count.toInt32.toInt = count.toBitVec.toInt := rfl
  rw [same, BitVec.toInt_eq_toNat_cond]
  have value : count.toBitVec.toNat = count.toNat := rfl
  rw [value]
  split <;> split <;> omega

theorem roundQuotient_le {numerator denominator : Nat} (positive : 0 < denominator) :
    Binary64.roundQuotient numerator denominator ≤ numerator := by
  have parts := Nat.div_add_mod numerator denominator
  have below := Nat.mod_lt numerator positive
  have least := Nat.le_mul_of_pos_left (numerator / denominator) positive
  unfold Binary64.roundQuotient
  simp only [Bool.or_eq_true, decide_eq_true_eq, Bool.and_eq_true, beq_iff_eq]
  split
  · omega
  · omega

theorem exists_isRestartDelay_iff {nanos : Nat} {product : Int} {cap : Duration} :
    (∃ delay, (Duration.fromNanos nanos).map
        (fun computed => if cap ≠ 0 ∧ cap < computed then cap else computed) = some delay ∧
      IsRestartDelay product cap delay) ↔ nanos < 2 ^ 64 * 10 ^ 9 ∧
      if cap = 0 then nanos = product ∨ product < 0 ∨ 2 ^ 64 * 10 ^ 9 ≤ product
      else min (nanos : Int) cap.val = min product cap.val := by
  unfold Duration.fromNanos IsRestartDelay
  split
  · next fits =>
    simp only [Option.map_some, Option.some.injEq, exists_eq_left', fits, true_and]
    by_cases uncapped : cap = 0
    · simp only [uncapped, if_true, ne_eq, not_true_eq_false, false_and, if_false]
    · simp only [uncapped, ne_eq, not_false_eq_true, true_and, if_false, Fin.lt_def]
      split
      · omega
      · rw [Int.min_eq_left (by omega : (nanos : Int) ≤ cap.val)]
  · next large => simp only [Option.map_none, reduceCtorEq, false_and, exists_false, large]

/-- A factor of one keeps the size of the delay. Every other factor but zero makes the product of a
large count too large. -/
theorem sizes_of_large (positive : base ≠ 0)
    (large : 2 ^ 31 ≤ count.toNat) (nonzero : factor ≠ 0) :
    factor.natAbs = 1 ∧ (base.val * factor ^ count.toNat).natAbs = base.val ∧
      Binary64.roundQuotient base (factor.natAbs ^ (2 ^ 32 - count.toNat)) = base.val ∨
    factor.natAbs ≠ 1 ∧ 2 ^ 64 * 10 ^ 9 ≤ (base.val * factor ^ count.toNat).natAbs := by
  rw [Int.natAbs_mul, Int.natAbs_pow, Int.natAbs_natCast]
  by_cases one : factor.natAbs = 1
  · simp [one, Binary64.roundQuotient, Nat.mod_one]
  · refine .inr ⟨one, ?_⟩
    have power : 2 ^ 94 ≤ factor.natAbs ^ count.toNat :=
      (Nat.pow_le_pow_left (by omega) 94).trans (Nat.pow_le_pow_right (by omega) (by omega))
    have least := Nat.le_mul_of_pos_left (factor.natAbs ^ count.toNat)
      (Fin.pos_iff_ne_zero.mpr positive)
    exact le_trans (by decide) (power.trans least)

theorem delayNanos_of_lt
    (small : count.toNat < 2 ^ 31) :
    delayNanos base factor count = some (base.val * factor ^ count.toNat).toNat := by
  simp only [delayNanos, toInt_toInt32, if_pos small, Int.natAbs_natCast, Int.natCast_nonneg,
    if_true]

/-- A large count stands for a fraction, which has the sign of the power. -/
theorem delayNanos_of_ge (positive : base ≠ 0)
    (large : 2 ^ 31 ≤ count.toNat) : delayNanos base factor count =
      if factor = 0 then none
      else some (if base.val * factor ^ count.toNat < 0 then 0
        else Binary64.roundQuotient base (factor.natAbs ^ (2 ^ 32 - count.toNat))) := by
  have bound := count.toNat_lt
  have exponent : ((count.toNat : Int) - 2 ^ 32).natAbs = 2 ^ 32 - count.toNat := by omega
  have fraction : ¬0 ≤ (count.toNat : Int) - 2 ^ 32 := by omega
  simp only [delayNanos, toInt_toInt32, if_neg large.not_gt, if_neg fraction, exponent,
    Int.natAbs_pow, pow_eq_zero_iff (Nat.sub_ne_zero_of_lt bound)]
  split
  · rfl
  · next nonzero =>
    have signs : 0 < factor ^ (2 ^ 32 - count.toNat) * (base.val * factor ^ count.toNat) := by
      rw [mul_left_comm, ← pow_add, Nat.sub_add_cancel bound.le]
      exact mul_pos (Int.natCast_pos.mpr (Fin.pos_iff_ne_zero.mpr positive))
        (Even.pow_pos ⟨2 ^ 31, rfl⟩ nonzero)
    rw [if_congr (neg_iff_neg_of_mul_pos signs) rfl rfl]

/-- A restart is delayed as documented exactly if the product fits and the count keeps its sign. -/
theorem computeRestartDelay_documented_iff (base cap : Duration) (factor : Int) (count : UInt32)
    (positive : base ≠ 0) :
    (∃ delay, computeRestartDelay base cap factor count = some delay ∧
      IsRestartDelay (base.val * factor ^ count.toNat) cap delay) ↔
      DelayFits base cap factor count := by
  unfold computeRestartDelay DelayFits
  rw [if_neg positive]
  by_cases small : count.toNat < 2 ^ 31
  · rw [delayNanos_of_lt small, Option.bind_some, exists_isRestartDelay_iff]
    generalize (base.val * factor ^ count.toNat : Int) = product
    simp only [small, if_true]
    by_cases uncapped : cap = 0
    · simp only [uncapped, if_true, true_or, and_true]
      omega
    · simp only [uncapped, if_false, false_or]
      omega
  · have large := Nat.not_lt.mp small
    rw [if_neg small, delayNanos_of_ge positive large]
    by_cases zero : factor = 0
    · simp [zero]
    · rw [if_neg zero, Option.bind_some, exists_isRestartDelay_iff]
      have bounds := And.intro base.isLt cap.isLt
      have fits := @roundQuotient_le base.val (factor.natAbs ^ (2 ^ 32 - count.toNat))
        (Nat.pow_pos (Int.natAbs_pos.mpr zero))
      have sizes := sizes_of_large positive large zero
      generalize Binary64.roundQuotient base (factor.natAbs ^ (2 ^ 32 - count.toNat)) = rounded at *
      generalize (base.val * factor ^ count.toNat : Int) = product at *
      have capped : cap = 0 ↔ cap.val = 0 := Fin.ext_iff
      simp only [capped, zero, ne_eq, not_false_eq_true, true_and]
      generalize factor.natAbs = size at *
      rcases lt_or_ge product 0 with negative | nonneg
      · rw [if_pos negative]
        split
        · omega
        · omega
      · rw [if_neg (Int.not_lt.mpr nonneg)]
        split
        · omega
        · omega

theorem thirdRestart_documented : ∃ delay,
    computeRestartDelay 1000000000 60000000000 2 3 = some delay ∧
      IsRestartDelay (1000000000 * 2 ^ 3) 60000000000 delay :=
  (computeRestartDelay_documented_iff 1000000000 60000000000 2 3 (by decide)).mpr
    ⟨by decide +kernel, .inr (by decide +kernel)⟩

/-- With a delay of one second that doubles up to a minute, the restart with the number 64 panics:
the cap comes too late. -/
theorem computeRestartDelay_overflows :
    computeRestartDelay 1000000000 60000000000 2 64 = none := by decide +kernel

end Kepler
