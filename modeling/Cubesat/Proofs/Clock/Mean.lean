import Cubesat.Proofs.Clock.Monotone
import Mathlib.Algebra.Order.Group.Unbundled.Abs
import Mathlib.Algebra.Order.Ring.Rat
import Mathlib.Tactic.FieldSimp
import Mathlib.Tactic.Linarith

/-!
What a blend adds to its base time, compared with the exact weighted mean.

The mean is cut down to whole nanoseconds, and an elapsed time that is taken
alone is not touched at all. As long as both elapsed times fit a 64-bit count
of nanoseconds nothing else is lost, and never does the arithmetic leave 128
bits.
-/

namespace Cubesat

namespace Duration

theorem saturatingAdd_mono {base short long : Duration} (order : short ≤ long) :
    base.saturatingAdd short ≤ base.saturatingAdd long := by
  rw [le_iff] at order ⊢
  simp only [nanos_saturatingAdd]
  omega

theorem le_saturatingAdd (base elapsed : Duration) : base ≤ base.saturatingAdd elapsed := by
  have bound := base.nanos_lt
  rw [le_iff, nanos_saturatingAdd]
  simp only [longest]
  omega

theorem le_longest (duration : Duration) : duration ≤ longest := by
  have bound := duration.nanos_lt
  rw [le_iff]
  simp only [longest]
  omega

end Duration

namespace ClockWeights

variable (weights : ClockWeights)

theorem mcuShare_lt : weights.mcuShare < 2 ^ 15 := by
  have bound := weights.mcu.toInt_lt
  unfold mcuShare
  omega

theorem externalShare_lt : weights.externalShare < 2 ^ 15 := by
  have bound := weights.external.toInt_lt
  unfold externalShare
  omega

variable {weights}

theorem mcuShare_eq_zero_iff : weights.mcuShare = 0 ↔ weights.mcu ≤ 0 := by
  rw [mcuShare, Int.toNat_eq_zero, Int16.le_iff_toInt_le, Int16.toInt_zero]

theorem externalShare_eq_zero_iff : weights.externalShare = 0 ↔ weights.external ≤ 0 := by
  rw [externalShare, Int.toNat_eq_zero, Int16.le_iff_toInt_le, Int16.toInt_zero]

theorem total_pos (usable : 0 < weights.mcu ∨ 0 < weights.external) :
    0 < weights.mcuShare + weights.externalShare := by
  rw [Int16.lt_iff_toInt_lt, Int16.lt_iff_toInt_lt, Int16.toInt_zero] at usable
  unfold mcuShare externalShare
  omega

/--
The weighted mean of two elapsed times in nanoseconds, with all its fractions.
A negative weight counts as zero.
-/
def mean (weights : ClockWeights) (mcuElapsed externalElapsed : Duration) : ℚ :=
  (mcuElapsed.nanos * (max weights.mcu.toInt 0 : ℤ) +
      externalElapsed.nanos * (max weights.external.toInt 0 : ℤ)) /
    ((max weights.mcu.toInt 0 : ℤ) + (max weights.external.toInt 0 : ℤ))

theorem mean_eq (mcuElapsed externalElapsed : Duration) :
    weights.mean mcuElapsed externalElapsed =
      ((mcuElapsed.nanos * weights.mcuShare + externalElapsed.nanos * weights.externalShare :
        ℕ) : ℚ) / ((weights.mcuShare + weights.externalShare : ℕ) : ℚ) := by
  have mcu : ((weights.mcuShare : ℕ) : ℤ) = max weights.mcu.toInt 0 := Int.toNat_eq_max _
  have external : ((weights.externalShare : ℕ) : ℤ) = max weights.external.toInt 0 :=
    Int.toNat_eq_max _
  rw [mean, ← mcu, ← external]
  push_cast
  rfl

end ClockWeights

section Mean

variable {weights : ClockWeights} {mcuElapsed externalElapsed : Duration}

theorem meanElapsed_of_unusable (mcu : weights.mcu ≤ 0) (external : weights.external ≤ 0) :
    meanElapsed mcuElapsed externalElapsed weights = mcuElapsed := by
  unfold meanElapsed
  rw [ClockWeights.mcuShare_eq_zero_iff.mpr mcu,
    ClockWeights.externalShare_eq_zero_iff.mpr external]
  exact if_pos rfl

theorem meanElapsed_mono {mcuLater externalLater : Duration} (mcu : mcuElapsed ≤ mcuLater)
    (external : externalElapsed ≤ externalLater) :
    meanElapsed mcuElapsed externalElapsed weights ≤
      meanElapsed mcuLater externalLater weights := by
  unfold meanElapsed
  split
  · exact mcu
  · have weighted := Nat.add_le_add (Nat.mul_le_mul_right weights.mcuShare mcu)
      (Nat.mul_le_mul_right weights.externalShare external)
    have quotient := Nat.div_le_div_right (c := weights.mcuShare + weights.externalShare) weighted
    exact min_le_min_right _ quotient

theorem weighted_div_between (first second left right : Nat) (positive : 0 < left + right) :
    min first second ≤ (first * left + second * right) / (left + right) ∧
      (first * left + second * right) / (left + right) ≤ max first second := by
  constructor
  · rw [Nat.le_div_iff_mul_le positive, Nat.mul_add]
    exact Nat.add_le_add (Nat.mul_le_mul_right left (Nat.min_le_left first second))
      (Nat.mul_le_mul_right right (Nat.min_le_right first second))
  · apply Nat.div_le_of_le_mul
    rw [Nat.mul_comm (left + right), Nat.mul_add]
    exact Nat.add_le_add (Nat.mul_le_mul_right left (Nat.le_max_left first second))
      (Nat.mul_le_mul_right right (Nat.le_max_right first second))

/-- Short of what 64 bits hold, the mean is cut to whole nanoseconds and nothing more. -/
theorem nanos_meanElapsed (mcuFits : mcuElapsed.nanos < 2 ^ 64)
    (externalFits : externalElapsed.nanos < 2 ^ 64)
    (usable : 0 < weights.mcu ∨ 0 < weights.external) :
    (meanElapsed mcuElapsed externalElapsed weights).nanos =
      (mcuElapsed.nanos * weights.mcuShare + externalElapsed.nanos * weights.externalShare) /
        (weights.mcuShare + weights.externalShare) := by
  have positive := ClockWeights.total_pos usable
  have upper := (weighted_div_between mcuElapsed.nanos externalElapsed.nanos weights.mcuShare
    weights.externalShare positive).2
  rw [meanElapsed, if_neg (Nat.ne_of_gt positive)]
  exact Nat.min_eq_left (by omega)

theorem abs_nanos_meanElapsed_sub_mean_lt (mcuFits : mcuElapsed.nanos < 2 ^ 64)
    (externalFits : externalElapsed.nanos < 2 ^ 64)
    (usable : 0 < weights.mcu ∨ 0 < weights.external) :
    |((meanElapsed mcuElapsed externalElapsed weights).nanos : ℚ) -
      weights.mean mcuElapsed externalElapsed| < 1 := by
  have positive := ClockWeights.total_pos usable
  rw [nanos_meanElapsed mcuFits externalFits usable, ClockWeights.mean_eq]
  generalize mcuElapsed.nanos * weights.mcuShare + externalElapsed.nanos * weights.externalShare =
    weighted
  generalize weights.mcuShare + weights.externalShare = total at positive ⊢
  have divisor : (0 : ℚ) < (total : ℚ) := Nat.cast_pos.mpr positive
  have below : ((weighted / total : ℕ) : ℚ) ≤ (weighted : ℚ) / (total : ℚ) := by
    rw [le_div_iff₀ divisor]
    exact_mod_cast Nat.div_mul_le_self weighted total
  have above : (weighted : ℚ) / (total : ℚ) < ((weighted / total : ℕ) : ℚ) + 1 := by
    rw [div_lt_iff₀ divisor, mul_comm]
    exact_mod_cast Nat.lt_mul_div_succ weighted positive
  rw [abs_lt]
  constructor <;> linarith

end Mean

def within128? (number : Nat) : Option Nat :=
  if number < 2 ^ 128 then some number else none

theorem within128?_eq {number : Nat} (fits : number < 2 ^ 128) :
    within128? number = some number :=
  if_pos fits

/-- The blend, given up where a step of its arithmetic leaves 128 bits. -/
def blendWithin128? (base mcuElapsed externalElapsed : Duration) (weights : ClockWeights) :
    Option Duration :=
  (within128? (weights.mcuShare + weights.externalShare)).bind fun total =>
    if total = 0 then
      some (base.saturatingAdd mcuElapsed)
    else do
      let mcuPart ← within128? (mcuElapsed.nanos * weights.mcuShare)
      let externalPart ← within128? (externalElapsed.nanos * weights.externalShare)
      let weighted ← within128? (mcuPart + externalPart)
      return base.saturatingAdd (.ofNanosClamped (weighted / total))

theorem blendWithin128?_eq (base mcuElapsed externalElapsed : Duration) (weights : ClockWeights) :
    blendWithin128? base mcuElapsed externalElapsed weights =
      some (blend base mcuElapsed externalElapsed weights) := by
  have mcuShare := weights.mcuShare_lt
  have externalShare := weights.externalShare_lt
  -- A product is of 94 and 15 bits, and the sum of two needs one more.
  have mcuPart : mcuElapsed.nanos * weights.mcuShare < 2 ^ 94 * 2 ^ 15 :=
    Nat.mul_lt_mul'' (mcuElapsed.nanos_lt.trans (by decide)) mcuShare
  have externalPart : externalElapsed.nanos * weights.externalShare < 2 ^ 94 * 2 ^ 15 :=
    Nat.mul_lt_mul'' (externalElapsed.nanos_lt.trans (by decide)) externalShare
  unfold blendWithin128? blend
  rw [within128?_eq (by omega), Option.bind_some]
  dsimp only
  split
  · rfl
  · rw [within128?_eq (by omega), within128?_eq (by omega)]
    simp only [Option.bind_eq_bind, Option.bind_some]
    rw [within128?_eq (by omega)]
    rfl

/-- What becomes of a base time by two elapsed times that 64 bits of nanoseconds hold. -/
structure Weighed (base mcuElapsed externalElapsed : Duration) (weights : ClockWeights)
    (blended : Duration) : Prop where
  notBefore :
    min (base.nanos + min mcuElapsed.nanos externalElapsed.nanos) Duration.longest.nanos ≤
      blended.nanos
  notAfter :
    blended.nanos ≤
      min (base.nanos + max mcuElapsed.nanos externalElapsed.nanos) Duration.longest.nanos
  agreed : mcuElapsed = externalElapsed → blended = base.saturatingAdd mcuElapsed
  mcuAlone : weights.external ≤ 0 → blended = base.saturatingAdd mcuElapsed
  externalAlone : weights.mcu ≤ 0 → blended = base.saturatingAdd externalElapsed
  mean : ∃ elapsed : Duration, blended = base.saturatingAdd elapsed ∧
    |(elapsed.nanos : ℚ) - weights.mean mcuElapsed externalElapsed| < 1

theorem weighed_blend (base : Duration) {mcuElapsed externalElapsed : Duration}
    {weights : ClockWeights} (mcuFits : mcuElapsed.nanos < 2 ^ 64)
    (externalFits : externalElapsed.nanos < 2 ^ 64)
    (usable : 0 < weights.mcu ∨ 0 < weights.external) :
    Weighed base mcuElapsed externalElapsed weights
      (blend base mcuElapsed externalElapsed weights) := by
  have positive := ClockWeights.total_pos usable
  have nanos := nanos_meanElapsed mcuFits externalFits usable
  obtain ⟨lower, upper⟩ := weighted_div_between mcuElapsed.nanos externalElapsed.nanos
    weights.mcuShare weights.externalShare positive
  rw [← nanos] at lower upper
  rw [blend_eq]
  constructor
  case notBefore =>
    rw [Duration.nanos_saturatingAdd]
    omega
  case notAfter =>
    rw [Duration.nanos_saturatingAdd]
    omega
  case agreed =>
    rintro rfl
    congr 1
    apply Duration.ext
    omega
  case mcuAlone =>
    intro unweighted
    rw [ClockWeights.externalShare_eq_zero_iff.mpr unweighted] at nanos positive
    rw [Nat.mul_zero, Nat.add_zero, Nat.add_zero, Nat.mul_div_cancel _ (by omega)] at nanos
    exact congrArg base.saturatingAdd (Duration.ext nanos)
  case externalAlone =>
    intro unweighted
    rw [ClockWeights.mcuShare_eq_zero_iff.mpr unweighted] at nanos positive
    rw [Nat.mul_zero, Nat.zero_add, Nat.zero_add, Nat.mul_div_cancel _ (by omega)] at nanos
    exact congrArg base.saturatingAdd (Duration.ext nanos)
  case mean =>
    exact ⟨_, rfl, abs_nanos_meanElapsed_sub_mean_lt mcuFits externalFits usable⟩

/--
A blend stays within 128 bits, is not before its base time, and grows with both
elapsed times. Without a usable weight it takes the MCU timer's elapsed time as
it is; with one, it adds the weighted mean to within a nanosecond as long as 64
bits of nanoseconds hold both elapsed times.
-/
theorem blend_weighs (base mcuElapsed externalElapsed : Duration) (weights : ClockWeights) :
    blendWithin128? base mcuElapsed externalElapsed weights =
      some (blend base mcuElapsed externalElapsed weights) ∧
    base ≤ blend base mcuElapsed externalElapsed weights ∧
    blend base mcuElapsed externalElapsed weights ≤ .longest ∧
    (∀ mcuLater externalLater, mcuElapsed ≤ mcuLater → externalElapsed ≤ externalLater →
      blend base mcuElapsed externalElapsed weights ≤
        blend base mcuLater externalLater weights) ∧
    (weights.mcu ≤ 0 → weights.external ≤ 0 →
      blend base mcuElapsed externalElapsed weights = base.saturatingAdd mcuElapsed) ∧
    (mcuElapsed.nanos < 2 ^ 64 → externalElapsed.nanos < 2 ^ 64 →
      0 < weights.mcu ∨ 0 < weights.external →
      Weighed base mcuElapsed externalElapsed weights
        (blend base mcuElapsed externalElapsed weights)) := by
  refine ⟨blendWithin128?_eq base mcuElapsed externalElapsed weights, ?_, Duration.le_longest _,
    ?_, ?_, weighed_blend base⟩
  · rw [blend_eq]
    exact Duration.le_saturatingAdd base _
  · intro mcuLater externalLater mcu external
    rw [blend_eq, blend_eq]
    exact Duration.saturatingAdd_mono (meanElapsed_mono mcu external)
  · intro mcu external
    rw [blend_eq, meanElapsed_of_unusable mcu external]

/-- Two parts of 10 ns and one of 5 ns are 8 ns, as the third of a nanosecond is cut off. -/
theorem blend_weighs_uneven :
    let weights : ClockWeights := { mcu := 2, external := 1 }
    let mcuElapsed : Duration := ⟨10, by decide⟩
    let externalElapsed : Duration := ⟨5, by decide⟩
    (mcuElapsed.nanos < 2 ^ 64 ∧ externalElapsed.nanos < 2 ^ 64 ∧ 0 < weights.mcu) ∧
      Weighed .zero mcuElapsed externalElapsed weights ⟨8, by decide⟩ := by
  intro weights mcuElapsed externalElapsed
  have blended : blend .zero mcuElapsed externalElapsed weights = ⟨8, by decide⟩ := by decide
  refine ⟨by decide, ?_⟩
  rw [← blended]
  exact (blend_weighs .zero mcuElapsed externalElapsed weights).2.2.2.2.2 (by decide) (by decide)
    (.inl (by decide))

end Cubesat
