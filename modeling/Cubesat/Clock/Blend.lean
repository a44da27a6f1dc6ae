import Cubesat.Clock.Duration
import Cubesat.Settings.Basic

/-!
The weighted mean of the times that elapsed on two clocks.
-/

namespace Cubesat

namespace ClockWeights

/-- The weight of the MCU timer; a negative weight counts as zero. -/
def mcuShare (weights : ClockWeights) : Nat :=
  weights.mcu.toInt.toNat

/-- The weight of the external clock; a negative weight counts as zero. -/
def externalShare (weights : ClockWeights) : Nat :=
  weights.external.toInt.toNat

end ClockWeights

/--
The weighted mean of two elapsed times on top of a base time. With no usable
weight the MCU timer's elapsed time is taken as it is; a mean is cut to a
64-bit count of nanoseconds.
-/
def blend (base mcuElapsed externalElapsed : Duration) (weights : ClockWeights) : Duration :=
  let total := weights.mcuShare + weights.externalShare
  if total = 0 then
    base.saturatingAdd mcuElapsed
  else
    let weighted :=
      mcuElapsed.nanos * weights.mcuShare + externalElapsed.nanos * weights.externalShare
    base.saturatingAdd (.ofNanosClamped (weighted / total))

end Cubesat
