import Cubesat.Clock.Duration
import Cubesat.Device

/-!
Clocks that the flight computer reads and sets.
-/

namespace Cubesat

universe u v

structure ClockUnit (Env : Type u) where
  now : Env → Except DeviceError Duration × Env
  set : Duration → Env → Except DeviceError Unit × Env

namespace ClockUnit

variable {Env : Type u} {Whole : Type v}

def through (lens : Lens Whole Env) (clock : ClockUnit Env) : ClockUnit Whole where
  now := lens.lift clock.now
  set time := lens.lift (clock.set time)

/-- A clock that shows a time of its environment and never fails. -/
def simulated : ClockUnit Duration where
  now time := (.ok time, time)
  set time _ := (.ok (), time)

end ClockUnit

end Cubesat
