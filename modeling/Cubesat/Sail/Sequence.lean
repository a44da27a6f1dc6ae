import Cubesat.Clock.Duration
import Cubesat.Power.Basic

/-!
The sequence of switch operations that releases the sail, first on the main
channel and then on the redundant one.
-/

namespace Cubesat

structure SailStep where
  operation : SwitchOperation
  delayAfter : Duration
  deriving DecidableEq

namespace SailStep

def settleTime : Duration := .ofSeconds 2

def burnTime : Duration := .ofSeconds 120

/-- The steps on one channel: power the knife, burn, and switch both off again. -/
def onChannel (channel : SailChannel) : List SailStep :=
  [⟨⟨.thermalKnife channel, true⟩, settleTime⟩, ⟨⟨.burnSwitch channel, true⟩, burnTime⟩,
    ⟨⟨.burnSwitch channel, false⟩, .zero⟩, ⟨⟨.thermalKnife channel, false⟩, .zero⟩]

def sequence : List SailStep :=
  onChannel .main ++ onChannel .redundant

@[simp]
theorem length_sequence : sequence.length = 8 := rfl

end SailStep

end Cubesat
