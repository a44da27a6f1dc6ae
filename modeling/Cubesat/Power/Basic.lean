import Cubesat.Device

/-!
The power system: the switches of the sail release, the power cycle of the
flight computer, and a simulation of both.
-/

namespace Cubesat

universe u v

/-- One of the two redundant channels that release the sail. -/
inductive SailChannel where
  | main
  | redundant
  deriving DecidableEq

def SailChannel.name : SailChannel → String
  | main => "Main"
  | redundant => "Redundant"

inductive PowerSwitch where
  | thermalKnife (channel : SailChannel)
  | burnSwitch (channel : SailChannel)
  deriving DecidableEq

structure SwitchOperation where
  switch : PowerSwitch
  enabled : Bool
  deriving DecidableEq

def SwitchOperation.message (operation : SwitchOperation) : String :=
  let switch :=
    match operation.switch with
    | .thermalKnife channel => "ThermalKnife(" ++ channel.name ++ ")"
    | .burnSwitch channel => "BurnSwitch(" ++ channel.name ++ ")"
  switch ++ (if operation.enabled then " on" else " off")

structure PowerUnit (Env : Type u) where
  operate : SwitchOperation → Env → Except DeviceError Unit × Env
  /-- Cuts and restores the power of the flight computer. -/
  cycle : Env → Except DeviceError Unit × Env

def PowerUnit.through {Env : Type u} {Whole : Type v} (lens : Lens Whole Env)
    (power : PowerUnit Env) : PowerUnit Whole where
  operate operation := lens.lift (power.operate operation)
  cycle := lens.lift power.cycle

structure SimulatedEps where
  /-- The operations that were accepted, first one first. -/
  operations : List SwitchOperation
  powerCycles : UInt32
  /-- A failing power system does not acknowledge anything. -/
  failing : Bool
  deriving DecidableEq

namespace SimulatedEps

def idle : SimulatedEps :=
  { operations := [], powerCycles := 0, failing := false }

def unit : PowerUnit SimulatedEps where
  operate operation eps :=
    if eps.failing then
      (.error (.bus .nack), eps)
    else
      (.ok (), { eps with operations := eps.operations ++ [operation] })
  cycle eps :=
    if eps.failing then
      (.error (.bus .nack), eps)
    else
      (.ok (), { eps with powerCycles := eps.powerCycles + 1 })

end SimulatedEps

inductive ScrubbedMemory where
  | primaryFlash
  | secondaryFlash
  | bootloader
  | safeMode
  deriving DecidableEq

def ScrubbedMemory.all : List ScrubbedMemory :=
  [primaryFlash, secondaryFlash, bootloader, safeMode]

def ScrubbedMemory.name : ScrubbedMemory → String
  | primaryFlash => "PrimaryFlash"
  | secondaryFlash => "SecondaryFlash"
  | bootloader => "Bootloader"
  | safeMode => "SafeMode"

structure Scrubbing where
  primaryFlash : Bool
  secondaryFlash : Bool
  bootloader : Bool
  safeMode : Bool
  deriving DecidableEq

namespace Scrubbing

def idle : Scrubbing :=
  { primaryFlash := false, secondaryFlash := false, bootloader := false, safeMode := false }

def isBusy (scrubbing : Scrubbing) : ScrubbedMemory → Bool
  | .primaryFlash => scrubbing.primaryFlash
  | .secondaryFlash => scrubbing.secondaryFlash
  | .bootloader => scrubbing.bootloader
  | .safeMode => scrubbing.safeMode

def setBusy (memory : ScrubbedMemory) (busy : Bool) (scrubbing : Scrubbing) : Scrubbing :=
  match memory with
  | .primaryFlash => { scrubbing with primaryFlash := busy }
  | .secondaryFlash => { scrubbing with secondaryFlash := busy }
  | .bootloader => { scrubbing with bootloader := busy }
  | .safeMode => { scrubbing with safeMode := busy }

def anyBusy (scrubbing : Scrubbing) : Bool :=
  ScrubbedMemory.all.any scrubbing.isBusy

end Scrubbing

end Cubesat
