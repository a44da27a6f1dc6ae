import Cubesat.Computer.Cycle
import Cubesat.Proofs.Settings.Image
import Mathlib.Order.Defs.Unbundled

/-!
A flight computer among arbitrary devices, with a region of memory for storage.

Nothing is assumed about the other devices. Two records are kept beside them:
the region as every accepted write left it, and the region as every power cycle
found it.
-/

namespace Cubesat

universe u

/-- The devices around a computer, its storage, and the records. -/
structure Surroundings (Devices : Type u) where
  /-- The devices other than storage. -/
  devices : Devices
  storage : MemoryStorage
  /-- The region as each accepted write left it, latest one first. -/
  saves : List Bytes
  /-- The region as each power cycle found it, latest one first. -/
  cuts : List Bytes

namespace Surroundings

variable {Devices : Type u}

def ready (devices : Devices) (region : Bytes) : Surroundings Devices :=
  { devices, storage := { region, failing := false }, saves := [], cuts := [] }

def devicesPart : Lens (Surroundings Devices) Devices where
  get surroundings := surroundings.devices
  set devices surroundings := { surroundings with devices }

def storagePart : Lens (Surroundings Devices) MemoryStorage where
  get surroundings := surroundings.storage
  set storage surroundings := { surroundings with storage }

/-- Writes to storage, and records the region if the write is accepted. -/
def write (data : Bytes) (surroundings : Surroundings Devices) :
    Except StorageError Unit × Surroundings Devices :=
  match surroundings.storage.write data with
  | (.ok (), storage) =>
      (.ok (), { surroundings with storage, saves := storage.region :: surroundings.saves })
  | (.error error, storage) => (.error error, { surroundings with storage })

def cutPower (power : PowerUnit Devices) (surroundings : Surroundings Devices) :
    Except DeviceError Unit × Surroundings Devices :=
  devicesPart.lift power.cycle
    { surroundings with cuts := surroundings.storage.region :: surroundings.cuts }

structure Untouched (before after : Surroundings Devices) : Prop where
  storage : after.storage = before.storage
  saves : after.saves = before.saves
  cuts : after.cuts = before.cuts

structure Unsaved (before after : Surroundings Devices) : Prop where
  storage : after.storage = before.storage
  saves : after.saves = before.saves
  cuts : ∃ count, after.cuts = List.replicate count before.storage.region ++ before.cuts

instance : IsPreorder (Surroundings Devices) Untouched where
  refl _ := ⟨rfl, rfl, rfl⟩
  trans _ _ _ first second :=
    ⟨second.storage.trans first.storage, second.saves.trans first.saves,
      second.cuts.trans first.cuts⟩

instance : IsPreorder (Surroundings Devices) Unsaved where
  refl _ := ⟨rfl, rfl, 0, rfl⟩
  trans := by
    rintro _ _ _ ⟨storage, saves, older, cuts⟩ ⟨storage', saves', newer, cuts'⟩
    refine ⟨storage'.trans storage, saves'.trans saves, newer + older, ?_⟩
    rw [cuts', cuts, storage, ← List.append_assoc, List.replicate_append_replicate]

theorem Untouched.unsaved {before after : Surroundings Devices}
    (untouched : Untouched before after) : Unsaved before after :=
  ⟨untouched.storage, untouched.saves, 0, untouched.cuts⟩

theorem untouched_lift {Answer : Type} (operation : Devices → Answer × Devices)
    (surroundings : Surroundings Devices) :
    Untouched surroundings (devicesPart.lift operation surroundings).2 :=
  ⟨rfl, rfl, rfl⟩

theorem unsaved_cutPower (power : PowerUnit Devices) (surroundings : Surroundings Devices) :
    Unsaved surroundings (cutPower power surroundings).2 :=
  ⟨rfl, rfl, 1, rfl⟩

end Surroundings

open Surroundings in
/-- The same devices, with a region of memory in place of their storage. -/
def Hardware.onMemory {Devices : Type u} (hardware : Hardware Devices) :
    Hardware (Surroundings Devices) where
  bus := hardware.bus.through devicesPart
  pause millis := devicesPart.modify (hardware.pause millis)
  clocks :=
    { mission := hardware.clocks.mission.through devicesPart
      external := hardware.clocks.external.map (ClockUnit.through devicesPart) }
  antenna := hardware.antenna.through devicesPart
  adcs := hardware.adcs.through devicesPart
  power :=
    { operate := fun operation => devicesPart.lift (hardware.power.operate operation)
      cycle := cutPower hardware.power }
  storage :=
    { fetch := fun buffer => storagePart.lift (MemoryStorage.unit.fetch buffer)
      write := write }
  scrubbing surroundings := hardware.scrubbing surroundings.devices

end Cubesat
