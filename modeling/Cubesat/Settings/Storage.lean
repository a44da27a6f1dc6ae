import Cubesat.Lens
import Cubesat.Settings.Image

/-!
Storage that outlives a reset, and saving and loading settings on it.
-/

namespace Cubesat

universe u v

inductive StorageError where
  | outOfRange (capacity requested : Nat)
  | deviceFailure
  deriving DecidableEq

def StorageError.message : StorageError → String
  | outOfRange capacity requested =>
      "storage region holds " ++ toString capacity ++ " bytes, " ++ toString requested ++
        " requested"
  | deviceFailure => "storage device not responding"

structure StorageUnit (Env : Type u) where
  /-- The bytes that arrive when the front of the region is read into a buffer. -/
  fetch : Bytes → Env → (Except StorageError Unit × Bytes) × Env
  write : Bytes → Env → Except StorageError Unit × Env

def StorageUnit.through {Env : Type u} {Whole : Type v} (lens : Lens Whole Env)
    (storage : StorageUnit Env) : StorageUnit Whole where
  fetch buffer := lens.lift (storage.fetch buffer)
  write data := lens.lift (storage.write data)

structure MemoryStorage where
  region : Bytes
  /-- A failing device refuses every access. -/
  failing : Bool
  deriving DecidableEq

namespace MemoryStorage

def erased (size : Nat) : MemoryStorage :=
  { region := List.replicate size 0xFF, failing := false }

def read (size : Nat) (storage : MemoryStorage) : Except StorageError Bytes :=
  if storage.failing then
    .error .deviceFailure
  else if storage.region.length < size then
    .error (.outOfRange storage.region.length size)
  else
    .ok (storage.region.take size)

/-- Writes bytes to the front of the region; a refused write changes nothing. -/
def write (data : Bytes) (storage : MemoryStorage) : Except StorageError Unit × MemoryStorage :=
  if storage.failing then
    (.error .deviceFailure, storage)
  else if storage.region.length < data.length then
    (.error (.outOfRange storage.region.length data.length), storage)
  else
    (.ok (), { storage with region := data ++ storage.region.drop data.length })

def unit : StorageUnit MemoryStorage where
  fetch buffer storage :=
    match storage.read buffer.length with
    | .ok bytes => ((.ok (), bytes), storage)
    | .error error => ((.error error, []), storage)
  write := write

end MemoryStorage

inductive SettingsError where
  | image (error : ImageError)
  | storage (error : StorageError)
  deriving DecidableEq

def SettingsError.message : SettingsError → String
  | image error => error.message
  | storage error => "storage access failed: " ++ error.message

namespace StorageUnit

variable {Env : Type u}

def save (storage : StorageUnit Env) (settings : Settings) (env : Env) :
    Except SettingsError Nat × Env :=
  match Image.write settings (Bytes.zeros Image.regionSize) with
  | (.error error, _) => (.error (.image error), env)
  | (.ok size, buffer) =>
      match storage.write (buffer.take size) env with
      | (.ok (), env) => (.ok size, env)
      | (.error error, env) => (.error (.storage error), env)

/-- Loads the saved settings into a state; a failure changes nothing. -/
def load (storage : StorageUnit Env) (state : PersistentState) (env : Env) :
    Except SettingsError Unit × PersistentState × Env :=
  let buffer := Bytes.zeros Image.regionSize
  match storage.fetch buffer env with
  | ((.error error, _), env) => (.error (.storage error), state, env)
  | ((.ok (), arrived), env) =>
      match state.restore (Bytes.receive buffer arrived) with
      | (.ok (), state) => (.ok (), state, env)
      | (.error error, state) => (.error (.image error), state, env)

/-- The saved settings, or the initial ones where they cannot be loaded. -/
def loadOrInitial (storage : StorageUnit Env) (env : Env) : PersistentState × Env :=
  (storage.load .initial env).2

end StorageUnit

end Cubesat
