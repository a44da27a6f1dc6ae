import Cubesat.Bus.Basic

/-!
Recovery after repeated bus failures: a run of consecutive failed transfers
that reaches a limit triggers a recovery and is counted from zero again.
-/

namespace Cubesat

universe u

/-- The number of consecutive failures that triggers a recovery. -/
structure ErrorLimit where
  value : Nat
  value_pos : 0 < value
  value_le : value ≤ 255
  deriving DecidableEq

/-- The limit that a configured byte stands for; zero counts as one. -/
def ErrorLimit.ofByte (byte : UInt8) : ErrorLimit :=
  ⟨max byte.toNat 1, by omega, by have := byte.toNat_lt; omega⟩

/-- The devices of a bus together with the failures since its last success or recovery. -/
structure Guarded (Env : Type u) where
  env : Env
  errors : Nat

namespace Guarded

variable {Env : Type u}

def start (env : Env) : Guarded Env :=
  { env, errors := 0 }

def envLens : Lens (Guarded Env) Env where
  get guarded := guarded.env
  set env guarded := { guarded with env }

def record (limit : ErrorLimit) (recover : Env → Env) (result : BusResult)
    (guarded : Guarded Env) : Guarded Env :=
  match result with
  | .ok () => { guarded with errors := 0 }
  | .error _ =>
      let errors := min (guarded.errors + 1) 255
      if limit.value ≤ errors then
        { env := recover guarded.env, errors := 0 }
      else
        { guarded with errors }

end Guarded

namespace Bus

variable {Env : Type u}

/-- The same bus with a recovery after `limit` consecutive failures. -/
def limited (bus : Bus Env) (limit : ErrorLimit) (recover : Env → Env) : Bus (Guarded Env) where
  write address data guarded :=
    let done := bus.write address data guarded.env
    (done.1, Guarded.record limit recover done.1 { guarded with env := done.2 })
  fetch address buffer guarded :=
    let done := bus.fetch address buffer guarded.env
    (done.1, Guarded.record limit recover done.1.1 { guarded with env := done.2 })
  exchange address output buffer guarded :=
    let done := bus.exchange address output buffer guarded.env
    (done.1, Guarded.record limit recover done.1.1 { guarded with env := done.2 })

end Bus

end Cubesat
