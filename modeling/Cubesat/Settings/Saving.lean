import Cubesat.Mission.Action
import Cubesat.Settings.Storage
import Cubesat.State

/-!
Saving changed settings.
-/

namespace Cubesat

universe u

namespace StorageUnit

variable {Env : Type u}

/-- Saves the settings if they may have changed; returns whether storage holds them now. -/
def flush (storage : StorageUnit Env) (state : SystemState) (env : Env) :
    Bool × SystemState × Env :=
  if state.persistent.modified then
    match storage.save state.settings env with
    | (.ok _, env) => (true, { state with persistent := state.persistent.markSaved }, env)
    | (.error _, env) => (false, state, env)
  else
    (true, state, env)

def saveAction (storage : StorageUnit Env) : Action (SystemState × Env) :=
  .ofPure "persistent_state.save" (fun pair => pair.1.persistent.modified)
    fun pair => .ok (storage.flush pair.1 pair.2).2

end StorageUnit

end Cubesat
