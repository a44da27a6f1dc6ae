import Cubesat.Bus.Basic

/-!
A redundant pair of buses: the second one repeats what the first one fails to do.
-/

namespace Cubesat.Bus

universe u

variable {Env : Type u}

/--
Every transfer goes to the primary bus and, if that fails, once more to the
secondary one, which finds a read buffer as the primary left it.
-/
def fallback (primary secondary : Bus Env) : Bus Env where
  write address data env :=
    match primary.write address data env with
    | (.ok (), env) => (.ok (), env)
    | (.error _, env) => secondary.write address data env
  fetch address buffer env :=
    match primary.read address buffer env with
    | ((.ok (), buffer), env) => ((.ok (), buffer), env)
    | ((.error _, buffer), env) => secondary.read address buffer env
  exchange address output buffer env :=
    match primary.writeRead address output buffer env with
    | ((.ok (), buffer), env) => ((.ok (), buffer), env)
    | ((.error _, buffer), env) => secondary.writeRead address output buffer env

end Cubesat.Bus
