import Cubesat.Device

/-!
The four antenna elements, the unit that deploys them, and its simulation.
-/

namespace Cubesat

universe u v

/-- Which of the four elements are out. -/
structure AntennaElements where
  first : Bool
  second : Bool
  third : Bool
  fourth : Bool
  deriving DecidableEq

namespace AntennaElements

def toList (elements : AntennaElements) : List Bool :=
  [elements.first, elements.second, elements.third, elements.fourth]

def all (out : Bool) : AntennaElements :=
  { first := out, second := out, third := out, fourth := out }

/-- The antennas count as deployed as soon as one element is out. -/
def deployed (elements : AntennaElements) : Bool :=
  elements.first || elements.second || elements.third || elements.fourth

end AntennaElements

structure AntennaUnit (Env : Type u) where
  status : Env → Except DeviceError AntennaElements × Env
  deploy : Env → Except DeviceError Unit × Env

def AntennaUnit.through {Env : Type u} {Whole : Type v} (lens : Lens Whole Env)
    (antenna : AntennaUnit Env) : AntennaUnit Whole where
  status := lens.lift antenna.status
  deploy := lens.lift antenna.deploy

structure SimulatedAntenna where
  elements : AntennaElements
  deployRequests : UInt32
  /-- A jammed antenna accepts deployments and never comes out. -/
  jammed : Bool
  failing : Bool
  deriving DecidableEq

namespace SimulatedAntenna

def stowed : SimulatedAntenna :=
  { elements := .all false, deployRequests := 0, jammed := false, failing := false }

def unit : AntennaUnit SimulatedAntenna where
  status antenna :=
    if antenna.failing then (.error .notResponding, antenna) else (.ok antenna.elements, antenna)
  deploy antenna :=
    if antenna.failing then
      (.error .notResponding, antenna)
    else
      (.ok (), { antenna with
        deployRequests := antenna.deployRequests + 1
        elements := if antenna.jammed then antenna.elements else .all true })

end SimulatedAntenna

end Cubesat
