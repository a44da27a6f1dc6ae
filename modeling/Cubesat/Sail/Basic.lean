/-!
The stages of the sail opening, as the running computer sees them and as they
are kept across resets.
-/

namespace Cubesat

/-- The stage of the opening that the running computer observes. -/
inductive SailState where
  | waiting
  | opening
  | openingStopped
  deriving DecidableEq

namespace SailState

def all : List SailState :=
  [waiting, opening, openingStopped]

def name : SailState → String
  | waiting => "Waiting"
  | opening => "Opening"
  | openingStopped => "OpeningStopped"

end SailState

/-- The stage of the opening that survives a reset. -/
inductive SailRecord where
  | closed
  | opening
  | opened
  deriving DecidableEq

namespace SailRecord

def all : List SailRecord :=
  [closed, opening, opened]

def name : SailRecord → String
  | closed => "Closed"
  | opening => "Opening"
  | opened => "Opened"

end SailRecord

end Cubesat
