import Cubesat.Ground.Command

/-!
A connection of the ground station: the lines that it sends and the state
stream that it is sent.
-/

namespace Cubesat.Ground

structure Session where
  /-- The commands in order; lines that are no commands are passed over. -/
  commands : List GroundCommand
  /-- Whether every line was text. Nothing after a line that was not is read. -/
  closedCleanly : Bool

/-- Cuts bytes into lines; a line feed ends a line and the last one may lack it. -/
def splitLines : (line : Bytes) → Bytes → List Bytes
  | [], [] => []
  | line, [] => [line.reverse]
  | line, byte :: rest =>
      if byte = 0x0A then line.reverse :: splitLines [] rest else splitLines (byte :: line) rest

def readLines : List Bytes → Session
  | [] => { commands := [], closedCleanly := true }
  | line :: rest =>
      match textOfBytes? line with
      | none => { commands := [], closedCleanly := false }
      | some text =>
          let others := readLines rest
          match GroundCommand.ofLine? (Text.trim text.toList) with
          | none => others
          | some command => { others with commands := command :: others.commands }

def receive (bytes : Bytes) : Session :=
  readLines (splitLines [] bytes)

def streamText (snapshots : List String) : String :=
  snapshots.foldr (fun snapshot rest => snapshot ++ "\n" ++ rest) ""

end Cubesat.Ground
