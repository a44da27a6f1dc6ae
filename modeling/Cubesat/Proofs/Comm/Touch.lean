import Cubesat.Comm.Radio
import Mathlib.Logic.Relation

/-!
What the radio does to the devices around it.

Polls and transmissions change their environment by writes, reads and pauses of
the link and in no other way, so a relation that these three respect holds
between the environments before and after any of them.
-/

namespace Cubesat

universe u

open Relation (ReflTransGen)

namespace Link

variable {Env : Type u}

/-- A single transfer or pause takes one environment to the other, however it ends. -/
inductive Touch (link : Link Env) : Env → Env → Prop
  | write (address : Address) (data : Bytes) (env : Env) :
      Touch link env (link.bus.write address data env).2
  | fetch (address : Address) (buffer : Bytes) (env : Env) :
      Touch link env (link.bus.fetch address buffer env).2
  | pause (millis : Nat) (env : Env) : Touch link env (link.pause millis env)

variable (link : Link Env)

theorem send_reaches (address : Address) (data : Bytes) (env : Env) :
    ReflTransGen link.Touch env (link.send address data env).2 :=
  .single (.write address data env)

theorem request_reaches (address : Address) (request buffer : Bytes) (env : Env) :
    ReflTransGen link.Touch env (link.request address request buffer env).2 := by
  unfold Link.request
  split
  · exact .refl
  · have sent : link.Touch env (link.bus.write address request env).2 := .write _ _ _
    rcases written : link.bus.write address request env with ⟨_ | _, middle⟩
    · rw [written] at sent
      exact .single sent
    · rw [written] at sent
      exact ((ReflTransGen.single sent).tail (.pause _ middle)).tail (.fetch _ _ _)

theorem frameCount?_reaches (env : Env) :
    ReflTransGen link.Touch env (link.frameCount? env).2 :=
  link.request_reaches _ _ _ env

theorem download?_reaches (buffer : Bytes) (env : Env) :
    ReflTransGen link.Touch env (link.download? buffer env).2 := by
  unfold download?
  split
  · exact .refl
  · dsimp only
    split
    · exact (link.request_reaches _ _ _ env).trans (link.request_reaches _ _ _ _)
    · exact link.request_reaches _ _ _ env

theorem downloadVerified?_reaches (attempts : Nat) (buffer : Bytes) (env : Env) :
    ReflTransGen link.Touch env (link.downloadVerified? attempts buffer env).2 := by
  induction attempts generalizing buffer env with
  | zero => exact .refl
  | succ attempts inductionHypothesis =>
      have first := link.download?_reaches buffer env
      unfold downloadVerified?
      rcases done : link.download? buffer env with ⟨⟨_ | frame, left⟩, middle⟩
      · rw [done] at first
        exact first.trans (inductionHypothesis left middle)
      · rw [done] at first
        dsimp only
        split
        · exact first
        · exact first.trans (inductionHypothesis left middle)

end Link

namespace Radio

variable {Env : Type u} (link : Link Env)

theorem processFrame_reaches (code : UInt32) (radio : Radio Env) :
    ReflTransGen link.Touch radio.env (radio.processFrame link code).2.env := by
  have downloaded := link.downloadVerified?_reaches Comm.downloadAttempts
    (Bytes.zeros Comm.receiveBufferSize) radio.env
  have path := downloaded.trans
    (link.send_reaches Comm.receiverAddress [Comm.removeFrameCommand] _)
  unfold processFrame
  dsimp only
  split <;> exact path

theorem processFrames_reaches (code : UInt32) (count : Nat) (request : GroundRequest)
    (radio : Radio Env) :
    ReflTransGen link.Touch radio.env (radio.processFrames link code count request).2.env := by
  induction count generalizing request radio with
  | zero => exact .refl
  | succ count inductionHypothesis =>
      exact (radio.processFrame_reaches link code).trans (inductionHypothesis _ _)

theorem resetWatchdog_reaches (address : Address) (radio : Radio Env) :
    ReflTransGen link.Touch radio.env (radio.resetWatchdog link address).2.env := by
  have path := link.send_reaches address [Comm.resetWatchdogCommand] radio.env
  unfold resetWatchdog
  dsimp only
  split <;> exact path

theorem poll_reaches (code : UInt32) (radio : Radio Env) :
    ReflTransGen link.Touch radio.env (radio.poll link code).2.env := by
  let count := link.frameCount? radio.env
  have counted := link.frameCount?_reaches radio.env
  have drained := processFrames_reaches link code (count.1.getD 0) .none
    { radio with env := count.2 }
  have receiver := resetWatchdog_reaches link Comm.receiverAddress
    (processFrames link code (count.1.getD 0) .none { radio with env := count.2 }).2
  exact ((counted.trans drained).trans receiver).trans (resetWatchdog_reaches link _ _)

theorem sendFrame_reaches (frame : Bytes) (radio : Radio Env) :
    ReflTransGen link.Touch radio.env (radio.sendFrame link frame).2.env := by
  have path := link.request_reaches Comm.transmitterAddress (Comm.sendFrameCommand :: frame)
    (Bytes.zeros 1) radio.env
  unfold sendFrame
  dsimp only
  split
  · exact .refl
  · split
    · split <;> exact path
    · exact path

end Radio

end Cubesat
