import Cubesat.Proofs.Bus.Requests
import Cubesat.Proofs.Comm.Mirror

/-!
Everything that the radio can be asked for, as calls of one kind.

A radio learns of a bus only what the bus answers. On a bus that shows another
one it gives the same answers, call after call.
-/

namespace Cubesat

universe u v w

namespace Link

variable {Env : Type u} {Shown : Type v} {Delay : Type w}

def onBus (bus : Bus Env) (pause : Nat → Delay → Delay) : Link (Env × Delay) where
  bus := bus.through .fst
  pause millis env := (env.1, pause millis env.2)

theorem onBus_showsAt {shown : Env → Shown} {bus : Bus Env} {image : Bus Shown}
    (asked : ∀ request, Commutes shown (bus.ask request) (image.ask request))
    (pause : Nat → Delay → Delay) (address : Address) :
    (onBus bus pause).ShowsAt address (Prod.map shown id) (onBus image pause) where
  write data env := by
    have written := asked (.write address data) env.1
    simp only [Bus.ask, Prod.mk.injEq, and_true] at written
    simp only [onBus, Bus.through, Lens.lift, Lens.fst, Prod.map, written.1, written.2]
  read buffer env := by
    have done : image.read address buffer (shown env.1) =
        ((bus.read address buffer env.1).1, shown (bus.read address buffer env.1).2) :=
      asked (.read address buffer) env.1
    exact congrArg (fun answer => (answer.1, (answer.2, env.2))) done
  pause _ _ := rfl

end Link

inductive RadioCall where
  | command (address : Address) (command : UInt8)
  | request (address : Address) (request buffer : Bytes)
  | frameCount
  | download (buffer : Bytes)
  | getFrame (attempts : Nat) (buffer : Bytes)
  | interpret (frame : Frame)
  | processFrame
  | removeFrame
  | poll
  | resetWatchdog (address : Address)
  | sendFrame (frame : Bytes)
  | setBitRate (rate : Comm.BitRate)

inductive RadioAnswer where
  | done (accepted : Bool)
  | reply (received : Bool × Bytes)
  | frameCount (count : Option Nat)
  | frame (left : Option Frame × Bytes)
  | ground (request : GroundRequest)
  deriving DecidableEq

namespace Radio

variable {Env : Type u} {Shown : Type v}

def answering {Answer : Type} (answer : Answer → RadioAnswer)
    (operation : Radio Env → Answer × Radio Env) (radio : Radio Env) : RadioAnswer × Radio Env :=
  let done := operation radio
  (answer done.1, done.2)

def perform (link : Link Env) (code : UInt32) : RadioCall → Radio Env → RadioAnswer × Radio Env
  | .command address command => answering .done (envLens.lift (link.send address [command]))
  | .request address request buffer =>
      answering .reply (envLens.lift (link.request address request buffer))
  | .frameCount => answering .frameCount (envLens.lift link.frameCount?)
  | .download buffer => answering .frame (envLens.lift (link.download? buffer))
  | .getFrame attempts buffer => answering .frame (envLens.lift (link.getFrame? attempts buffer))
  | .interpret frame => answering .ground fun radio =>
      (GroundRequest.ofPayload code frame.payload, radio)
  | .processFrame => answering .ground (processFrame link code)
  | .removeFrame => answering .done (envLens.lift link.removeFrame)
  | .poll => answering .ground (poll link code)
  | .resetWatchdog address => answering .done (resetWatchdog link address)
  | .sendFrame frame => answering .done (sendFrame link frame)
  | .setBitRate rate => answering .done (envLens.lift (link.setBitRate rate))

section Showing

variable {shown : Env → Shown}

theorem showing_answering {Answer : Type} (answer : Answer → RadioAnswer)
    {operation : Radio Env → Answer × Radio Env} {image : Radio Shown → Answer × Radio Shown}
    (commutes : Commutes (showing shown) operation image) :
    Commutes (showing shown) (answering answer operation) (answering answer image) := by
  intro radio
  simp only [answering, commutes radio]

theorem envLens_fits : envLens.Fits (showing shown) shown envLens where
  get _ := rfl
  set _ _ := rfl

variable {link : Link Env} {image : Link Shown}

theorem showing_perform (shows : ∀ address, link.ShowsAt address shown image) (code : UInt32)
    (call : RadioCall) : Commutes (showing shown) (perform link code call)
      (perform image code call) := by
  cases call with
  | command address command =>
      exact showing_answering _ (envLens_fits.lift ((shows address).send _))
  | request address request buffer =>
      exact showing_answering _ (envLens_fits.lift ((shows address).request _ _))
  | frameCount => exact showing_answering _ (envLens_fits.lift (shows _).frameCount?)
  | download buffer => exact showing_answering _ (envLens_fits.lift ((shows _).download? buffer))
  | getFrame attempts buffer =>
      exact showing_answering _ (envLens_fits.lift ((shows _).getFrame? attempts buffer))
  | interpret frame => exact showing_answering _ fun _ => rfl
  | processFrame => exact showing_answering _ (showing_processFrame (shows _) code)
  | removeFrame => exact showing_answering _ (envLens_fits.lift ((shows _).send _))
  | poll => exact showing_answering _ (showing_poll (shows _) (shows _) code)
  | resetWatchdog address => exact showing_answering _ (showing_resetWatchdog (shows address))
  | sendFrame frame => exact showing_answering _ (showing_sendFrame (shows _) frame)
  | setBitRate rate => exact showing_answering _ (envLens_fits.lift ((shows _).send _))

/-- On buses that answer alike, the radio answers alike. -/
theorem showing_onBus {Delay : Type w} {bus : Bus Env} {image : Bus Shown}
    (asked : ∀ request, Commutes shown (bus.ask request) (image.ask request))
    (pause : Nat → Delay → Delay) (code : UInt32) (calls : List RadioCall) :
    Commutes (showing (Prod.map shown id)) (inOrder (perform (.onBus bus pause) code) calls)
      (inOrder (perform (.onBus image pause) code) calls) :=
  inOrder_commutes (showing_perform (Link.onBus_showsAt asked pause) code) calls

end Showing

end Radio

end Cubesat
