import Cubesat.Bus.ErrorLimit
import Cubesat.Bus.Fallback

/-!
Writes, reads and exchanges as requests of one kind.

Whatever a bus is put together from, it treats the three kinds of transfers
alike, up to the buffer, which a write does not have. What is proved of requests
holds of all three.
-/

namespace Cubesat

universe u v w x

def inOrder {Call : Type u} {State : Type v} {Answer : Type w}
    (operation : Call → State → Answer × State) : List Call → State → List Answer × State
  | [], state => ([], state)
  | call :: rest, state =>
      let first := operation call state
      let others := inOrder operation rest first.2
      (first.1 :: others.1, others.2)

theorem inOrder_commutes {Call : Type u} {State : Type v} {Answer : Type w} {Shown : Type x}
    {shown : State → Shown} {operation : Call → State → Answer × State}
    {image : Call → Shown → Answer × Shown}
    (commutes : ∀ call, Commutes shown (operation call) (image call)) (calls : List Call) :
    Commutes shown (inOrder operation calls) (inOrder image calls) := by
  intro state
  induction calls generalizing state with
  | nil => rfl
  | cons call rest inductionHypothesis =>
      simp only [inOrder, commutes call state, inductionHypothesis]

namespace Bus

/-- A transfer with what it is given: the data to write, and the buffer to fill. -/
inductive Request where
  | write (address : Address) (data : Bytes)
  | read (address : Address) (buffer : Bytes)
  | writeRead (address : Address) (output buffer : Bytes)
  deriving DecidableEq

namespace Request

def buffer : Request → Bytes
  | write _ _ => []
  | read _ buffer => buffer
  | writeRead _ _ buffer => buffer

/-- The same request once more, with the buffer as an earlier try has left it. -/
def refilled (buffer : Bytes) : Request → Request
  | write address data => write address data
  | read address _ => read address buffer
  | writeRead address output _ => writeRead address output buffer

@[simp]
theorem refilled_buffer (request : Request) : request.refilled request.buffer = request := by
  cases request <;> rfl

@[simp]
theorem refilled_refilled (request : Request) (buffer later : Bytes) :
    (request.refilled buffer).refilled later = request.refilled later := by
  cases request <;> rfl

end Request

variable {Env : Type u} {Whole : Type v}

def ask (bus : Bus Env) : Request → Env → (BusResult × Bytes) × Env
  | .write address data, env =>
      let done := bus.write address data env
      ((done.1, []), done.2)
  | .read address buffer, env => bus.read address buffer env
  | .writeRead address output buffer, env => bus.writeRead address output buffer env

theorem ask_through (lens : Lens Whole Env) (bus : Bus Env) (request : Request) :
    (bus.through lens).ask request = lens.lift (bus.ask request) := by
  cases request <;> rfl

theorem ask_limited (bus : Bus Env) (limit : ErrorLimit) (recover : Env → Env) (request : Request)
    (guarded : Guarded Env) :
    (bus.limited limit recover).ask request guarded =
      ((bus.ask request guarded.env).1,
        ({ guarded with env := (bus.ask request guarded.env).2 } : Guarded Env).record limit recover
          (bus.ask request guarded.env).1.1) := by
  cases request <;> rfl

/-- A pair of buses passes a request on if the primary fails, as the primary has left it. -/
theorem ask_fallback (primary secondary : Bus Env) (request : Request) (env : Env) :
    (primary.fallback secondary).ask request env =
      match primary.ask request env with
      | ((.ok (), buffer), later) => ((.ok (), buffer), later)
      | ((.error _, buffer), later) => secondary.ask (request.refilled buffer) later := by
  cases request with
  | write address data =>
      simp only [ask, fallback, Request.refilled]
      rcases primary.write address data env with ⟨_ | _, later⟩
      · rfl
      · rfl
  | read address buffer =>
      have size := primary.length_read address buffer env
      simp only [ask, Request.refilled]
      rw [read, fallback]
      dsimp only
      rcases done : primary.read address buffer env with ⟨⟨_ | _, left⟩, later⟩
      · rw [done] at size
        have refilled := secondary.length_read address left later
        simp only [Bytes.receive_of_length_eq (refilled.trans size)]
      · rw [done] at size
        simp only [Bytes.receive_of_length_eq size]
  | writeRead address output buffer =>
      have size := primary.length_writeRead address output buffer env
      simp only [ask, Request.refilled]
      rw [writeRead, fallback]
      dsimp only
      rcases done : primary.writeRead address output buffer env with ⟨⟨_ | _, left⟩, later⟩
      · rw [done] at size
        have refilled := secondary.length_writeRead address output left later
        simp only [Bytes.receive_of_length_eq (refilled.trans size)]
      · rw [done] at size
        simp only [Bytes.receive_of_length_eq size]

end Bus

end Cubesat
