import Cubesat.Comm.Transceiver
import Cubesat.Proofs.Comm.Calls
import Mathlib.Logic.Function.Basic

/-!
Trees of redundant buses.

However the pairs of a tree are nested, a request takes the leaves from left to
right until one of them succeeds. The order of the leaves is all that a tree is.
-/

namespace Cubesat

universe u v w x

/-- Redundant pairs, nested in any way, of buses that are known by their labels. -/
inductive BusTree (Leaf : Type u) where
  | leaf (label : Leaf)
  | pair (primary secondary : BusTree Leaf)

namespace BusTree

variable {Leaf : Type u} {Env : Type v}

def leaves : BusTree Leaf → List Leaf
  | leaf label => [label]
  | pair primary secondary => primary.leaves ++ secondary.leaves

def bus (wire : Leaf → Bus Env) : BusTree Leaf → Bus Env
  | leaf label => wire label
  | pair primary secondary => (primary.bus wire).fallback (secondary.bus wire)

end BusTree

namespace Bus

variable {Leaf : Type u} {Env : Type v}

/--
A request that is tried on one leaf after the other, in a given environment:
which leaves have been tried, what the request has ended with, and the
environment then. The first success ends it, and so does the last failure.
-/
inductive Tries (wire : Leaf → Bus Env) : List Leaf → Request → Env →
    List Leaf → BusResult × Bytes → Env → Prop
  | succeeds {leaf : Leaf} {request : Request} {env : Env} {buffer : Bytes} {later : Env}
      (rest : List Leaf) (asked : (wire leaf).ask request env = ((.ok (), buffer), later)) :
      Tries wire (leaf :: rest) request env [leaf] (.ok (), buffer) later
  | exhausted {leaf : Leaf} {request : Request} {env : Env} {error : BusError} {buffer : Bytes}
      {later : Env} (asked : (wire leaf).ask request env = ((.error error, buffer), later)) :
      Tries wire [leaf] request env [leaf] (.error error, buffer) later
  | passes {leaf next : Leaf} {rest tried : List Leaf} {request : Request} {env : Env}
      {error : BusError} {buffer : Bytes} {middle : Env} {answer : BusResult × Bytes}
      {later : Env} (asked : (wire leaf).ask request env = ((.error error, buffer), middle))
      (others : Tries wire (next :: rest) (request.refilled buffer) middle tried answer later) :
      Tries wire (leaf :: next :: rest) request env (leaf :: tried) answer later

namespace Tries

variable {wire : Leaf → Bus Env} {leaves rest tried more : List Leaf} {request : Request}
  {env middle later : Env} {answer : BusResult × Bytes}

theorem single (wire : Leaf → Bus Env) (leaf : Leaf) (request : Request) (env : Env) :
    Tries wire [leaf] request env [leaf] ((wire leaf).ask request env).1
      ((wire leaf).ask request env).2 := by
  rcases asked : (wire leaf).ask request env with ⟨⟨_ | _, buffer⟩, later⟩
  · exact .exhausted asked
  · exact .succeeds [] asked

theorem append_of_ok (tries : Tries wire leaves request env tried answer later)
    (succeeded : answer.1 = .ok ()) (rest : List Leaf) :
    Tries wire (leaves ++ rest) request env tried answer later := by
  induction tries with
  | succeeds others asked => exact .succeeds _ asked
  | exhausted asked => cases succeeded
  | passes asked others inductionHypothesis => exact .passes asked (inductionHypothesis succeeded)

/-- After a failure come the leaves that are left, with the buffer as it was left. -/
theorem append_of_error {error : BusError} {buffer : Bytes}
    (tries : Tries wire leaves request env tried (.error error, buffer) middle)
    (others : Tries wire rest (request.refilled buffer) middle more answer later) :
    Tries wire (leaves ++ rest) request env (tried ++ more) answer later := by
  generalize failed : ((.error error, buffer) : BusResult × Bytes) = first at tries
  induction tries with
  | succeeds _ asked => cases failed
  | exhausted asked =>
      cases failed
      cases others with
      | succeeds _ second => exact .passes asked (.succeeds _ second)
      | exhausted second => exact .passes asked (.exhausted second)
      | passes second third => exact .passes asked (.passes second third)
  | passes asked _ inductionHypothesis =>
      rw [← Request.refilled_refilled] at others
      exact .passes asked (inductionHypothesis others failed)

theorem prefix_leaves (tries : Tries wire leaves request env tried answer later) :
    tried <+: leaves := by
  induction tries with
  | succeeds rest asked => exact List.prefix_append [_] rest
  | exhausted asked => exact List.prefix_rfl
  | passes asked others inductionHypothesis =>
      exact (List.prefix_cons_inj _).mpr inductionHypothesis

theorem eq_leaves (tries : Tries wire leaves request env tried answer later)
    (failed : answer.1 ≠ .ok ()) : tried = leaves := by
  induction tries with
  | succeeds rest asked => exact absurd rfl failed
  | exhausted asked => rfl
  | passes asked others inductionHypothesis => rw [inductionHypothesis failed]

theorem unique {tried' : List Leaf} {answer' : BusResult × Bytes} {later' : Env}
    (tries : Tries wire leaves request env tried answer later)
    (tries' : Tries wire leaves request env tried' answer' later') :
    (answer, later) = (answer', later') := by
  induction tries generalizing tried' with
  | succeeds rest asked =>
      cases tries' with
      | succeeds _ again => exact asked.symm.trans again
      | exhausted again => exact asked.symm.trans again
      | passes again _ => cases asked.symm.trans again
  | exhausted asked =>
      cases tries' with
      | succeeds _ again => exact asked.symm.trans again
      | exhausted again => exact asked.symm.trans again
  | passes asked others inductionHypothesis =>
      cases tries' with
      | succeeds _ again => cases asked.symm.trans again
      | passes again others' =>
          cases asked.symm.trans again
          exact inductionHypothesis others'

end Tries

theorem tries_tree (wire : Leaf → Bus Env) (tree : BusTree Leaf) (request : Request) (env : Env) :
    ∃ tried, Tries wire tree.leaves request env tried ((tree.bus wire).ask request env).1
      ((tree.bus wire).ask request env).2 := by
  induction tree generalizing request env with
  | leaf label => exact ⟨[label], .single wire label request env⟩
  | pair primary secondary primaryTries secondaryTries =>
      obtain ⟨tried, first⟩ := primaryTries request env
      simp only [BusTree.bus, BusTree.leaves, ask_fallback]
      rcases asked : (primary.bus wire).ask request env with ⟨⟨_ | _, buffer⟩, middle⟩
      · rw [asked] at first
        obtain ⟨more, second⟩ := secondaryTries (request.refilled buffer) middle
        exact ⟨tried ++ more, first.append_of_error second⟩
      · rw [asked] at first
        exact ⟨tried, first.append_of_ok rfl secondary.leaves⟩

theorem ask_congr_leaves (wire : Leaf → Bus Env) {tree other : BusTree Leaf}
    (same : other.leaves = tree.leaves) (request : Request) :
    (other.bus wire).ask request = (tree.bus wire).ask request := by
  funext env
  obtain ⟨_, tries⟩ := tries_tree wire tree request env
  obtain ⟨_, others⟩ := tries_tree wire other request env
  rw [same] at others
  exact others.unique tries

section Owned

variable [DecidableEq Leaf] {State : Leaf → Type w}

def leafPart (leaf : Leaf) : Lens (∀ leaf, State leaf) (State leaf) where
  get states := states leaf
  set state states := Function.update states leaf state

def owned (devices : ∀ leaf, Bus (State leaf)) (leaf : Leaf) : Bus (∀ leaf, State leaf) :=
  (devices leaf).through (leafPart leaf)

theorem eq_of_ask_owned {devices : ∀ leaf, Bus (State leaf)} {leaf other : Leaf}
    {request : Request} {states later : ∀ leaf, State leaf} {answer : BusResult × Bytes}
    (asked : (owned devices leaf).ask request states = (answer, later))
    (distinct : other ≠ leaf) : later other = states other := by
  rw [owned, ask_through] at asked
  cases asked
  exact Function.update_of_ne distinct _ _

theorem Tries.untouched {devices : ∀ leaf, Bus (State leaf)} {leaves tried : List Leaf}
    {request : Request} {states later : ∀ leaf, State leaf} {answer : BusResult × Bytes}
    (tries : Tries (owned devices) leaves request states tried answer later) {other : Leaf}
    (spared : other ∉ tried) : later other = states other := by
  induction tries with
  | succeeds rest asked => exact eq_of_ask_owned asked (List.ne_of_not_mem_cons spared)
  | exhausted asked => exact eq_of_ask_owned asked (List.ne_of_not_mem_cons spared)
  | passes asked others inductionHypothesis =>
      exact (inductionHypothesis (List.not_mem_of_not_mem_cons spared)).trans
        (eq_of_ask_owned asked (List.ne_of_not_mem_cons spared))

end Owned

section Always

def Refuses (request : Request) (answer : BusResult × Bytes) : Prop :=
  ∃ error, answer = (.error error, request.buffer)

def Accepts (_ : Request) (answer : BusResult × Bytes) : Prop :=
  answer.1 = .ok ()

variable (bus : Bus Env)

/-- Whatever it has been asked before, from a state on, a bus answers with a property. -/
def Always (answers : Request → BusResult × Bytes → Prop) (env : Env) : Prop :=
  ∀ requests request, answers request (bus.ask request (inOrder bus.ask requests env).2).1

def Dead (env : Env) : Prop :=
  bus.Always Refuses env

def Sound (env : Env) : Prop :=
  bus.Always Accepts env

variable {bus} {answers : Request → BusResult × Bytes → Prop}

theorem Always.now {env : Env} (always : bus.Always answers env) (request : Request) :
    answers request (bus.ask request env).1 :=
  always [] request

theorem Always.later {env : Env} (always : bus.Always answers env) (request : Request) :
    bus.Always answers (bus.ask request env).2 :=
  fun requests => always (request :: requests)

theorem always_of_invariant {invariant : Env → Prop}
    (asked : ∀ request env, invariant env →
      answers request (bus.ask request env).1 ∧ invariant (bus.ask request env).2)
    {env : Env} (holds : invariant env) : bus.Always answers env := by
  intro requests request
  induction requests generalizing env with
  | nil => exact (asked request env holds).1
  | cons earlier rest inductionHypothesis =>
      exact inductionHypothesis (asked earlier env holds).2

variable (bus answers)

/-- The bus on the states from which it always answers with the property. -/
def lasting : Bus (Subtype (bus.Always answers)) where
  write address data env :=
    ((bus.write address data env.1).1, ⟨_, env.2.later (.write address data)⟩)
  fetch address buffer env :=
    ((bus.fetch address buffer env.1).1, ⟨_, env.2.later (.read address buffer)⟩)
  exchange address output buffer env :=
    ((bus.exchange address output buffer env.1).1,
      ⟨_, env.2.later (.writeRead address output buffer)⟩)

theorem lasting_commutes (request : Request) :
    Commutes Subtype.val ((bus.lasting answers).ask request) (bus.ask request) := by
  intro env
  cases request with
  | write address data => rfl
  | read address buffer => rfl
  | writeRead address output buffer => rfl

theorem lasting_ask (request : Request) (env : Subtype (bus.Always answers)) :
    answers request ((bus.lasting answers).ask request env).1 := by
  have now := env.2.now request
  rwa [lasting_commutes bus answers request env] at now

end Always

section Pair

variable {Primary : Type u} {Secondary : Type v} {Shown : Type w}

def redundant (primary : Bus Primary) (secondary : Bus Secondary) : Bus (Primary × Secondary) :=
  (primary.through .fst).fallback (secondary.through .snd)

theorem redundant_commutes {shown : Primary → Shown} {primary : Bus Primary} {image : Bus Shown}
    (commutes : ∀ request, Commutes shown (primary.ask request) (image.ask request))
    (secondary : Bus Secondary) (request : Request) :
    Commutes (Prod.map shown id) ((primary.redundant secondary).ask request)
      ((image.redundant secondary).ask request) := by
  intro states
  simp only [redundant, ask_fallback, ask_through, Lens.lift, Lens.fst, Lens.snd, Prod.map,
    commutes request states.1]
  rcases primary.ask request states.1 with ⟨⟨_ | _, buffer⟩, later⟩
  · rfl
  · rfl

section Primary

variable {primary : Bus Primary} (secondary : Bus Secondary)

theorem redundant_of_refuses
    (refuses : ∀ request first, Refuses request (primary.ask request first).1)
    (request : Request) :
    Commutes Prod.snd ((primary.redundant secondary).ask request) (secondary.ask request) := by
  intro states
  obtain ⟨error, failed⟩ := refuses request states.1
  simp only [redundant, ask_fallback, ask_through, Lens.lift, Lens.fst, Lens.snd, failed,
    Request.refilled_buffer]

theorem redundant_of_accepts
    (accepts : ∀ request first, Accepts request (primary.ask request first).1)
    (second : Secondary) (request : Request) :
    Commutes (fun first => (first, second)) (primary.ask request)
      ((primary.redundant secondary).ask request) := by
  intro first
  have accepted := accepts request first
  rw [redundant, ask_fallback, ask_through]
  rcases asked : primary.ask request first with ⟨⟨_ | _, buffer⟩, later⟩
  · rw [asked] at accepted
    cases accepted
  · simp only [Lens.lift, Lens.fst, asked]

end Primary

end Pair

section Lasting

variable {Primary : Type u} {Secondary : Type v} {Delay : Type w} {primary : Bus Primary}
  (secondary : Bus Secondary) {first : Primary} (second : Secondary)

/-- To the radio, a pair with a dead primary bus is its secondary bus. -/
theorem Dead.perform (dead : primary.Dead first) (pause : Nat → Delay → Delay) (code : UInt32)
    (stats : RadioStats) (delay : Delay) (calls : List RadioCall) :
    let done := inOrder (Radio.perform (.onBus (primary.redundant secondary) pause) code) calls
      { stats, env := ((first, second), delay) }
    inOrder (Radio.perform (.onBus secondary pause) code) calls { stats, env := (second, delay) } =
      (done.1, done.2.showing (Prod.map Prod.snd id)) := by
  intro done
  -- The pair on the states that are left to the primary bus is seen from both sides.
  let left : Radio ((Subtype primary.Dead × Secondary) × Delay) :=
    { stats, env := ((⟨first, dead⟩, second), delay) }
  have whole := Radio.showing_onBus
    (redundant_commutes (lasting_commutes primary Refuses) secondary) pause code calls left
  have alone := Radio.showing_onBus
    (redundant_of_refuses secondary (lasting_ask primary Refuses)) pause code calls left
  rw [show done = _ from whole]
  exact alone

theorem Sound.ask (sound : primary.Sound first) (requests : List Request) :
    let done := inOrder primary.ask requests first
    inOrder (primary.redundant secondary).ask requests (first, second) =
      (done.1, (done.2, second)) := by
  intro done
  have whole := inOrder_commutes
    (redundant_commutes (lasting_commutes primary Accepts) secondary) requests
    (⟨first, sound⟩, second)
  have alone := inOrder_commutes
    (redundant_of_accepts secondary (lasting_ask primary Accepts) second) requests ⟨first, sound⟩
  have same := inOrder_commutes (lasting_commutes primary Accepts) requests ⟨first, sound⟩
  rw [show done = _ from same]
  rw [alone] at whole
  exact whole

/-- To the radio, a pair with a sound primary bus is this bus, and the other one is not touched. -/
theorem Sound.perform (sound : primary.Sound first) (pause : Nat → Delay → Delay) (code : UInt32)
    (stats : RadioStats) (delay : Delay) (calls : List RadioCall) :
    let done := inOrder (Radio.perform (.onBus primary pause) code) calls
      { stats, env := (first, delay) }
    inOrder (Radio.perform (.onBus (primary.redundant secondary) pause) code) calls
        { stats, env := ((first, second), delay) } =
      (done.1, done.2.showing (Prod.map (fun first => (first, second)) id)) := by
  intro done
  let left : Radio (Subtype primary.Sound × Delay) := { stats, env := (⟨first, sound⟩, delay) }
  have whole := Radio.showing_onBus
    (redundant_commutes (lasting_commutes primary Accepts) secondary) pause code calls
    (left.showing (Prod.map (fun first => (first, second)) id))
  have alone := Radio.showing_onBus
    (redundant_of_accepts secondary (lasting_ask primary Accepts) second) pause code calls left
  have same := Radio.showing_onBus (lasting_commutes primary Accepts) pause code calls left
  rw [show done = _ from same]
  rw [alone] at whole
  exact whole

end Lasting

/--
In a tree of redundant pairs a request goes to the leaves from left to right, to
each of them once and with the buffer as the one before has left it, until one
succeeds or the last one has failed; no leaf after that is touched. So the order
of the leaves decides everything. To the radio a pair is its secondary bus if
the primary one is dead, and a primary bus that never fails spares the other.
-/
theorem request_tree [DecidableEq Leaf] {State : Leaf → Type w}
    (devices : ∀ leaf, Bus (State leaf)) (tree : BusTree Leaf) {Primary Secondary Delay : Type x}
    (primary : Bus Primary) (secondary : Bus Secondary) (pause : Nat → Delay → Delay)
    (code : UInt32) :
    (∀ request states,
      let done := (tree.bus (owned devices)).ask request states
      ∃ tried, Tries (owned devices) tree.leaves request states tried done.1 done.2 ∧
        tried <+: tree.leaves ∧
        (done.1.1 ≠ .ok () → tried = tree.leaves) ∧
        ∀ leaf, leaf ∉ tried → done.2 leaf = states leaf) ∧
    (∀ other : BusTree Leaf, other.leaves = tree.leaves → ∀ requests states,
      inOrder (other.bus (owned devices)).ask requests states =
        inOrder (tree.bus (owned devices)).ask requests states) ∧
    (∀ first, primary.Dead first → ∀ second delay stats calls,
      let done := inOrder (Radio.perform (.onBus (primary.redundant secondary) pause) code) calls
        { stats, env := ((first, second), delay) }
      inOrder (Radio.perform (.onBus secondary pause) code) calls
          { stats, env := (second, delay) } =
        (done.1, done.2.showing (Prod.map Prod.snd id))) ∧
    (∀ first, primary.Sound first → ∀ second,
      (∀ requests,
        let done := inOrder primary.ask requests first
        inOrder (primary.redundant secondary).ask requests (first, second) =
          (done.1, (done.2, second))) ∧
      ∀ delay stats calls,
        let done := inOrder (Radio.perform (.onBus primary pause) code) calls
          { stats, env := (first, delay) }
        inOrder (Radio.perform (.onBus (primary.redundant secondary) pause) code) calls
            { stats, env := ((first, second), delay) } =
          (done.1, done.2.showing (Prod.map (fun first => (first, second)) id))) := by
  refine ⟨fun request states => ?_, fun other same requests states => ?_,
    fun first dead second delay stats calls => ?_, fun first sound second => ⟨?_, ?_⟩⟩
  · obtain ⟨tried, tries⟩ := tries_tree (owned devices) tree request states
    exact ⟨tried, tries, tries.prefix_leaves, tries.eq_leaves, fun _ spared =>
      tries.untouched spared⟩
  · rw [funext (ask_congr_leaves (owned devices) same)]
  · exact dead.perform secondary second pause code stats delay calls
  · exact sound.ask secondary second
  · exact fun delay stats calls => sound.perform secondary second pause code stats delay calls

def silent : Bus Unit where
  write _ _ env := (.ok (), env)
  fetch _ _ env := ((.ok (), []), env)
  exchange _ _ _ env := ((.ok (), []), env)

theorem silent_sound : silent.Sound () :=
  fun _ request => by cases request <;> rfl

end Bus

theorem Transceiver.dead_of_offline {device : Transceiver} (offline : device.offline = true) :
    bus.Dead device := by
  refine @Bus.always_of_invariant _ _ _ (fun device => device.offline = true) ?_ _ offline
  intro request device offline
  cases request with
  | write address data =>
      simp [Bus.ask, Bus.Refuses, bus, onWrite, offline, Bus.Request.buffer]
  | read address buffer =>
      simp [Bus.ask, Bus.Refuses, Bus.read, bus, onRead, offline, Bus.Request.buffer]
  | writeRead address output buffer =>
      simp [Bus.ask, Bus.Refuses, Bus.writeRead, bus, onWrite, offline, Bus.Request.buffer]

namespace Bus

/-- The two ways to nest three transceivers, and pairs with a dead and a sound primary bus. -/
theorem request_tree_of_transceivers :
    let devices : Fin 3 → Bus Transceiver := fun _ => Transceiver.bus
    let left : BusTree (Fin 3) := .pair (.pair (.leaf 0) (.leaf 1)) (.leaf 2)
    let right : BusTree (Fin 3) := .pair (.leaf 0) (.pair (.leaf 1) (.leaf 2))
    let pause : Nat → Nat → Nat := fun millis waited => waited + millis
    let broken := { Transceiver.idle with offline := true }
    (right.leaves = left.leaves ∧ ∀ requests states,
      inOrder (right.bus (owned devices)).ask requests states =
        inOrder (left.bus (owned devices)).ask requests states) ∧
    (Transceiver.bus.Dead broken ∧ ∀ calls,
      let done := inOrder
        (Radio.perform (.onBus (Transceiver.bus.redundant Transceiver.bus) pause) 0) calls
        { stats := .empty, env := ((broken, .idle), 0) }
      inOrder (Radio.perform (.onBus Transceiver.bus pause) 0) calls
          { stats := .empty, env := (.idle, 0) } =
        (done.1, done.2.showing (Prod.map Prod.snd id))) ∧
    (silent.Sound () ∧ ∀ requests,
      let done := inOrder silent.ask requests ()
      inOrder (silent.redundant Transceiver.bus).ask requests ((), .idle) =
        (done.1, (done.2, .idle))) := by
  intro devices left right pause broken
  have dead : Transceiver.bus.Dead broken := Transceiver.dead_of_offline rfl
  have nested := request_tree devices left Transceiver.bus Transceiver.bus pause 0
  have sound := request_tree devices left silent Transceiver.bus pause 0
  exact ⟨⟨rfl, nested.2.1 right rfl⟩, ⟨dead, nested.2.2.1 broken dead .idle 0 .empty⟩,
    silent_sound, (sound.2.2.2 () silent_sound .idle).1⟩

end Bus

end Cubesat
