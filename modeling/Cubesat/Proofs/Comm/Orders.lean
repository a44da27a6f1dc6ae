import Cubesat.Comm.Frame
import Mathlib.Tactic.ByContra

/-!
What a queue of uplinked frames asks for.

A frame that is not an order asks for nothing, and of the requests of a queue
the most significant one is left, in whatever order the frames have come.
-/

namespace Cubesat

namespace GroundRequest

/-- The content of a frame is an order: short enough, and a command after the security code. -/
def Orders (code : UInt32) (content : Bytes) (command : UInt8) : Prop :=
  content.length ≤ Comm.maxDownlinkSize ∧
    ∃ rest, content = Bytes.bigEndian 4 code.toNat ++ command :: rest

def ofContent (code : UInt32) (content : Bytes) : GroundRequest :=
  if content.length ≤ Comm.maxDownlinkSize then ofPayload code content else none

def ofQueue (code : UInt32) (contents : List Bytes) : GroundRequest :=
  (contents.map (ofContent code)).foldl merge none

theorem ofPayload_eq (code : UInt32) (payload : Bytes) :
    ofPayload code payload =
      if payload.take 4 = Bytes.bigEndian 4 code.toNat then
        match payload.drop 4 with
        | [] => none
        | command :: _ => if command = Comm.beaconCommand then sendBeacon else reboot
      else none := by
  have size : (Bytes.bigEndian 4 code.toNat).length = 4 := by
    simp [Bytes.bigEndian]
  match payload with
  | [] => rw [if_neg (by intro same; simp [← same] at size)]; rfl
  | [_] => rw [if_neg (by intro same; simp [← same] at size)]; rfl
  | [_, _] => rw [if_neg (by intro same; simp [← same] at size)]; rfl
  | [_, _, _] => rw [if_neg (by intro same; simp [← same] at size)]; rfl
  | a :: b :: c :: d :: rest =>
      have fits : code.toNat < Nat.pow 256 [a, b, c, d].length := by
        have bound := code.toNat_lt
        simp only [List.length_cons, List.length_nil, Nat.pow_eq]
        omega
      have known : Bytes.ofBigEndian [a, b, c, d] = code.toNat ↔
          [a, b, c, d] = Bytes.bigEndian 4 code.toNat :=
        Bytes.ofBigEndian_eq_iff fits
      simp only [ofPayload, known]
      rfl

theorem orders_iff {code : UInt32} {content : Bytes} {command : UInt8} :
    Orders code content command ↔ content.length ≤ Comm.maxDownlinkSize ∧
      content.take 4 = Bytes.bigEndian 4 code.toNat ∧
        ∃ rest, content.drop 4 = command :: rest := by
  have size : (Bytes.bigEndian 4 code.toNat).length = 4 := by
    simp [Bytes.bigEndian]
  constructor
  · rintro ⟨short, rest, rfl⟩
    exact ⟨short, List.take_left' size, rest, List.drop_left' size⟩
  · rintro ⟨short, front, rest, back⟩
    refine ⟨short, rest, ?_⟩
    rw [← front, ← back, List.take_append_drop]

theorem ofContent_of_orders {code : UInt32} {content : Bytes} {command : UInt8}
    (orders : Orders code content command) :
    ofContent code content = if command = Comm.beaconCommand then sendBeacon else reboot := by
  obtain ⟨short, front, rest, back⟩ := orders_iff.mp orders
  rw [ofContent, if_pos short, ofPayload_eq, if_pos front, back]

theorem ofContent_eq_none_iff {code : UInt32} {content : Bytes} :
    ofContent code content = none ↔ ∀ command, ¬ Orders code content command := by
  constructor
  · intro nothing command orders
    rw [ofContent_of_orders orders] at nothing
    split at nothing
    · cases nothing
    · cases nothing
  · intro disordered
    unfold ofContent
    split
    · rename_i short
      rw [ofPayload_eq]
      split
      · rename_i front
        cases back : content.drop 4 with
        | nil => rfl
        | cons command rest =>
            exact absurd (orders_iff.mpr ⟨short, front, rest, back⟩) (disordered command)
      · rfl
    · rfl

theorem ofContent_eq_reboot_iff {code : UInt32} {content : Bytes} :
    ofContent code content = reboot ↔
      ∃ command, command ≠ Comm.beaconCommand ∧ Orders code content command := by
  constructor
  · intro asked
    have order : ∃ command, Orders code content command := by
      by_contra disordered
      rw [ofContent_eq_none_iff.mpr (not_exists.mp disordered)] at asked
      cases asked
    obtain ⟨command, orders⟩ := order
    refine ⟨command, ?_, orders⟩
    rintro rfl
    rw [ofContent_of_orders orders] at asked
    cases asked
  · rintro ⟨command, other, orders⟩
    rw [ofContent_of_orders orders, if_neg other]

theorem ofContent_eq_sendBeacon_iff {code : UInt32} {content : Bytes} :
    ofContent code content = sendBeacon ↔ Orders code content Comm.beaconCommand := by
  constructor
  · intro asked
    have order : ∃ command, Orders code content command := by
      by_contra disordered
      rw [ofContent_eq_none_iff.mpr (not_exists.mp disordered)] at asked
      cases asked
    obtain ⟨command, orders⟩ := order
    by_cases beacon : command = Comm.beaconCommand
    · rw [← beacon]
      exact orders
    · rw [ofContent_of_orders orders, if_neg beacon] at asked
      cases asked
  · intro orders
    rw [ofContent_of_orders orders, if_pos rfl]

@[simp]
theorem merge_none (request : GroundRequest) : request.merge none = request := by
  cases request <;> rfl

theorem merge_eq_reboot_iff {first second : GroundRequest} :
    first.merge second = reboot ↔ first = reboot ∨ second = reboot := by
  cases first <;> cases second <;> decide

theorem foldl_merge_eq_reboot_iff {requests : List GroundRequest} {first : GroundRequest} :
    requests.foldl merge first = reboot ↔ first = reboot ∨ reboot ∈ requests := by
  induction requests generalizing first with
  | nil => simp
  | cons request rest inductionHypothesis =>
      rw [List.foldl_cons, inductionHypothesis, merge_eq_reboot_iff, List.mem_cons, or_assoc,
        @eq_comm _ request]

theorem foldl_merge_eq_sendBeacon_iff {requests : List GroundRequest} {first : GroundRequest} :
    requests.foldl merge first = sendBeacon ↔
      (first ≠ reboot ∧ reboot ∉ requests) ∧ (first = sendBeacon ∨ sendBeacon ∈ requests) := by
  induction requests generalizing first with
  | nil => cases first <;> simp
  | cons request rest inductionHypothesis =>
      rw [List.foldl_cons, inductionHypothesis]
      cases first <;> cases request <;> simp [merge]

theorem foldl_merge_eq_none_iff {requests : List GroundRequest} {first : GroundRequest} :
    requests.foldl merge first = none ↔ first = none ∧ ∀ request ∈ requests, request = none := by
  induction requests generalizing first with
  | nil => simp
  | cons request rest inductionHypothesis =>
      rw [List.foldl_cons, inductionHypothesis]
      cases first <;> cases request <;> simp [merge]

theorem ofQueue_eq_reboot_iff {code : UInt32} {contents : List Bytes} :
    ofQueue code contents = reboot ↔
      ∃ content ∈ contents, ∃ command, command ≠ Comm.beaconCommand ∧
        Orders code content command := by
  simp only [ofQueue, foldl_merge_eq_reboot_iff, List.mem_map, ofContent_eq_reboot_iff,
    reduceCtorEq, false_or]

theorem ofQueue_eq_sendBeacon_iff {code : UInt32} {contents : List Bytes} :
    ofQueue code contents = sendBeacon ↔
      ofQueue code contents ≠ reboot ∧
        ∃ content ∈ contents, Orders code content Comm.beaconCommand := by
  simp only [ofQueue, foldl_merge_eq_sendBeacon_iff, foldl_merge_eq_reboot_iff, List.mem_map,
    ofContent_eq_sendBeacon_iff, reduceCtorEq, false_or, ne_eq, not_false_eq_true, true_and]

theorem foldl_merge_filter (requests : List GroundRequest) (first : GroundRequest) :
    (requests.filter (· ≠ none)).foldl merge first = requests.foldl merge first := by
  induction requests generalizing first with
  | nil => rfl
  | cons request rest inductionHypothesis =>
      by_cases nothing : request = none
      · rw [List.filter_cons_of_neg (by simp [nothing]), List.foldl_cons, nothing, merge_none]
        exact inductionHypothesis first
      · rw [List.filter_cons_of_pos (by simp [nothing]), List.foldl_cons, List.foldl_cons]
        exact inductionHypothesis _

/-- Frames that ask for nothing can be left out. -/
theorem ofQueue_filter (code : UInt32) (contents : List Bytes) :
    ofQueue code (contents.filter fun content => ofContent code content ≠ none) =
      ofQueue code contents := by
  have kept := foldl_merge_filter (contents.map (ofContent code)) none
  rw [List.filter_map] at kept
  exact kept

theorem ofQueue_perm {code : UInt32} {contents others : List Bytes} (perm : contents.Perm others) :
    ofQueue code contents = ofQueue code others := by
  have reboots : ofQueue code contents = reboot ↔ ofQueue code others = reboot := by
    simp only [ofQueue_eq_reboot_iff, perm.mem_iff]
  have beacons : ofQueue code contents = sendBeacon ↔ ofQueue code others = sendBeacon := by
    rw [ofQueue_eq_sendBeacon_iff, ofQueue_eq_sendBeacon_iff, ne_eq, reboots]
    simp only [perm.mem_iff, ne_eq]
  cases first : ofQueue code contents <;> cases second : ofQueue code others <;>
    simp_all

end GroundRequest

end Cubesat
