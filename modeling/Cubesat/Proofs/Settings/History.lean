import Cubesat.Proofs.Settings.Envelope

/-!
Histories of a storage device.

Images of different lengths are written over one another and nothing is erased
between them, while the device fails and recovers at any time. The newest image
stays at the front of the region, so that loading finds the settings that were
saved last; a region that is smaller than the one that is set aside for an image
takes images that can never be loaded.
-/

namespace Cubesat

/-- What happens to storage: a state is saved, or the device begins or ceases to fail. -/
inductive StorageEvent where
  | save (state : PersistentState)
  | turn (failing : Bool)
  deriving DecidableEq

namespace MemoryStorage

open Image (encode regionSize)

def Takes (size : Nat) (storage : MemoryStorage) : Prop :=
  storage.failing = false ∧ size ≤ storage.region.length

instance (size : Nat) (storage : MemoryStorage) : Decidable (storage.Takes size) :=
  inferInstanceAs (Decidable (storage.failing = false ∧ size ≤ storage.region.length))

def refusal (size : Nat) (storage : MemoryStorage) : StorageError :=
  if storage.failing then .deviceFailure else .outOfRange storage.region.length size

theorem failing_or_short {size : Nat} {storage : MemoryStorage} (refuses : ¬ storage.Takes size) :
    storage.failing = true ∨ storage.failing = false ∧ storage.region.length < size := by
  cases failing : storage.failing with
  | true => exact Or.inl rfl
  | false =>
      refine Or.inr ⟨rfl, ?_⟩
      apply Nat.lt_of_not_le
      intro room
      exact refuses ⟨failing, room⟩

theorem save_of_takes {storage : MemoryStorage} {settings : Settings}
    (takes : storage.Takes (encode settings).length) :
    unit.save settings storage =
      (.ok (encode settings).length,
        { storage with region := overwritten (encode settings) storage.region }) := by
  obtain ⟨working, room⟩ := takes
  apply StorageUnit.save_of_accepted
  simp [unit, write, working, Nat.not_lt.mpr room, overwritten]

theorem save_of_not_takes {storage : MemoryStorage} {settings : Settings}
    (refuses : ¬ storage.Takes (encode settings).length) :
    unit.save settings storage =
      (.error (.storage (storage.refusal (encode settings).length)), storage) := by
  apply StorageUnit.save_of_refused
  rcases failing_or_short refuses with failing | ⟨working, short⟩
  · simp [unit, write, refusal, failing]
  · simp [unit, write, refusal, working, short]

/-- What a save reports, and what has become of the region. -/
structure Written (settings : Settings) (before : MemoryStorage)
    (done : Except SettingsError Nat × MemoryStorage) : Prop where
  succeeds : (∃ used, done.1 = .ok used) ↔ before.Takes (encode settings).length
  kept : ∀ error, done.1 = .error error → done.2 = before
  placed : ∀ used, done.1 = .ok used → used = (encode settings).length ∧
    done.2 = { before with region := overwritten (encode settings) before.region }

theorem save_written (storage : MemoryStorage) (settings : Settings) :
    Written settings storage (unit.save settings storage) := by
  by_cases takes : storage.Takes (encode settings).length
  · rw [save_of_takes takes]
    refine { succeeds := ?_, kept := ?_, placed := ?_ }
    · exact ⟨fun _ => takes, fun _ => ⟨_, rfl⟩⟩
    · intro error refused
      cases refused
    · intro used succeeded
      cases succeeded
      exact ⟨rfl, rfl⟩
  · rw [save_of_not_takes takes]
    refine { succeeds := ?_, kept := ?_, placed := ?_ }
    · constructor
      · rintro ⟨used, succeeded⟩
        cases succeeded
      · intro accepted
        exact absurd accepted takes
    · intro error _
      rfl
    · intro used succeeded
      cases succeeded

theorem load_of_takes {storage : MemoryStorage} {settings : Settings}
    (takes : storage.Takes regionSize) (front : encode settings <+: storage.region)
    (destination : PersistentState) :
    unit.load destination storage = (.ok (), { settings, modified := false }, storage) := by
  obtain ⟨working, room⟩ := takes
  obtain ⟨rest, same⟩ := front
  have fetched : storage.read regionSize = .ok (storage.region.take regionSize) := by
    simp [read, working, Nat.not_lt.mpr room]
  have whole : Bytes.receive (Bytes.zeros regionSize) (storage.region.take regionSize) =
      storage.region.take regionSize := by
    apply Bytes.receive_of_length_eq
    rw [length_of_read fetched, Bytes.length_zeros]
  have image : storage.region.take regionSize =
      encode settings ++ rest.take (regionSize - (encode settings).length) := by
    rw [← same, List.take_append, List.take_of_length_le (Image.length_encode_le_regionSize _)]
  have restored : destination.restore (storage.region.take regionSize) =
      (.ok (), { settings, modified := false }) := by
    apply PersistentState.restore_eq_ok_iff.mpr
    rw [image]
    exact ⟨Image.decode_encode_append _ _, rfl⟩
  simp [StorageUnit.load, unit, fetched, whole, restored]

theorem load_of_not_takes {storage : MemoryStorage} (refuses : ¬ storage.Takes regionSize)
    (destination : PersistentState) :
    unit.load destination storage =
      (.error (.storage (storage.refusal regionSize)), destination, storage) := by
  have refused : storage.read regionSize = .error (storage.refusal regionSize) := by
    rcases failing_or_short refuses with failing | ⟨working, short⟩
    · simp [read, refusal, failing]
    · simp [read, refusal, working, short]
  simp [StorageUnit.load, unit, refused]

def after (storage : MemoryStorage) : StorageEvent → MemoryStorage
  | .save state => (unit.save state.settings storage).2
  | .turn failing => { storage with failing }

def accepted (storage : MemoryStorage) : StorageEvent → Option PersistentState
  | .save state => if (unit.save state.settings storage).1.isOk then some state else none
  | .turn _ => none

def run (storage : MemoryStorage) (events : List StorageEvent) : MemoryStorage :=
  events.foldl after storage

/-- The states whose saves have reported success in the course of events, oldest first. -/
def saved : MemoryStorage → List StorageEvent → List PersistentState
  | _, [] => []
  | storage, event :: events =>
      (storage.accepted event).toList ++ saved (storage.after event) events

theorem length_after (storage : MemoryStorage) (event : StorageEvent) :
    (storage.after event).region.length = storage.region.length := by
  cases event with
  | turn failing => rfl
  | save state =>
      rw [after]
      by_cases takes : storage.Takes (encode state.settings).length
      · rw [save_of_takes takes]
        exact length_overwritten takes.2
      · rw [save_of_not_takes takes]

theorem length_run (storage : MemoryStorage) (events : List StorageEvent) :
    (storage.run events).region.length = storage.region.length := by
  induction events generalizing storage with
  | nil => rfl
  | cons event events inductionHypothesis =>
      exact (inductionHypothesis (storage.after event)).trans (length_after storage event)

/-- The image of the state that was saved last, if there is one, is at the front. -/
def Holds (storage : MemoryStorage) (last : Option PersistentState) : Prop :=
  ∀ state ∈ last, encode state.settings <+: storage.region

theorem Holds.after {storage : MemoryStorage} {last : Option PersistentState}
    (holds : storage.Holds last) (event : StorageEvent) :
    (storage.after event).Holds ((storage.accepted event).or last) := by
  cases event with
  | turn failing => exact holds
  | save state =>
      by_cases takes : storage.Takes (encode state.settings).length
      · simp only [MemoryStorage.after, accepted, save_of_takes takes, Except.isOk, Except.toBool,
          if_true, Option.some_or]
        intro newest isNewest
        rw [← Option.mem_some_iff.mp isNewest]
        exact List.prefix_append _ _
      · simp only [MemoryStorage.after, accepted, save_of_not_takes takes, Except.isOk,
          Except.toBool, Bool.false_eq_true, if_false, Option.none_or]
        exact holds

theorem Holds.run {storage : MemoryStorage} {last : Option PersistentState}
    (holds : storage.Holds last) (events : List StorageEvent) :
    (storage.run events).Holds ((storage.saved events).getLast?.or last) := by
  induction events generalizing storage last with
  | nil => exact holds
  | cons event events inductionHypothesis =>
      have front : ((storage.accepted event).toList ++
          (storage.after event).saved events).getLast?.or last =
            ((storage.after event).saved events).getLast?.or
              ((storage.accepted event).or last) := by
        rw [List.getLast?_append, Option.or_assoc]
        cases storage.accepted event <;> rfl
      rw [saved, front]
      exact inductionHypothesis (holds.after event)

/--
After any history of saves and failures, a save succeeds if and only if the
device works and the image fits on the region, whose size never changes. It
changes the bytes under the image and no others, or none at all. Loading gives
the state that was saved last, unless the region is smaller than what loading
asks for: then it is refused, whatever has been saved.
-/
theorem keeps_last_saved (storage : MemoryStorage) (events : List StorageEvent) :
    let size := storage.region.length
    let later := storage.run events
    later.region.length = size ∧
      (∀ state : PersistentState,
        let image := encode state.settings
        let result := unit.save state.settings later
        ((∃ used, result.1 = .ok used) ↔ later.failing = false ∧ image.length ≤ size) ∧
          (∀ error, result.1 = .error error → result.2 = later) ∧
            ∀ used, result.1 = .ok used →
              used = image.length ∧ result.2.failing = later.failing ∧
                result.2.region.length = size ∧ result.2.region.take image.length = image ∧
                  result.2.region.drop image.length = later.region.drop image.length) ∧
        (regionSize ≤ size → later.failing = false →
          ∀ last ∈ (storage.saved events).getLast?, ∀ destination : PersistentState,
            unit.load destination later =
              (.ok (), { settings := last.settings, modified := false }, later)) ∧
          (size < regionSize → ∀ destination : PersistentState,
            unit.load destination later =
              (.error (.storage (if later.failing then .deviceFailure
                else .outOfRange size regionSize)), destination, later)) := by
  intro size later
  have length : later.region.length = size := length_run storage events
  refine ⟨length, ?_, ?_, ?_⟩
  · intro state image result
    have written : Written state.settings later result := later.save_written state.settings
    refine ⟨?_, written.kept, ?_⟩
    · rw [written.succeeds, ← length]
      exact Iff.rfl
    · intro used succeeded
      obtain ⟨measured, placed⟩ := written.placed used succeeded
      have fits := (written.succeeds.mp ⟨used, succeeded⟩).2
      rw [placed]
      refine ⟨measured, rfl, ?_, ?_, ?_⟩
      · exact (length_overwritten fits).trans length
      · exact List.take_left
      · exact List.drop_left
  · intro room working last isLast destination
    have unsaved : storage.Holds none := by
      intro state impossible
      cases impossible
    have front : encode last.settings <+: later.region := by
      apply unsaved.run events
      rw [Option.or_none]
      exact isLast
    apply load_of_takes
    · exact ⟨working, length ▸ room⟩
    · exact front
  · intro small destination
    have refuses : ¬ later.Takes regionSize := by
      intro takes
      have room := takes.2
      omega
    rw [load_of_not_takes refuses, refusal, length]

/-- A short image over a long one with a failed save between them, and a region of forty bytes. -/
theorem keeps_last_saved_uneven :
    let long : PersistentState :=
      { PersistentState.initial with
        settings := { Settings.initial with
          clockWeights := ⟨-3000, 3000⟩, callsign := ⟨"SP9PWS/LONG/CALL", by decide⟩ } }
    let short : PersistentState :=
      { settings := { Settings.initial with callsign := ⟨"X", by decide⟩ }, modified := true }
    let events : List StorageEvent :=
      [.save long, .turn true, .save .initial, .turn false, .save short]
    let wide := (erased 256).run events
    let narrow := (erased 40).run events
    ((erased 256).saved events = [long, short] ∧
        wide.region.drop 31 = Image.magic ++ List.replicate 221 0xFF ∧
          unit.load .initial wide = (.ok (), { short with modified := false }, wide)) ∧
      (narrow.failing = false ∧ (∃ used, (unit.save long.settings narrow).1 = .ok used) ∧
        ∀ destination, unit.load destination narrow =
          (.error (.storage (.outOfRange 40 256)), destination, narrow)) := by
  intro long short events wide narrow
  obtain ⟨-, -, loads, -⟩ := keeps_last_saved (erased 256) events
  obtain ⟨-, saves, -, refuses⟩ := keeps_last_saved (erased 40) events
  have saved : (erased 256).saved events = [long, short] := by decide +kernel
  have working : narrow.failing = false := by decide +kernel
  refine ⟨⟨saved, ?_, ?_⟩, working, ?_, ?_⟩
  · decide +kernel
  · apply loads (by decide +kernel) (by decide +kernel) short
    rw [saved]
    rfl
  · apply (saves long).1.mpr
    exact ⟨working, by decide +kernel⟩
  · intro destination
    have refused := refuses (by decide +kernel) destination
    rw [working] at refused
    exact refused

end MemoryStorage

end Cubesat
