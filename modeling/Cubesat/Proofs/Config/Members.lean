import Cubesat.Config.Field
import Cubesat.Proofs.Json.Texts

/-!
Configurations from the members of a JSON object.

The members may come in any order, among others that no field is named by. What
they give replaces the standard value of a field, and the rules are checked once
all is read. A member that does not fit is a fault of the text, whatever the
rules say.
-/

namespace Cubesat

namespace ConfigRule

def inOrder : List ConfigRule :=
  [cyclePeriodZero, noAntennaAttempt, detumblingWindowEmpty, beaconIntervalZero,
    powerCyclePeriodZero]

def IsBroken (config : MissionConfig) : ConfigRule → Prop
  | cyclePeriodZero => config.cyclePeriodMillis = 0
  | noAntennaAttempt => config.antennaMaxAttempts = 0
  | detumblingWindowEmpty => config.detumblingClosesSeconds ≤ config.detumblingOpensSeconds
  | beaconIntervalZero => config.beaconIntervalSeconds = 0
  | powerCyclePeriodZero => config.powerCycleSeconds = 0

instance (config : MissionConfig) : DecidablePred (IsBroken config)
  | cyclePeriodZero => inferInstanceAs (Decidable (_ = _))
  | noAntennaAttempt => inferInstanceAs (Decidable (_ = _))
  | detumblingWindowEmpty => inferInstanceAs (Decidable (_ ≤ _))
  | beaconIntervalZero => inferInstanceAs (Decidable (_ = _))
  | powerCyclePeriodZero => inferInstanceAs (Decidable (_ = _))

end ConfigRule

theorem MissionConfig.brokenRule?_eq_find? (config : MissionConfig) :
    config.brokenRule? = ConfigRule.inOrder.find? fun rule => rule.IsBroken config := by
  unfold brokenRule? ConfigRule.inOrder
  simp only [List.find?_cons, List.find?_nil, ConfigRule.IsBroken]
  split_ifs <;> simp only [*, decide_true, decide_false]

namespace Json

theorem ofOption_word_injective {a b : Option UInt64}
    (same : Json.ofOption (fun n => .ofNat n.toNat) a = .ofOption (fun n => .ofNat n.toNat) b) :
    a = b := by
  cases a with
  | none =>
      cases b with
      | none => rfl
      | some m => cases same
  | some n =>
      cases b with
      | none => cases same
      | some m => exact congrArg some (UInt64.toNat_inj.mp (ofNat_injective same))

end Json

namespace ConfigField

def bound : ConfigField → Nat
  | antennaMaxAttempts => 256
  | securityCode => 4294967296
  | _ => 18446744073709551616

def put (config : MissionConfig) (n : Nat) : ConfigField → MissionConfig
  | cyclePeriod => { config with cyclePeriodMillis := .ofNat n }
  | antennaSilent => { config with antennaSilentSeconds := .ofNat n }
  | antennaRetry => { config with antennaRetrySeconds := .ofNat n }
  | antennaMaxAttempts => { config with antennaMaxAttempts := .ofNat n }
  | detumblingOpens => { config with detumblingOpensSeconds := .ofNat n }
  | detumblingCloses => { config with detumblingClosesSeconds := .ofNat n }
  | beaconInterval => { config with beaconIntervalSeconds := .ofNat n }
  | sailAutoOpen => { config with sailAutoOpenSeconds := some (.ofNat n) }
  | powerCycle => { config with powerCycleSeconds := .ofNat n }
  | securityCode => { config with securityCode := .ofNat n }

theorem toJson_put {field : ConfigField} {n : Nat} (inRange : n < field.bound)
    (config : MissionConfig) : field.toJson (field.put config n) = .ofNat n := by
  cases field with
  | antennaMaxAttempts => exact congrArg Json.ofNat (UInt8.toNat_ofNat_of_lt inRange)
  | securityCode => exact congrArg Json.ofNat (UInt32.toNat_ofNat_of_lt inRange)
  | _ => exact congrArg Json.ofNat (UInt64.toNat_ofNat_of_lt inRange)

theorem toJson_put_of_ne {field other : ConfigField} (distinct : other ≠ field)
    (config : MissionConfig) (n : Nat) :
    other.toJson (field.put config n) = other.toJson config := by
  cases field <;> cases other <;> first | rfl | exact absurd rfl distinct

/-- The values of the type of the field, as far as they are in its range. -/
inductive Admits (field : ConfigField) : Json → Prop
  | number {n : Nat} (inRange : n < field.bound) : Admits field (.ofNat n)
  | never (optional : field = sailAutoOpen) : Admits field .null

theorem naturalBelow?_eq_some_iff {bound n : Nat} {value : Json} :
    naturalBelow? bound value = some n ↔ value = .ofNat n ∧ n < bound := by
  cases value with
  | number number =>
      simp [naturalBelow?, Option.filter_eq_some_iff, Json.Number.natural?_eq_some_iff, Json.ofNat]
  | _ => simp [naturalBelow?, Json.ofNat]

theorem assign?_eq_map_put {field : ConfigField} {value : Json}
    (present : field = sailAutoOpen → value ≠ .null) (config : MissionConfig) :
    field.assign? config value = (naturalBelow? field.bound value).map (field.put config ·) := by
  cases field with
  | antennaMaxAttempts => rfl
  | securityCode => rfl
  | sailAutoOpen =>
      cases value with
      | null => exact absurd rfl (present rfl)
      | number number => exact Option.map_map _ _ _
      | _ => rfl
  | _ => exact Option.map_map _ _ _

theorem exists_assign? {field : ConfigField} {value : Json} (admits : field.Admits value)
    (config : MissionConfig) :
    ∃ next, field.assign? config value = some next ∧ field.toJson next = value ∧
      ∀ other, other ≠ field → other.toJson next = other.toJson config := by
  cases admits with
  | @number n inRange =>
      have read : naturalBelow? field.bound (.ofNat n) = some n :=
        naturalBelow?_eq_some_iff.mpr ⟨rfl, inRange⟩
      have present : Json.ofNat n ≠ .null := nofun
      refine ⟨field.put config n, ?_, toJson_put inRange config, ?_⟩
      · rw [assign?_eq_map_put fun _ => present, read, Option.map_some]
      · intro other distinct
        exact toJson_put_of_ne distinct config n
  | never optional =>
      subst optional
      refine ⟨{ config with sailAutoOpenSeconds := none }, rfl, rfl, ?_⟩
      intro other distinct
      cases other <;> first | rfl | exact absurd rfl distinct

theorem admits_of_assign? {field : ConfigField} {value : Json} {config next : MissionConfig}
    (assigned : field.assign? config value = some next) : field.Admits value := by
  by_cases never : field = sailAutoOpen ∧ value = .null
  · obtain ⟨optional, rfl⟩ := never
    exact .never optional
  · rw [assign?_eq_map_put (not_and.mp never)] at assigned
    obtain ⟨n, read, -⟩ := Option.map_eq_some_iff.mp assigned
    obtain ⟨rfl, inRange⟩ := naturalBelow?_eq_some_iff.mp read
    exact .number inRange

theorem admits_toJson (config : MissionConfig) (field : ConfigField) :
    field.Admits (field.toJson config) := by
  cases field with
  | sailAutoOpen =>
      unfold toJson
      cases config.sailAutoOpenSeconds with
      | none => exact .never rfl
      | some seconds => exact .number seconds.toNat_lt
  | antennaMaxAttempts => exact .number (UInt8.toNat_lt _)
  | securityCode => exact .number (UInt32.toNat_lt _)
  | _ => exact .number (UInt64.toNat_lt _)

theorem ofKey?_eq_some_iff {key : String} {field : ConfigField} :
    ofKey? key = some field ↔ key = field.key := by
  constructor
  · intro found
    have same := List.find?_some found
    exact (of_decide_eq_true same).symm
  · rintro rfl
    cases field <;> rfl

theorem key_injective {field other : ConfigField} (same : field.key = other.key) :
    field = other :=
  Option.some.inj ((ofKey?_eq_some_iff.mpr rfl).symm.trans (ofKey?_eq_some_iff.mpr same))

theorem ofKey?_eq_none_iff {key : String} :
    ofKey? key = none ↔ ∀ field : ConfigField, key ≠ field.key := by
  simp only [Option.eq_none_iff_forall_ne_some, ne_eq, ofKey?_eq_some_iff]

theorem mem_all (field : ConfigField) : field ∈ all := by
  cases field <;> decide

/-- The member is one for the field, in whatever way its key is written. -/
def Names (field : ConfigField) (member : Json.Text × Json) : Prop :=
  member.1.string? = some field.key

instance (field : ConfigField) : DecidablePred field.Names :=
  fun _ => inferInstanceAs (Decidable (_ = _))

theorem Names.unique {field other : ConfigField} {member : Json.Text × Json}
    (named : field.Names member) (named' : other.Names member) : field = other :=
  key_injective (Option.some.inj (named.symm.trans named'))

end ConfigField

namespace MissionConfig

/-- Members that a configuration can be read from. -/
structure Fit (members : List (Json.Text × Json)) : Prop where
  /-- A key that escapes half of a surrogate pair is no string. -/
  keys : ∀ member ∈ members, member.1.string? ≠ none
  values : ∀ member ∈ members, ∀ field : ConfigField, field.Names member → field.Admits member.2
  once : members.Pairwise fun member later =>
    ∀ field : ConfigField, field.Names member → ¬ field.Names later

/-- The members replace what the base has for the fields that they name. -/
structure Overlaid (base : MissionConfig) (members : List (Json.Text × Json))
    (config : MissionConfig) : Prop where
  given : ∀ member ∈ members, ∀ field : ConfigField, field.Names member →
    field.toJson config = member.2
  kept : ∀ field : ConfigField, (∀ member ∈ members, ¬ field.Names member) →
    field.toJson config = field.toJson base

theorem fit_nil : Fit [] where
  keys := nofun
  values := nofun
  once := .nil

theorem fit_cons_iff {member : Json.Text × Json} {members : List (Json.Text × Json)} :
    Fit (member :: members) ↔
      member.1.string? ≠ none ∧
      (∀ field : ConfigField, field.Names member →
        field.Admits member.2 ∧ ∀ later ∈ members, ¬ field.Names later) ∧
      Fit members := by
  constructor
  · intro fit
    obtain ⟨first, others⟩ := List.pairwise_cons.mp fit.once
    refine ⟨fit.keys member List.mem_cons_self, ?_, ?_⟩
    · intro field named
      exact ⟨fit.values member List.mem_cons_self field named,
        fun later membership => first later membership field named⟩
    · exact
        { keys := fun later membership => fit.keys later (List.mem_cons_of_mem _ membership)
          values := fun later membership => fit.values later (List.mem_cons_of_mem _ membership)
          once := others }
  · rintro ⟨key, first, fit⟩
    exact
      { keys := List.forall_mem_cons.mpr ⟨key, fit.keys⟩
        values := List.forall_mem_cons.mpr ⟨fun field named => (first field named).1, fit.values⟩
        once := List.pairwise_cons.mpr
          ⟨fun later membership field named => (first field named).2 later membership, fit.once⟩ }

/-- What a configuration says of its fields is all there is to it. -/
theorem eq_of_toJson_eq {config other : MissionConfig}
    (same : ∀ field : ConfigField, field.toJson config = field.toJson other) : config = other := by
  have word {n m : UInt64} (same : Json.ofNat n.toNat = Json.ofNat m.toNat) : n = m :=
    UInt64.toNat_inj.mp (Json.ofNat_injective same)
  obtain ⟨⟩ := config
  obtain ⟨⟩ := other
  rw [mk.injEq]
  exact ⟨word (same .cyclePeriod), word (same .antennaSilent), word (same .antennaRetry),
    UInt8.toNat_inj.mp (Json.ofNat_injective (same .antennaMaxAttempts)),
    word (same .detumblingOpens), word (same .detumblingCloses), word (same .beaconInterval),
    Json.ofOption_word_injective (same .sailAutoOpen), word (same .powerCycle),
    UInt32.toNat_inj.mp (Json.ofNat_injective (same .securityCode))⟩

section Members

variable {member : Json.Text × Json} {members : List (Json.Text × Json)}
  {seen : List ConfigField} {config next : MissionConfig}

theorem readMembers?_named {field : ConfigField} (named : field.Names member) :
    readMembers? (member :: members) seen config =
      if field ∈ seen then none
      else (field.assign? config member.2).bind (readMembers? members (field :: seen)) := by
  have known : ConfigField.ofKey? field.key = some field := ConfigField.ofKey?_eq_some_iff.mpr rfl
  rw [readMembers?, named]
  simp only [known]

theorem readMembers?_unnamed (key : member.1.string? ≠ none)
    (unnamed : ∀ field : ConfigField, ¬ field.Names member) :
    readMembers? (member :: members) seen config = readMembers? members seen config := by
  obtain ⟨name, string⟩ := Option.ne_none_iff_exists'.mp key
  have unknown : ConfigField.ofKey? name = none :=
    ConfigField.ofKey?_eq_none_iff.mpr fun field same =>
      unnamed field (string.trans (congrArg some same))
  rw [readMembers?, string]
  simp only [unknown]

/-- Members that fit are read, if the fields read before are not named again. -/
theorem exists_readMembers? (fit : Fit members) (config : MissionConfig)
    (fresh : ∀ member ∈ members, ∀ field ∈ seen, ¬ field.Names member) :
    ∃ next, readMembers? members seen config = some next ∧ Overlaid config members next := by
  induction members generalizing seen config with
  | nil => exact ⟨config, rfl, nofun, fun _ _ => rfl⟩
  | cons member members inductionHypothesis =>
      obtain ⟨key, first, fit⟩ := fit_cons_iff.mp fit
      obtain ⟨fresh, later⟩ := List.forall_mem_cons.mp fresh
      by_cases named : ∃ field : ConfigField, field.Names member
      · obtain ⟨field, named⟩ := named
        obtain ⟨admits, once⟩ := first field named
        obtain ⟨assigned, read, taken, others⟩ := ConfigField.exists_assign? admits config
        have fresh' : ∀ member ∈ members, ∀ other ∈ field :: seen, ¬ other.Names member := by
          intro member membership
          exact List.forall_mem_cons.mpr ⟨once member membership, later member membership⟩
        obtain ⟨next, rest, overlaid⟩ := inductionHypothesis fit assigned fresh'
        refine ⟨next, ?_, ?_, ?_⟩
        · rw [readMembers?_named named, if_neg fun again => fresh field again named, read]
          exact rest
        · refine List.forall_mem_cons.mpr ⟨?_, overlaid.given⟩
          intro other named'
          obtain rfl := named.unique named'
          exact (overlaid.kept field once).trans taken
        · intro other unnamed
          obtain ⟨unnamed, unnamed'⟩ := List.forall_mem_cons.mp unnamed
          have distinct : other ≠ field := fun same => unnamed (same ▸ named)
          exact (overlaid.kept other unnamed').trans (others other distinct)
      · have unnamed := not_exists.mp named
        obtain ⟨next, rest, overlaid⟩ := inductionHypothesis fit config later
        refine ⟨next, (readMembers?_unnamed key unnamed).trans rest, ?_, ?_⟩
        · refine List.forall_mem_cons.mpr ⟨?_, overlaid.given⟩
          intro field named'
          exact absurd named' (unnamed field)
        · intro field absent
          exact overlaid.kept field (List.forall_mem_cons.mp absent).2

/-- Members that are read fit, and name no field that was read before. -/
theorem fit_of_readMembers? (read : readMembers? members seen config = some next) :
    Fit members ∧ ∀ member ∈ members, ∀ field ∈ seen, ¬ field.Names member := by
  induction members generalizing seen config with
  | nil => exact ⟨fit_nil, nofun⟩
  | cons member members inductionHypothesis =>
      have key : member.1.string? ≠ none := by
        intro missing
        rw [readMembers?, missing] at read
        cases read
      by_cases named : ∃ field : ConfigField, field.Names member
      · obtain ⟨field, named⟩ := named
        rw [readMembers?_named named, Option.ite_none_left_eq_some] at read
        obtain ⟨notSeen, read⟩ := read
        obtain ⟨assigned, assign, rest⟩ := Option.bind_eq_some_iff.mp read
        obtain ⟨fit, fresh⟩ := inductionHypothesis rest
        refine ⟨fit_cons_iff.mpr ⟨key, ?_, fit⟩, List.forall_mem_cons.mpr ⟨?_, ?_⟩⟩
        · intro other named'
          obtain rfl := named.unique named'
          exact ⟨ConfigField.admits_of_assign? assign,
            fun later membership => fresh later membership field List.mem_cons_self⟩
        · intro other again named'
          obtain rfl := named.unique named'
          exact notSeen again
        · intro later membership other again
          exact fresh later membership other (List.mem_cons_of_mem _ again)
      · have unnamed := not_exists.mp named
        rw [readMembers?_unnamed key unnamed] at read
        obtain ⟨fit, fresh⟩ := inductionHypothesis read
        refine ⟨fit_cons_iff.mpr ⟨key, ?_, fit⟩, List.forall_mem_cons.mpr ⟨?_, fresh⟩⟩
        · intro field named'
          exact absurd named' (unnamed field)
        · intro field _
          exact unnamed field

theorem readMembers?_eq_none_iff (config : MissionConfig) :
    readMembers? members [] config = none ↔ ¬ Fit members := by
  constructor
  · intro refused fit
    obtain ⟨next, read, -⟩ := @exists_readMembers? _ [] fit config nofun
    rw [refused] at read
    cases read
  · intro unfit
    refine Option.eq_none_iff_forall_ne_some.mpr fun next read => unfit (fit_of_readMembers? read).1

end Members

section Own

variable (config : MissionConfig)

def ownMembers : List (Json.Text × Json) :=
  ConfigField.all.map fun field => (.ofString field.key, field.toJson config)

theorem toJson_eq_object : config.toJson = .object config.ownMembers := by
  rw [toJson, Json.ofFields, List.map_map]
  rfl

variable {config}

theorem exists_of_mem_ownMembers {member : Json.Text × Json}
    (membership : member ∈ config.ownMembers) :
    ∃ field : ConfigField, member.2 = field.toJson config ∧ field.Names member ∧
      ∀ other : ConfigField, other.Names member → other = field := by
  obtain ⟨field, -, rfl⟩ := List.mem_map.mp membership
  have named : field.Names (.ofString field.key, field.toJson config) :=
    Json.Text.string?_ofString field.key
  exact ⟨field, rfl, named, fun other named' => named'.unique named⟩

theorem fit_ownMembers : Fit config.ownMembers where
  keys := by
    intro member membership
    obtain ⟨field, -, named, -⟩ := exists_of_mem_ownMembers membership
    exact Option.ne_none_iff_exists'.mpr ⟨field.key, named⟩
  values := by
    intro member membership other named
    obtain ⟨field, value, -, only⟩ := exists_of_mem_ownMembers membership
    obtain rfl := only other named
    rw [value]
    exact ConfigField.admits_toJson config other
  once := by
    have distinct : ConfigField.all.Pairwise (· ≠ ·) := by decide
    refine List.pairwise_map.mpr (distinct.imp ?_)
    intro field later differ named named' again
    have first : named = field := named'.unique (Json.Text.string?_ofString field.key)
    have second : named = later := again.unique (Json.Text.string?_ofString later.key)
    exact differ (first.symm.trans second)

/-- Nothing of the base is left below the members of a whole configuration. -/
theorem eq_of_overlaid_ownMembers {base other : MissionConfig}
    (overlaid : Overlaid base config.ownMembers other) : other = config := by
  refine eq_of_toJson_eq fun field => ?_
  exact overlaid.given _ (List.mem_map_of_mem (ConfigField.mem_all field)) field
    (Json.Text.string?_ofString field.key)

end Own

section Text

variable {text : String} {members : List (Json.Text × Json)}

theorem ofText_of_isWritten (written : (Json.object members).IsWritten text) :
    ofText text =
      match readMembers? members [] standard with
      | none => .error .malformed
      | some config => config.validate := by
  rw [ofText, Json.parse?_of_isWritten written]
  rfl

theorem validate_eq_find? (config : MissionConfig) :
    config.validate =
      match ConfigRule.inOrder.find? fun rule => rule.IsBroken config with
      | none => .ok config
      | some rule => .error (.invalid rule) := by
  rw [validate, brokenRule?_eq_find?]
  cases ConfigRule.inOrder.find? fun rule => rule.IsBroken config <;> rfl

theorem validate_ne_malformed (config : MissionConfig) :
    config.validate ≠ .error .malformed := by
  rw [validate]
  cases config.brokenRule? <;> nofun

/-- A text is taken as far as its members fit, before any rule is looked at. -/
theorem ofText_eq_malformed_iff (written : (Json.object members).IsWritten text) :
    ofText text = .error .malformed ↔ ¬ Fit members := by
  rw [ofText_of_isWritten written, ← readMembers?_eq_none_iff standard]
  cases read : readMembers? members [] standard with
  | none => exact iff_of_true rfl rfl
  | some config => exact iff_of_false (validate_ne_malformed config) nofun

theorem ofText_of_fit (written : (Json.object members).IsWritten text) (fit : Fit members) :
    ∃ config, Overlaid standard members config ∧ ofText text = config.validate := by
  obtain ⟨config, read, overlaid⟩ := @exists_readMembers? _ [] fit standard nofun
  refine ⟨config, overlaid, ?_⟩
  rw [ofText_of_isWritten written, read]

/-- Without a word about the automatic opening of the sail it keeps its time of forty days. -/
theorem Overlaid.sail_kept {config : MissionConfig} (overlaid : Overlaid standard members config)
    (absent : ∀ member ∈ members, ¬ ConfigField.sailAutoOpen.Names member) :
    config.sailAutoOpenSeconds = some 3456000 :=
  Json.ofOption_word_injective (overlaid.kept .sailAutoOpen absent)

/-- A null gives up the automatic opening of the sail. -/
theorem Overlaid.sail_never {base config : MissionConfig} (overlaid : Overlaid base members config)
    {member : Json.Text × Json} (membership : member ∈ members)
    (named : ConfigField.sailAutoOpen.Names member) (null : member.2 = .null) :
    config.sailAutoOpenSeconds = none := by
  refine Json.ofOption_word_injective (b := none) ?_
  exact (overlaid.given member membership .sailAutoOpen named).trans null

end Text

/-- What a text gives is laid over the standard configuration, and what a configuration is
printed as gives it back. -/
theorem ofText_overlaid :
    (∀ config : MissionConfig, config.validate = .ok config →
      ofText config.toJson.render = .ok config) ∧
    ∀ (text : String) (members : List (Json.Text × Json)),
      (Json.object members).IsWritten text →
      (ofText text = .error .malformed ↔ ¬ Fit members) ∧
      (Fit members →
        ∃ config : MissionConfig,
          Overlaid standard members config ∧
          (ofText text =
            match ConfigRule.inOrder.find? fun rule => rule.IsBroken config with
            | none => .ok config
            | some rule => .error (.invalid rule)) ∧
          ((∀ member ∈ members, ¬ ConfigField.sailAutoOpen.Names member) →
            config.sailAutoOpenSeconds = some 3456000) ∧
          ∀ member ∈ members, ConfigField.sailAutoOpen.Names member → member.2 = .null →
            config.sailAutoOpenSeconds = none) := by
  constructor
  · intro config valid
    have written := Json.isWritten_render config.toJson
    rw [toJson_eq_object] at written ⊢
    obtain ⟨read, overlaid, result⟩ := ofText_of_fit written fit_ownMembers
    obtain rfl := eq_of_overlaid_ownMembers overlaid
    exact result.trans valid
  · intro text members written
    refine ⟨ofText_eq_malformed_iff written, fun fit => ?_⟩
    obtain ⟨config, overlaid, result⟩ := ofText_of_fit written fit
    refine ⟨config, overlaid, result.trans (validate_eq_find? config), overlaid.sail_kept, ?_⟩
    intro member membership named null
    exact overlaid.sail_never membership named null

theorem ofText_overlaid_sail_never :
    ofText standard.toJson.render = .ok standard ∧
    ofText "\n\x7b\"note\":[true],\"sail_auto_open_s\":null,\"security_code\":7\x7d" =
      .ok { standard with sailAutoOpenSeconds := none, securityCode := 7 } ∧
    ofText "\x7b\"security_code\":7,\"security_code\":7\x7d" = .error .malformed := by
  obtain ⟨printed, texts⟩ := ofText_overlaid
  refine ⟨printed standard rfl, ?_, ?_⟩
  · let members : List (Json.Text × Json) :=
      [(.ofString "note", .array [.bool true]), (.ofString "sail_auto_open_s", .null),
        (.ofString "security_code", .ofNat 7)]
    have written : (Json.object members).IsWritten
        "\n\x7b\"note\":[true],\"sail_auto_open_s\":null,\"security_code\":7\x7d" := by
      have text : "\n" ++ (Json.object members).render =
          "\n\x7b\"note\":[true],\"sail_auto_open_s\":null,\"security_code\":7\x7d" := by
        decide +kernel
      rw [← text, Json.IsWritten, String.toList_append]
      exact .blank rfl (Json.isWritten_render (.object members))
    have fit : Fit members := (@fit_of_readMembers? _ [] standard _ rfl).1
    obtain ⟨config, overlaid, result, -, never⟩ := (texts _ members written).2 fit
    have whole : config = { standard with sailAutoOpenSeconds := none, securityCode := 7 } := by
      refine eq_of_toJson_eq fun field => ?_
      cases field with
      | sailAutoOpen => exact overlaid.given _ (.tail _ (.head _)) .sailAutoOpen rfl
      | securityCode => exact overlaid.given _ (.tail _ (.tail _ (.head _))) .securityCode rfl
      | _ => exact overlaid.kept _ (by decide)
    rw [result, whole]
    rfl
  · let members : List (Json.Text × Json) :=
      [(.ofString "security_code", .ofNat 7), (.ofString "security_code", .ofNat 7)]
    have text : (Json.object members).render =
        "\x7b\"security_code\":7,\"security_code\":7\x7d" := by
      decide +kernel
    rw [← text]
    refine (texts _ members (Json.isWritten_render _)).1.mpr fun fit => ?_
    have once := List.rel_of_pairwise_cons fit.once List.mem_cons_self
    exact once .securityCode rfl rfl

end MissionConfig

end Cubesat
