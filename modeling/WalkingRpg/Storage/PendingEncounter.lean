import WalkingRpg.Library.Json
import WalkingRpg.Models.Encounter

/-! The pending-encounter store: how a held foe is written and rebuilt.

The record is written field by field and read back through the constructors with
their defaults. Stringifying and parsing are taken to round-trip, so the store
holds JSON values.
-/

set_option autoImplicit false

namespace WalkingRpg

open Sampling (Sampler)

def Rarity.text : Rarity → String
  | .common => "common"
  | .uncommon => "uncommon"
  | .rare => "rare"
  | .epic => "epic"
  | .legendary => "legendary"

def Rarity.ofText (text : String) : Option Rarity :=
  [Rarity.common, .uncommon, .rare, .epic, .legendary].find? fun rarity => rarity.text = text

def EncounterStatus.text : EncounterStatus → String
  | .active => "active"
  | .defeated => "defeated"
  | .fled => "fled"

def encounterStatuses : List EncounterStatus := [.active, .defeated, .fled]

def EncounterStatus.ofText (text : String) : Option EncounterStatus :=
  encounterStatuses.find? fun status => status.text = text

@[simp] theorem Rarity.ofText_text (rarity : Rarity) : Rarity.ofText rarity.text = some rarity := by
  cases rarity <;> simp [ofText, text]

@[simp] theorem EncounterStatus.ofText_text (status : EncounterStatus) :
    EncounterStatus.ofText status.text = some status := by
  cases status <;> simp [ofText, text, encounterStatuses]

/-- The creature record that `holdEliteEncounter` writes. It has no resistances. -/
def heldCreatureData (creature : Creature) : Json := .object [
  ("id", some (.str creature.id)),
  ("name", some (.str creature.name)),
  ("type", some (.str creature.type)),
  ("level", some (.num creature.level)),
  ("hp", some (.num creature.hp)),
  ("maxHp", some (.num creature.maxHp)),
  ("attack", some (.num creature.attack)),
  ("defense", some (.num creature.defense)),
  ("speed", some (.num creature.speed)),
  ("rarity", some (.str creature.rarity.text)),
  ("description", some (.str creature.description)),
  ("encounterRate", some (.num creature.encounterRate))]

def locationData (location : Location) : Json := .object [
  ("latitude", some (.num location.latitude)),
  ("longitude", some (.num location.longitude))]

def heldEncounterData (encounter : Encounter) : Json := .object [
  ("creature", some (heldCreatureData encounter.creature)),
  ("location", some (locationData encounter.location)),
  ("timestamp", some (.num encounter.timestamp)),
  ("playerLevel", some (.num encounter.playerLevel)),
  ("status", some (.str encounter.status.text)),
  ("daylight", encounter.daylight.map .bool)]

def isValidEncounterData (data : Json) : Bool :=
  Json.isObject (some data) &&
  Json.isObject (data.field "creature") &&
  Json.isObject (data.field "location") &&
  Json.isNumber (data.field "timestamp") &&
  Json.isNumber (data.field "playerLevel") &&
  ((data.str? "status").bind EncounterStatus.ofText).isSome

/-- The stored record, and the store after the read: a malformed record is removed. -/
def loadPendingEncounter (store : Option Json) : Option Json × Option Json :=
  match store with
  | none => (none, none)
  | some data => if isValidEncounterData data then (some data, some data) else (none, none)

def resistancesOf (json : Json) : SomeResistances where
  physical := json.num? "physical"
  fire := json.num? "fire"
  frost := json.num? "frost"
  arcane := json.num? "arcane"

/-- The constructor parameters in a creature record; ill-typed records have none. -/
def creatureParamsOf (json : Json) : Option CreatureConstructorParams := do
  let id ← json.str? "id"
  let name ← json.str? "name"
  let type ← json.str? "type"
  let maxHp ← json.num? "maxHp"
  let attack ← json.num? "attack"
  let defense ← json.num? "defense"
  let speed ← json.num? "speed"
  return {
    id := id, name := name, type := type
    level := json.num? "level"
    hp := json.num? "hp"
    maxHp := maxHp, attack := attack, defense := defense, speed := speed
    rarity := (json.str? "rarity").bind Rarity.ofText
    description := json.str? "description"
    encounterRate := json.num? "encounterRate"
    resistances := (json.field "resistances").map resistancesOf }

def locationOf (json : Json) : Option Location := do
  let latitude ← json.num? "latitude"
  let longitude ← json.num? "longitude"
  return ⟨latitude, longitude⟩

def rebuildHeldFoe (now : ℚ) (data : Json) : Option Encounter := do
  let params ← (data.field "creature").bind creatureParamsOf
  let location ← (data.field "location").bind locationOf
  return Encounter.create now (Creature.create params) location (data.num? "timestamp")
    (data.num? "playerLevel") ((data.str? "status").bind EncounterStatus.ofText)
    (data.bool? "daylight")

theorem creatureParamsOf_held (creature : Creature) :
    creatureParamsOf (heldCreatureData creature) = some {
      id := creature.id, name := creature.name, type := creature.type
      level := some creature.level, hp := some creature.hp, maxHp := creature.maxHp
      attack := creature.attack, defense := creature.defense, speed := creature.speed
      rarity := some creature.rarity, description := some creature.description
      encounterRate := some creature.encounterRate, resistances := none } := by
  simp [creatureParamsOf, heldCreatureData, Json.object, Json.field, Json.str?, Json.num?]

theorem locationOf_data (location : Location) : locationOf (locationData location) = some location := by
  simp [locationOf, locationData, Json.object, Json.field, Json.num?]

theorem isValidEncounterData_held (encounter : Encounter) :
    isValidEncounterData (heldEncounterData encounter) = true := by
  simp [isValidEncounterData, heldEncounterData, heldCreatureData, locationData, Json.object,
    Json.field, Json.str?, Json.isObject, Json.isNumber]

theorem create_held {creature : Creature} (described : creature.description ≠ "") :
    Creature.create {
      id := creature.id, name := creature.name, type := creature.type
      level := some creature.level, hp := some creature.hp, maxHp := creature.maxHp
      attack := creature.attack, defense := creature.defense, speed := creature.speed
      rarity := some creature.rarity, description := some creature.description
      encounterRate := some creature.encounterRate, resistances := none } =
    { creature with resistances := defaultResistances } := by
  simp [Creature.create, described, SomeResistances.orDefault]

theorem rebuildHeldFoe_held (later : ℚ) (encounter : Encounter)
    (described : encounter.creature.description ≠ "") (leveled : encounter.playerLevel ≠ 0) :
    rebuildHeldFoe later (heldEncounterData encounter) = some
      { encounter with
        creature := { encounter.creature with resistances := defaultResistances }
        timestamp := orElseNumber (some encounter.timestamp) later } := by
  have creature : ((heldEncounterData encounter).field "creature").bind creatureParamsOf = _ :=
    creatureParamsOf_held encounter.creature
  have location : ((heldEncounterData encounter).field "location").bind locationOf = _ :=
    locationOf_data encounter.location
  have timestamp : (heldEncounterData encounter).num? "timestamp" = some encounter.timestamp := rfl
  have playerLevel : (heldEncounterData encounter).num? "playerLevel" = some encounter.playerLevel := rfl
  have status : ((heldEncounterData encounter).str? "status").bind EncounterStatus.ofText =
      some encounter.status := EncounterStatus.ofText_text _
  have daylight : (heldEncounterData encounter).bool? "daylight" = encounter.daylight := by
    cases light : encounter.daylight <;>
      simp [heldEncounterData, light, Json.object, Json.field, Json.bool?]
  simp only [rebuildHeldFoe, creature, location, timestamp, playerLevel, status, daylight,
    create_held described, Option.bind_eq_bind, Option.bind_some, Option.pure_def, Encounter.create,
    Option.getD_some]
  simp [orElseNumber, leveled]

theorem hp_rebuildHeldFoe {now : ℚ} {stored rebuilt : Encounter}
    (loaded : rebuildHeldFoe now (heldEncounterData stored) = some rebuilt) :
    rebuilt.creature.hp = stored.creature.hp := by
  have creature : ((heldEncounterData stored).field "creature").bind creatureParamsOf = _ :=
    creatureParamsOf_held stored.creature
  have location : ((heldEncounterData stored).field "location").bind locationOf = _ :=
    locationOf_data stored.location
  simp only [rebuildHeldFoe, creature, location, Option.bind_eq_bind, Option.bind_some,
    Option.pure_def] at loaded
  cases Option.some.inj loaded
  rfl

theorem createRandomEncounter_fields (now : ℚ) (daylight : Bool) (location : Location)
    (playerLevel : ℚ) (rarityOverride : Option Rarity) (stream : ℕ → ℚ) (position : ℕ) :
    let encounter :=
      (Encounter.createRandomEncounter now daylight location playerLevel rarityOverride stream position).1
    encounter.creature.description ≠ "" ∧ encounter.playerLevel ≠ 0 ∧ encounter.timestamp = now := by
  have leveled : orElseNumber (some playerLevel) 1 ≠ 0 := by
    unfold orElseNumber
    dsimp only
    split
    · exact one_ne_zero
    · assumption
  cases rarityOverride with
  | none => exact ⟨Creature.description_create_ne _, leveled, rfl⟩
  | some rarity => exact ⟨Creature.description_create_ne _, leveled, rfl⟩

/-- A damaged random encounter that is held, reloaded and rebuilt is the one that was
held exactly when its creature resists nothing; the clock of its creation must not
read zero, unless the later clock does. -/
theorem rebuildHeldFoe_eq_iff (now later : ℚ) (daylight : Bool) (location : Location)
    (playerLevel : ℚ) (rarityOverride : Option Rarity) (stream : ℕ → ℚ) (position : ℕ) (hp : ℚ) :
    let rolled :=
      (Encounter.createRandomEncounter now daylight location playerLevel rarityOverride stream position).1
    let encounter := { rolled with creature := { rolled.creature with hp := hp } }
    (isValidEncounterData (heldEncounterData encounter) = true ∧
      rebuildHeldFoe later (heldEncounterData encounter) = some encounter) ↔
    (rolled.creature.resistances = defaultResistances ∧ (now = 0 → later = 0)) := by
  intro rolled encounter
  obtain ⟨described, leveled, stamped⟩ :=
    createRandomEncounter_fields now daylight location playerLevel rarityOverride stream position
  have rebuilt := rebuildHeldFoe_held later encounter described leveled
  rw [rebuilt]
  -- The constructor takes a zero timestamp for an absent one.
  have clock : orElseNumber (some encounter.timestamp) later = encounter.timestamp ↔
      (now = 0 → later = 0) := by
    have same : encounter.timestamp = now := stamped
    rw [same]
    unfold orElseNumber
    by_cases zero : now = 0 <;> simp [zero]
  constructor
  · rintro ⟨_, same⟩
    have equal := Option.some.inj same
    exact ⟨(congrArg (·.creature.resistances) equal).symm, clock.mp (congrArg (·.timestamp) equal)⟩
  · rintro ⟨plain, times⟩
    refine ⟨isValidEncounterData_held encounter, ?_⟩
    rw [clock.mpr times]
    have creature : { encounter.creature with resistances := defaultResistances } = encounter.creature := by
      rw [← plain]
    rw [creature]

/-- A rolled Grove Warden comes back without its physical resistance. -/
theorem rebuildHeldFoe_grove_warden_ne :
    let encounter := (Encounter.createRandomEncounter 1 true ⟨0, 0⟩ 1 (some .rare) (fun _ => 1 / 2) 0).1
    encounter.creature.id = "grove_warden" ∧ 0 < encounter.creature.hp ∧
      encounter.creature.hp ≤ encounter.creature.maxHp ∧
      rebuildHeldFoe 2 (heldEncounterData encounter) ≠ some encounter := by
  intro encounter
  refine ⟨by decide +kernel, by decide +kernel, by decide +kernel, ?_⟩
  obtain ⟨described, leveled, _⟩ :=
    createRandomEncounter_fields 1 true ⟨0, 0⟩ 1 (some .rare) (fun _ => 1 / 2) 0
  rw [rebuildHeldFoe_held 2 _ described leveled]
  -- The record has no resistances, so the rebuilt one has the default of zero.
  intro same
  have lost : (0 : ℚ) = encounter.creature.resistances.physical :=
    congrArg (·.creature.resistances.physical) (Option.some.inj same)
  revert lost
  decide +kernel

end WalkingRpg
