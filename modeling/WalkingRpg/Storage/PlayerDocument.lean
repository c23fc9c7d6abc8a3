import WalkingRpg.Library.Firestore
import WalkingRpg.Models.PlayerTotals
import WalkingRpg.Services.LootService

/-! The player document: what the server's rules admit and what the client accepts.

The save format is checked twice, by the security rules before a document is stored and by
the client after it is read. The two checks are written in two languages against the same
record, which the encoder of the player produces.
-/

set_option autoImplicit false

namespace WalkingRpg

open Firestore (Value)
open Firestore.Rules (field keys hasOnly hasAll isNumber isString isMap)

namespace Storage

/-- `isValidPlayerData` of the client. The fields it does not name may hold anything. -/
def isValidPlayerData (data : Js.Value) : Bool :=
  if !data.truthy || data.typeof ≠ .object then false
  else
    (data.property "id").typeof = .string &&
    (data.property "name").typeof = .string &&
    (data.property "level").typeof = .number &&
    (data.property "level").atLeast 1 &&
    (data.property "experience").typeof = .number &&
    (data.property "attack").typeof = .number &&
    (data.property "defense").typeof = .number &&
    (data.property "totalDistance").typeof = .number &&
    (data.property "totalEncounters").typeof = .number &&
    (data.property "creaturesDefeated").typeof = .number &&
    (data.property "equipment").typeof = .object &&
    !(data.property "equipment").isNull

inductive CloudLoad where
  | unavailable
  | empty
  | found (playerData lastSavedAt : Js.Value)

def loaded : Option Js.Value → CloudLoad
  | none => .empty
  | some data =>
    if (data.property "playerData").truthy then
      .found (data.property "playerData") (data.property "lastSavedAt")
    else .empty

/-- `reconcileCloudPlayerData` gives the document up as malformed. -/
def failsValidation : CloudLoad → Bool
  | .found playerData _ => !isValidPlayerData playerData
  | .empty | .unavailable => false

end Storage

namespace FirestoreRules

def isOwner (auth : Option String) (uid : String) : Bool := auth = some uid

def isValidPlayerData (pd : Value) : Option Bool := Firestore.Rules.all [
  (keys pd).map (hasAll [
    "id", "name", "level", "experience", "attack", "defense",
    "totalDistance", "totalEncounters", "creaturesDefeated", "equipment"]),
  (field "id" pd).map isString,
  (field "name" pd).map isString,
  ((field "name" pd).bind Firestore.Rules.size).map (1 ≤ ·),
  ((field "name" pd).bind Firestore.Rules.size).map (· ≤ 50),
  (field "level" pd).map isNumber,
  (field "level" pd).bind (Firestore.Rules.atLeast 1),
  (field "level" pd).bind (Firestore.Rules.atMost 1000),
  (field "experience" pd).map isNumber,
  (field "experience" pd).bind (Firestore.Rules.atLeast 0),
  (field "attack" pd).map isNumber,
  (field "attack" pd).bind (Firestore.Rules.atLeast 0),
  (field "defense" pd).map isNumber,
  (field "defense" pd).bind (Firestore.Rules.atLeast 0),
  (field "totalDistance" pd).map isNumber,
  (field "totalDistance" pd).bind (Firestore.Rules.atLeast 0),
  (field "totalEncounters" pd).map isNumber,
  (field "totalEncounters" pd).bind (Firestore.Rules.atLeast 0),
  (field "creaturesDefeated" pd).map isNumber,
  (field "creaturesDefeated" pd).bind (Firestore.Rules.atLeast 0),
  (field "equipment" pd).map isMap]

def isValidPlayerDoc (data : Value) : Option Bool := Firestore.Rules.all [
  (keys data).map (hasOnly ["playerData", "lastSavedAt"]),
  (field "lastSavedAt" data).map isNumber,
  (field "playerData" data).map isMap,
  (field "playerData" data).bind isValidPlayerData]

def allowCreate (auth : Option String) (uid : String) (data : Value) : Option Bool :=
  Firestore.Rules.all [some (isOwner auth uid), isValidPlayerDoc data]

def allowUpdate (auth : Option String) (uid : String) (resource data : Value) : Option Bool :=
  Firestore.Rules.all [some (isOwner auth uid), isValidPlayerDoc data, do
    Firestore.Rules.greater (← field "lastSavedAt" data) (← field "lastSavedAt" resource)]

def allowDelete (auth : Option String) (uid : String) : Bool := isOwner auth uid

def Documents : Type := String → Option Value

def Documents.write (documents : Documents) (uid : String) (stored : Option Value) : Documents :=
  fun other => if other = uid then stored else documents other

inductive Request where
  | set (auth : Option String) (uid : String) (data : Value)
  | delete (auth : Option String) (uid : String)

/-- The server: what the rules do not admit changes nothing. -/
def serve (documents : Documents) : Request → Documents
  | .set auth uid data =>
    let allowed := match documents uid with
      | none => allowCreate auth uid data
      | some resource => allowUpdate auth uid resource data
    if allowed = some true then documents.write uid (some data) else documents
  | .delete auth uid =>
    if allowDelete auth uid then documents.write uid none else documents

end FirestoreRules

def AffixStat.text : AffixStat → String
  | .attack => "attack"
  | .defense => "defense"
  | .maxHp => "maxHp"

def EquipmentSlot.text : EquipmentSlot → String
  | .weapon => "weapon"
  | .offhand => "offhand"
  | .head => "head"
  | .chest => "chest"
  | .legs => "legs"
  | .boots => "boots"
  | .gloves => "gloves"
  | .accessory1 => "accessory1"
  | .accessory2 => "accessory2"

def Archetype.text : Archetype → String
  | .martial => "martial"
  | .agile => "agile"
  | .mage => "mage"

namespace Storage

def number (value : ℚ) : Value := .ofNumber (.finite value)

def affixDocument (affix : Affix) : Value :=
  .map [("stat", .string affix.stat.text), ("value", number affix.value)]

def itemDocument (item : Item) : Value := .record [
  ("id", some (.string item.id)),
  ("name", some (.string item.name)),
  ("description", some (.string item.description)),
  ("rarity", some (.string item.rarity.text)),
  ("level", some (number item.level)),
  ("attack", item.attack.map number),
  ("defense", item.defense.map number),
  ("maxHp", item.maxHp.map number),
  ("dropChance", some (number item.dropChance)),
  ("affixes", item.affixes.map fun affixes => .array (affixes.map affixDocument)),
  ("type", some (.string item.type.text)),
  ("slot", item.slot.map fun slot => .string slot.text)]

def slotDocument (slot : Option Item) : Value := slot.elim .null itemDocument

def equipmentDocument (equipment : Equipment) : Value := .map [
  ("weapon", slotDocument equipment.weapon),
  ("offhand", slotDocument equipment.offhand),
  ("head", slotDocument equipment.head),
  ("chest", slotDocument equipment.chest),
  ("legs", slotDocument equipment.legs),
  ("boots", slotDocument equipment.boots),
  ("gloves", slotDocument equipment.gloves),
  ("accessory1", slotDocument equipment.accessory1),
  ("accessory2", slotDocument equipment.accessory2)]

def playerDataFields (data : PlayerData) : List (String × Option Value) := [
  ("id", some (.string data.id)),
  ("name", some (.string data.name)),
  ("level", some (number data.level)),
  ("experience", some (number data.experience)),
  ("attack", data.attack.map number),
  ("defense", data.defense.map number),
  ("hp", data.hp.map number),
  ("maxHp", data.maxHp.map number),
  ("totalDistance", some (number data.totalDistance)),
  ("totalEncounters", some (number data.totalEncounters)),
  ("creaturesDefeated", some (number data.creaturesDefeated)),
  ("combatTurnsTaken", data.combatTurnsTaken.map number),
  ("equipment", data.equipment.map equipmentDocument),
  ("inventory", data.inventory.map fun inventory => .array (inventory.map slotDocument)),
  ("archetype", data.archetype.map fun archetype => .string archetype.text),
  ("str", data.str.map number),
  ("agi", data.agi.map number),
  ("int", data.int.map number)]

def playerDataDocument (data : PlayerData) : Value := .record (playerDataFields data)

def playerDocument (playerData : PlayerData) (lastSavedAt : Js.Number) : Value := .map [
  ("playerData", playerDataDocument playerData),
  ("lastSavedAt", .ofNumber lastSavedAt)]

end Storage

open FirestoreRules

theorem isValidPlayerData_of_admitted {fields : List (String × Value)}
    (admitted : FirestoreRules.isValidPlayerData (.map fields) = some true) :
    Storage.isValidPlayerData (Value.map fields).toJs = true := by
  simp only [FirestoreRules.isValidPlayerData, Firestore.Rules.all_cons_eq_true, Firestore.Rules.all_nil] at admitted
  obtain ⟨_, id, name, _, _, level, levelFrom, _, experience, _, attack, _, defense, _, totalDistance, _,
    totalEncounters, _, creaturesDefeated, _, equipment, _⟩ := admitted
  -- The client sees a map as an object, which is neither null nor without a type.
  obtain ⟨worn, _, seen⟩ := Firestore.Rules.object_of_isMap equipment
  have object : (Value.map fields).toJs.truthy = true ∧ (Value.map fields).toJs.typeof = .object := ⟨rfl, rfl⟩
  have wears : ((Value.map worn).toJs).typeof = .object ∧ ((Value.map worn).toJs).isNull = false := ⟨rfl, rfl⟩
  simp [Storage.isValidPlayerData, object, seen, wears,
    Firestore.Rules.typeof_of_isString id, Firestore.Rules.typeof_of_isString name,
    Firestore.Rules.typeof_of_isNumber level, Firestore.Rules.atLeast_of_atLeast levelFrom,
    Firestore.Rules.typeof_of_isNumber experience, Firestore.Rules.typeof_of_isNumber attack,
    Firestore.Rules.typeof_of_isNumber defense, Firestore.Rules.typeof_of_isNumber totalDistance,
    Firestore.Rules.typeof_of_isNumber totalEncounters, Firestore.Rules.typeof_of_isNumber creaturesDefeated]

theorem loaded_of_admitted {data : Value} (admitted : isValidPlayerDoc data = some true) :
    ∃ playerData lastSavedAt, Storage.loaded (some data.toJs) = .found playerData lastSavedAt ∧
      Storage.isValidPlayerData playerData = true := by
  simp only [isValidPlayerDoc, Firestore.Rules.all_cons_eq_true, Firestore.Rules.all_nil] at admitted
  obtain ⟨_, _, shape, valid, _⟩ := admitted
  obtain ⟨fields, found, seen⟩ := Firestore.Rules.object_of_isMap shape
  rw [found, Option.bind_some] at valid
  have object : (Value.map fields).toJs.truthy = true := rfl
  refine ⟨(Value.map fields).toJs, data.toJs.property "lastSavedAt", ?_, isValidPlayerData_of_admitted valid⟩
  simp [Storage.loaded, seen, object]

namespace FirestoreRules

def Documents.Valid (documents : Documents) : Prop :=
  ∀ uid data, documents uid = some data → isValidPlayerDoc data = some true

theorem Documents.Valid.write {documents : Documents} (valid : documents.Valid) (uid : String)
    {stored : Option Value} (checked : ∀ data ∈ stored, isValidPlayerDoc data = some true) :
    (documents.write uid stored).Valid := by
  intro other data held
  unfold Documents.write at held
  by_cases same : other = uid
  · rw [if_pos same] at held
    exact checked data held
  · rw [if_neg same] at held
    exact valid other data held

theorem Documents.Valid.serve {documents : Documents} (valid : documents.Valid) (request : Request) :
    Documents.Valid (serve documents request) := by
  cases request with
  | set auth uid data =>
    unfold FirestoreRules.serve
    dsimp only
    by_cases allowed : (match documents uid with
        | none => allowCreate auth uid data
        | some resource => allowUpdate auth uid resource data) = some true
    · rw [if_pos allowed]
      apply valid.write uid
      intro written same
      cases same
      -- Both rules check the new document as a whole, whatever else they ask.
      cases held : documents uid with
      | none =>
        rw [held] at allowed
        simp only [allowCreate, Firestore.Rules.all_cons_eq_true] at allowed
        exact allowed.2.1
      | some resource =>
        rw [held] at allowed
        simp only [allowUpdate, Firestore.Rules.all_cons_eq_true] at allowed
        exact allowed.2.1
    · rw [if_neg allowed]
      exact valid
  | delete auth uid =>
    show Documents.Valid (if allowDelete auth uid then documents.write uid none else documents)
    split
    · exact valid.write uid fun _ held => (by cases held)
    · exact valid

theorem Documents.Valid.run {documents : Documents} (valid : documents.Valid) (requests : List Request) :
    Documents.Valid (requests.foldl FirestoreRules.serve documents) :=
  List.foldlRecOn requests FirestoreRules.serve valid fun _ kept request _ => kept.serve request

end FirestoreRules

namespace Storage

theorem field_playerDataDocument (data : PlayerData) :
    field "id" (playerDataDocument data) = some (.string data.id) ∧
    field "name" (playerDataDocument data) = some (.string data.name) ∧
    field "level" (playerDataDocument data) = some (number data.level) ∧
    field "experience" (playerDataDocument data) = some (number data.experience) ∧
    field "attack" (playerDataDocument data) = data.attack.map number ∧
    field "defense" (playerDataDocument data) = data.defense.map number ∧
    field "totalDistance" (playerDataDocument data) = some (number data.totalDistance) ∧
    field "totalEncounters" (playerDataDocument data) = some (number data.totalEncounters) ∧
    field "creaturesDefeated" (playerDataDocument data) = some (number data.creaturesDefeated) ∧
    field "equipment" (playerDataDocument data) = data.equipment.map equipmentDocument := by
  have distinct : ((playerDataFields data).map Prod.fst).Nodup := by
    simp only [playerDataFields, List.map_cons, List.map_nil]
    decide
  simp only [playerDataDocument, Firestore.Rules.field_record distinct]
  exact ⟨rfl, rfl, rfl, rfl, rfl, rfl, rfl, rfl, rfl, rfl⟩

theorem hasAll_playerDataDocument (data : PlayerData) {attack defense : ℚ} {equipment : Equipment}
    (present : data.attack = some attack ∧ data.defense = some defense ∧ data.equipment = some equipment) :
    (keys (playerDataDocument data)).map (hasAll [
      "id", "name", "level", "experience", "attack", "defense",
      "totalDistance", "totalEncounters", "creaturesDefeated", "equipment"]) = some true := by
  obtain ⟨id, name, level, experience, attackAt, defenseAt, distance, encounters, defeated, equipmentAt⟩ :=
    field_playerDataDocument data
  apply Firestore.Rules.hasAll_of_field
  change ∀ required ∈ _, (field required (playerDataDocument data)).isSome = true
  simp [id, name, level, experience, attackAt, defenseAt, distance, encounters, defeated, equipmentAt, present]

@[simp] theorem number?_number (value : ℚ) : (number value).number? = some (.finite value) := by
  simp [number]

theorem isNumber_number (value : ℚ) : isNumber (number value) = true := by
  simp [isNumber]

theorem atLeast_number {bound value : ℚ} (above : bound ≤ value) :
    Firestore.Rules.atLeast bound (number value) = some true := by
  simp [Firestore.Rules.atLeast, Js.Number.atLeast, above]

theorem atMost_number {bound value : ℚ} (below : value ≤ bound) :
    Firestore.Rules.atMost bound (number value) = some true := by
  simp [Firestore.Rules.atMost, Js.Number.atMost, below]

theorem admitted_toJSON {player : Player} (recordable : player.Recordable) (level : player.level ≤ 1000)
    (named : 1 ≤ player.name.length) (short : player.name.length ≤ 50) :
    FirestoreRules.isValidPlayerData (playerDataDocument player.toJSON) = some true := by
  have all := hasAll_playerDataDocument player.toJSON ⟨rfl, rfl, rfl⟩
  obtain ⟨attack, defense⟩ := recordable.sound.stats_nonneg
  obtain ⟨id, name, levelAt, experience, attackAt, defenseAt, distance, encounters, defeated, equipment⟩ :=
    field_playerDataDocument player.toJSON
  have length : (1 : ℚ) ≤ player.name.length ∧ (player.name.length : ℚ) ≤ 50 := by
    exact_mod_cast And.intro named short
  generalize playerDataDocument player.toJSON = document at *
  simp [FirestoreRules.isValidPlayerData, all, id, name, levelAt, experience, attackAt, defenseAt, distance,
    encounters, defeated, equipment, Player.toJSON, isString, isMap, Firestore.Rules.size, isNumber_number,
    atLeast_number, atMost_number, level, length, recordable.sound.level, recordable.solvent.experience, attack,
    defense, recordable.solvent.totalDistance, recordable.solvent.totalEncounters,
    recordable.solvent.creaturesDefeated, equipmentDocument]

theorem admitted_playerDocument {data : PlayerData} (lastSavedAt : Js.Number)
    (admitted : FirestoreRules.isValidPlayerData (playerDataDocument data) = some true) :
    isValidPlayerDoc (playerDocument data lastSavedAt) = some true := by
  have record : isMap (playerDataDocument data) = true := rfl
  simp [isValidPlayerDoc, playerDocument, field, keys, hasOnly, List.lookup_cons, isNumber, record, admitted]

end Storage

/-- The client and the rules agree on the save format. What the rules admit, the client reads back
and accepts, so no document stored by whatever requests is given up as malformed; and what the game
saves of any player within the limits of the rules is admitted. -/
theorem playerDocument_agrees :
    (∀ data, isValidPlayerDoc data = some true →
      ∃ playerData lastSavedAt, Storage.loaded (some data.toJs) = .found playerData lastSavedAt ∧
        Storage.isValidPlayerData playerData = true) ∧
    (∀ (requests : List Request) (uid : String),
      Storage.failsValidation (Storage.loaded
        ((requests.foldl serve (fun _ => none) uid).map Value.toJs)) = false) ∧
    ∀ (id name : String) (archetype : Archetype) (activities : List Player.Activity) (lastSavedAt : Js.Number),
      (∀ activity ∈ activities, activity.Valid) →
      let player := activities.foldl Player.Activity.apply (Player.named id name archetype)
      player.level ≤ 1000 → 1 ≤ player.name.length → player.name.length ≤ 50 →
        isValidPlayerDoc (Storage.playerDocument player.toJSON lastSavedAt) = some true := by
  refine ⟨fun data admitted => loaded_of_admitted admitted, ?_, ?_⟩
  · intro requests uid
    have start : Documents.Valid (fun _ => none) := fun _ _ held => (by cases held)
    cases held : requests.foldl serve (fun _ => none) uid with
    | none => rfl
    | some data =>
      obtain ⟨playerData, lastSavedAt, found, valid⟩ := loaded_of_admitted (start.run requests uid data held)
      simp [found, Storage.failsValidation, valid]
  · intro id name archetype activities lastSavedAt valid player level named short
    have recordable : player.Recordable := (Player.recordable_named id name archetype).run valid
    exact Storage.admitted_playerDocument lastSavedAt (Storage.admitted_toJSON recordable level named short)

def firstWalk : List Player.Activity := [
  .addDistance 250, .incrementEncounters, .stats (.addExperience 120), .defeatCreature,
  .stats (.addItemToInventory (LootService.generateItem 0 1 none 1 (fun _ => 0) 0).1)]

theorem playerDocument_agrees_firstWalk :
    isValidPlayerDoc (Storage.playerDocument
      (firstWalk.foldl Player.Activity.apply (Player.named "player1" "Adventurer" .agile)).toJSON
      (.finite 1700000000000)) = some true := by
  refine playerDocument_agrees.2.2 "player1" "Adventurer" .agile firstWalk _ ?_
    (by decide +kernel) (by decide +kernel) (by decide +kernel)
  have loot : (LootService.generateItem 0 1 none 1 (fun _ => 0) 0).1.NonNegative :=
    LootService.generateItem_nonNegative (fun _ => le_rfl) 0 1 none zero_le_one
  simp [firstWalk, Player.Activity.Valid, Player.Op.Valid, loot]

end WalkingRpg
