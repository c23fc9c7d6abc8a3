import WalkingRpg.Storage.PlayerDocument

/-! Decoding a save.

The decoder trusts the type of its argument, which comes from storage. It is modelled a second time
here, on values of any shape: what it does with a record that passes the validator and was not
written by this version of the game is decided by the language, not by the types. On the records
that the game writes the two models agree.
-/

set_option autoImplicit false

namespace WalkingRpg

namespace Player

structure Normalized (player : Player) : Prop where
  hp_le : player.hp ≤ player.maxHp
  inventory : player.inventory.length = maxInventorySize

theorem normalized_create (params : PlayerData) : (create params).Normalized where
  hp_le := by
    dsimp only [create]
    split
    · exact le_rfl
    · rename_i within
      exact not_lt.mp within
  inventory := by
    dsimp only [create]
    split
    · exact Slots.length_filled _ _ _
    · exact List.length_replicate

theorem fromJSON_of_missing {data : PlayerData}
    (missing : (data.str.isNone || data.agi.isNone || data.int.isNone) = true) :
    fromJSON data =
      let attrs := computeAttributes (data.archetype.getD .martial) data.level
      create { data with
        archetype := some (data.archetype.getD .martial)
        str := some attrs.str, agi := some attrs.agi, int := some attrs.int } := by
  rcases data with ⟨⟩
  rename_i str agi int
  cases str <;> cases agi <;> cases int <;> first | rfl | cases missing

theorem fromJSON_of_present {data : PlayerData}
    (present : (data.str.isNone || data.agi.isNone || data.int.isNone) = false) :
    fromJSON data = create { data with archetype := some (data.archetype.getD .martial) } := by
  rcases data with ⟨⟩
  rename_i str agi int
  cases str <;> cases agi <;> cases int <;> first | rfl | cases present

theorem normalized_fromJSON (data : PlayerData) : (fromJSON data).Normalized := by
  cases missing : (data.str.isNone || data.agi.isNone || data.int.isNone) with
  | true =>
    rw [fromJSON_of_missing missing]
    exact normalized_create _
  | false =>
    rw [fromJSON_of_present missing]
    exact normalized_create _

theorem fromJSON_toJSON_eq_clone (player : Player) : fromJSON player.toJSON = player.clone := rfl

theorem Normalized.decoded {player : Player} (normalized : player.Normalized) :
    fromJSON player.toJSON = player ∧ create player.toJSON = player :=
  ⟨(fromJSON_toJSON_eq_clone player).trans (clone_eq normalized.hp_le normalized.inventory),
    clone_eq normalized.hp_le normalized.inventory⟩

/-- Decoding is stable after one pass, through either entry point, whatever the record holds and
whatever it lacks. A player with HP within bounds and a full-size inventory is decoded as it is. -/
theorem fromJSON_stable :
    (∀ data : PlayerData,
      fromJSON (fromJSON data).toJSON = fromJSON data ∧ create (fromJSON data).toJSON = fromJSON data) ∧
    ∀ player : Player, player.hp ≤ player.maxHp → player.inventory.length = maxInventorySize →
      fromJSON player.toJSON = player ∧ create player.toJSON = player :=
  ⟨fun data => (normalized_fromJSON data).decoded, fun _ bound size => Normalized.decoded ⟨bound, size⟩⟩

theorem fromJSON_stable_wounded :
    fromJSON ((Player.new .agile 3).takeDamage 20).toJSON = (Player.new .agile 3).takeDamage 20 :=
  (fromJSON_stable.2 ((Player.new .agile 3).takeDamage 20) (by decide +kernel) (by decide +kernel)).1

end Player

/-- What a lookup in `ARCHETYPE_CONFIGS` can find: a configuration, or an object inherited from
`Object.prototype`, all of whose fields are undefined. -/
inductive ArchetypeEntry where
  | config (cfg : ArchetypeConfig)
  | inherited

namespace ArchetypeEntry

def read (entry : ArchetypeEntry) (field : ArchetypeConfig → ℚ) : Js.Number :=
  match entry with
  | .config cfg => .finite (field cfg)
  | .inherited => .nan

end ArchetypeEntry

def objectPrototype : List String := [
  "constructor", "hasOwnProperty", "isPrototypeOf", "propertyIsEnumerable", "toLocaleString", "toString",
  "valueOf", "__defineGetter__", "__defineSetter__", "__lookupGetter__", "__lookupSetter__", "__proto__"]

/-- `ARCHETYPE_CONFIGS[key]`; `none` is undefined, whose fields cannot be read. -/
def archetypeEntry (key : String) : Option ArchetypeEntry :=
  match [Archetype.martial, .agile, .mage].find? (·.text = key) with
  | some archetype => some (.config (archetypeConfigs archetype))
  | none => if key ∈ objectPrototype then some .inherited else none

theorem archetypeEntry_text (archetype : Archetype) :
    archetypeEntry archetype.text = some (.config (archetypeConfigs archetype)) := by
  cases archetype <;> rfl

/-- The fields of a player, or of the record it is built from, whatever they hold. -/
structure JsPlayer where
  id : Js.Value
  name : Js.Value
  level : Js.Value
  experience : Js.Value
  attack : Js.Value
  defense : Js.Value
  hp : Js.Value
  maxHp : Js.Value
  totalDistance : Js.Value
  totalEncounters : Js.Value
  creaturesDefeated : Js.Value
  combatTurnsTaken : Js.Value
  equipment : Js.Value
  inventory : Js.Value
  archetype : Js.Value
  str : Js.Value
  agi : Js.Value
  int : Js.Value

structure JsAttributes where
  str : Js.Number
  agi : Js.Number
  int : Js.Number

namespace JsPlayer

def read (data : Js.Value) : JsPlayer where
  id := data.property "id"
  name := data.property "name"
  level := data.property "level"
  experience := data.property "experience"
  attack := data.property "attack"
  defense := data.property "defense"
  hp := data.property "hp"
  maxHp := data.property "maxHp"
  totalDistance := data.property "totalDistance"
  totalEncounters := data.property "totalEncounters"
  creaturesDefeated := data.property "creaturesDefeated"
  combatTurnsTaken := data.property "combatTurnsTaken"
  equipment := data.property "equipment"
  inventory := data.property "inventory"
  archetype := data.property "archetype"
  str := data.property "str"
  agi := data.property "agi"
  int := data.property "int"

def createEmptyEquipment : Js.Value := .object [
  ("weapon", .null), ("offhand", .null), ("head", .null), ("chest", .null), ("legs", .null),
  ("boots", .null), ("gloves", .null), ("accessory1", .null), ("accessory2", .null)]

def normalizeInventory : Js.Value → List Js.Value
  | .array items =>
    (items ++ List.replicate (maxInventorySize - items.length) Js.Value.null).take maxInventorySize
  | _ => List.replicate maxInventorySize .null

def lacksAttribute (fields : JsPlayer) : Bool :=
  fields.str.isUndefined || fields.agi.isUndefined || fields.int.isUndefined

section Engine

variable (coercions : Js.Coercions)

def computeAttributes (archetype level : Js.Value) : Option JsAttributes := do
  let cfg ← archetypeEntry (← coercions.toPropertyKey archetype)
  let l := Js.Number.max (.finite 1) (← coercions.toNumber level)
  let grown (base perLevel : ArchetypeConfig → ℚ) : Js.Number :=
    (cfg.read base).add ((l.sub (.finite 1)).mul (cfg.read perLevel))
  return {
    str := grown ArchetypeConfig.strBase ArchetypeConfig.strPerLevel
    agi := grown ArchetypeConfig.agiBase ArchetypeConfig.agiPerLevel
    int := grown ArchetypeConfig.intBase ArchetypeConfig.intPerLevel }

def deriveAttack (str agi : Js.Value) : Option Js.Value := do
  let str ← coercions.toNumber str
  let agi ← coercions.toNumber agi
  return .number (Js.Number.max (.finite 1)
    (((str.mul (.finite 0.8)).add (agi.mul (.finite 0.6))).add (.finite 8)).floor)

def deriveDefense (str agi : Js.Value) : Option Js.Value := do
  let str ← coercions.toNumber str
  let agi ← coercions.toNumber agi
  return .number (Js.Number.max (.finite 1)
    ((str.mul (.finite 0.5)).add (agi.mul (.finite 0.25))).floor)

def deriveMaxHp (archetype str agi : Js.Value) : Option Js.Value := do
  let cfg ← archetypeEntry (← coercions.toPropertyKey archetype)
  let str ← coercions.toNumber str
  let agi ← coercions.toNumber agi
  return .number (((cfg.read ArchetypeConfig.hpConstant).add (str.mul (.finite 3))).add (agi.mul (.finite 1)))

def create (params : JsPlayer) : Option JsPlayer := do
  let level := params.level.orDefault (.number (.finite 1))
  let archetype := params.archetype.orDefault (.string Archetype.martial.text)
  let computed ← computeAttributes coercions archetype level
  let str := params.str.coalesce (.number computed.str)
  let agi := params.agi.coalesce (.number computed.agi)
  let int := params.int.coalesce (.number computed.int)
  let attack ← params.attack.coalesceWith (deriveAttack coercions str agi)
  let defense ← params.defense.coalesceWith (deriveDefense coercions str agi)
  let maxHp ← params.maxHp.coalesceWith (deriveMaxHp coercions archetype str agi)
  let hp := params.hp.coalesce maxHp
  let above ← coercions.isGreater hp maxHp
  return {
    id := params.id.orDefault (.string "player1")
    name := params.name.orDefault (.string "Adventurer")
    level := level
    experience := params.experience.orDefault (.number (.finite 0))
    attack := attack
    defense := defense
    hp := if above then maxHp else hp
    maxHp := maxHp
    totalDistance := params.totalDistance.orDefault (.number (.finite 0))
    totalEncounters := params.totalEncounters.orDefault (.number (.finite 0))
    creaturesDefeated := params.creaturesDefeated.orDefault (.number (.finite 0))
    combatTurnsTaken := params.combatTurnsTaken.orDefault (.number (.finite 0))
    equipment := params.equipment.coalesce createEmptyEquipment
    inventory := .array (normalizeInventory params.inventory)
    archetype := archetype
    str := str
    agi := agi
    int := int }

/-- `Player.fromJSON`. A null attribute is not undefined: it gets as far as the constructor. -/
def fromJSON (data : Js.Value) : Option JsPlayer := do
  let fields := read data
  let archetype := fields.archetype.coalesce (.string Archetype.martial.text)
  if fields.lacksAttribute then
    let attrs ← computeAttributes coercions archetype fields.level
    create coercions { fields with
      archetype := archetype, str := .number attrs.str, agi := .number attrs.agi, int := .number attrs.int }
  else create coercions { fields with archetype := archetype }

end Engine

/-- `getEquipTargetSlot`. Only null counts as an empty slot. -/
def getEquipTargetSlot (player : JsPlayer) (item : Js.Value) : Js.Value :=
  if (item.property "type").isText "accessory" then
    if (player.equipment.property "accessory1").isNull then .string "accessory1" else .string "accessory2"
  else item.property "slot"

def resolveEquipTargetSlot (player : JsPlayer) (item preferredSlot : Js.Value) : Js.Value :=
  if (item.property "type").isText "accessory" &&
      (preferredSlot.isText "accessory1" || preferredSlot.isText "accessory2") then preferredSlot
  else player.getEquipTargetSlot item

section Numbers

variable (coercions : Js.Coercions)

theorem computeAttributes_finite (archetype : Archetype) (level : ℚ) :
    computeAttributes coercions (.string archetype.text) (.number (.finite level)) =
      some {
        str := .finite (WalkingRpg.computeAttributes archetype level).str
        agi := .finite (WalkingRpg.computeAttributes archetype level).agi
        int := .finite (WalkingRpg.computeAttributes archetype level).int } := by
  simp [computeAttributes, archetypeEntry_text, ArchetypeEntry.read, WalkingRpg.computeAttributes]

theorem deriveAttack_finite (str agi : ℚ) :
    deriveAttack coercions (.number (.finite str)) (.number (.finite agi)) =
      some (.number (.finite (WalkingRpg.deriveAttack str agi))) := by
  simp [deriveAttack, WalkingRpg.deriveAttack]

theorem deriveDefense_finite (str agi : ℚ) :
    deriveDefense coercions (.number (.finite str)) (.number (.finite agi)) =
      some (.number (.finite (WalkingRpg.deriveDefense str agi))) := by
  simp [deriveDefense, WalkingRpg.deriveDefense]

theorem deriveMaxHp_finite (archetype : Archetype) (str agi : ℚ) :
    deriveMaxHp coercions (.string archetype.text) (.number (.finite str)) (.number (.finite agi)) =
      some (.number (.finite (WalkingRpg.deriveMaxHp archetype str agi))) := by
  simp [deriveMaxHp, archetypeEntry_text, ArchetypeEntry.read, WalkingRpg.deriveMaxHp]

structure Reads (params : JsPlayer) (data : PlayerData) : Prop where
  level : params.level = .number (.finite data.level)
  archetype : params.archetype.orDefault (.string Archetype.martial.text) =
    .string (data.archetype.getD .martial).text
  str : params.str.Reads data.str
  agi : params.agi.Reads data.agi
  int : params.int.Reads data.int
  maxHp : params.maxHp.Reads data.maxHp
  hp : params.hp.Reads data.hp

def built (params : JsPlayer) (player : Player) : JsPlayer where
  id := params.id.orDefault (.string "player1")
  name := params.name.orDefault (.string "Adventurer")
  level := .number (.finite player.level)
  experience := params.experience.orDefault (.number (.finite 0))
  attack := params.attack.coalesce (.number (.finite (WalkingRpg.deriveAttack player.str player.agi)))
  defense := params.defense.coalesce (.number (.finite (WalkingRpg.deriveDefense player.str player.agi)))
  hp := .number (.finite player.hp)
  maxHp := .number (.finite player.maxHp)
  totalDistance := params.totalDistance.orDefault (.number (.finite 0))
  totalEncounters := params.totalEncounters.orDefault (.number (.finite 0))
  creaturesDefeated := params.creaturesDefeated.orDefault (.number (.finite 0))
  combatTurnsTaken := params.combatTurnsTaken.orDefault (.number (.finite 0))
  equipment := params.equipment.coalesce createEmptyEquipment
  inventory := .array (normalizeInventory params.inventory)
  archetype := .string player.archetype.text
  str := .number (.finite player.str)
  agi := .number (.finite player.agi)
  int := .number (.finite player.int)

theorem create_of_reads {params : JsPlayer} {data : PlayerData} (reads : Reads params data) :
    create coercions params = some (params.built (Player.create data)) := by
  simp [create, built, Player.create, reads.level, reads.archetype, computeAttributes_finite,
    reads.str.coalesce, reads.agi.coalesce, reads.int.coalesce, deriveAttack_finite, deriveDefense_finite,
    deriveMaxHp_finite, reads.maxHp.coalesce, reads.hp.coalesce, apply_ite Js.Value.number,
    apply_ite Js.Number.finite]

theorem fromJSON_of_missing {data : Js.Value} {archetype : Archetype} {level : ℚ}
    (named : (read data).archetype.coalesce (.string Archetype.martial.text) = .string archetype.text)
    (leveled : (read data).level = .number (.finite level))
    (missing : (read data).lacksAttribute = true) :
    fromJSON coercions data = create coercions { read data with
      archetype := .string archetype.text
      str := .number (.finite (WalkingRpg.computeAttributes archetype level).str)
      agi := .number (.finite (WalkingRpg.computeAttributes archetype level).agi)
      int := .number (.finite (WalkingRpg.computeAttributes archetype level).int) } := by
  simp only [fromJSON, named, leveled, missing, if_true, computeAttributes_finite, Option.bind_eq_bind,
    Option.bind_some]

theorem fromJSON_of_present {data : Js.Value} (present : (read data).lacksAttribute = false) :
    fromJSON coercions data = create coercions { read data with
      archetype := (read data).archetype.coalesce (.string Archetype.martial.text) } := by
  simp only [fromJSON, present, Bool.false_eq_true, if_false]

end Numbers

open Storage (equipmentDocument slotDocument playerDataDocument playerDataFields)

def ofAmount (held : Option ℚ) : Js.Value := held.elim .undefined fun amount => .number (.finite amount)

theorem ofAmount_reads (held : Option ℚ) : (ofAmount held).Reads held := by
  cases held with
  | none => rfl
  | some amount => rfl

def ofSlot (slot : Option Item) : Js.Value := (slotDocument slot).toJs

def encoded (data : PlayerData) : JsPlayer where
  id := .string data.id
  name := .string data.name
  level := .number (.finite data.level)
  experience := .number (.finite data.experience)
  attack := ofAmount data.attack
  defense := ofAmount data.defense
  hp := ofAmount data.hp
  maxHp := ofAmount data.maxHp
  totalDistance := .number (.finite data.totalDistance)
  totalEncounters := .number (.finite data.totalEncounters)
  creaturesDefeated := .number (.finite data.creaturesDefeated)
  combatTurnsTaken := ofAmount data.combatTurnsTaken
  equipment := data.equipment.elim .undefined fun equipment => (equipmentDocument equipment).toJs
  inventory := data.inventory.elim .undefined fun inventory => .array (inventory.map ofSlot)
  archetype := data.archetype.elim .undefined fun archetype => .string archetype.text
  str := ofAmount data.str
  agi := ofAmount data.agi
  int := ofAmount data.int

theorem property_playerDataDocument (data : PlayerData) (name : String) :
    (playerDataDocument data).toJs.property name =
      (((playerDataFields data).lookup name).join.map Firestore.Value.toJs).getD .undefined := by
  have distinct : ((playerDataFields data).map Prod.fst).Nodup := by
    simp only [playerDataFields, List.map_cons, List.map_nil]
    decide
  rw [← Firestore.Rules.field_record distinct]
  exact Firestore.Value.property_toJs name _

theorem toJs_number (amount : ℚ) : (Storage.number amount).toJs = .number (.finite amount) :=
  Firestore.Value.toJs_of_number? (Storage.number?_number amount)

theorem toJs_amount (held : Option ℚ) :
    ((held.map Storage.number).map Firestore.Value.toJs).getD .undefined = ofAmount held := by
  cases held with
  | none => rfl
  | some amount => exact toJs_number amount

theorem itemsToJs_eq_map (items : List Firestore.Value) :
    Firestore.Value.itemsToJs items = items.map Firestore.Value.toJs := by
  induction items with
  | nil => rfl
  | cons item rest ih => rw [Firestore.Value.itemsToJs, ih, List.map_cons]

theorem read_playerDataDocument (data : PlayerData) :
    read (playerDataDocument data).toJs = encoded data := by
  have equipment : ((data.equipment.map equipmentDocument).map Firestore.Value.toJs).getD .undefined =
      (encoded data).equipment := by
    cases worn : data.equipment <;> simp [encoded, worn]
  have inventory : ((data.inventory.map fun inventory => Firestore.Value.array (inventory.map slotDocument)).map
      Firestore.Value.toJs).getD .undefined = (encoded data).inventory := by
    cases carried : data.inventory <;>
      simp [encoded, carried, Firestore.Value.toJs, itemsToJs_eq_map, ofSlot, Function.comp_def]
  have archetype : ((data.archetype.map fun archetype => Firestore.Value.string archetype.text).map
      Firestore.Value.toJs).getD .undefined = (encoded data).archetype := by
    cases chosen : data.archetype <;> simp [encoded, chosen, Firestore.Value.toJs]
  simp only [read, property_playerDataDocument]
  -- The lookups evaluate, since the names of the fields are literals.
  apply JsPlayer.mk.injEq .. |>.mpr
  exact ⟨rfl, rfl, toJs_number _, toJs_number _, toJs_amount _, toJs_amount _, toJs_amount _, toJs_amount _,
    toJs_number _, toJs_number _, toJs_number _, toJs_amount _, equipment, inventory, archetype,
    toJs_amount _, toJs_amount _, toJs_amount _⟩

theorem reads_encoded (data : PlayerData) : Reads (encoded data) data where
  level := rfl
  archetype := by
    cases chosen : data.archetype <;> simp [encoded, chosen]
  str := ofAmount_reads _
  agi := ofAmount_reads _
  int := ofAmount_reads _
  maxHp := ofAmount_reads _
  hp := ofAmount_reads _

theorem normalizeInventory_map (inventory : List (Option Item)) :
    normalizeInventory (.array (inventory.map ofSlot)) = (WalkingRpg.normalizeInventory inventory).map ofSlot := by
  have empty : ofSlot none = .null := rfl
  simp [normalizeInventory, WalkingRpg.normalizeInventory, List.map_take, empty]

theorem built_encoded (data : PlayerData) :
    (encoded data).built (Player.create data) = encoded (Player.create data).toJSON := by
  have amount (held : Option ℚ) (other : ℚ) :
      (ofAmount held).coalesce (.number (.finite other)) = ofAmount (some (held.getD other)) :=
    (ofAmount_reads held).coalesce other
  have turns : (ofAmount data.combatTurnsTaken).orDefault (.number (.finite 0)) =
      ofAmount (some (data.combatTurnsTaken.getD 0)) := by
    cases data.combatTurnsTaken <;> rfl
  have equipment : (encoded data).equipment.coalesce createEmptyEquipment =
      (equipmentDocument (data.equipment.getD WalkingRpg.createEmptyEquipment)).toJs := by
    cases worn : data.equipment <;> simp only [encoded, worn] <;> rfl
  have inventory : normalizeInventory (encoded data).inventory = (Player.create data).inventory.map ofSlot := by
    cases carried : data.inventory with
    | none => simp only [encoded, carried, Player.create]; rfl
    | some items => simpa [encoded, carried, Player.create] using normalizeInventory_map items
  apply JsPlayer.mk.injEq .. |>.mpr
  exact ⟨rfl, rfl, rfl, rfl, amount _ _, amount _ _, rfl, rfl, rfl, rfl, rfl, turns, equipment,
    congrArg Js.Value.array inventory, rfl, rfl, rfl, rfl⟩

theorem create_encoded (coercions : Js.Coercions) (data : PlayerData) :
    create coercions (encoded data) = some (encoded (Player.create data).toJSON) := by
  rw [create_of_reads coercions (reads_encoded data), built_encoded]

theorem isUndefined_ofAmount (held : Option ℚ) : (ofAmount held).isUndefined = held.isNone := by
  cases held <;> rfl

theorem fromJSON_playerDataDocument (coercions : Js.Coercions) (data : PlayerData) :
    fromJSON coercions (playerDataDocument data).toJs = some (encoded (Player.fromJSON data).toJSON) := by
  have fields := read_playerDataDocument data
  have named : (read (playerDataDocument data).toJs).archetype.coalesce (.string Archetype.martial.text) =
      .string (data.archetype.getD .martial).text := by
    rw [fields]
    cases chosen : data.archetype <;> simp only [encoded, chosen] <;> rfl
  have leveled : (read (playerDataDocument data).toJs).level = .number (.finite data.level) := by
    rw [fields]
    rfl
  have undefined : (read (playerDataDocument data).toJs).lacksAttribute =
      (data.str.isNone || data.agi.isNone || data.int.isNone) := by
    rw [fields]
    simp only [lacksAttribute, encoded, isUndefined_ofAmount]
  cases missing : (data.str.isNone || data.agi.isNone || data.int.isNone) with
  | true =>
    rw [fromJSON_of_missing coercions named leveled (undefined.trans missing), fields,
      Player.fromJSON_of_missing missing]
    exact create_encoded coercions { data with
      archetype := some (data.archetype.getD .martial)
      str := some (WalkingRpg.computeAttributes (data.archetype.getD .martial) data.level).str
      agi := some (WalkingRpg.computeAttributes (data.archetype.getD .martial) data.level).agi
      int := some (WalkingRpg.computeAttributes (data.archetype.getD .martial) data.level).int }
  | false =>
    rw [fromJSON_of_present coercions (undefined.trans missing), named, fields, Player.fromJSON_of_present missing]
    exact create_encoded coercions { data with archetype := some (data.archetype.getD .martial) }

theorem fromJSON_toJSON (coercions : Js.Coercions) {player : Player} (normalized : player.Normalized) :
    fromJSON coercions (playerDataDocument player.toJSON).toJs = some (encoded player.toJSON) := by
  rw [fromJSON_playerDataDocument, normalized.decoded.1]

def itemProperties : List String := [
  "id", "name", "description", "rarity", "level", "attack", "defense", "maxHp", "dropChance", "affixes",
  "type", "slot"]

def Shows (value : Js.Value) (item : Item) : Prop :=
  ∀ name ∈ itemProperties, value.property name = (Storage.itemDocument item).toJs.property name

theorem shows_itemDocument (item : Item) : Shows (Storage.itemDocument item).toJs item := fun _ _ => rfl

theorem field_itemDocument (item : Item) :
    Firestore.Rules.field "id" (Storage.itemDocument item) = some (.string item.id) ∧
    Firestore.Rules.field "type" (Storage.itemDocument item) = some (.string item.type.text) ∧
    Firestore.Rules.field "slot" (Storage.itemDocument item) =
      item.slot.map fun slot => Firestore.Value.string slot.text := by
  unfold Storage.itemDocument
  rw [Firestore.Rules.field_record (by simp only [List.map_cons, List.map_nil]; decide),
    Firestore.Rules.field_record (by simp only [List.map_cons, List.map_nil]; decide),
    Firestore.Rules.field_record (by simp only [List.map_cons, List.map_nil]; decide)]
  exact ⟨rfl, rfl, rfl⟩

theorem Shows.isAccessory {value : Js.Value} {item : Item} (shows : Shows value item) :
    (value.property "type").isText "accessory" = decide (item.type = .accessory) := by
  rw [shows "type" (by decide), Firestore.Rules.property_of_field (field_itemDocument item).2.1]
  cases item.type <;> rfl

theorem Shows.slot {value : Js.Value} {item : Item} (shows : Shows value item) {slot : EquipmentSlot}
    (fixed : item.slot = some slot) : value.property "slot" = .string slot.text := by
  have held := (field_itemDocument item).2.2
  rw [fixed] at held
  exact (shows "slot" (by decide)).trans (Firestore.Rules.property_of_field held)

theorem not_shows_undefined (item : Item) : ¬ Shows .undefined item := by
  intro shows
  have id := (shows "id" (by decide)).trans (Firestore.Rules.property_of_field (field_itemDocument item).1)
  cases id

def IsSlot (value : Js.Value) : Prop := value.isNull = true ∨ ∃ item, Shows value item

def WearsAccessory (player : JsPlayer) : Prop :=
  ∃ slot ∈ [EquipmentSlot.accessory1, .accessory2], ∃ item, Shows (player.equipment.property slot.text) item

theorem property_equipmentDocument (equipment : Equipment) (slot : EquipmentSlot) :
    (equipmentDocument equipment).toJs.property slot.text = ofSlot (equipment.get slot) := by
  cases slot <;> exact Firestore.Rules.property_of_field rfl

theorem isNull_ofSlot (slot : Option Item) : (ofSlot slot).isNull = decide (slot = none) := by
  cases slot <;> rfl

theorem getEquipTargetSlot_encoded (player : Player) {value : Js.Value} {item : Item} (shows : Shows value item) :
    (encoded player.toJSON).getEquipTargetSlot value = .string (player.getEquipTargetSlot item).text := by
  have first : ((encoded player.toJSON).equipment.property "accessory1").isNull =
      decide (player.equipment.accessory1 = none) := by
    rw [← isNull_ofSlot]
    exact congrArg Js.Value.isNull (property_equipmentDocument player.equipment .accessory1)
  unfold getEquipTargetSlot Player.getEquipTargetSlot
  rw [shows.isAccessory, first]
  cases fixed : item.slot with
  | none =>
    have accessory : item.type = .accessory := by
      revert fixed
      unfold Item.slot
      cases item.type <;> simp
    rw [if_pos (decide_eq_true accessory)]
    by_cases empty : player.equipment.accessory1 = none
    · rw [if_pos (decide_eq_true empty), if_pos empty]
      rfl
    · rw [if_neg (by simpa using empty), if_neg empty]
      rfl
  | some slot =>
    have other : item.type ≠ .accessory := by
      intro accessory
      rw [Item.slot, accessory] at fixed
      cases fixed
    rw [if_neg (by simpa using other)]
    exact shows.slot fixed

theorem resolveEquipTargetSlot_encoded (player : Player) {value : Js.Value} {item : Item} (shows : Shows value item)
    (preferredSlot : Option EquipmentSlot) :
    (encoded player.toJSON).resolveEquipTargetSlot value (preferredSlot.elim .null fun slot => .string slot.text) =
      .string (player.resolveEquipTargetSlot item preferredSlot).text := by
  unfold resolveEquipTargetSlot Player.resolveEquipTargetSlot
  rw [shows.isAccessory, getEquipTargetSlot_encoded player shows]
  by_cases accessory : item.type = .accessory
  · simp only [accessory, decide_true, Bool.true_and, true_and]
    rcases preferredSlot with _ | slot
    · rfl
    · cases slot <;> rfl
  · simp [accessory]

/-- What the rest of the game takes for granted of a player. -/
structure Playable (player : JsPlayer) : Prop where
  archetype : ∃ archetype : Archetype, player.archetype = .string archetype.text
  attack : player.attack.typeof = .number
  defense : player.defense.typeof = .number
  attributes : ∃ str agi int : ℚ, player.str = .number (.finite str) ∧ player.agi = .number (.finite agi) ∧
    player.int = .number (.finite int)
  hp : ∃ hp maxHp : ℚ, player.hp = .number (.finite hp) ∧ player.maxHp = .number (.finite maxHp) ∧
    0 ≤ hp ∧ hp ≤ maxHp
  inventory : ∃ items, player.inventory = .array items ∧ items.length = maxInventorySize
  equipment : ∀ slot : EquipmentSlot, IsSlot (player.equipment.property slot.text)

theorem Playable.accessory {player : JsPlayer} (playable : player.Playable) {item preferredSlot : Js.Value}
    (accessory : (item.property "type").isText "accessory" = true) (unspecified : preferredSlot.isNullish = true)
    (bare : ¬ player.WearsAccessory) :
    player.resolveEquipTargetSlot item preferredSlot = .string "accessory1" := by
  have empty : (player.equipment.property "accessory1").isNull = true := by
    rcases playable.equipment .accessory1 with empty | worn
    · exact empty
    · exact absurd ⟨.accessory1, by decide, worn⟩ bare
  have choice : (preferredSlot.isText "accessory1" || preferredSlot.isText "accessory2") = false := by
    cases preferredSlot with
    | undefined | null => rfl
    | _ => cases unspecified
  simp [resolveEquipTargetSlot, getEquipTargetSlot, accessory, choice, empty]

theorem length_normalizeInventory (inventory : Js.Value) :
    (normalizeInventory inventory).length = maxInventorySize := by
  cases inventory with
  | array items => exact Slots.length_filled _ _ _
  | _ => exact List.length_replicate

structure Validated (data : Js.Value) : Prop where
  level : (∃ level, data.property "level" = .number (.finite level)) ∨
    data.property "level" = .number (.infinity true)
  attack : (data.property "attack").typeof = .number
  defense : (data.property "defense").typeof = .number
  equipment : (data.property "equipment").isNullish = false

theorem validated {data : Js.Value} (valid : Storage.isValidPlayerData data = true) : Validated data := by
  have checked : (data.property "level").typeof = .number ∧ (data.property "level").atLeast 1 = true ∧
      (data.property "attack").typeof = .number ∧ (data.property "defense").typeof = .number ∧
      (data.property "equipment").typeof = .object ∧ (data.property "equipment").isNull = false := by
    unfold Storage.isValidPlayerData at valid
    split at valid
    · cases valid
    · simp only [Bool.and_eq_true, decide_eq_true_eq, Bool.not_eq_true'] at valid
      tauto
  obtain ⟨level, bounded, attack, defense, object, notNull⟩ := checked
  refine ⟨?_, attack, defense, ?_⟩
  · cases held : data.property "level" with
    | number number =>
      cases number with
      | finite level => exact .inl ⟨level, rfl⟩
      | nan =>
        rw [held] at bounded
        cases bounded
      | infinity positive =>
        rw [held] at bounded
        cases (bounded : positive = true)
        exact .inr rfl
    | _ =>
      rw [held] at level
      cases level
  · cases worn : data.property "equipment" with
    | undefined => rw [worn] at object; cases object
    | null => rw [worn] at notNull; cases notNull
    | _ => rfl

/-- An attribute as it is restored: the finite number of the record if it has all three attributes,
and otherwise, or in place of a null, what a finite level gives. -/
def RestoresAttribute (data : Js.Value) (archetype : Archetype) (name : String) (stat : Attributes → ℚ)
    (amount : ℚ) : Prop :=
  (read data).lacksAttribute = false ∧ data.property name = .number (.finite amount) ∨
    ((read data).lacksAttribute = true ∨ (data.property name).isNull = true) ∧
      ∃ level, data.property "level" = .number (.finite level) ∧
        amount = stat (WalkingRpg.computeAttributes archetype level)

/-- The record names a known archetype or none, its attributes restore to finite numbers, its max HP is
not negative, its HP is missing, not negative or found greater than the maximum, and each slot of its
equipment is there. -/
structure Restores (coercions : Js.Coercions) (data : Js.Value) (archetype : Archetype) (str agi int maxHp : ℚ) :
    Prop where
  named : (data.property "archetype").isNullish = true ∧ archetype = .martial ∨
    data.property "archetype" = .string archetype.text
  strength : RestoresAttribute data archetype "str" Attributes.str str
  agility : RestoresAttribute data archetype "agi" Attributes.agi agi
  intelligence : RestoresAttribute data archetype "int" Attributes.int int
  maximum : data.property "maxHp" = .number (.finite maxHp) ∨
    (data.property "maxHp").isNullish = true ∧ maxHp = WalkingRpg.deriveMaxHp archetype str agi
  nonneg : 0 ≤ maxHp
  current : (data.property "hp").isNullish = true ∨ (∃ hp, data.property "hp" = .number (.finite hp) ∧ 0 ≤ hp) ∨
    coercions.isGreater (data.property "hp") (.number (.finite maxHp)) = some true
  slots : ∀ slot : EquipmentSlot, IsSlot ((data.property "equipment").property slot.text)

def Restorable (coercions : Js.Coercions) (data : Js.Value) : Prop :=
  ∃ archetype str agi int maxHp, Restores coercions data archetype str agi int maxHp

/-- Computed attributes are finite at a finite level, and are then those of the typed model. -/
structure Computes (data : Js.Value) (archetype : Archetype) (attrs : JsAttributes) : Prop where
  str : ∀ amount, attrs.str = .finite amount ↔ ∃ level, data.property "level" = .number (.finite level) ∧
    amount = (WalkingRpg.computeAttributes archetype level).str
  agi : ∀ amount, attrs.agi = .finite amount ↔ ∃ level, data.property "level" = .number (.finite level) ∧
    amount = (WalkingRpg.computeAttributes archetype level).agi
  int : ∀ amount, attrs.int = .finite amount ↔ ∃ level, data.property "level" = .number (.finite level) ∧
    amount = (WalkingRpg.computeAttributes archetype level).int

def attributeOf (fields : JsPlayer) (own : Js.Value) (computed : Js.Number) : Js.Value :=
  if fields.lacksAttribute then .number computed else own.coalesce (.number computed)

def restored (fields : JsPlayer) (archetype : Archetype) (attrs : JsAttributes) (maxHp hp : Js.Value) : JsPlayer where
  id := fields.id.orDefault (.string "player1")
  name := fields.name.orDefault (.string "Adventurer")
  level := fields.level
  experience := fields.experience.orDefault (.number (.finite 0))
  attack := fields.attack
  defense := fields.defense
  hp := hp
  maxHp := maxHp
  totalDistance := fields.totalDistance.orDefault (.number (.finite 0))
  totalEncounters := fields.totalEncounters.orDefault (.number (.finite 0))
  creaturesDefeated := fields.creaturesDefeated.orDefault (.number (.finite 0))
  combatTurnsTaken := fields.combatTurnsTaken.orDefault (.number (.finite 0))
  equipment := fields.equipment
  inventory := .array (normalizeInventory fields.inventory)
  archetype := .string archetype.text
  str := attributeOf fields fields.str attrs.str
  agi := attributeOf fields fields.agi attrs.agi
  int := attributeOf fields fields.int attrs.int

section Decoding

variable (coercions : Js.Coercions) {data : Js.Value} {archetype : Archetype} {attrs : JsAttributes}

theorem Validated.computes (validated : Validated data) (archetype : Archetype) :
    ∃ attrs, computeAttributes coercions (.string archetype.text) (data.property "level") = some attrs ∧
      Computes data archetype attrs := by
  rcases validated.level with ⟨level, leveled⟩ | infinite
  · rw [leveled, computeAttributes_finite]
    refine ⟨_, rfl, ?_, ?_, ?_⟩ <;> intro amount <;>
      simp only [leveled, Js.Number.finite.injEq, Js.Value.number.injEq, exists_eq_left', eq_comm]
  · -- An infinite level gives infinite attributes, or NaN where there is no growth.
    have grows (base perLevel amount : ℚ) : ((Js.Number.finite base).add
        (((Js.Number.max (.finite 1) (.infinity true)).sub (.finite 1)).mul (.finite perLevel))) ≠ .finite amount := by
      have product : ((Js.Number.max (.finite 1) (.infinity true)).sub (.finite 1)).mul (.finite perLevel) =
          if perLevel = 0 then .nan else .infinity (true = decide (0 < perLevel)) := rfl
      rw [product]
      split <;> intro same <;> cases same
    refine ⟨_, by simp only [infinite, computeAttributes, Js.Coercions.toPropertyKey_string, archetypeEntry_text,
      Js.Coercions.toNumber_number, Option.bind_eq_bind, Option.bind_some]; rfl, ?_, ?_, ?_⟩ <;> intro amount <;>
      simp [infinite, ArchetypeEntry.read, grows]

theorem Validated.fromJSON_eq (validated : Validated data)
    (named : (data.property "archetype").coalesce (.string Archetype.martial.text) = .string archetype.text)
    (computed : computeAttributes coercions (.string archetype.text) (data.property "level") = some attrs) :
    fromJSON coercions data = (do
      let maxHp ← (data.property "maxHp").coalesceWith (deriveMaxHp coercions (.string archetype.text)
        (attributeOf (read data) (data.property "str") attrs.str)
        (attributeOf (read data) (data.property "agi") attrs.agi))
      let hp := (data.property "hp").coalesce maxHp
      let above ← coercions.isGreater hp maxHp
      return restored (read data) archetype attrs maxHp (if above then maxHp else hp)) := by
  have level : (read data).level.orDefault (.number (.finite 1)) = (read data).level := by
    show (data.property "level").orDefault _ = data.property "level"
    rcases validated.level with ⟨level, leveled⟩ | infinite
    · rw [leveled, Js.Value.orDefault_number]
    · rw [infinite, Js.Value.orDefault_number]
  have attack (alternative : Option Js.Value) :
      (read data).attack.coalesceWith alternative = some (read data).attack :=
    Js.Value.coalesceWith_of_typeof validated.attack alternative
  have defense (alternative : Option Js.Value) :
      (read data).defense.coalesceWith alternative = some (read data).defense :=
    Js.Value.coalesceWith_of_typeof validated.defense alternative
  have equipment : (read data).equipment.coalesce createEmptyEquipment = (read data).equipment :=
    if_neg (Bool.eq_false_iff.mp validated.equipment)
  change (read data).archetype.coalesce _ = _ at named
  change computeAttributes coercions _ (read data).level = _ at computed
  change fromJSON coercions data = (do
      let maxHp ← (read data).maxHp.coalesceWith (deriveMaxHp coercions (.string archetype.text)
        (attributeOf (read data) (read data).str attrs.str) (attributeOf (read data) (read data).agi attrs.agi))
      let hp := (read data).hp.coalesce maxHp
      let above ← coercions.isGreater hp maxHp
      return restored (read data) archetype attrs maxHp (if above then maxHp else hp))
  unfold fromJSON attributeOf
  generalize read data = fields at *
  dsimp only
  rw [named]
  cases missing : fields.lacksAttribute with
  | true =>
    simp only [create, level, attack, defense, equipment, computed, restored, attributeOf, missing, if_true,
      Js.Value.orDefault_string, Option.bind_eq_bind, Option.bind_some]
    rfl
  | false =>
    simp only [create, level, attack, defense, equipment, computed, restored, attributeOf, missing, if_false,
      Bool.false_eq_true, Js.Value.orDefault_string, Option.bind_eq_bind, Option.bind_some]

theorem archetype_create {params player : JsPlayer} (created : create coercions params = some player) :
    player.archetype = params.archetype.orDefault (.string Archetype.martial.text) := by
  simp only [create, Option.bind_eq_bind, Option.bind_eq_some_iff] at created
  obtain ⟨_, _, _, _, _, _, _, _, _, _, built⟩ := created
  cases Option.some.inj built
  rfl

theorem archetype_fromJSON {player : JsPlayer} (decodes : fromJSON coercions data = some player) :
    player.archetype = (data.property "archetype").coalesce (.string Archetype.martial.text) := by
  have present (value : Js.Value) : (value.coalesce (.string Archetype.martial.text)).orDefault
      (.string Archetype.martial.text) = value.coalesce (.string Archetype.martial.text) := by
    cases value <;> rfl
  unfold fromJSON at decodes
  dsimp only at decodes
  split at decodes
  · obtain ⟨_, _, created⟩ := Option.bind_eq_some_iff.mp decodes
    exact (archetype_create coercions created).trans (present _)
  · exact (archetype_create coercions decodes).trans (present _)

variable {name : String} {stat : Attributes → ℚ} {computed : Js.Number}

theorem attributeOf_eq_iff (defined : (read data).lacksAttribute = false → (data.property name).isUndefined = false)
    (computes : ∀ amount, computed = .finite amount ↔ ∃ level, data.property "level" = .number (.finite level) ∧
      amount = stat (WalkingRpg.computeAttributes archetype level)) (amount : ℚ) :
    attributeOf (read data) (data.property name) computed = .number (.finite amount) ↔
      RestoresAttribute data archetype name stat amount := by
  unfold attributeOf RestoresAttribute
  cases missing : (read data).lacksAttribute with
  | true => simp [computes]
  | false =>
    cases held : data.property name with
    | undefined => simp [held, Js.Value.isUndefined] at defined; simp [defined] at missing
    | null => simp [Js.Value.coalesce, Js.Value.isNullish, Js.Value.isNull, computes]
    | _ => simp [Js.Value.coalesce, Js.Value.isNullish, Js.Value.isNull]

theorem defined_of_present (present : (read data).lacksAttribute = false) :
    (data.property "str").isUndefined = false ∧ (data.property "agi").isUndefined = false ∧
      (data.property "int").isUndefined = false := by
  simpa [lacksAttribute, read, and_assoc] using present

theorem Validated.restorable (validated : Validated data) {player : JsPlayer}
    (decodes : fromJSON coercions data = some player) (playable : player.Playable) : Restorable coercions data := by
  obtain ⟨archetype, known⟩ := playable.archetype
  have named := (archetype_fromJSON coercions decodes).symm.trans known
  obtain ⟨attrs, computed, computes⟩ := validated.computes coercions archetype
  rw [validated.fromJSON_eq coercions named computed] at decodes
  simp only [Option.bind_eq_bind, Option.bind_eq_some_iff] at decodes
  obtain ⟨maximum, maxHpRead, above, compared, built⟩ := decodes
  cases Option.some.inj built
  obtain ⟨str, agi, int, strength, agility, intelligence⟩ := playable.attributes
  obtain ⟨hp, maxHp, current, maxHpIs, nonneg, bounded⟩ := playable.hp
  change maximum = _ at maxHpIs
  subst maxHpIs
  change attributeOf _ _ _ = _ at strength agility intelligence
  refine ⟨archetype, str, agi, int, maxHp, ?_, ?_, ?_, ?_, ?_, nonneg.trans bounded, ?_, playable.equipment⟩
  · cases held : (data.property "archetype").isNullish with
    | true =>
      have martial : Archetype.martial.text = archetype.text := by
        simpa [Js.Value.coalesce, held] using named
      refine .inl ⟨rfl, ?_⟩
      revert martial
      cases archetype <;> decide
    | false => exact .inr (by simpa [Js.Value.coalesce, held] using named)
  · exact (attributeOf_eq_iff (fun present => (defined_of_present present).1) computes.str str).mp strength
  · exact (attributeOf_eq_iff (fun present => (defined_of_present present).2.1) computes.agi agi).mp agility
  · exact (attributeOf_eq_iff (fun present => (defined_of_present present).2.2) computes.int int).mp intelligence
  · -- Max HP are those of the record, or derived from the restored attributes.
    cases missing : (data.property "maxHp").isNullish with
    | true =>
      have derived : deriveMaxHp coercions (.string archetype.text)
          (attributeOf (read data) (data.property "str") attrs.str)
          (attributeOf (read data) (data.property "agi") attrs.agi) = some (.number (.finite maxHp)) := by
        simpa [Js.Value.coalesceWith, missing] using maxHpRead
      rw [show attributeOf (read data) (data.property "str") attrs.str = _ from strength,
        show attributeOf (read data) (data.property "agi") attrs.agi = _ from agility, deriveMaxHp_finite] at derived
      refine .inr ⟨rfl, ?_⟩
      simpa using derived.symm
    | false => exact .inl (by simpa [Js.Value.coalesceWith, missing] using maxHpRead)
  · change (if above then _ else _) = _ at current
    cases missing : (data.property "hp").isNullish with
    | true => exact .inl rfl
    | false =>
      have own : (data.property "hp").coalesce (.number (.finite maxHp)) = data.property "hp" := by
        simp [Js.Value.coalesce, missing]
      rw [own] at compared current
      cases above with
      | true => exact .inr (.inr compared)
      | false => exact .inr (.inl ⟨hp, by simpa using current, nonneg⟩)

theorem Restores.playable {coercions : Js.Coercions} {str agi int maxHp : ℚ} (validated : Validated data)
    (restores : Restores coercions data archetype str agi int maxHp) :
    ∃ player, fromJSON coercions data = some player ∧ player.Playable := by
  have named : (data.property "archetype").coalesce (.string Archetype.martial.text) = .string archetype.text := by
    rcases restores.named with ⟨missing, rfl⟩ | known
    · exact if_pos missing
    · rw [known]
      rfl
  obtain ⟨attrs, computed, computes⟩ := validated.computes coercions archetype
  have strength := (attributeOf_eq_iff (fun present => (defined_of_present present).1) computes.str str).mpr
    restores.strength
  have agility := (attributeOf_eq_iff (fun present => (defined_of_present present).2.1) computes.agi agi).mpr
    restores.agility
  have intelligence := (attributeOf_eq_iff (fun present => (defined_of_present present).2.2) computes.int int).mpr
    restores.intelligence
  have maximum : (data.property "maxHp").coalesceWith (deriveMaxHp coercions (.string archetype.text)
      (attributeOf (read data) (data.property "str") attrs.str)
      (attributeOf (read data) (data.property "agi") attrs.agi)) = some (.number (.finite maxHp)) := by
    rw [strength, agility, deriveMaxHp_finite]
    rcases restores.maximum with own | ⟨missing, derived⟩
    · rw [own]
      rfl
    · rw [derived]
      exact if_pos missing
  -- Whatever the HP of the record are, a number between zero and the maximum comes out.
  have current : ∃ above hp, coercions.isGreater ((data.property "hp").coalesce (.number (.finite maxHp)))
      (.number (.finite maxHp)) = some above ∧
      (if above then .number (.finite maxHp) else (data.property "hp").coalesce (.number (.finite maxHp))) =
        Js.Value.number (.finite hp) ∧ 0 ≤ hp ∧ hp ≤ maxHp := by
    rcases restores.current with missing | ⟨hp, own, nonneg⟩ | greater
    · rw [show (data.property "hp").coalesce (.number (.finite maxHp)) = .number (.finite maxHp) from if_pos missing]
      exact ⟨false, maxHp, by simp, rfl, restores.nonneg, le_rfl⟩
    · rw [show (data.property "hp").coalesce (.number (.finite maxHp)) = .number (.finite hp) by rw [own]; rfl]
      by_cases exceeds : maxHp < hp
      · exact ⟨true, maxHp, by simp [exceeds], rfl, restores.nonneg, le_rfl⟩
      · exact ⟨false, hp, by simpa using exceeds, rfl, nonneg, not_lt.mp exceeds⟩
    · cases missing : (data.property "hp").isNullish with
      | true =>
        rw [show (data.property "hp").coalesce (.number (.finite maxHp)) = .number (.finite maxHp) from if_pos missing]
        exact ⟨false, maxHp, by simp, rfl, restores.nonneg, le_rfl⟩
      | false =>
        rw [show (data.property "hp").coalesce (.number (.finite maxHp)) = data.property "hp" from
          if_neg (Bool.eq_false_iff.mp missing)]
        exact ⟨true, maxHp, greater, rfl, restores.nonneg, le_rfl⟩
  obtain ⟨above, hp, compared, settled, nonneg, bounded⟩ := current
  rw [validated.fromJSON_eq coercions named computed]
  refine ⟨_, by rw [maximum]; simp only [Option.bind_eq_bind, Option.bind_some, compared, settled]; rfl, ?_⟩
  exact {
    archetype := ⟨archetype, rfl⟩
    attack := validated.attack
    defense := validated.defense
    attributes := ⟨str, agi, int, strength, agility, intelligence⟩
    hp := ⟨hp, maxHp, rfl, rfl, nonneg, bounded⟩
    inventory := ⟨_, rfl, length_normalizeInventory _⟩
    equipment := restores.slots }

end Decoding

/-- A validated save decodes to a playable character exactly when it is restorable. A first accessory then
goes to the first accessory slot. -/
theorem fromJSON_playable_iff (coercions : Js.Coercions) {data : Js.Value}
    (valid : Storage.isValidPlayerData data = true) :
    ((∃ player, fromJSON coercions data = some player ∧ player.Playable) ↔ Restorable coercions data) ∧
      ∀ player, fromJSON coercions data = some player → player.Playable →
        ∀ item preferredSlot : Js.Value, (item.property "type").isText "accessory" = true →
          preferredSlot.isNullish = true → ¬ player.WearsAccessory →
            player.resolveEquipTargetSlot item preferredSlot = .string "accessory1" := by
  refine ⟨⟨?_, ?_⟩, ?_⟩
  · rintro ⟨player, decodes, playable⟩
    exact (validated valid).restorable coercions decodes playable
  · rintro ⟨_, _, _, _, _, restores⟩
    exact restores.playable (validated valid)
  · intro player _ playable item preferredSlot accessory unspecified bare
    exact playable.accessory accessory unspecified bare

theorem isSlot_ofSlot (slot : Option Item) : IsSlot (ofSlot slot) := by
  cases slot with
  | none => exact .inl rfl
  | some item => exact .inr ⟨item, shows_itemDocument item⟩

theorem restorable_toJSON (coercions : Js.Coercions) {player : Player} (sound : player.Sound) :
    Restorable coercions (playerDataDocument player.toJSON).toJs := by
  have fields := read_playerDataDocument player.toJSON
  have present : (read (playerDataDocument player.toJSON).toJs).lacksAttribute = false := by
    rw [fields]
    rfl
  exact ⟨player.archetype, player.str, player.agi, player.int, player.maxHp, {
    named := .inr (congrArg JsPlayer.archetype fields)
    strength := .inl ⟨present, congrArg JsPlayer.str fields⟩
    agility := .inl ⟨present, congrArg JsPlayer.agi fields⟩
    intelligence := .inl ⟨present, congrArg JsPlayer.int fields⟩
    maximum := .inl (congrArg JsPlayer.maxHp fields)
    nonneg := sound.coherent.hp_nonneg.trans sound.coherent.hp_le
    current := .inr (.inl ⟨player.hp, congrArg JsPlayer.hp fields, sound.coherent.hp_nonneg⟩)
    slots := by
      intro slot
      have worn : (playerDataDocument player.toJSON).toJs.property "equipment" =
          (equipmentDocument player.equipment).toJs := congrArg JsPlayer.equipment fields
      rw [worn, property_equipmentDocument]
      exact isSlot_ofSlot _ }⟩

def saveWith (equipment : Js.Value) (others : List (String × Js.Value)) : Js.Value := .object ([
  ("id", .string "player1"), ("name", .string "Adventurer"), ("level", .number (.finite 3)),
  ("experience", .number (.finite 40)), ("attack", .number (.finite 25)), ("defense", .number (.finite 10)),
  ("totalDistance", .number (.finite 1200)), ("totalEncounters", .number (.finite 9)),
  ("creaturesDefeated", .number (.finite 4)), ("equipment", equipment)] ++ others)

/-- A save with a strength below zero, which does not matter to max HP that are there. -/
theorem fromJSON_playable_iff_negativeStrength :
    ∃ player, fromJSON ⟨fun _ => none, fun _ => none, fun _ _ => none⟩ (saveWith createEmptyEquipment [
      ("archetype", .string "mage"), ("str", .number (.finite (-1))), ("agi", .number (.finite 5)),
      ("int", .null), ("maxHp", .number (.finite 90)), ("hp", .number (.finite 40))]) = some player ∧
      player.Playable := by
  refine (fromJSON_playable_iff _ (by decide +kernel)).1.mpr 
    ⟨.mage, -1, 5, (WalkingRpg.computeAttributes .mage 3).int, 90, ?_⟩
  exact {
    named := .inr rfl
    strength := .inl ⟨rfl, rfl⟩
    agility := .inl ⟨rfl, rfl⟩
    intelligence := .inr ⟨.inr rfl, 3, rfl, rfl⟩
    maximum := .inl rfl
    nonneg := by norm_num
    current := .inr (.inl ⟨40, rfl, by norm_num⟩)
    slots := fun slot => by cases slot <;> exact .inl rfl }

def ring : Item :=
  { id := "ring", name := "Ring", description := "A ring.", rarity := .common, level := 1
    attack := none, defense := none, maxHp := none, dropChance := 0, affixes := none, type := .accessory }

/-- The validator asks for neither a known archetype nor the slots of the equipment. With an archetype
that the table does not have, decoding throws. Equipment without slots is kept as it is, and the first
accessory goes to the second slot. -/
theorem valid_saves_not_playable :
    (Storage.isValidPlayerData (saveWith createEmptyEquipment [("archetype", .string "rogue")]) = true ∧
      ∀ coercions, fromJSON coercions (saveWith createEmptyEquipment [("archetype", .string "rogue")]) = none) ∧
    Storage.isValidPlayerData (saveWith (.object []) []) = true ∧
      ∀ coercions, ∃ player, fromJSON coercions (saveWith (.object []) []) = some player ∧
        ¬ IsSlot (player.equipment.property "accessory1") ∧ ¬ player.WearsAccessory ∧
        player.resolveEquipTargetSlot (Storage.itemDocument ring).toJs .undefined = .string "accessory2" := by
  refine ⟨⟨by decide +kernel, fun _ => rfl⟩, by decide +kernel, fun coercions => ?_⟩
  let attrs := WalkingRpg.computeAttributes .martial 3
  have reads : Reads { read (saveWith (.object []) []) with
      archetype := .string Archetype.martial.text
      str := .number (.finite attrs.str), agi := .number (.finite attrs.agi), int := .number (.finite attrs.int) }
      { (Player.new .martial 3).toJSON with
        str := some attrs.str, agi := some attrs.agi, int := some attrs.int, maxHp := none, hp := none } :=
    ⟨rfl, rfl, rfl, rfl, rfl, rfl, rfl⟩
  have decoded := (fromJSON_of_missing coercions rfl rfl rfl).trans (create_of_reads coercions reads)
  refine ⟨_, decoded, ?_, ?_, ?_⟩
  · rintro (null | ⟨item, shows⟩)
    · cases null
    · exact not_shows_undefined item shows
  · rintro ⟨slot, _, item, shows⟩
    exact not_shows_undefined item shows
  · have accessory : ((Storage.itemDocument ring).toJs.property "type").isText "accessory" = true := rfl
    simp only [resolveEquipTargetSlot, getEquipTargetSlot, accessory]
    rfl

end JsPlayer

end WalkingRpg
