import WalkingRpg.Models.Archetype
import WalkingRpg.Models.Combat

/-! Abilities, status effects and the resolution of one ability. -/

set_option autoImplicit false

namespace WalkingRpg

structure StatModifiers where
  attack : Option ℚ
  defense : Option ℚ
  deriving DecidableEq

/-- The four ability primitives with the fields of their interfaces. -/
inductive AbilityPrimitive where
  | direct (damageMultiplier : ℚ) (damageType : DamageType)
  | dot (damagePerTick tickCount : ℚ) (damageType : DamageType)
  | buffDebuff (tickDuration : ℚ) (statModifiers : StatModifiers) (targetSelf : Bool)
  | defensive (healAmount healPercent shieldAmount : Option ℚ)
  deriving DecidableEq

structure Ability where
  id : String
  name : String
  resourceCost : ℚ
  primitive : AbilityPrimitive
  deriving DecidableEq

inductive StatusEffectType where
  | dot | buff | debuff
  deriving DecidableEq, Repr

structure StatusEffect where
  id : String
  type : StatusEffectType
  remainingTicks : ℚ
  damagePerTick : Option ℚ
  damageType : Option DamageType
  statModifiers : Option StatModifiers
  deriving DecidableEq

structure CombatantState where
  statusEffects : List StatusEffect
  resource : ℚ
  deriving DecidableEq

structure ResourceConfig where
  max : ℚ
  startValue : ℚ
  regenPerTurn : ℚ

def resourceConfigs : Archetype → ResourceConfig
  | .martial => ⟨100, 0, 10⟩
  | .agile => ⟨100, 80, 15⟩
  | .mage => ⟨100, 100, 20⟩

structure AbilityResult where
  damage : ℚ
  heal : ℚ
  shield : ℚ
  appliedEffects : List StatusEffect

structure DotEffect where
  damage : ℚ
  damageType : Option DamageType
  sourceId : String

def initCombatState (archetype : Archetype) : CombatantState :=
  { statusEffects := [], resource := (resourceConfigs archetype).startValue }

def regenResource (state : CombatantState) (archetype : Archetype) : CombatantState :=
  let cfg := resourceConfigs archetype
  { state with resource := min cfg.max (state.resource + cfg.regenPerTurn) }

def StatusEffect.dotEffect (effect : StatusEffect) : Option DotEffect :=
  match effect.type, effect.damagePerTick with
  | .dot, some damage => some ⟨damage, effect.damageType, effect.id⟩
  | _, _ => none

def StatusEffect.tick (effect : StatusEffect) : Option StatusEffect :=
  if effect.remainingTicks > 1 then
    some { effect with remainingTicks := effect.remainingTicks - 1 }
  else none

structure TickResult where
  dotDamage : ℚ
  dotEffects : List DotEffect
  updatedState : CombatantState

def tickStatusEffects (state : CombatantState) : TickResult :=
  let dotEffects := state.statusEffects.filterMap StatusEffect.dotEffect
  { dotDamage := (dotEffects.map DotEffect.damage).sum
    dotEffects := dotEffects
    updatedState := { state with statusEffects := state.statusEffects.filterMap StatusEffect.tick } }

def modifierSum (stat : StatModifiers → Option ℚ) (effects : List StatusEffect) : ℚ :=
  (effects.map fun effect => ((effect.statModifiers.bind stat).getD 0)).sum

structure EffectiveStats where
  attack : ℚ
  defense : ℚ

def computeEffectiveStats (baseAttack baseDefense : ℚ) (effects : List StatusEffect) :
    EffectiveStats :=
  { attack := max 1 (baseAttack + modifierSum StatModifiers.attack effects)
    defense := max 0 (baseDefense + modifierSum StatModifiers.defense effects) }

def resolveAbility (ability : Ability) (casterAttack targetDefense : ℚ)
    (targetResistances : Resistances) (casterMaxHp : ℚ) : AbilityResult :=
  match ability.primitive with
  | .direct damageMultiplier damageType =>
    let rawDamage := mitigateDamage casterAttack targetDefense damageMultiplier
    { damage := applyResistance rawDamage (targetResistances.get damageType)
      heal := 0, shield := 0, appliedEffects := [] }
  | .dot damagePerTick tickCount damageType =>
    { damage := 0, heal := 0, shield := 0
      appliedEffects := [{
        id := ability.id, type := .dot, remainingTicks := tickCount
        damagePerTick := some damagePerTick, damageType := some damageType
        statModifiers := none }] }
  | .buffDebuff tickDuration statModifiers targetSelf =>
    { damage := 0, heal := 0, shield := 0
      appliedEffects := [{
        id := ability.id, type := if targetSelf then .buff else .debuff
        remainingTicks := tickDuration, damagePerTick := none, damageType := none
        statModifiers := some statModifiers }] }
  | .defensive healAmount healPercent shieldAmount =>
    { damage := 0
      heal := healAmount.getD 0 + (healPercent.map fun percent => (⌊casterMaxHp * percent⌋ : ℚ)).getD 0
      shield := shieldAmount.getD 0, appliedEffects := [] }

/-- `ARCHETYPE_ABILITIES`, without the icons. -/
def archetypeAbilities : Archetype → List Ability
  | .martial => [
    ⟨"strike", "Strike", 0, .direct 1.1 .physical⟩,
    ⟨"power_strike", "Power Strike", 30, .direct 2.0 .physical⟩,
    ⟨"battle_cry", "Battle Cry", 20, .buffDebuff 3 ⟨some 10, none⟩ true⟩,
    ⟨"execute", "Execute", 60, .direct 3.5 .physical⟩]
  | .agile => [
    ⟨"quick_slash", "Quick Slash", 0, .direct 0.85 .physical⟩,
    ⟨"twin_fangs", "Twin Fangs", 20, .direct 1.5 .physical⟩,
    ⟨"hemorrhage", "Hemorrhage", 25, .dot 8 3 .physical⟩,
    ⟨"evasive_leap", "Evasive Leap", 30, .defensive (some 12) none none⟩]
  | .mage => [
    ⟨"arcane_bolt", "Arcane Bolt", 15, .direct 1.0 .arcane⟩,
    ⟨"fireball", "Fireball", 30, .direct 1.8 .fire⟩,
    ⟨"frost_bolt", "Frost Bolt", 20, .direct 1.3 .frost⟩,
    ⟨"immolate", "Immolate", 40, .dot 12 4 .fire⟩,
    ⟨"arcane_surge", "Arcane Surge", 50, .direct 3.0 .arcane⟩]

end WalkingRpg
