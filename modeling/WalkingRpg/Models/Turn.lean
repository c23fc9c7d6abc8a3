import WalkingRpg.Models.Ability
import WalkingRpg.Models.Creature
import WalkingRpg.Models.PlayerStats

/-! One turn of a fight: the ability of the player and the counter-attack.

These are the computations of the turn. When they run and what they are applied
to is up to the encounter hook.
-/

set_option autoImplicit false

namespace WalkingRpg

inductive ResistTier where
  | resisted | neutral | vulnerable
  deriving DecidableEq, Repr

def classifyResist (resistance : ℚ) : ResistTier :=
  if resistance > 0 then .resisted else if resistance < 0 then .vulnerable else .neutral

inductive HitKind where
  | hit | dot | heal | buff | debuff
  deriving DecidableEq, Repr

/-- A published hit. The label is kept as the stat changes it is formatted from. -/
structure CombatHitEvent where
  target : Combatant
  amount : ℚ
  damageType : Option DamageType
  resist : ResistTier
  kind : HitKind
  targetMaxHp : ℚ
  label : Option StatModifiers := none
  evade : Option EvadeOutcome := none
  deriving DecidableEq

def evadeTag (outcome : EvadeOutcome) : Option EvadeOutcome :=
  if outcome = .normal then none else some outcome

def CombatantState.ticked (state : CombatantState) : CombatantState :=
  if state.statusEffects.length > 0 then (tickStatusEffects state).updatedState else state

def resistedDot (creature : Creature) (effect : DotEffect) : ℚ × Option CombatHitEvent :=
  let resistVal := (effect.damageType.map creature.resistances.get).getD 0
  let dealt := applyResistance effect.damage resistVal
  (dealt, if dealt > 0 then
    some { target := .creature, amount := dealt, damageType := effect.damageType
           resist := classifyResist resistVal, kind := .dot, targetMaxHp := creature.maxHp }
    else none)

structure CreatureTick where
  creature : Creature
  state : Option CombatantState
  hits : List CombatHitEvent

def tickCreature (creature : Creature) (state : Option CombatantState) : CreatureTick :=
  match state with
  | none => ⟨creature, none, []⟩
  | some current =>
    if current.statusEffects.length > 0 then
      let ticked := tickStatusEffects current
      let dots := ticked.dotEffects.map (resistedDot creature)
      let total := (dots.map Prod.fst).sum
      -- Effects that are fully resisted expire all the same.
      { creature := if total > 0 then creature.takeDamage total else creature
        state := some ticked.updatedState
        hits := dots.filterMap Prod.snd }
    else ⟨creature, some current, []⟩

structure Swing where
  creature : Creature
  dodgeStreak : ℚ
  hits : List CombatHitEvent

/-- The evadable part of a direct ability. A swing without damage is not rolled for. -/
def swing (player : Player) (creature : Creature) (ability : Ability) (damage dodgeStreak draw : ℚ) :
    Swing :=
  match ability.primitive with
  | .direct _ damageType =>
    if damage > 0 then
      let evasion := rollEvasion player.speed creature.speed .creature dodgeStreak draw
      let dealt := applyEvasionDamage damage evasion.outcome
      { creature := creature.takeDamage dealt
        dodgeStreak := evasion.nextDodgeStreak
        hits := [{
          target := .creature, amount := dealt, damageType := some damageType
          resist := classifyResist (creature.resistances.get damageType), kind := .hit
          targetMaxHp := creature.maxHp, evade := evadeTag evasion.outcome }] }
    else ⟨creature, dodgeStreak, []⟩
  | _ => ⟨creature, dodgeStreak, []⟩

def Ability.targetsSelf (ability : Ability) : Bool :=
  match ability.primitive with
  | .buffDebuff _ _ targetSelf => targetSelf
  | _ => false

def statusHits (player : Player) (creature : Creature) (ability : Ability) : List CombatHitEvent :=
  match ability.primitive with
  | .buffDebuff _ statModifiers true => [{
      target := .player, amount := 0, damageType := none, resist := .neutral, kind := .buff
      targetMaxHp := player.maxHp, label := some statModifiers }]
  | .buffDebuff _ statModifiers false => [{
      target := .creature, amount := 0, damageType := none, resist := .neutral, kind := .debuff
      targetMaxHp := creature.maxHp, label := some statModifiers }]
  | _ => []

structure TurnOutcome where
  player : Player
  creature : Creature
  playerState : CombatantState
  creatureState : Option CombatantState
  creatureDodgeStreak : ℚ
  hits : List CombatHitEvent
  /-- The ability ran. Otherwise the tick at the start of the turn killed the creature. -/
  resolved : Bool
  counterAttack : ℚ
  counterDefense : ℚ

/-- The body of `handleAbility` after its guards, up to the writes. Effective stats use
the effects from before the tick. -/
def playTurn (currentPlayer : Player) (creature : Creature) (playerState : CombatantState)
    (creatureState : Option CombatantState) (ability : Ability) (dodgeStreak draw : ℚ) : TurnOutcome :=
  let player := currentPlayer.clone
  let effective := computeEffectiveStats player.attack player.defense playerState.statusEffects
  let preTick := (creatureState.map CombatantState.statusEffects).getD []
  let tick := tickCreature creature creatureState
  let counterAttack := (computeEffectiveStats creature.attack 0 preTick).attack
  if tick.creature.isDefeated then
    { player := player, creature := tick.creature, playerState := playerState.ticked
      creatureState := tick.state, creatureDodgeStreak := dodgeStreak, hits := tick.hits
      resolved := false, counterAttack := counterAttack, counterDefense := effective.defense }
  else
    -- A debuff that expired in the tick still counts in the turn it expires.
    let targetDefense := (computeEffectiveStats 0 creature.defense preTick).defense
    let result := resolveAbility ability effective.attack targetDefense creature.resistances player.maxHp
    let struck := swing player tick.creature ability result.damage dodgeStreak draw
    let healed := if result.heal > 0 then player.restoreHp result.heal else player
    let healHits : List CombatHitEvent := if result.heal > 0 then [{
        target := .player, amount := result.heal, damageType := none, resist := .neutral
        kind := .heal, targetMaxHp := player.maxHp }] else []
    let selfEffects := if ability.targetsSelf then result.appliedEffects else []
    let enemyEffects := if ability.targetsSelf then [] else result.appliedEffects
    let ticked := playerState.ticked
    let afterCost := { ticked with resource := max 0 (ticked.resource - ability.resourceCost) }
    let regened := regenResource afterCost player.archetype
    -- A creature gets its state with the first turn.
    let creatureBase := tick.state.getD { statusEffects := [], resource := 0 }
    { player := healed, creature := struck.creature
      playerState := { regened with statusEffects := regened.statusEffects ++ selfEffects }
      creatureState := some
        { creatureBase with statusEffects := creatureBase.statusEffects ++ enemyEffects }
      creatureDodgeStreak := struck.dodgeStreak
      hits := tick.hits ++ struck.hits ++ healHits ++ statusHits player creature ability
      resolved := true, counterAttack := counterAttack, counterDefense := effective.defense }

theorem totalDistance_playTurn (currentPlayer : Player) (creature : Creature)
    (playerState : CombatantState) (creatureState : Option CombatantState) (ability : Ability)
    (dodgeStreak draw : ℚ) :
    (playTurn currentPlayer creature playerState creatureState ability dodgeStreak draw).player.totalDistance =
      currentPlayer.totalDistance := by
  unfold playTurn
  dsimp only
  split
  · rfl
  · dsimp only
    split <;> rfl

theorem isDefeated_of_not_resolved {currentPlayer : Player} {creature : Creature}
    {playerState : CombatantState} {creatureState : Option CombatantState} {ability : Ability}
    {dodgeStreak draw : ℚ}
    (stopped : (playTurn currentPlayer creature playerState creatureState ability dodgeStreak
      draw).resolved = false) :
    (playTurn currentPlayer creature playerState creatureState ability dodgeStreak
      draw).creature.isDefeated = true := by
  unfold playTurn at stopped ⊢
  dsimp only at stopped ⊢
  split at stopped
  · rename_i dead
    rw [if_pos dead]
    exact dead
  · cases stopped

structure CounterStrike where
  player : Player
  playerDodgeStreak : ℚ
  hit : CombatHitEvent

/-- The strike of a counter beat on the player that is current when it lands. -/
def counterStrike (currentPlayer : Player) (creature : Creature) (creatureAttack playerDefense : ℚ)
    (dodgeStreak draw : ℚ) : CounterStrike :=
  let countered := currentPlayer.clone.incrementCombatTurns
  let baseDamage := mitigateDamage creatureAttack playerDefense 1
  let evasion := rollEvasion creature.speed countered.speed .player dodgeStreak draw
  let creatureDamage := applyEvasionDamage baseDamage evasion.outcome
  { player := if creatureDamage > 0 then countered.takeDamage creatureDamage else countered
    playerDodgeStreak := evasion.nextDodgeStreak
    hit := {
      target := .player, amount := creatureDamage, damageType := some .physical, resist := .neutral
      kind := .hit, targetMaxHp := countered.maxHp, evade := evadeTag evasion.outcome } }

end WalkingRpg
