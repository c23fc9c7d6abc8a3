import Mathlib.Data.Nat.SuccPred
import WalkingRpg.Library.Countdown
import WalkingRpg.Library.Runs
import WalkingRpg.Models.Turn

/-! A fight as a run of ability calls.

The state is what `handleAbility` reads and writes of a fight. Its lists of status effects are
compared with a description that never ticks: an effect is due in a turn when the turn comes within
its duration after the cast.
-/

set_option autoImplicit false

namespace WalkingRpg

open Runs (Run)
open Countdown (standing after worthAfter)

def StatusEffect.aged (count : ℕ) (effect : StatusEffect) : Option StatusEffect :=
  if (count : ℚ) < effect.remainingTicks then
    some { effect with remainingTicks := effect.remainingTicks - count }
  else none

theorem StatusEffect.after_tick {effect : StatusEffect} (lasting : 1 ≤ effect.remainingTicks) (count : ℕ) :
    after StatusEffect.tick count effect = effect.aged count := by
  induction count with
  | zero =>
    have positive : 0 < effect.remainingTicks := by linarith
    simp [after, aged, positive]
  | succ count ih =>
    rw [after, ih]
    unfold aged
    push_cast
    by_cases standing : (count : ℚ) < effect.remainingTicks
    · have next : 1 < effect.remainingTicks - count ↔ (count : ℚ) + 1 < effect.remainingTicks := by
        constructor <;> intro <;> linarith
      simp only [if_pos standing, Option.bind_some, tick, gt_iff_lt, next]
      split
      · simp only [Option.some.injEq, StatusEffect.mk.injEq, true_and, and_true]
        ring
      · rfl
    · have expired : ¬(count : ℚ) + 1 < effect.remainingTicks := by linarith
      rw [if_neg standing, if_neg expired]
      rfl

def Timeless (worth : StatusEffect → ℚ) : Prop :=
  ∀ (effect : StatusEffect) (ticks : ℚ), worth { effect with remainingTicks := ticks } = worth effect

theorem worthAfter_tick {worth : StatusEffect → ℚ} (timeless : Timeless worth) {effect : StatusEffect}
    (lasting : 1 ≤ effect.remainingTicks) (count : ℕ) :
    worthAfter worth StatusEffect.tick count effect =
      if count < ⌈effect.remainingTicks⌉₊ then worth effect else 0 := by
  rw [worthAfter, StatusEffect.after_tick lasting, StatusEffect.aged]
  simp only [Nat.lt_ceil]
  split
  · exact timeless effect _
  · rfl

def tickTimes : ℕ → CombatantState → ℚ × CombatantState
  | 0, state => (0, state)
  | count + 1, state =>
    let ticked := tickStatusEffects state
    let rest := tickTimes count ticked.updatedState
    (ticked.dotDamage + rest.1, rest.2)

def StatusEffect.dotDamage (effect : StatusEffect) : ℚ := (effect.dotEffect.map DotEffect.damage).getD 0

theorem dotDamage_tickStatusEffects (state : CombatantState) :
    (tickStatusEffects state).dotDamage = (state.statusEffects.map StatusEffect.dotDamage).sum := by
  simp only [tickStatusEffects]
  induction state.statusEffects with
  | nil => rfl
  | cons effect effects ih =>
    rw [List.map_cons, List.sum_cons, ← ih, StatusEffect.dotDamage]
    cases dot : effect.dotEffect with
    | none => simp [dot]
    | some damage => simp [dot]

theorem tickTimes_eq (count : ℕ) (state : CombatantState) :
    tickTimes count state =
      (∑ j ∈ Finset.range count,
          (((List.filterMap StatusEffect.tick)^[j] state.statusEffects).map StatusEffect.dotDamage).sum,
        { state with statusEffects := (List.filterMap StatusEffect.tick)^[count] state.statusEffects }) := by
  induction count generalizing state with
  | zero => simp [tickTimes]
  | succ count ih =>
    rw [tickTimes, ih, Finset.sum_range_succ', dotDamage_tickStatusEffects, add_comm]
    rfl

theorem sum_range_lt (count bound : ℕ) (damage : ℚ) :
    ∑ j ∈ Finset.range count, (if j < bound then damage else 0) = damage * (min count bound : ℕ) := by
  induction count with
  | zero => simp
  | succ count ih =>
    rw [Finset.sum_range_succ, ih]
    by_cases within : count < bound
    · rw [if_pos within, min_eq_left within.le, min_eq_left (Nat.succ_le_of_lt within)]
      push_cast
      ring
    · rw [if_neg within, add_zero, min_eq_right (not_lt.mp within), min_eq_right (by omega)]

theorem tickTimes_spec (count : ℕ) (state : CombatantState)
    (lasting : ∀ effect ∈ state.statusEffects, 1 ≤ effect.remainingTicks) :
    tickTimes count state =
      ((state.statusEffects.map fun effect : StatusEffect =>
          effect.dotDamage * ((min count ⌈effect.remainingTicks⌉₊ : ℕ) : ℚ)).sum,
        { state with statusEffects :=
          (state.statusEffects.filter fun effect => (count : ℚ) < effect.remainingTicks).map fun effect =>
            { effect with remainingTicks := effect.remainingTicks - count } }) := by
  rw [tickTimes_eq, Countdown.sum_range_standing, Countdown.iterate_filterMap]
  have damage : ∀ effect ∈ state.statusEffects,
      ∑ j ∈ Finset.range count, worthAfter StatusEffect.dotDamage StatusEffect.tick j effect =
        effect.dotDamage * (min count ⌈effect.remainingTicks⌉₊ : ℕ) := by
    intro effect present
    rw [← sum_range_lt]
    exact Finset.sum_congr rfl fun j _ => worthAfter_tick (fun _ _ => rfl) (lasting effect present) j
  have kept : state.statusEffects.filterMap (after StatusEffect.tick count) =
      state.statusEffects.filterMap (StatusEffect.aged count) :=
    List.filterMap_congr fun effect present => StatusEffect.after_tick (lasting effect present) count
  rw [List.map_congr_left damage, kept]
  congr 2
  induction state.statusEffects with
  | nil => rfl
  | cons effect effects ih =>
    by_cases standing : (count : ℚ) < effect.remainingTicks
    · simp [StatusEffect.aged, standing, ← ih]
    · simp [StatusEffect.aged, standing, ← ih]

namespace Ability

def appliedEffects (ability : Ability) : List StatusEffect :=
  (resolveAbility ability 0 0 defaultResistances 0).appliedEffects

def effectsOn (toSelf : Bool) (ability : Ability) : List StatusEffect :=
  if ability.targetsSelf = toSelf then ability.appliedEffects else []

def Lasting (ability : Ability) : Prop :=
  match ability.primitive with
  | .dot _ tickCount _ => 1 ≤ tickCount
  | .buffDebuff tickDuration _ _ => 1 ≤ tickDuration
  | _ => True

/-- What a buff adds to a stat of the caster, or a debuff to one of the creature, in the turn that comes
`age` turns after the cast. -/
def modifierIn (toSelf : Bool) (stat : StatModifiers → Option ℚ) (ability : Ability) (age : ℕ) : ℚ :=
  match ability.primitive with
  | .buffDebuff tickDuration statModifiers targetSelf =>
    if targetSelf = toSelf ∧ age ≤ ⌈tickDuration⌉₊ then (stat statModifiers).getD 0 else 0
  | _ => 0

def dotIn (resistances : Resistances) (ability : Ability) (age : ℕ) : ℚ :=
  match ability.primitive with
  | .dot damagePerTick tickCount damageType =>
    if age ≤ ⌈tickCount⌉₊ then applyResistance damagePerTick (resistances.get damageType) else 0
  | _ => 0

theorem appliedEffects_resolveAbility (ability : Ability) (casterAttack targetDefense : ℚ)
    (targetResistances : Resistances) (casterMaxHp : ℚ) :
    (resolveAbility ability casterAttack targetDefense targetResistances casterMaxHp).appliedEffects =
      ability.appliedEffects := by
  unfold appliedEffects resolveAbility
  cases ability.primitive <;> rfl

theorem Lasting.effectsOn {ability : Ability} (lasting : ability.Lasting) (toSelf : Bool) :
    ∀ effect ∈ ability.effectsOn toSelf, 1 ≤ effect.remainingTicks := by
  intro effect present
  unfold Ability.effectsOn at present
  split at present
  · unfold appliedEffects resolveAbility at present
    unfold Lasting at lasting
    cases kind : ability.primitive with
    | direct damageMultiplier damageType => simp [kind] at present
    | dot damagePerTick tickCount damageType =>
      simp only [kind, List.mem_singleton] at present lasting
      subst present
      exact lasting
    | buffDebuff tickDuration statModifiers targetSelf =>
      simp only [kind, List.mem_singleton] at present lasting
      subst present
      exact lasting
    | defensive healAmount healPercent shieldAmount => simp [kind] at present
  · cases present

end Ability

def StatusEffect.modifier (stat : StatModifiers → Option ℚ) (effect : StatusEffect) : ℚ :=
  (effect.statModifiers.bind stat).getD 0

def StatusEffect.dealt (creature : Creature) (effect : StatusEffect) : ℚ :=
  (effect.dotEffect.map fun dot => (resistedDot creature dot).1).getD 0

section Ages

variable {ability : Ability} (lasting : ability.Lasting) (age : ℕ)

include lasting

theorem sum_modifier_effectsOn (toSelf : Bool) (stat : StatModifiers → Option ℚ) :
    ((ability.effectsOn toSelf).map (worthAfter (StatusEffect.modifier stat) StatusEffect.tick age)).sum =
      ability.modifierIn toSelf stat (age + 1) := by
  have aged := fun effect present =>
    worthAfter_tick (fun _ _ => rfl : Timeless (StatusEffect.modifier stat)) (lasting.effectsOn toSelf effect present) age
  rw [List.map_congr_left aged]
  unfold Ability.effectsOn Ability.modifierIn Ability.targetsSelf Ability.appliedEffects resolveAbility
  cases ability.primitive with
  | direct damageMultiplier damageType => cases toSelf <;> rfl
  | dot damagePerTick tickCount damageType => cases toSelf <;> simp [StatusEffect.modifier]
  | buffDebuff tickDuration statModifiers targetSelf =>
    by_cases here : targetSelf = toSelf
    · simp [here, StatusEffect.modifier]
    · simp [here]
  | defensive healAmount healPercent shieldAmount => cases toSelf <;> rfl

theorem sum_dealt_effectsOn (creature : Creature) :
    ((ability.effectsOn false).map (worthAfter (StatusEffect.dealt creature) StatusEffect.tick age)).sum =
      ability.dotIn creature.resistances (age + 1) := by
  have aged := fun effect present =>
    worthAfter_tick (fun _ _ => rfl : Timeless (StatusEffect.dealt creature)) (lasting.effectsOn false effect present) age
  rw [List.map_congr_left aged]
  unfold Ability.effectsOn Ability.dotIn Ability.targetsSelf Ability.appliedEffects resolveAbility
  cases ability.primitive with
  | direct damageMultiplier damageType => rfl
  | dot damagePerTick tickCount damageType =>
    simp [StatusEffect.dealt, StatusEffect.dotEffect, resistedDot]
  | buffDebuff tickDuration statModifiers targetSelf =>
    cases targetSelf <;> simp [StatusEffect.dealt, StatusEffect.dotEffect]
  | defensive healAmount healPercent shieldAmount => rfl

end Ages

/-- An accepted call of `handleAbility`, with the player it is made for and the draw it may take. -/
structure AbilityCall where
  player : Player
  ability : Ability
  draw : ℚ

structure Fight where
  creature : Creature
  playerState : CombatantState
  creatureState : Option CombatantState
  creatureDodgeStreak : ℚ

/-- What the effects of the calls so far amount to in the next turn: the last call has age one. -/
def due (worth : Ability → ℕ → ℚ) (calls : List AbilityCall) : ℚ :=
  ∑ i : Fin calls.length, worth (calls.get i).ability (calls.length - i)

def dueEffects (toSelf : Bool) : List AbilityCall → List StatusEffect
  | [] => []
  | call :: later =>
    (call.ability.effectsOn toSelf).filterMap (StatusEffect.aged later.length) ++ dueEffects toSelf later

theorem standing_eq_dueEffects (toSelf : Bool) {calls : List AbilityCall}
    (lasting : ∀ call ∈ calls, call.ability.Lasting) :
    standing StatusEffect.tick (fun call => call.ability.effectsOn toSelf) calls = dueEffects toSelf calls := by
  induction calls with
  | nil => rfl
  | cons call later ih =>
    rw [standing, dueEffects, ih fun other present => lasting other (List.mem_cons_of_mem _ present)]
    congr 1
    refine List.filterMap_congr fun effect present => StatusEffect.after_tick ?_ _
    exact (lasting call List.mem_cons_self).effectsOn toSelf effect present

theorem sum_standing_eq_due (toSelf : Bool) {worth : StatusEffect → ℚ} {worthIn : Ability → ℕ → ℚ}
    (amounts : ∀ {ability : Ability}, ability.Lasting → ∀ age,
      ((ability.effectsOn toSelf).map (worthAfter worth StatusEffect.tick age)).sum = worthIn ability (age + 1))
    {calls : List AbilityCall} (lasting : ∀ call ∈ calls, call.ability.Lasting) :
    ((standing StatusEffect.tick (fun call => call.ability.effectsOn toSelf) calls).map worth).sum =
      due worthIn calls := by
  rw [Countdown.sum_standing, due]
  refine Finset.sum_congr rfl fun i _ => ?_
  have age : calls.length - 1 - i + 1 = calls.length - i := by omega
  rw [amounts (lasting _ (List.get_mem _ _)), age]

def Creature.worn (creature : Creature) (total : ℚ) : Creature :=
  if total > 0 then creature.takeDamage total else creature

theorem creature_tickCreature (creature : Creature) (state : Option CombatantState) :
    (tickCreature creature state).creature =
      creature.worn ((((state.map CombatantState.statusEffects).getD []).map (StatusEffect.dealt creature)).sum) := by
  have total (effects : List StatusEffect) :
      (((effects.filterMap StatusEffect.dotEffect).map (resistedDot creature)).map Prod.fst).sum =
        (effects.map (StatusEffect.dealt creature)).sum := by
    induction effects with
    | nil => rfl
    | cons effect effects ih =>
      rw [List.map_cons, List.sum_cons, ← ih, StatusEffect.dealt]
      cases dot : effect.dotEffect with
      | none => simp [dot]
      | some damage => simp [dot]
  unfold tickCreature
  cases state with
  | none => simp [Creature.worn]
  | some current =>
    dsimp only [Option.map_some, Option.getD_some]
    rw [← total]
    split
    · rfl
    · rename_i none
      have empty : current.statusEffects = [] := List.length_eq_zero_iff.mp (by omega)
      simp [empty, Creature.worn]

namespace Fight

def creatureEffects (fight : Fight) : List StatusEffect :=
  (fight.creatureState.map CombatantState.statusEffects).getD []

def play (fight : Fight) (call : AbilityCall) : TurnOutcome :=
  playTurn call.player fight.creature fight.playerState fight.creatureState call.ability
    fight.creatureDodgeStreak call.draw

/-- `handleAbility` on the data of the fight. A call is refused when the creature is dead and when the
ability costs more than there is. -/
def step (fight : Fight) (call : AbilityCall) : Option Fight :=
  if fight.creature.isDefeated then none
  else if call.ability.resourceCost > fight.playerState.resource then none
  else
    let turn := fight.play call
    some ⟨turn.creature, turn.playerState, turn.creatureState, turn.creatureDodgeStreak⟩

def opened (creature : Creature) (archetype : Archetype) : Fight :=
  ⟨creature, initCombatState archetype, some ⟨[], 0⟩, 0⟩

structure Bare (fight : Fight) : Prop where
  player : fight.playerState.statusEffects = []
  creature : fight.creatureEffects = []

/-- An accepted call was affordable and found the creature alive. Its tick kills the creature, or its
ability runs: then the effects tick and those of the ability join them. -/
structure Accepted (fight : Fight) (call : AbilityCall) (after : Fight) : Prop where
  alive : fight.creature.isDefeated = false
  affordable : call.ability.resourceCost ≤ fight.playerState.resource
  outcome :
    (after.creature.isDefeated = true ∧ after.playerState.resource = fight.playerState.resource) ∨
    (after.playerState.statusEffects =
        fight.playerState.statusEffects.filterMap StatusEffect.tick ++ call.ability.effectsOn true ∧
      after.creatureEffects =
        fight.creatureEffects.filterMap StatusEffect.tick ++ call.ability.effectsOn false ∧
      after.playerState.resource = min (resourceConfigs call.player.archetype).max
        (max 0 (fight.playerState.resource - call.ability.resourceCost) +
          (resourceConfigs call.player.archetype).regenPerTurn))

end Fight

theorem CombatantState.ticked_eq (state : CombatantState) :
    state.ticked = { state with statusEffects := state.statusEffects.filterMap StatusEffect.tick } := by
  unfold ticked
  split
  · rfl
  · rename_i none
    have empty : state.statusEffects = [] := List.length_eq_zero_iff.mp (by omega)
    rw [empty, List.filterMap_nil, ← empty]

theorem state_tickCreature (creature : Creature) (state : Option CombatantState) :
    (((tickCreature creature state).state).map CombatantState.statusEffects).getD [] =
      ((state.map CombatantState.statusEffects).getD []).filterMap StatusEffect.tick := by
  unfold tickCreature
  cases state with
  | none => rfl
  | some current =>
    cases effects : current.statusEffects with
    | nil => simp [effects]
    | cons effect rest => simp [effects, tickStatusEffects]

namespace Fight

variable {start fight after : Fight} {call : AbilityCall} {calls : List AbilityCall}

theorem accepted_of_step (taken : fight.step call = some after) : fight.Accepted call after := by
  unfold step at taken
  split at taken
  · cases taken
  rename_i alive
  split at taken
  · cases taken
  rename_i affordable
  refine ⟨Bool.not_eq_true _ ▸ alive, not_lt.mp affordable, ?_⟩
  cases Option.some.inj taken
  unfold play playTurn
  dsimp only
  split
  · rename_i dead
    rw [CombatantState.ticked_eq]
    exact .inl ⟨dead, rfl⟩
  · refine .inr ⟨?_, ?_, ?_⟩
    · simp [CombatantState.ticked_eq, regenResource, Ability.effectsOn, Ability.appliedEffects_resolveAbility]
    · have ticked := state_tickCreature fight.creature fight.creatureState
      simp only [creatureEffects, Option.map_some, Option.getD_some, ← ticked, Ability.effectsOn,
        Ability.appliedEffects_resolveAbility]
      cases (tickCreature fight.creature fight.creatureState).state <;> cases call.ability.targetsSelf <;> simp
    · simp [CombatantState.ticked_eq, regenResource, Player.clone, Player.create, Player.toJSON]

theorem effects_of_run (bare : start.Bare) (run : Run step (fun _ _ => True) start calls fight)
    (alive : fight.creature.isDefeated = false) :
    fight.playerState.statusEffects =
        standing StatusEffect.tick (fun call => call.ability.effectsOn true) calls ∧
      fight.creatureEffects = standing StatusEffect.tick (fun call => call.ability.effectsOn false) calls := by
  refine run.history (fun calls fight => fight.creature.isDefeated = false →
    fight.playerState.statusEffects =
        standing StatusEffect.tick (fun call => call.ability.effectsOn true) calls ∧
      fight.creatureEffects = standing StatusEffect.tick (fun call => call.ability.effectsOn false) calls)
    (fun _ => ⟨bare.player, bare.creature⟩) ?_ alive
  intro calls before call after standing _ taken survives
  have accepted := accepted_of_step taken
  obtain ⟨player, creature⟩ := standing accepted.alive
  rcases accepted.outcome with ⟨dead, _⟩ | ⟨playerEffects, creatureEffects, _⟩
  · rw [survives] at dead
    cases dead
  · rw [playerEffects, creatureEffects, player, creature, Countdown.standing_snoc, Countdown.standing_snoc]
    exact ⟨rfl, rfl⟩

/-- The next turn of a fight uses every effect of the earlier turns that is due in it, and no other. -/
structure PlaysAsDue (fight : Fight) (calls : List AbilityCall) (call : AbilityCall) : Prop where
  playerEffects : fight.playerState.statusEffects = dueEffects true calls
  creatureEffects : fight.creatureEffects = dueEffects false calls
  tick : (tickCreature fight.creature fight.creatureState).creature =
    fight.creature.worn (due (Ability.dotIn fight.creature.resistances) calls)
  ability : (fight.play call).resolved = true → (fight.play call).creature =
    (swing call.player.clone (tickCreature fight.creature fight.creatureState).creature call.ability
      (resolveAbility call.ability
        (max 1 (call.player.attack + due (Ability.modifierIn true StatModifiers.attack) calls))
        (max 0 (fight.creature.defense + due (Ability.modifierIn false StatModifiers.defense) calls))
        fight.creature.resistances call.player.maxHp).damage
      fight.creatureDodgeStreak call.draw).creature
  counterAttack : (fight.play call).counterAttack =
    max 1 (fight.creature.attack + due (Ability.modifierIn false StatModifiers.attack) calls)
  counterDefense : (fight.play call).counterDefense =
    max 0 (call.player.defense + due (Ability.modifierIn true StatModifiers.defense) calls)

theorem figures_play (fight : Fight) (call : AbilityCall) :
    (fight.play call).counterAttack =
        max 1 (fight.creature.attack + modifierSum StatModifiers.attack fight.creatureEffects) ∧
      (fight.play call).counterDefense =
        max 0 (call.player.defense + modifierSum StatModifiers.defense fight.playerState.statusEffects) ∧
      ((fight.play call).resolved = true → (fight.play call).creature =
        (swing call.player.clone (tickCreature fight.creature fight.creatureState).creature call.ability
          (resolveAbility call.ability
            (max 1 (call.player.attack + modifierSum StatModifiers.attack fight.playerState.statusEffects))
            (max 0 (fight.creature.defense + modifierSum StatModifiers.defense fight.creatureEffects))
            fight.creature.resistances call.player.maxHp).damage
          fight.creatureDodgeStreak call.draw).creature) := by
  unfold play playTurn
  dsimp only
  split
  · exact ⟨rfl, rfl, fun resolved => by cases resolved⟩
  · exact ⟨rfl, rfl, fun _ => rfl⟩

def abilityResult (fight : Fight) (call : AbilityCall) : AbilityResult :=
  let player := call.player.clone
  resolveAbility call.ability
    (computeEffectiveStats player.attack player.defense fight.playerState.statusEffects).attack
    (computeEffectiveStats 0 fight.creature.defense fight.creatureEffects).defense
    fight.creature.resistances player.maxHp

def healHits (player : Player) (heal : ℚ) : List CombatHitEvent :=
  if heal > 0 then [{
    target := .player, amount := heal, damageType := none, resist := .neutral
    kind := .heal, targetMaxHp := player.maxHp }] else []

structure Ran (fight : Fight) (call : AbilityCall) (struck : Swing) : Prop where
  resolved : (fight.play call).resolved = true
  creature : (fight.play call).creature = struck.creature
  dodgeStreak : (fight.play call).creatureDodgeStreak = struck.dodgeStreak
  player : (fight.play call).player =
    if (fight.abilityResult call).heal > 0 then call.player.clone.restoreHp (fight.abilityResult call).heal
    else call.player.clone
  hits : (fight.play call).hits = (tickCreature fight.creature fight.creatureState).hits ++ struck.hits ++
    healHits call.player.clone (fight.abilityResult call).heal ++
    statusHits call.player.clone fight.creature call.ability

theorem ran_play (survives : (tickCreature fight.creature fight.creatureState).creature.isDefeated = false) :
    fight.Ran call (swing call.player.clone (tickCreature fight.creature fight.creatureState).creature
      call.ability (fight.abilityResult call).damage fight.creatureDodgeStreak call.draw) := by
  have played : fight.play call = _ := if_neg (Bool.eq_false_iff.mp survives)
  constructor <;> rw [played] <;> rfl

theorem stopped_play (dead : (tickCreature fight.creature fight.creatureState).creature.isDefeated = true) :
    (fight.play call).resolved = false ∧
      (fight.play call).creature = (tickCreature fight.creature fight.creatureState).creature ∧
      (fight.play call).player = call.player.clone ∧
      (fight.play call).hits = (tickCreature fight.creature fight.creatureState).hits := by
  have played : fight.play call = _ := if_pos dead
  rw [played]
  exact ⟨rfl, rfl, rfl, rfl⟩

theorem playsAsDue_of_run (bare : start.Bare) (lasting : ∀ call ∈ calls, call.ability.Lasting)
    (run : Run step (fun _ _ => True) start calls fight) (alive : fight.creature.isDefeated = false)
    (call : AbilityCall) : fight.PlaysAsDue calls call := by
  obtain ⟨player, creature⟩ := effects_of_run bare run alive
  have buffs (stat : StatModifiers → Option ℚ) :
      modifierSum stat fight.playerState.statusEffects = due (Ability.modifierIn true stat) calls := by
    rw [player]
    exact sum_standing_eq_due true (fun lasts age => sum_modifier_effectsOn lasts age true stat) lasting
  have debuffs (stat : StatModifiers → Option ℚ) :
      modifierSum stat fight.creatureEffects = due (Ability.modifierIn false stat) calls := by
    rw [creature]
    exact sum_standing_eq_due false (fun lasts age => sum_modifier_effectsOn lasts age false stat) lasting
  have dots : (fight.creatureEffects.map (StatusEffect.dealt fight.creature)).sum =
      due (Ability.dotIn fight.creature.resistances) calls := by
    rw [creature]
    exact sum_standing_eq_due false (fun lasts age => sum_dealt_effectsOn lasts age fight.creature) lasting
  obtain ⟨counterAttack, counterDefense, ability⟩ := fight.figures_play call
  rw [buffs, debuffs] at ability
  exact {
    playerEffects := player.trans (standing_eq_dueEffects true lasting)
    creatureEffects := creature.trans (standing_eq_dueEffects false lasting)
    tick := by rw [← dots]; exact creature_tickCreature fight.creature fight.creatureState
    ability := ability
    counterAttack := by rw [counterAttack, debuffs]
    counterDefense := by rw [counterDefense, buffs] }

/-- In every fight an effect is used in exactly the turns of its duration after the cast, whatever else is
active; and several ticks in a row deal the damage of each effect as often as it lasts. -/
theorem effects_last_exactly :
    (∀ {start fight : Fight} {calls : List AbilityCall}, start.Bare →
      (∀ call ∈ calls, call.ability.Lasting) → Run step (fun _ _ => True) start calls fight →
      fight.creature.isDefeated = false → ∀ call, fight.PlaysAsDue calls call) ∧
    ∀ (count : ℕ) (state : CombatantState), (∀ effect ∈ state.statusEffects, 1 ≤ effect.remainingTicks) →
      tickTimes count state =
        ((state.statusEffects.map fun effect : StatusEffect =>
            effect.dotDamage * ((min count ⌈effect.remainingTicks⌉₊ : ℕ) : ℚ)).sum,
          { state with statusEffects :=
            (state.statusEffects.filter fun effect => (count : ℚ) < effect.remainingTicks).map fun effect =>
              { effect with remainingTicks := effect.remainingTicks - count } }) :=
  ⟨fun bare lasting run alive call => playsAsDue_of_run bare lasting run alive call,
    fun count state lasting => tickTimes_spec count state lasting⟩

def dummy : Creature :=
  Creature.create { id := "dummy", name := "Dummy", type := "dummy", maxHp := 500, attack := 1, defense := 1, speed := 1 }

def immolate : AbilityCall := ⟨.new .mage 1, ⟨"immolate", "Immolate", 40, .dot 12 4 .fire⟩, 0⟩

def arcaneBolt : AbilityCall := ⟨.new .mage 1, ⟨"arcane_bolt", "Arcane Bolt", 15, .direct 1.0 .arcane⟩, 0⟩

/-- Two turns after the cast the fire is due, and does its 12. -/
theorem effects_last_exactly_immolate : ∃ fight,
    Run step (fun _ _ => True) (opened dummy .mage) [immolate, arcaneBolt] fight ∧
      (tickCreature fight.creature fight.creatureState).creature = fight.creature.worn 12 := by
  have reached : ∃ fight, Run step (fun _ _ => True) (opened dummy .mage) [immolate, arcaneBolt] fight ∧
      fight.creature.isDefeated = false ∧ fight.creature.resistances = dummy.resistances :=
    Run.exists_of_exec (by decide +kernel)
  obtain ⟨fight, run, alive, resistances⟩ := reached
  have lasting : ∀ call ∈ [immolate, arcaneBolt], call.ability.Lasting := by
    simp [immolate, arcaneBolt, Ability.Lasting]
  have plays := effects_last_exactly.1 ⟨rfl, rfl⟩ lasting run alive arcaneBolt
  refine ⟨fight, run, ?_⟩
  have amount : due (Ability.dotIn dummy.resistances) [immolate, arcaneBolt] = 12 := by decide +kernel
  rw [plays.tick, resistances, amount]

/-- The least the resource can be: what it starts with, or what one turn gives back. -/
def resourceFloor (archetype : Archetype) : ℚ :=
  min (resourceConfigs archetype).startValue (resourceConfigs archetype).regenPerTurn

theorem startValue_le_max (archetype : Archetype) :
    (resourceConfigs archetype).startValue ≤ (resourceConfigs archetype).max := by
  cases archetype <;> decide +kernel

theorem resourceFloor_nonneg (archetype : Archetype) : 0 ≤ resourceFloor archetype := by
  cases archetype <;> decide +kernel

theorem exists_affordable (archetype : Archetype) :
    ∃ ability ∈ archetypeAbilities archetype, ability.resourceCost ≤ resourceFloor archetype := by
  cases archetype with
  | martial => exact ⟨_, List.mem_cons_self, by decide +kernel⟩
  | agile => exact ⟨_, List.mem_cons_self, by decide +kernel⟩
  | mage => exact ⟨_, List.mem_cons_self, by decide +kernel⟩

theorem Accepted.resource {archetype : Archetype} (accepted : fight.Accepted call after)
    (caster : call.player.archetype = archetype)
    (within : resourceFloor archetype ≤ fight.playerState.resource ∧
      fight.playerState.resource ≤ (resourceConfigs archetype).max) :
    resourceFloor archetype ≤ after.playerState.resource ∧
      after.playerState.resource ≤ (resourceConfigs archetype).max := by
  rcases accepted.outcome with ⟨_, same⟩ | ⟨_, _, regained⟩
  · rw [same]
    exact within
  · rw [regained, caster]
    refine ⟨le_min (within.1.trans within.2) ?_, min_le_left _ _⟩
    have spent : 0 ≤ max 0 (fight.playerState.resource - call.ability.resourceCost) := le_max_left _ _
    have floor : resourceFloor archetype ≤ (resourceConfigs archetype).regenPerTurn := min_le_right _ _
    linarith

theorem resource_of_run {creature : Creature} {archetype : Archetype} {kind : AbilityCall → Prop}
    (casters : ∀ call, kind call → call.player.archetype = archetype)
    (run : Run step (fun _ call => kind call) (opened creature archetype) calls fight) :
    resourceFloor archetype ≤ fight.playerState.resource ∧
      fight.playerState.resource ≤ (resourceConfigs archetype).max := by
  refine run.invariant (fun fight => resourceFloor archetype ≤ fight.playerState.resource ∧
    fight.playerState.resource ≤ (resourceConfigs archetype).max)
    ⟨min_le_left _ _, startValue_le_max archetype⟩ ?_
  intro before call after held known taken
  exact (accepted_of_step taken).resource (casters call known) held

/-- Over every fight that an archetype plays with its own abilities, an accepted ability is paid for, the
resource stays within its bounds, and some ability can always be afforded. -/
theorem run_roster_affordable {creature : Creature} {archetype : Archetype}
    (run : Run step (fun _ call => call.player.archetype = archetype ∧ call.ability ∈ archetypeAbilities archetype)
      (opened creature archetype) calls fight) :
    (∀ call after, fight.step call = some after → call.ability.resourceCost ≤ fight.playerState.resource) ∧
      0 ≤ fight.playerState.resource ∧ fight.playerState.resource ≤ (resourceConfigs archetype).max ∧
      ∃ ability ∈ archetypeAbilities archetype, ability.resourceCost ≤ fight.playerState.resource := by
  obtain ⟨floor, ceiling⟩ := resource_of_run (fun _ known => known.1) run
  obtain ⟨ability, known, cheap⟩ := exists_affordable archetype
  exact ⟨fun call after taken => (accepted_of_step taken).affordable,
    (resourceFloor_nonneg archetype).trans floor, ceiling, ability, known, cheap.trans floor⟩

/-- A mage who has just spent 55 of 100 and regained 40. -/
theorem run_roster_affordable_mage : ∃ fight,
    Run step (fun _ call => call.player.archetype = .mage ∧ call.ability ∈ archetypeAbilities .mage)
      (opened dummy .mage) [immolate, arcaneBolt] fight ∧ fight.playerState.resource = 100 - 40 + 20 - 15 + 20 ∧
    ∃ ability ∈ archetypeAbilities .mage, ability.resourceCost ≤ fight.playerState.resource := by
  have reached : ∃ fight,
      Run step (fun _ call => call.player.archetype = .mage ∧ call.ability ∈ archetypeAbilities .mage)
        (opened dummy .mage) [immolate, arcaneBolt] fight ∧ fight.playerState.resource = 100 - 40 + 20 - 15 + 20 :=
    Run.exists_of_exec (by decide +kernel)
  obtain ⟨fight, run, resource⟩ := reached
  exact ⟨fight, run, resource, (run_roster_affordable run).2.2.2⟩

end Fight

end WalkingRpg
