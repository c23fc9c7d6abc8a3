import WalkingRpg.Encounter.Deeds
import WalkingRpg.Encounter.SkippedFight
import WalkingRpg.Storage.PlayerDocument

/-! Every player that the hook saves is one the rules admit.

A deed is a sequence of the operations that keep a player coherent and solvent, as long as distances
are not negative, loot comes from the loot service and creatures have a level. The creatures of the
hook were rolled, rebuilt from a held record or struck by a turn, so they have one.
-/

set_option autoImplicit false

namespace WalkingRpg

open Runs (Run)
open Player (Activity)
open Sampling (Sampler)

def idleLoot (now : ℕ) (stream : ℕ → ℚ) (position : ℕ) : LootRoll :=
  fun level => (LootService.dropItem now false level none stream position).1

/-- A roll of the loot service, on draws that are not negative. -/
inductive LootService.Rolls : LootRoll → Prop where
  | victory (now : ℕ) (forceItemDrop : Bool) (forcedRarity : Option Rarity) {stream : ℕ → ℚ} (position : ℕ) :
      (∀ i, 0 ≤ stream i) → Rolls (victoryLoot now forceItemDrop forcedRarity stream position)
  | idle (now : ℕ) {stream : ℕ → ℚ} (position : ℕ) : (∀ i, 0 ≤ stream i) → Rolls (idleLoot now stream position)

theorem generated_of_dropped {gate : Sampler Bool} {generate : Sampler Item} {stream : ℕ → ℚ} {position : ℕ} {item : Item}
    (dropped : ((do
      let drops ← gate
      if drops then
        let item ← generate
        return some item
      else return none : Sampler (Option Item)) stream position).1 = some item) :
    ∃ reached, (generate stream reached).1 = item := by
  simp only [Sampler.bind_apply, Sampler.ite_apply, Sampler.pure_apply] at dropped
  split at dropped
  · exact ⟨_, Option.some.inj dropped⟩
  · cases dropped

theorem LootService.Rolls.nonNegative {loot : LootRoll} (rolls : LootService.Rolls loot) {level : ℚ} {item : Item}
    (dropped : loot level = some item) : item.NonNegative := by
  cases rolls with
  | victory now forceItemDrop forcedRarity position draws =>
    have scale : 0 ≤ activeCombatLootMultiplier := by norm_num [activeCombatLootMultiplier]
    cases forceItemDrop with
    | true =>
      obtain ⟨_, rfl⟩ := generated_of_dropped dropped
      exact generateItem_nonNegative draws _ _ _ scale
    | false =>
      obtain ⟨_, rfl⟩ := generated_of_dropped dropped
      exact generateItem_nonNegative draws _ _ _ scale
  | idle now position draws =>
    obtain ⟨_, rfl⟩ := generated_of_dropped dropped
    exact generateItem_nonNegative draws _ _ _ zero_le_one

theorem floor_mul_nonneg {reward factor : ℚ} (paid : 0 ≤ reward) (scale : 0 ≤ factor) :
    (0 : ℚ) ≤ ⌊reward * factor⌋ := by
  exact_mod_cast Int.floor_nonneg.mpr (mul_nonneg paid scale)

theorem getExperienceReward_nonneg {creature : Creature} (level : 0 ≤ creature.level) :
    0 ≤ creature.getExperienceReward := by
  have multiplier : 0 ≤ creature.getRarityMultiplier := by
    unfold Creature.getRarityMultiplier
    cases creature.rarity <;> norm_num
  exact floor_mul_nonneg (mul_nonneg (by norm_num) level) multiplier

theorem activeCombatXp_nonneg {reward : ℚ} (paid : 0 ≤ reward) : 0 ≤ activeCombatXp reward :=
  floor_mul_nonneg paid (by norm_num [CombatConfig.activeCombatXpMultiplier])

theorem computeAutoCombatXp_nonneg {creature : Creature} (level : 0 ≤ creature.level) (won : Bool) :
    0 ≤ computeAutoCombatXp creature won := by
  have paid := getExperienceReward_nonneg level
  cases won with
  | true => exact paid
  | false => exact floor_mul_nonneg paid (by norm_num [CombatConfig.lossXpFraction])

/-- What an action brings is in order: distances, drops and players put in place. -/
structure Hook.Action.Fair (action : Hook.Action) : Prop where
  walked : 0 ≤ action.walked
  loot : ∀ loot ∈ action.loot?, LootService.Rolls loot
  put : ∀ player, action = .setPlayer player → player.Recordable

variable {base : Player} {hook after : Hook} {action : Hook.Action}

/-- Valid operations lead from the one player to the other. -/
def Reworked (base player : Player) : Prop :=
  ∃ activities : List Activity, (∀ activity ∈ activities, activity.Valid) ∧
    player = activities.foldl Activity.apply base

theorem Reworked.and_then {player : Player} (reworked : Reworked base player) (more : List Activity)
    (valid : ∀ activity ∈ more, activity.Valid) : Reworked base (more.foldl Activity.apply player) := by
  obtain ⟨activities, allowed, rfl⟩ := reworked
  refine ⟨activities ++ more, fun activity present => ?_, (List.foldl_append ..).symm⟩
  exact (List.mem_append.mp present).elim (allowed activity) (valid activity)

theorem reworked_victoryReward (base : Player) {creature : Creature} {loot : LootRoll} (level : 0 ≤ creature.level)
    (rolls : LootService.Rolls loot) : Reworked base (victoryReward base creature loot).1 := by
  have gain := activeCombatXp_nonneg (getExperienceReward_nonneg level)
  unfold victoryReward
  dsimp only
  split
  · refine ⟨[.stats .clone, .defeatCreature, .incrementEncounters,
      .stats (.addExperience (activeCombatXp creature.getExperienceReward)), .stats .fullHeal], ?_, rfl⟩
    simp [Activity.Valid, Player.Op.Valid, gain]
  · rename_i item dropped
    refine ⟨[.stats .clone, .defeatCreature, .incrementEncounters,
      .stats (.addExperience (activeCombatXp creature.getExperienceReward)), .stats (.addItemToInventory item),
      .stats .fullHeal], ?_, rfl⟩
    simp [Activity.Valid, Player.Op.Valid, gain, rolls.nonNegative dropped]

theorem reworked_updatedPlayer (call : PassiveResolution) (level : 0 ≤ call.creature.level)
    (rolls : LootService.Rolls call.loot) : Reworked call.basePlayer call.updatedPlayer := by
  have gain : 0 ≤ call.outcome.xpGained := by
    unfold PassiveResolution.outcome
    cases call.tier with
    | active => exact activeCombatXp_nonneg (getExperienceReward_nonneg level)
    | idle => exact computeAutoCombatXp_nonneg level _
  have leveled : Reworked call.basePlayer call.leveled := by
    unfold PassiveResolution.leveled
    cases call.outcome.won with
    | false =>
      refine ⟨[.stats .clone, .incrementEncounters, .stats (.addExperience call.outcome.xpGained)], ?_, rfl⟩
      simp [Activity.Valid, Player.Op.Valid, gain]
    | true =>
      refine ⟨[.stats .clone, .incrementEncounters, .defeatCreature,
        .stats (.addExperience call.outcome.xpGained)], ?_, rfl⟩
      simp [Activity.Valid, Player.Op.Valid, gain]
  rw [call.updatedPlayer_eq]
  cases drop : call.dropped with
  | none => exact leveled.and_then [.stats .fullHeal] (by simp [Activity.Valid, Player.Op.Valid])
  | some item =>
    have rolled : ∃ level, call.loot level = some item := by
      unfold PassiveResolution.dropped PassiveResolution.outcome at drop
      cases tier : call.tier with
      | active => exact ⟨_, by rwa [tier] at drop⟩
      | idle =>
        rw [tier] at drop
        exact ⟨_, (Option.ite_none_right_eq_some.mp drop).2⟩
    obtain ⟨_, rolled⟩ := rolled
    refine leveled.and_then [.stats (.addItemToInventory item), .stats .fullHeal] ?_
    simp [Activity.Valid, Player.Op.Valid, rolls.nonNegative rolled]

theorem reworked_playTurn (base : Player) (creature : Creature) (playerState : CombatantState)
    (creatureState : Option CombatantState) (ability : Ability) (dodgeStreak draw : ℚ) :
    Reworked base (playTurn base creature playerState creatureState ability dodgeStreak draw).player := by
  unfold playTurn
  dsimp only
  split
  · exact ⟨[.stats .clone], by simp [Activity.Valid, Player.Op.Valid], rfl⟩
  · dsimp only
    split
    · rename_i heals
      refine ⟨[.stats .clone, .stats (.restoreHp _)], ?_, rfl⟩
      simpa [Activity.Valid, Player.Op.Valid] using heals.le
    · exact ⟨[.stats .clone], by simp [Activity.Valid, Player.Op.Valid], rfl⟩

theorem reworked_counterStrike (base : Player) (creature : Creature)
    (creatureAttack playerDefense dodgeStreak draw : ℚ) :
    Reworked base (counterStrike base creature creatureAttack playerDefense dodgeStreak draw).player := by
  unfold counterStrike
  dsimp only
  split
  · rename_i hurts
    refine ⟨[.stats .clone, .incrementCombatTurns, .stats (.takeDamage _)], ?_, rfl⟩
    simpa [Activity.Valid, Player.Op.Valid] using hurts.le
  · exact ⟨[.stats .clone, .incrementCombatTurns], by simp [Activity.Valid, Player.Op.Valid], rfl⟩

theorem Deed.reworked (deed : Deed) (fair : action.Fair) (grounds : hook.Grounds action deed)
    (levels : ∀ creature, hook.Meets creature → 0 ≤ creature.level) (base : Player) :
    Reworked base (deed.apply base) := by
  cases deed with
  | walked distance =>
    have forward : 0 ≤ distance := by
      rw [show distance = action.walked from grounds]
      exact fair.walked
    exact ⟨[.stats .clone, .addDistance distance], by simp [Activity.Valid, Player.Op.Valid, forward], rfl⟩
  | won creature loot => exact reworked_victoryReward base (levels _ grounds.2) (fair.loot _ grounds.1)
  | skipped eid creature tier draw loot =>
    exact reworked_updatedPlayer ⟨eid, base, creature, tier, draw, loot⟩ (levels _ grounds.2) (fair.loot _ grounds.1)
  | fled =>
    exact ⟨[.stats .clone, .incrementEncounters, .stats .fullHeal], by simp [Activity.Valid, Player.Op.Valid], rfl⟩
  | acted creature playerState creatureState ability dodgeStreak draw =>
    exact reworked_playTurn base creature playerState creatureState ability dodgeStreak draw
  | struck creature creatureAttack playerDefense dodgeStreak draw =>
    exact reworked_counterStrike base creature creatureAttack playerDefense dodgeStreak draw
  | fell creature creatureAttack playerDefense dodgeStreak draw =>
    exact (reworked_counterStrike base creature creatureAttack playerDefense dodgeStreak draw).and_then
      [.stats .clone, .stats .fullHeal, .incrementEncounters] (by simp [Activity.Valid, Player.Op.Valid])

theorem level_rolled (roll : Hook.Roll) (playerLevel : ℚ) : 0 ≤ (roll.encounter playerLevel).creature.level :=
  zero_le_one.trans (le_max_left _ _)

theorem level_rebuildHeldFoe {now : ℚ} {stored rebuilt : Encounter}
    (loaded : rebuildHeldFoe now (heldEncounterData stored) = some rebuilt) :
    rebuilt.creature.level = stored.creature.level := by
  have creature : ((heldEncounterData stored).field "creature").bind creatureParamsOf = _ :=
    creatureParamsOf_held stored.creature
  have location : ((heldEncounterData stored).field "location").bind locationOf = _ :=
    locationOf_data stored.location
  simp only [rebuildHeldFoe, creature, location, Option.bind_eq_bind, Option.bind_some, Option.pure_def] at loaded
  cases Option.some.inj loaded
  rfl

theorem level_playTurn (player : Player) (creature : Creature) (playerState : CombatantState)
    (creatureState : Option CombatantState) (ability : Ability) (dodgeStreak draw : ℚ) :
    (playTurn player creature playerState creatureState ability dodgeStreak draw).creature.level = creature.level := by
  have ticked : (tickCreature creature creatureState).creature.level = creature.level := by
    unfold tickCreature
    split
    · rfl
    · split
      · dsimp only
        split <;> rfl
      · rfl
  have swung (striker : Player) (target : Creature) (damage : ℚ) :
      (swing striker target ability damage dodgeStreak draw).creature.level = target.level := by
    unfold swing
    split
    · split <;> rfl
    · rfl
  unfold playTurn
  dsimp only
  split
  · exact ticked
  · exact (swung _ _ _).trans ticked

namespace Hook

structure Levelled (hook : Hook) : Prop where
  creatures : ∀ ref, 0 ≤ (hook.creatures ref).level
  records : ∀ stored, hook.Stored stored → 0 ≤ stored.encounter.creature.level

inductive Rears (hook : Hook) : (Nat → Creature) → Prop where
  | kept : Rears hook hook.creatures
  | rolled (ref : Nat) (roll : Roll) (playerLevel : ℚ) :
      Rears hook (Function.update hook.creatures ref (roll.encounter playerLevel).creature)
  | rebuilt {stored : StoredFoe} {encounter : Encounter} (ref : Nat) : hook.Stored stored →
      encounter.creature.level = stored.encounter.creature.level →
      Rears hook (Function.update hook.creatures ref encounter.creature)
  | turned {creature : Creature} (ref : Nat) : creature.level = (hook.creatures ref).level →
      Rears hook (Function.update hook.creatures ref creature)

theorem Rears.of_eq {creatures : Nat → Creature} (same : creatures = hook.creatures) : Rears hook creatures :=
  same ▸ .kept

theorem rears_handleAbility (ability : Ability) (draw : ℚ) (loot : LootRoll) :
    Rears hook (hook.handleAbility ability draw loot).1.creatures := by
  rcases hook.handleAbility_cases ability draw loot with
    refused | ⟨encounter, _, _, won⟩ | ⟨encounter, player, state, ready, _, _, _, _, played⟩
  · rw [refused]
    exact .kept
  · rw [won]
    exact .of_eq (keeps_handleVictory none loot).creatures
  · rw [played]
    have level := level_playTurn player (hook.creatureOf encounter) state hook.combat.creatureCombatState ability
      hook.combat.creatureDodgeStreak draw
    unfold playAbility
    dsimp only
    split
    · obtain ⟨_, _, ⟨_, finished⟩ | ⟨_, answered⟩⟩ := resolvedTurn_cases ready (playTurn player
        (hook.creatureOf encounter) state hook.combat.creatureCombatState ability hook.combat.creatureDodgeStreak draw)
      · rw [finished]
        exact .turned encounter.creature level
      · rw [answered]
        exact .turned encounter.creature level
    · obtain ⟨_, _, killed⟩ := dotKill_eq ready (playTurn player (hook.creatureOf encounter) state
        hook.combat.creatureCombatState ability hook.combat.creatureDodgeStreak draw)
      rw [killed]
      exact .turned encounter.creature level

theorem rears_onDistanceEncounterUpdate (tick : Tick) (currentPlayer : Option Player) :
    Rears hook (hook.onDistanceEncounterUpdate tick currentPlayer).creatures := by
  unfold onDistanceEncounterUpdate
  split
  · exact .of_eq keeps_handleFlee.creatures
  · split
    · rename_i player roll _ _ _
      unfold routeEncounter
      dsimp only
      split
      · exact .rolled hook.nextRef roll player.level
      · exact .of_eq (keeps_resolvePassiveEncounter _ _ _ _).creatures
      · exact .rolled hook.nextRef roll player.level
      · exact .of_eq (keeps_resolvePassiveEncounter _ _ _ _).creatures
    · exact .kept

theorem Rears.of_walk {incremental : ℚ} {creatures : Nat → Creature} (rears : Rears (hook.walk incremental) creatures) :
    Rears hook creatures := by
  unfold walk at rears
  split at rears
  · cases rears with
    | kept => exact .kept
    | rolled ref roll playerLevel => exact .rolled ref roll playerLevel
    | rebuilt ref held level => exact .rebuilt ref held level
    | turned ref level => exact .turned ref level
  · exact rears

theorem rears_of_step (taken : hook.step action = some after) : Rears hook after.creatures := by
  cases does_of_step taken with
  | tick tick => exact (rears_onDistanceEncounterUpdate tick hook.playerRef).of_walk
  | fight loot => exact .of_eq (keeps_handleFight loot).creatures
  | ability ability draw loot => exact rears_handleAbility ability draw loot
  | flee => exact .of_eq keeps_handleFlee.creatures
  | autoResolve loot => exact .of_eq (keeps_handleAutoResolve loot).creatures
  | @fireKillBeat beat loot _ =>
    have won : (hook.fireKillBeat beat loot).creatures = hook.disarmKillBeat.creatures :=
      (keeps_handleVictory _ loot).creatures
    exact .of_eq won
  | fireCounter draw _ => exact .of_eq (keeps_fireCounter _ draw).creatures
  | @refreshResume found now read =>
    unfold refreshResume
    dsimp only
    split
    · exact .kept
    · rename_i stored
      split
      · exact .kept
      · rename_i encounter loaded
        exact .rebuilt hook.nextRef (.inr (.inl ⟨some stored, read, rfl⟩)) (level_rebuildHeldFoe loaded)
  | closeCombat | refresh | engage | engageResume =>
    simp only [handleCloseCombatModal, refreshHeldFoe, engageHeldFoe, engageResume]
    split <;> exact .kept
  | holdResume draw loot _ =>
    unfold holdResume
    split
    · exact .of_eq (keeps_resolvePassiveEncounter _ _ draw loot).creatures
    · exact .kept
  | holdFinish draw loot _ =>
    unfold holdFinish
    dsimp only
    split
    · exact .kept
    · exact .of_eq (keeps_resolvePassiveEncounter _ _ draw loot).creatures
  | minimize | expand | fireReveal | dismissReward | refreshRead | engageClear | holdRead | holdWrite | render |
      setPlayer | switchAccount | wipeStore => exact .kept

theorem Levelled.meets (levelled : hook.Levelled) {creature : Creature} (met : hook.Meets creature) :
    0 ≤ creature.level := by
  rcases met with ⟨ref, rfl⟩ | ⟨roll, playerLevel, rfl⟩
  · exact levelled.creatures ref
  · exact level_rolled roll playerLevel

theorem Levelled.step (levelled : hook.Levelled) (taken : hook.step action = some after) : after.Levelled where
  creatures ref := by
    have rears := rears_of_step taken
    generalize after.creatures = creatures at rears
    have written {creature : Creature} (place : Nat) (level : 0 ≤ creature.level) :
        0 ≤ (Function.update hook.creatures place creature ref).level := by
      rw [Function.update_apply]
      split
      · exact level
      · exact levelled.creatures ref
    cases rears with
    | kept => exact levelled.creatures ref
    | rolled place roll playerLevel => exact written place (level_rolled roll playerLevel)
    | rebuilt place held same => exact written place (same ▸ levelled.records _ held)
    | turned place same => exact written place (same ▸ levelled.creatures place)
  records stored held := by
    rcases (evolves_of_step taken).stored stored held with old | ⟨object, _, _, same⟩
    · exact levelled.records stored old
    · rw [same]
      exact levelled.creatures object.creature

theorem levelled_start (player : Option Player) {stored : Option Encounter}
    (records : ∀ encounter ∈ stored, 0 ≤ encounter.creature.level) : (start player stored).Levelled where
  creatures _ := zero_le_one
  records _ held := records _ (start_stored held).1

structure InOrder (hook : Hook) : Prop where
  aimed : hook.Aimed
  levelled : hook.Levelled
  recordable : hook.Every Player.Recordable

theorem InOrder.step (inOrder : hook.InOrder) (fair : action.Fair) (taken : hook.step action = some after) :
    after.InOrder where
  aimed := inOrder.aimed.step taken
  levelled := inOrder.levelled.step taken
  recordable := by
    refine inOrder.recordable.step inOrder.aimed (fun base deed kept grounds => ?_) fair.put taken
    obtain ⟨activities, valid, same⟩ := deed.reworked fair grounds (fun _ => inOrder.levelled.meets) base
    rw [same]
    exact kept.run valid

/-- Over every run of the hook whose loot is rolled by the loot service, the saved player is coherent, with hit points
within bounds and no negative total, and the document of its save is one that the rules admit. -/
theorem run_saves_admitted {player : Option Player} {stored : Option Encounter} {actions : List Action}
    (recordable : ∀ one ∈ player, one.Recordable) (records : ∀ encounter ∈ stored, 0 ≤ encounter.creature.level)
    (fair : ∀ action ∈ actions, action.Fair)
    (run : Run step (fun _ _ => True) (start player stored) actions hook) :
    ∀ saved ∈ hook.saved, saved.Recordable ∧
      ∀ lastSavedAt, saved.level ≤ 1000 → 1 ≤ saved.name.length → saved.name.length ≤ 50 →
        FirestoreRules.isValidPlayerDoc (Storage.playerDocument saved.toJSON lastSavedAt) = some true := by
  have inOrder : hook.InOrder := by
    refine run.history (fun taken state => (∀ action ∈ taken, action.Fair) → state.InOrder) ?_ ?_ fair
    · intro _
      exact ⟨nofun, levelled_start player records, every_start recordable stored⟩
    · intro taken before action after held _ moved allowed
      have earlier := held fun one present => allowed one (List.mem_append_left _ present)
      exact earlier.step (allowed action (List.mem_append_right _ (List.mem_singleton_self _))) moved
  intro saved put
  have kept := inOrder.recordable.saved saved put
  exact ⟨kept, fun lastSavedAt level named short =>
    Storage.admitted_playerDocument lastSavedAt (Storage.admitted_toJSON kept level named short)⟩

def firstDrop : LootRoll := victoryLoot 0 false none (fun _ => 0) 0

theorem fair_of_firstDrop (still : 0 ≤ action.walked) (brought : ∀ loot ∈ action.loot?, loot = firstDrop)
    (keeps : action.keepsPlayer = true) : action.Fair where
  walked := still
  loot loot present := by
    rw [brought loot present]
    exact .victory 0 false none 0 fun _ => le_rfl
  put player same := by
    rw [same] at keeps
    cases keeps

def lootedDuel : List Action :=
  [.tick { stroll 60 (some firstRoll) with loot := firstDrop }, .fight firstDrop,
    .ability arcaneSurge (9 / 10) firstDrop, .fireCounter (9 / 10), .fireCounter 0,
    .ability arcaneSurge (9 / 10) firstDrop, .fireKillBeat firstDrop]

theorem run_saves_admitted_lootedDuel : ∃ hook saved,
    Run step (fun _ _ => True) (start mage none) lootedDuel hook ∧ hook.saved = some saved ∧
      Slots.contents saved.inventory ≠ 0 ∧
      FirestoreRules.isValidPlayerDoc (Storage.playerDocument saved.toJSON (.finite 0)) = some true := by
  have executed : ∃ hook, Run step (fun _ _ => True) (start mage none) lootedDuel hook ∧
      (hook.saved.any fun saved => decide (Slots.contents saved.inventory ≠ 0 ∧ saved.level ≤ 1000 ∧
        1 ≤ saved.name.length ∧ saved.name.length ≤ 50)) = true := Run.exists_of_exec (by decide +kernel)
  obtain ⟨hook, run, found⟩ := executed
  obtain ⟨saved, put, decided⟩ := (Option.any_eq_true _ _).mp found
  obtain ⟨looted, level, named, short⟩ := of_decide_eq_true decided
  have fair : ∀ action ∈ lootedDuel, action.Fair := by
    intro action present
    refine fair_of_firstDrop ?_ ?_ ?_ <;> revert action <;>
      simp [lootedDuel, Action.walked, Action.loot?, Action.keepsPlayer, stroll]
  have recordable : ∀ one ∈ mage, one.Recordable := by
    intro one loaded
    cases Option.some.inj loaded
    exact Player.recordable_named "player1" "Adventurer" .mage
  have admitted := run_saves_admitted recordable (fun _ held => (by cases held)) fair run saved put
  exact ⟨hook, saved, run, put, looted, admitted.2 _ level named short⟩

end Hook

end WalkingRpg
