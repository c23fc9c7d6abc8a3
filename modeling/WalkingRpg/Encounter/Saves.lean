import WalkingRpg.Encounter.Beats

/-! The player over one step: which base each handler rebuilds it from.

Every handler derives the player it saves from the current one, except the kill-beat
timer, which uses the player captured when the blow fell. Distance walked in between
is in the current player only.
-/

set_option autoImplicit false

namespace WalkingRpg

open Runs

namespace Hook

def Action.walked : Action → ℚ
  | .tick update => update.incremental
  | _ => 0

/-- What a step can do to the current player and the saved one. -/
inductive Saves (hook : Hook) (action : Action) : Option Player → Option Player → Prop where
  | kept : hook.playerRef = none ∨ action.walked = 0 → Saves hook action hook.playerRef hook.saved
  | derived {base player : Player} : hook.playerRef = some base →
      player.totalDistance = base.totalDistance + action.walked →
      Saves hook action (some player) (some player)
  | captured {beat : KillBeat} {player : Player} (loot : LootRoll) : action = .fireKillBeat loot →
      hook.combat.killBeatTimer = some beat → hook.combat.encounterRef.isSome = true →
      hook.combat.victoryProcessed = false → player.totalDistance = beat.player.totalDistance →
      Saves hook action (some player) (some player)
  | replaced (player : Player) : action = .setPlayer player →
      Saves hook action (some player) (some player)
  | dropped : action = .switchAccount → Saves hook action none hook.saved

variable {hook before middle after : Hook} {action : Action}

/-- A relation between the players that the handlers save and those they make them from. -/
structure Handled (made : Player → Player → Prop) : Prop where
  victory : ∀ base creature loot, made base (victoryReward base creature loot).1
  passive : ∀ base creature tier draw loot, made base (passiveReward base creature tier draw loot)
  flee : ∀ base : Player, made base base.clone.incrementEncounters.fullHeal
  turn : ∀ base creature playerState creatureState ability dodgeStreak draw,
    made base (playTurn base creature playerState creatureState ability dodgeStreak draw).player
  strike : ∀ base creature creatureAttack playerDefense dodgeStreak draw,
    let result := counterStrike base creature creatureAttack playerDefense dodgeStreak draw
    result.player.isDefeated = false → made base result.player
  defeat : ∀ base creature creatureAttack playerDefense dodgeStreak draw,
    let result := counterStrike base creature creatureAttack playerDefense dodgeStreak draw
    made base result.player.clone.fullHeal.incrementEncounters

def Rebuilds (made : Player → Player → Prop) (before after : Hook) : Prop :=
  (after.playerRef = before.playerRef ∧ after.saved = before.saved) ∨
    ∃ base player, before.playerRef = some base ∧ after.playerRef = some player ∧
      after.saved = some player ∧ made base player

section Handlers

variable {made : Player → Player → Prop}

theorem Rebuilds.same (player : after.playerRef = before.playerRef) (saved : after.saved = before.saved) :
    Rebuilds made before after := .inl ⟨player, saved⟩

theorem Rebuilds.refl (hook : Hook) : Rebuilds made hook hook := .same rfl rfl

theorem Rebuilds.after_same (second : Rebuilds made middle after) (player : middle.playerRef = before.playerRef)
    (saved : middle.saved = before.saved) : Rebuilds made before after := by
  rcases second with ⟨kept, stored⟩ | ⟨base, rebuilt, current, rest⟩
  · exact .same (kept.trans player) (stored.trans saved)
  · exact .inr ⟨base, rebuilt, player ▸ current, rest⟩

variable (handled : Handled made)

include handled

theorem rebuilds_handleVictory {playerToUse : Option Player} (loot : LootRoll)
    (current : playerToUse.or hook.playerRef = hook.playerRef) :
    Rebuilds made hook (hook.handleVictory playerToUse loot) := by
  rcases hook.handleVictory_cases playerToUse loot with ⟨base, encounter, used, _, _, pays⟩ | ⟨_, same⟩
  · rw [pays]
    rw [current] at used
    exact .inr ⟨base, _, used, rfl, rfl, handled.victory base _ loot⟩
  · rw [same]
    exact .refl hook

theorem rebuilds_handleFlee : Rebuilds made hook hook.handleFlee := by
  unfold handleFlee
  split
  · exact .refl hook
  · dsimp only
    split
    · rename_i player _ current
      exact .inr ⟨player, _, current, rfl, rfl, handled.flee player⟩
    · exact .same rfl rfl
    · exact .same rfl rfl

theorem rebuilds_handleFight (loot : LootRoll) : Rebuilds made hook (hook.handleFight loot) := by
  unfold handleFight
  split
  · split
    · exact .refl hook
    · split
      · exact rebuilds_handleVictory handled loot rfl
      · unfold openCombat
        dsimp only
        split <;> exact .same rfl rfl
  · exact .refl hook

theorem rebuilds_handleAutoResolve (loot : LootRoll) : Rebuilds made hook (hook.handleAutoResolve loot) := by
  unfold handleAutoResolve
  split
  · rename_i player encounter current _
    split
    · exact .refl hook
    · -- The victory is handed the player that is current.
      refine (rebuilds_handleVictory handled loot ?_).after_same rfl rfl
      exact current.symm
  · exact .refl hook

theorem rebuilds_strike {player : Player} (beat : CounterBeat) (brace : Brace) (draw : ℚ)
    (current : hook.playerRef = some player) : Rebuilds made hook (hook.strike beat brace player draw) := by
  unfold strike
  dsimp only
  split
  · unfold handlePlayerDefeat
    dsimp only
    split <;> exact .inr ⟨player, _, current, rfl, rfl, handled.defeat player _ _ _ _ _⟩
  · rename_i survives
    exact .inr ⟨player, _, current, rfl, rfl, handled.strike player _ _ _ _ _ (Bool.eq_false_iff.mpr survives)⟩

theorem rebuilds_fireCounter (beat : CounterBeat) (draw : ℚ) :
    Rebuilds made hook (hook.fireCounter beat draw) := by
  unfold fireCounter
  split
  · rename_i brace player _ current
    split
    · exact .same rfl rfl
    · refine Rebuilds.after_same ?_ rfl rfl
      exact rebuilds_strike handled beat brace draw current
  · exact .same rfl rfl

theorem rebuilds_resolvePassiveEncounter (creature : Creature) (tier : RewardTier) (draw : ℚ)
    (loot : LootRoll) : Rebuilds made hook (hook.resolvePassiveEncounter creature tier draw loot) := by
  unfold resolvePassiveEncounter
  split
  · exact .refl hook
  · rename_i base current
    exact .inr ⟨base, _, current, rfl, rfl, handled.passive base creature tier draw loot⟩

theorem rebuilds_handleAbility (ability : Ability) (draw : ℚ) (loot : LootRoll) :
    Rebuilds made hook (hook.handleAbility ability draw loot).1 := by
  rcases hook.handleAbility_cases ability draw loot with
    refused | ⟨encounter, active, dead, won⟩ | ⟨encounter, player, state, ready, current, _, _, _, played⟩
  · rw [refused]
    exact .refl hook
  · rw [won]
    exact rebuilds_handleVictory handled loot rfl
  · rw [played]
    unfold playAbility
    dsimp only
    split
    · obtain ⟨_, live, saved⟩ := resolvedTurn_frame ready _
      exact .inr ⟨player, _, current, live, saved, handled.turn player _ _ _ _ _ _⟩
    · obtain ⟨_, live, saved⟩ := dotKill_frame ready _
      exact .same live saved

theorem rebuilds_onDistanceEncounterUpdate (tick : Tick) (currentPlayer : Option Player) :
    Rebuilds made hook (hook.onDistanceEncounterUpdate tick currentPlayer) := by
  unfold onDistanceEncounterUpdate
  split
  · exact rebuilds_handleFlee handled
  · split
    · unfold routeEncounter
      dsimp only
      split
      · exact .same rfl rfl
      · exact (rebuilds_resolvePassiveEncounter handled _ _ _ _).after_same rfl rfl
      · exact .same rfl rfl
      · exact (rebuilds_resolvePassiveEncounter handled _ _ _ _).after_same rfl rfl
    · exact .refl hook

end Handlers

inductive Puts (made : Player → Player → Prop) (hook : Hook) (action : Action) (after : Hook) : Prop where
  | rebuilt : action.walked = 0 → Rebuilds made hook after → Puts made hook action after
  | walked (tick : Tick) : action = .tick tick → Rebuilds made (hook.walk tick.incremental) after →
      Puts made hook action after
  | captured {beat : KillBeat} {player : Player} (loot : LootRoll) : action = .fireKillBeat loot →
      hook.combat.killBeatTimer = some beat → hook.combat.encounterRef.isSome = true →
      hook.combat.victoryProcessed = false → made beat.player player → after.playerRef = some player →
      after.saved = some player → Puts made hook action after
  | replaced (player : Player) : action = .setPlayer player → after.playerRef = some player →
      after.saved = some player → Puts made hook action after
  | dropped : action = .switchAccount → after.playerRef = none → after.saved = hook.saved →
      Puts made hook action after

theorem puts_fireKillBeat {made : Player → Player → Prop} (handled : Handled made) {beat : KillBeat}
    (armed : hook.combat.killBeatTimer = some beat) (loot : LootRoll) :
    Puts made hook (.fireKillBeat loot) (hook.fireKillBeat beat loot) := by
  unfold fireKillBeat
  rcases hook.disarmKillBeat.handleVictory_cases (some beat.player) loot with
    ⟨base, encounter, used, active, unprocessed, pays⟩ | ⟨_, same⟩
  · rw [pays]
    cases Option.some.inj used
    have present : hook.combat.encounterRef.isSome = true := by
      rw [show hook.combat.encounterRef = some encounter from active]
      rfl
    exact .captured loot rfl armed present unprocessed (handled.victory beat.player _ loot) rfl rfl
  · rw [same]
    exact .rebuilt rfl (.same rfl rfl)

theorem puts_of_step {made : Player → Player → Prop} (handled : Handled made)
    (taken : hook.step action = some after) : Puts made hook action after := by
  cases does_of_step taken with
  | tick tick => exact .walked tick rfl (rebuilds_onDistanceEncounterUpdate handled tick hook.playerRef)
  | fight loot => exact .rebuilt rfl (rebuilds_handleFight handled loot)
  | ability ability draw loot => exact .rebuilt rfl (rebuilds_handleAbility handled ability draw loot)
  | flee => exact .rebuilt rfl (rebuilds_handleFlee handled)
  | autoResolve loot => exact .rebuilt rfl (rebuilds_handleAutoResolve handled loot)
  | closeCombat =>
    unfold handleCloseCombatModal
    split <;> exact .rebuilt rfl (.same rfl rfl)
  | fireKillBeat loot armed => exact puts_fireKillBeat handled armed loot
  | fireCounter draw armed => exact .rebuilt rfl (rebuilds_fireCounter handled _ draw)
  | refresh =>
    unfold refreshHeldFoe
    split <;> exact .rebuilt rfl (.same rfl rfl)
  | refreshResume now _ =>
    unfold refreshResume
    dsimp only
    split
    · exact .rebuilt rfl (.same rfl rfl)
    · split <;> exact .rebuilt rfl (.same rfl rfl)
  | engage =>
    unfold engageHeldFoe
    split <;> exact .rebuilt rfl (.same rfl rfl)
  | engageResume =>
    unfold engageResume
    dsimp only
    split <;> exact .rebuilt rfl (.same rfl rfl)
  | holdResume draw loot _ =>
    unfold holdResume
    split
    · exact .rebuilt rfl ((rebuilds_resolvePassiveEncounter handled _ _ draw loot).after_same rfl rfl)
    · exact .rebuilt rfl (.same rfl rfl)
  | holdFinish draw loot _ =>
    unfold holdFinish
    dsimp only
    split
    · exact .rebuilt rfl (.same rfl rfl)
    · exact .rebuilt rfl ((rebuilds_resolvePassiveEncounter handled _ _ draw loot).after_same rfl rfl)
  | setPlayer player => exact .replaced player rfl rfl rfl
  | switchAccount => exact .dropped rfl rfl rfl
  | minimize => exact .rebuilt rfl (.same rfl rfl)
  | expand => exact .rebuilt rfl (.same rfl rfl)
  | fireReveal => exact .rebuilt rfl (.same rfl rfl)
  | dismissReward => exact .rebuilt rfl (.same rfl rfl)
  | refreshRead => exact .rebuilt rfl (.same rfl rfl)
  | engageClear => exact .rebuilt rfl (.same rfl rfl)
  | holdRead => exact .rebuilt rfl (.same rfl rfl)
  | holdWrite => exact .rebuilt rfl (.same rfl rfl)
  | render => exact .rebuilt rfl (.same rfl rfl)
  | wipeStore => exact .rebuilt rfl (.same rfl rfl)

theorem totalDistance_counterStrike (player : Player) (creature : Creature)
    (creatureAttack playerDefense dodgeStreak draw : ℚ) :
    (counterStrike player creature creatureAttack playerDefense dodgeStreak draw).player.totalDistance =
      player.totalDistance := by
  unfold counterStrike
  dsimp only
  split <;> rfl

def KeepsDistance (base player : Player) : Prop := player.totalDistance = base.totalDistance

theorem handled_keepsDistance : Handled KeepsDistance where
  victory := totalDistance_victoryReward
  passive := totalDistance_passiveReward
  flee _ := rfl
  turn := totalDistance_playTurn
  strike base creature creatureAttack playerDefense dodgeStreak draw _ :=
    totalDistance_counterStrike base creature creatureAttack playerDefense dodgeStreak draw
  defeat base creature creatureAttack playerDefense dodgeStreak draw := by
    intro result
    show result.player.clone.fullHeal.incrementEncounters.totalDistance = base.totalDistance
    rw [Player.totalDistance_incrementEncounters, Player.totalDistance_fullHeal, Player.totalDistance_clone]
    exact totalDistance_counterStrike base creature creatureAttack playerDefense dodgeStreak draw

theorem Rebuilds.saves (rebuilds : Rebuilds KeepsDistance hook after) (still : action.walked = 0) :
    Saves hook action after.playerRef after.saved := by
  rcases rebuilds with ⟨player, saved⟩ | ⟨base, player, current, put, saved, kept⟩
  · rw [player, saved]
    exact .kept (.inr still)
  · rw [put, saved]
    refine .derived current ?_
    rw [still, add_zero]
    exact kept

theorem Rebuilds.saves_walked {tick : Tick} (gate : Rebuilds KeepsDistance (hook.walk tick.incremental) after) :
    Saves hook (.tick tick) after.playerRef after.saved := by
  cases current : hook.playerRef with
  | none =>
    have idle : hook.walk tick.incremental = hook := by
      unfold walk
      rw [current]
    rw [idle] at gate
    rcases gate with ⟨player, saved⟩ | ⟨base, _, loaded, _⟩
    · rw [player, saved]
      exact .kept (.inl current)
    · cases current.symm.trans loaded
  | some base =>
    have walked : hook.walk tick.incremental =
        hook.setPlayerAndSave (base.clone.addDistance tick.incremental) := by
      unfold walk
      rw [current]
    rw [walked] at gate
    rcases gate with ⟨player, saved⟩ | ⟨_, player, loaded, put, saved, kept⟩
    · rw [player, saved]
      exact .derived current rfl
    · cases Option.some.inj loaded
      rw [put, saved]
      exact .derived current kept

theorem saves_of_step (taken : hook.step action = some after) :
    Saves hook action after.playerRef after.saved := by
  cases puts_of_step handled_keepsDistance taken with
  | rebuilt still rebuilds => exact rebuilds.saves still
  | walked tick same gate =>
    subst same
    exact gate.saves_walked
  | captured loot fired armed active unprocessed kept put saved =>
    rw [put, saved]
    exact .captured loot fired armed active unprocessed kept
  | replaced player same put saved =>
    rw [put, saved]
    exact .replaced player same
  | dropped same put saved =>
    rw [put, saved]
    exact .dropped same

theorem Saves.loaded {player saved : Option Player} (saves : Saves hook action player saved)
    (loaded : hook.playerRef.isSome = true) (stays : action ≠ .switchAccount) : player.isSome = true := by
  cases saves with
  | kept => exact loaded
  | derived => rfl
  | captured => rfl
  | replaced => rfl
  | dropped switched => exact absurd switched stays

/-- A step of a session with one player: nobody else is put in its place. -/
def Action.keepsPlayer : Action → Bool
  | .setPlayer _ => false
  | .switchAccount => false
  | _ => true

def Action.firesKillBeat : Action → Bool
  | .fireKillBeat _ => true
  | _ => false

/-- A kill-beat timer that resolves finds the distance it captured. -/
def CapturesDistance (hook : Hook) (action : Action) : Prop :=
  action.keepsPlayer = true ∧ (action.firesKillBeat = true →
    ∀ beat ∈ hook.combat.killBeatTimer, hook.combat.encounterRef.isSome = true →
      hook.combat.victoryProcessed = false →
      hook.playerRef.map Player.totalDistance = some beat.player.totalDistance)

instance (hook : Hook) (action : Action) : Decidable (hook.CapturesDistance action) :=
  inferInstanceAs (Decidable (_ ∧ (_ → _)))

def walkedBy (actions : List Action) : ℚ := (actions.map Action.walked).sum

def HasWalked (hook : Hook) (distance : ℚ) : Prop :=
  ∃ player, hook.playerRef = some player ∧ hook.saved = some player ∧ player.totalDistance = distance

theorem HasWalked.step {distance : ℚ} (walked : hook.HasWalked distance)
    (captures : hook.CapturesDistance action) (taken : hook.step action = some after) :
    after.HasWalked (distance + action.walked) := by
  obtain ⟨base, current, saved, total⟩ := walked
  have saves := saves_of_step taken
  unfold HasWalked
  generalize after.playerRef = put at saves
  generalize after.saved = stored at saves
  cases saves with
  | kept why =>
    rcases why with none | still
    · cases none.symm.trans current
    · exact ⟨base, current, saved, by rw [total, still, add_zero]⟩
  | derived same added =>
    cases Option.some.inj (current.symm.trans same)
    exact ⟨_, rfl, rfl, by rw [added, total]⟩
  | captured loot fired armed active unprocessed kept =>
    -- The reward is built on the captured player, whose distance is current by the condition.
    subst fired
    have fresh := captures.2 rfl _ armed active unprocessed
    rw [current] at fresh
    refine ⟨_, rfl, rfl, ?_⟩
    calc _ = base.totalDistance := kept.trans (Option.some.inj fresh).symm
      _ = distance + 0 := by rw [total, add_zero]
  | replaced player put =>
    subst put
    cases captures.1
  | dropped switched =>
    subst switched
    cases captures.1

theorem walkedBy_snoc (actions : List Action) (action : Action) :
    walkedBy (actions ++ [action]) = walkedBy actions + action.walked := by
  simp [walkedBy]

/-- In every run whose kill-beat timers find the distance they captured, no distance is lost. -/
theorem run_capturesDistance_saved {player : Player} {stored : Option Encounter} {actions : List Action}
    (run : Run step CapturesDistance (start (some player) stored) actions hook) :
    ∃ saved, hook.saved = some saved ∧
      saved.totalDistance = player.totalDistance + walkedBy actions := by
  have walked := run.history
    (fun taken state => state.HasWalked (player.totalDistance + walkedBy taken))
    ⟨player, rfl, rfl, by simp [walkedBy]⟩
    (fun taken before action after walked captures moved => by
      rw [walkedBy_snoc, ← add_assoc]
      exact walked.step captures moved)
  obtain ⟨saved, _, put, total⟩ := walked
  exact ⟨saved, put, total⟩

/-- A walk before the duel, and its victory. -/
theorem run_capturesDistance_saved_duel :
    ∃ hook saved, Run step CapturesDistance (start mage none)
        ([.tick (stroll 7 none)] ++ duel ++ [.fireKillBeat fun _ => none]) hook ∧
      hook.saved = some saved ∧ saved.totalDistance = 67 := by
  have executed : ∃ hook, Run step CapturesDistance (start mage none)
      ([.tick (stroll 7 none)] ++ duel ++ [.fireKillBeat fun _ => none]) hook ∧ True :=
    Run.exists_of_exec (by decide +kernel)
  obtain ⟨hook, run, _⟩ := executed
  obtain ⟨saved, put, total⟩ := run_capturesDistance_saved run
  refine ⟨hook, saved, run, put, total.trans ?_⟩
  decide +kernel

/-- Ten metres walked during the kill beat are missing from the saved player. -/
theorem run_walkInKillBeat_lost :
    ∃ hook saved, Run step (fun _ action => action.keepsPlayer = true) (start mage none)
        (duel ++ [.tick (stroll 10 none), .fireKillBeat fun _ => none]) hook ∧
      hook.saved = some saved ∧ saved.totalDistance = 60 ∧
      mage.map Player.totalDistance = some 0 ∧
      walkedBy (duel ++ [.tick (stroll 10 none), .fireKillBeat fun _ => none]) = 70 := by
  have executed : ∃ hook, Run step (fun _ action => action.keepsPlayer = true) (start mage none)
      (duel ++ [.tick (stroll 10 none), .fireKillBeat fun _ => none]) hook ∧
      hook.saved.map Player.totalDistance = some 60 := Run.exists_of_exec (by decide +kernel)
  obtain ⟨hook, run, lost⟩ := executed
  obtain ⟨saved, put, total⟩ := Option.map_eq_some_iff.mp lost
  exact ⟨hook, saved, run, put, total, by decide +kernel, by decide +kernel⟩

end Hook

end WalkingRpg
