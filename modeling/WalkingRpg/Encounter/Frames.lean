import WalkingRpg.Encounter.Moves

/-! What a handler can touch.

Each handler is the hook it was called on with some fields replaced. Whatever it does not
replace is unchanged by rewriting with its equation. A payment arms the timer of a reveal
and is the last thing its step logs.
-/

set_option autoImplicit false

namespace WalkingRpg

def Event.isPaid : Event → Bool
  | .paid _ _ => true
  | _ => false

namespace Hook

variable {after : Hook} {action : Action}

theorem scheduleVictory_frame (hook : Hook) (player : Player) (eid : Nat) : ∃ combat,
    hook.scheduleVictory player eid = { hook with combat := combat } := by
  unfold scheduleVictory
  split <;> exact ⟨_, rfl⟩

theorem scheduleCounterAttack_frame (hook : Hook) (creatureAttack playerDefense : ℚ) (creature : Nat) : ∃ combat,
    hook.scheduleCounterAttack creatureAttack playerDefense creature = { hook with combat := combat } := by
  unfold scheduleCounterAttack
  split <;> exact ⟨_, rfl⟩

theorem openCombat_frame (hook : Hook) (player : Player) : ∃ combat hits,
    hook.openCombat player = { hook with combat := combat, combatHits := hits } := by
  unfold openCombat
  dsimp only
  split <;> exact ⟨_, _, rfl⟩

theorem resolvePassiveEncounter_frame (hook : Hook) (creature : Creature) (tier : RewardTier) (draw : ℚ)
    (loot : LootRoll) : ∃ current saved,
    hook.resolvePassiveEncounter creature tier draw loot = { hook with playerRef := current, saved := saved } := by
  unfold resolvePassiveEncounter
  split <;> exact ⟨_, _, rfl⟩

theorem walk_frame (hook : Hook) (incremental : ℚ) : ∃ current saved,
    hook.walk incremental = { hook with playerRef := current, saved := saved } := by
  unfold walk
  split <;> exact ⟨_, _, rfl⟩

theorem handlePlayerDefeat_frame (hook : Hook) (player : Player) : ∃ combat news,
    (∀ event ∈ news, event.isPaid = false) ∧ hook.handlePlayerDefeat player = { hook with
      combat := combat
      playerRef := some player.clone.fullHeal.incrementEncounters
      saved := some player.clone.fullHeal.incrementEncounters
      trace := hook.trace ++ news } := by
  unfold handlePlayerDefeat
  dsimp only
  split
  · rename_i encounter _
    exact ⟨_, [.lost encounter.eid], by simp [Event.isPaid], rfl⟩
  · exact ⟨_, [], nofun, by rw [List.append_nil]; rfl⟩

theorem handleFlee_frame (hook : Hook) : ∃ combat hits current saved news,
    (∀ event ∈ news, event.isPaid = false) ∧ hook.handleFlee = { hook with
      combat := combat, combatHits := hits, playerRef := current, saved := saved, trace := hook.trace ++ news } := by
  unfold handleFlee
  split
  · exact ⟨_, _, _, _, [], nofun, by rw [List.append_nil]⟩
  · dsimp only
    split
    · rename_i encounter player _ _
      exact ⟨_, _, _, _, [.fled encounter.eid (hook.creatureOf encounter).hp], by simp [Event.isPaid], rfl⟩
    · rename_i encounter _ _
      exact ⟨_, _, _, _, [.fled encounter.eid (hook.creatureOf encounter).hp], by simp [Event.isPaid], rfl⟩
    · exact ⟨_, _, _, _, [], nofun, by rw [List.append_nil]⟩

theorem strike_frame (hook : Hook) (beat : CounterBeat) (brace : Brace) (player : Player) (draw : ℚ) :
    let result := counterStrike player (hook.creatures brace.creature) brace.creatureAttack brace.playerDefense
      hook.combat.playerDodgeStreak draw
    let left := if result.player.isDefeated then result.player.clone.fullHeal.incrementEncounters else result.player
    ∃ combat news, (∀ event ∈ news, event.isPaid = false) ∧
      hook.strike beat brace player draw = { hook.pushHit result.hit with
        combat := combat, playerRef := some left, saved := some left, trace := hook.trace ++ news } := by
  intro result left
  have quiet : (Event.struck beat.fight).isPaid = false := rfl
  have struck : hook.strike beat brace player draw =
      if result.player.isDefeated then (hook.landStrike beat result).endEnemyTurn.handlePlayerDefeat result.player
      else (hook.landStrike beat result).holdTurn beat := rfl
  rw [struck]
  unfold left
  split
  · obtain ⟨combat, news, plain, fell⟩ :=
      (hook.landStrike beat result).endEnemyTurn.handlePlayerDefeat_frame result.player
    refine ⟨combat, .struck beat.fight :: news, List.forall_mem_cons.mpr ⟨quiet, plain⟩, ?_⟩
    rw [fell, show (hook.landStrike beat result).endEnemyTurn.trace = hook.trace ++ [.struck beat.fight] from rfl,
      List.append_assoc]
    rfl
  · exact ⟨_, [.struck beat.fight], List.forall_mem_singleton.mpr quiet, rfl⟩

theorem playAbility_frame (hook : Hook) (encounter : EncounterObject) (player : Player) (state : CombatantState)
    (ability : Ability) (draw : ℚ) :
    let turn := playTurn player (hook.creatureOf encounter) state hook.combat.creatureCombatState ability
      hook.combat.creatureDodgeStreak draw
    ∃ combat next saved news, (∀ event ∈ news, event.isPaid = false) ∧
      (hook.playAbility encounter player state ability draw).1 = { hook.pushHits turn.hits with
        combat := combat
        creatures := Function.update hook.creatures encounter.creature turn.creature
        playerRef := if turn.resolved then some turn.player else hook.playerRef
        nextRef := next
        saved := saved
        trace := hook.trace ++ news } := by
  intro turn
  obtain ⟨hits, number, pushed⟩ := hook.pushHits_eq turn.hits
  unfold playAbility
  dsimp only
  split
  · unfold resolvedTurn
    dsimp only
    split
    · obtain ⟨combat, scheduled⟩ := scheduleVictory_frame
        (((((hook.writeTurn encounter turn).setPlayerAndSave turn.player).renewEncounter encounter).log
          (.killed encounter.eid)).log (.accepted hook.combat.fight false)) turn.player encounter.eid
      refine ⟨combat, hook.nextRef + 1, some turn.player, [.killed encounter.eid, .accepted hook.combat.fight false],
        by simp [Event.isPaid], ?_⟩
      rw [scheduled]
      simp [log, renewEncounter, setPlayerAndSave, writeTurn, pushed]
    · obtain ⟨combat, scheduled⟩ := scheduleCounterAttack_frame
        ((((hook.writeTurn encounter turn).setPlayerAndSave turn.player).renewEncounter encounter).log
          (.accepted hook.combat.fight true)) turn.counterAttack turn.counterDefense encounter.creature
      refine ⟨combat, hook.nextRef + 1, some turn.player, [.accepted hook.combat.fight true], by simp [Event.isPaid], ?_⟩
      rw [scheduled]
      simp [log, renewEncounter, setPlayerAndSave, writeTurn, pushed]
  · obtain ⟨combat, scheduled⟩ := scheduleVictory_frame ((hook.writeTurn encounter turn).log (.killed encounter.eid))
      turn.player encounter.eid
    refine ⟨combat, hook.nextRef, hook.saved, [.killed encounter.eid], by simp [Event.isPaid], ?_⟩
    rw [dotKill, scheduled]
    simp [log, writeTurn, pushed]

theorem routeEncounter_frame (hook : Hook) (tick : Tick) (encounter : Encounter) :
    ∃ combat foes creatures next number current saved, hook.routeEncounter tick encounter = { hook with
      combat := combat, foes := foes, creatures := creatures, nextRef := next, nextEncounter := number
      playerRef := current, saved := saved } := by
  unfold routeEncounter
  dsimp only
  split
  · exact ⟨_, _, _, _, _, _, _, rfl⟩
  · obtain ⟨current, saved, resolved⟩ := resolvePassiveEncounter_frame
      { hook with nextEncounter := hook.nextEncounter + 1 } encounter.creature .active tick.draw tick.loot
    exact ⟨_, _, _, _, _, current, saved, resolved⟩
  · exact ⟨_, _, _, _, _, _, _, rfl⟩
  · obtain ⟨current, saved, resolved⟩ := resolvePassiveEncounter_frame
      { hook with nextEncounter := hook.nextEncounter + 1 } encounter.creature .idle tick.draw tick.loot
    exact ⟨_, _, _, _, _, current, saved, resolved⟩

def Action.pays : Action → Bool
  | .fight _ | .ability _ _ _ | .autoResolve _ | .fireKillBeat _ => true
  | _ => false

/-- What a step does to the reveal and its timer. -/
inductive Reveals (hook : Hook) : Action → Hook → Prop where
  | quiet {action : Action} {after : Hook} (news : List Event) (plain : ∀ event ∈ news, event.isPaid = false)
      (trace : after.trace = hook.trace ++ news) (shown : after.rewardReveal = hook.rewardReveal)
      (timer : after.rewardRevealTimer = hook.rewardRevealTimer) : Reveals hook action after
  | paid {action : Action} {after : Hook} {eid : Nat} {creatureHp : ℚ} (pays : action.pays = true) (news : List Event)
      (plain : ∀ event ∈ news, event.isPaid = false) (trace : after.trace = hook.trace ++ news ++ [.paid eid creatureHp])
      (shown : after.rewardReveal = hook.rewardReveal) (timer : after.rewardRevealTimer.isSome = true) :
      Reveals hook action after
  | fired {reveal : RewardReveal} (armed : hook.rewardRevealTimer = some reveal) :
      Reveals hook .fireReveal { hook with rewardRevealTimer := none, rewardReveal := some reveal }
  | dismissed : Reveals hook .dismissReward { hook with rewardReveal := none }
  | cleared : Reveals hook .switchAccount hook.switchAccount

section Reveals

variable {hook : Hook}

theorem reveals_same (trace : after.trace = hook.trace) (shown : after.rewardReveal = hook.rewardReveal)
    (timer : after.rewardRevealTimer = hook.rewardRevealTimer) : Reveals hook action after :=
  .quiet [] nofun (trace.trans (List.append_nil _).symm) shown timer

theorem reveals_handleVictory (may : action.pays = true) (playerToUse : Option Player) (loot : LootRoll) :
    Reveals hook action (hook.handleVictory playerToUse loot) := by
  rcases hook.handleVictory_cases playerToUse loot with ⟨_, encounter, _, _, _, pays⟩ | ⟨_, same⟩
  · rw [pays]
    exact .paid may [] nofun (by rw [List.append_nil]; rfl) rfl rfl
  · rw [same]
    exact reveals_same rfl rfl rfl

theorem reveals_handleFight (may : action.pays = true) (loot : LootRoll) :
    Reveals hook action (hook.handleFight loot) := by
  unfold handleFight
  split
  · split
    · exact reveals_same rfl rfl rfl
    split
    · exact reveals_handleVictory may none loot
    · obtain ⟨_, _, opened⟩ := hook.openCombat_frame _
      rw [opened]
      exact reveals_same rfl rfl rfl
  · exact reveals_same rfl rfl rfl

theorem reveals_handleAutoResolve (may : action.pays = true) (loot : LootRoll) :
    Reveals hook action (hook.handleAutoResolve loot) := by
  unfold handleAutoResolve
  split
  · rename_i player encounter _ _
    split
    · exact reveals_same rfl rfl rfl
    -- The choice is logged before the victory.
    have logged : ∀ event ∈ [Event.autoResolved encounter.eid], event.isPaid = false := by simp [Event.isPaid]
    rcases (hook.closeModals.log (.autoResolved encounter.eid)).handleVictory_cases (some player) loot with
      ⟨_, _, _, _, _, pays⟩ | ⟨_, same⟩
    · rw [pays]
      exact .paid may [.autoResolved encounter.eid] logged rfl rfl rfl
    · rw [same]
      exact .quiet [.autoResolved encounter.eid] logged rfl rfl rfl
  · exact reveals_same rfl rfl rfl

theorem reveals_handleAbility (may : action.pays = true) (ability : Ability) (draw : ℚ) (loot : LootRoll) :
    Reveals hook action (hook.handleAbility ability draw loot).1 := by
  rcases hook.handleAbility_cases ability draw loot with
    refused | ⟨_, _, _, won⟩ | ⟨encounter, player, state, _, _, _, _, _, played⟩
  · rw [refused]
    exact reveals_same rfl rfl rfl
  · rw [won]
    rcases hook.handleVictory_cases none loot with ⟨_, encounter, _, _, _, pays⟩ | ⟨_, same⟩
    · rw [pays]
      exact .paid may [] nofun (by rw [List.append_nil]; rfl) rfl rfl
    · rw [same]
      exact reveals_same rfl rfl rfl
  · obtain ⟨_, _, _, news, plain, framed⟩ := hook.playAbility_frame encounter player state ability draw
    obtain ⟨_, _, pushed⟩ := hook.pushHits_eq (playTurn player (hook.creatureOf encounter) state
      hook.combat.creatureCombatState ability hook.combat.creatureDodgeStreak draw).hits
    rw [played, framed, pushed]
    exact .quiet news plain rfl rfl rfl

theorem reveals_fireCounter (beat : CounterBeat) (draw : ℚ) : Reveals hook action (hook.fireCounter beat draw) := by
  unfold fireCounter
  split
  · split
    · exact reveals_same rfl rfl rfl
    · obtain ⟨_, news, plain, struck⟩ := hook.disarmCounter.strike_frame beat _ _ draw
      rw [struck]
      exact .quiet news plain rfl rfl rfl
  · exact reveals_same rfl rfl rfl

theorem reveals_handleDistanceUpdate (tick : Tick) : Reveals hook action (hook.handleDistanceUpdate tick) := by
  obtain ⟨_, _, walked⟩ := hook.walk_frame tick.incremental
  unfold handleDistanceUpdate onDistanceEncounterUpdate
  rw [walked]
  split
  · obtain ⟨_, _, _, _, news, plain, fled⟩ := handleFlee_frame (hook.walk tick.incremental)
    rw [walked] at fled
    rw [fled]
    exact .quiet news plain rfl rfl rfl
  split
  · rename_i player roll _ _ _ _
    obtain ⟨_, _, _, _, _, _, _, routed⟩ := routeEncounter_frame (hook.walk tick.incremental) tick
      (roll.encounter player.level)
    rw [walked] at routed
    rw [routed]
    exact reveals_same rfl rfl rfl
  · exact reveals_same rfl rfl rfl

theorem reveals_of_step (taken : hook.step action = some after) : Reveals hook action after := by
  cases does_of_step taken with
  | tick tick => exact reveals_handleDistanceUpdate tick
  | fight loot => exact reveals_handleFight rfl loot
  | ability ability draw loot => exact reveals_handleAbility rfl ability draw loot
  | flee =>
    obtain ⟨_, _, _, _, news, plain, fled⟩ := hook.handleFlee_frame
    rw [fled]
    exact .quiet news plain rfl rfl rfl
  | autoResolve loot => exact reveals_handleAutoResolve rfl loot
  | @fireKillBeat beat loot armed =>
    have beaten : Reveals hook.disarmKillBeat (.fireKillBeat loot) _ :=
      reveals_handleVictory rfl (some beat.player) loot
    cases beaten with
    | quiet news plain trace shown timer => exact .quiet news plain trace shown timer
    | paid pays news plain trace shown timer => exact .paid pays news plain trace shown timer
  | fireCounter draw _ => exact reveals_fireCounter _ draw
  | fireReveal armed => exact .fired armed
  | dismissReward => exact .dismissed
  | switchAccount => exact .cleared
  | engageResume =>
    unfold engageResume
    dsimp only
    split
    · exact .quiet [.engaged _] (by simp [Event.isPaid]) rfl rfl rfl
    · exact reveals_same rfl rfl rfl
  | holdResume draw loot _ =>
    unfold holdResume
    split
    · obtain ⟨_, _, resolved⟩ := resolvePassiveEncounter_frame (hook.setHolds (hook.foes.holds.eraseIdx _))
        (hook.creatureOf _) .idle draw loot
      rw [resolved]
      exact reveals_same rfl rfl rfl
    · exact reveals_same rfl rfl rfl
  | holdFinish draw loot _ =>
    unfold holdFinish
    dsimp only
    split
    · exact reveals_same rfl rfl rfl
    · obtain ⟨_, _, resolved⟩ := resolvePassiveEncounter_frame (hook.setHolds (hook.foes.holds.eraseIdx _))
        (hook.creatureOf _) .idle draw loot
      rw [resolved]
      exact reveals_same rfl rfl rfl
  | closeCombat | refresh | refreshResume | engage =>
    simp only [handleCloseCombatModal, refreshHeldFoe, refreshResume, engageHeldFoe]
    repeat' split
    all_goals exact reveals_same rfl rfl rfl
  | minimize | expand | refreshRead | engageClear | holdRead | holdWrite | render | setPlayer | wipeStore =>
    exact reveals_same rfl rfl rfl

end Reveals

end Hook

end WalkingRpg
