import WalkingRpg.Encounter.Step

/-! The fight protocol of the hook.

`Core` is what the fight depends on: the active encounter, the guards and timers, and
the history. `Moves` lists what one step can do to it, with what the step found; all
results about whole runs of fights are derived from it.
-/

set_option autoImplicit false

namespace WalkingRpg

structure Core where
  active : Option EncounterObject
  victoryProcessed : Bool
  killBeatPending : Bool
  /-- The encounter a kill-beat timer is armed for. -/
  killBeat : Option Nat
  counterPending : Bool
  counterTimer : Option CounterBeat
  fight : Nat
  trace : List Event

namespace Core

def log (core : Core) (event : Event) : Core := { core with trace := core.trace ++ [event] }

def ended (core : Core) : Core := { core with active := none }

def cancelCounterBeat (core : Core) : Core :=
  { core with counterTimer := none, counterPending := false }

def cancelKillBeat (core : Core) : Core := { core with killBeat := none, killBeatPending := false }

def pay (core : Core) (encounter : EncounterObject) (creatureHp : ℚ) : Core :=
  { core.ended.cancelCounterBeat.cancelKillBeat with victoryProcessed := true }.log
    (.paid encounter.eid creatureHp)

def activate (core : Core) (encounter : EncounterObject) : Core :=
  { core with active := some encounter, victoryProcessed := false, fight := core.fight + 1 }

def scheduleVictory (core : Core) (eid : Nat) : Core :=
  { core with killBeatPending := true, killBeat := some eid }

def scheduleCounterAttack (core : Core) (brace : Brace) : Core :=
  { core with
    counterPending := true
    counterTimer := some ⟨core.active.map EncounterObject.ref, core.fight, some brace⟩ }

theorem ended_of_none {core : Core} (idle : core.active = none) : core.ended = core := by
  unfold ended
  rw [← idle]

structure Ready (core : Core) (encounter : EncounterObject) : Prop where
  active : core.active = some encounter
  victory : core.victoryProcessed = false
  kill : core.killBeatPending = false
  counter : core.counterPending = false

end Core

namespace Hook

def core (hook : Hook) : Core where
  active := hook.combat.encounterRef
  victoryProcessed := hook.combat.victoryProcessed
  killBeatPending := hook.combat.killBeatPending
  killBeat := hook.combat.killBeatTimer.map KillBeat.eid
  counterPending := hook.combat.counterPending
  counterTimer := hook.combat.counterTimer
  fight := hook.combat.fight
  trace := hook.trace

/-- The action runs `handleFlee`: the button, or a tick too far from a minimized encounter. -/
def flees (hook : Hook) : Action → Bool
  | .flee => true
  | .tick tick => hook.autoFlees tick
  | _ => false

/-- What one step can do to the core. -/
inductive Moves (hook : Hook) (action : Action) : Core → Prop where
  | stay : Moves hook action hook.core
  | cleared : action = .switchAccount →
      Moves hook action hook.core.ended.cancelCounterBeat.cancelKillBeat
  | paid {encounter : EncounterObject} : hook.core.active = some encounter →
      hook.core.victoryProcessed = false →
      (hook.creatureOf encounter).hp ≤ 0 ∨ hook.core.killBeat.isSome →
      Moves hook action (hook.core.pay encounter (hook.creatureOf encounter).hp)
  | autoPaid {encounter : EncounterObject} : hook.core.active = some encounter →
      hook.core.victoryProcessed = false →
      Moves hook action ((hook.core.log (.autoResolved encounter.eid)).pay encounter
        (hook.creatureOf encounter).hp)
  | autoRefused {encounter : EncounterObject} : hook.core.active = some encounter →
      hook.core.victoryProcessed = true →
      Moves hook action (hook.core.log (.autoResolved encounter.eid))
  | fizzled : hook.core.active = none ∨ hook.core.victoryProcessed = true →
      Moves hook action { hook.core with killBeat := none }
  | fled {encounter : EncounterObject} : hook.flees action = true →
      hook.core.active = some encounter → hook.core.counterPending = false →
      Moves hook action (hook.core.ended.log (.fled encounter.eid (hook.creatureOf encounter).hp))
  | turnEnded {beat : CounterBeat} : hook.core.counterTimer = some beat →
      (beat.brace = none ∨ hook.playerRef = none ∨
        hook.core.active.map EncounterObject.ref ≠ beat.scheduled) →
      (∃ draw, action = .fireCounter draw) → Moves hook action hook.core.cancelCounterBeat
  | struck {beat : CounterBeat} {brace : Brace} : hook.core.counterTimer = some beat →
      beat.brace = some brace → hook.core.active.map EncounterObject.ref = beat.scheduled →
      (∃ draw, action = .fireCounter draw) →
      Moves hook action ({ hook.core with counterTimer := some { beat with brace := none } }.log
        (.struck beat.fight))
  | defeated {beat : CounterBeat} {brace : Brace} (events : List Event) :
      hook.core.counterTimer = some beat → beat.brace = some brace →
      hook.core.active.map EncounterObject.ref = beat.scheduled →
      (∀ event ∈ events, ∃ eid, event = .lost eid) → (∃ draw, action = .fireCounter draw) →
      Moves hook action { hook.core.ended.cancelCounterBeat with
        trace := hook.core.trace ++ .struck beat.fight :: events }
  | dotKilled {encounter : EncounterObject} : hook.core.Ready encounter →
      Moves hook action ((hook.core.log (.killed encounter.eid)).scheduleVictory encounter.eid)
  | accepted {encounter : EncounterObject} (brace : Brace) : hook.core.Ready encounter →
      hook.playerRef.isSome = true →
      Moves hook action (({ hook.core with active := some { encounter with ref := hook.nextRef } }.log
        (.accepted hook.core.fight true)).scheduleCounterAttack brace)
  | finished {encounter : EncounterObject} : hook.core.Ready encounter →
      Moves hook action ((({ hook.core with active := some { encounter with ref := hook.nextRef } }.log
        (.killed encounter.eid)).log (.accepted hook.core.fight false)).scheduleVictory encounter.eid)
  | presented {encounter : EncounterObject} : hook.core.active = none →
      encounter.ref = hook.nextRef + 1 → encounter.eid = hook.nextEncounter →
      Moves hook action (hook.core.cancelCounterBeat.activate encounter)
  | engaged {i : Nat} {encounter : EncounterObject} : action = .engageResume i →
      hook.foes.engages[i]? = some ⟨encounter, .cleared true⟩ →
      Moves hook action ((hook.core.activate encounter).log (.engaged encounter.eid))

@[simp] theorem core_setPlayerAndSave (hook : Hook) (player : Player) :
    (hook.setPlayerAndSave player).core = hook.core := rfl

@[simp] theorem core_log (hook : Hook) (event : Event) : (hook.log event).core = hook.core.log event := rfl

theorem pushHits_eq (hook : Hook) (events : List CombatHitEvent) :
    ∃ hits next, hook.pushHits events = { hook with combatHits := hits, hitId := next } := by
  unfold pushHits
  induction events generalizing hook with
  | nil => exact ⟨_, _, rfl⟩
  | cons event events ih =>
    obtain ⟨hits, next, same⟩ := ih (hook.pushHit event)
    exact ⟨hits, next, same⟩

@[simp] theorem core_pushHits (hook : Hook) (events : List CombatHitEvent) :
    (hook.pushHits events).core = hook.core := by
  obtain ⟨_, _, pushed⟩ := hook.pushHits_eq events
  rw [pushed]
  rfl

@[simp] theorem core_resolvePassiveEncounter (hook : Hook) (creature : Creature) (tier : RewardTier)
    (draw : ℚ) (loot : LootRoll) :
    (hook.resolvePassiveEncounter creature tier draw loot).core = hook.core := by
  unfold resolvePassiveEncounter
  cases hook.playerRef <;> rfl

theorem handleVictory_cases (hook : Hook) (playerToUse : Option Player) (loot : LootRoll) :
    (∃ basePlayer encounter, basePlayer ∈ playerToUse.or hook.playerRef ∧
      hook.combat.encounterRef = some encounter ∧ hook.combat.victoryProcessed = false ∧
      hook.handleVictory playerToUse loot = hook.payVictory basePlayer encounter loot) ∨
    ((playerToUse.or hook.playerRef = none ∨ hook.combat.encounterRef = none ∨
      hook.combat.victoryProcessed = true) ∧ hook.handleVictory playerToUse loot = hook) := by
  unfold handleVictory
  cases base : playerToUse.or hook.playerRef with
  | none => exact .inr ⟨.inl rfl, rfl⟩
  | some basePlayer =>
    cases active : hook.combat.encounterRef with
    | none => exact .inr ⟨.inr (.inl rfl), rfl⟩
    | some encounter =>
      cases processed : hook.combat.victoryProcessed with
      | true => exact .inr ⟨.inr (.inr rfl), rfl⟩
      | false => exact .inl ⟨basePlayer, encounter, rfl, rfl, rfl, rfl⟩

variable {hook after : Hook} {action : Action}

@[simp] theorem core_openCombat (hook : Hook) (player : Player) :
    (hook.openCombat player).core = hook.core := by
  unfold openCombat
  dsimp only
  split <;> rfl

@[simp] theorem core_writeTurn (hook : Hook) (encounter : EncounterObject) (turn : TurnOutcome) :
    (hook.writeTurn encounter turn).core = hook.core := by
  have pushed := hook.core_pushHits turn.hits
  have trace := congrArg Core.trace pushed
  unfold writeTurn core
  simp only [Core.mk.injEq, true_and]
  exact trace

theorem moves_handleFlee (flees : hook.flees action = true) : Moves hook action hook.handleFlee.core := by
  unfold handleFlee
  split
  · exact .stay
  rename_i free
  have idle : hook.combat.counterPending = false := by simp_all
  dsimp only
  split
  · rename_i encounter player active _
    exact .fled flees active idle
  · rename_i encounter active _
    exact .fled flees active idle
  · -- Without an encounter the flee only closes the modals.
    rename_i active
    have same : hook.core.ended = hook.core := Core.ended_of_none active
    have moved : Moves hook action hook.core.ended := same.symm ▸ .stay
    exact moved

theorem moves_fireKillBeat {beat : KillBeat} (armed : hook.combat.killBeatTimer = some beat)
    (loot : LootRoll) : Moves hook action (hook.fireKillBeat beat loot).core := by
  unfold fireKillBeat
  rcases hook.disarmKillBeat.handleVictory_cases (some beat.player) loot with
    ⟨_, encounter, _, active, unprocessed, pays⟩ | ⟨refused, same⟩
  · rw [pays]
    -- The timer pays for whatever is active now, dead or alive.
    have beating : hook.core.killBeat.isSome := by
      show (hook.combat.killBeatTimer.map KillBeat.eid).isSome
      rw [armed]
      rfl
    exact .paid active unprocessed (.inr beating)
  · rw [same]
    rcases refused with none | idle | processed
    · cases none
    · exact .fizzled (.inl idle)
    · exact .fizzled (.inr processed)

theorem moves_handleVictory {encounter : EncounterObject} (active : hook.combat.encounterRef = some encounter)
    (dead : (hook.creatureOf encounter).isDefeated = true) (loot : LootRoll) :
    Moves hook action (hook.handleVictory none loot).core := by
  rcases hook.handleVictory_cases none loot with ⟨_, other, _, same, unprocessed, pays⟩ | ⟨_, same⟩
  · rw [pays]
    cases Option.some.inj (active.symm.trans same)
    exact .paid active unprocessed (.inl ((Creature.isDefeated_eq_true _).mp dead))
  · rw [same]
    exact .stay

theorem moves_handleFight (loot : LootRoll) : Moves hook action (hook.handleFight loot).core := by
  unfold handleFight
  split
  · rename_i encounter player active _
    split
    · exact .stay
    split
    · rename_i dead
      exact moves_handleVictory active dead loot
    · rw [core_openCombat]
      exact .stay
  · exact .stay

theorem moves_handleAutoResolve (loot : LootRoll) :
    Moves hook action (hook.handleAutoResolve loot).core := by
  unfold handleAutoResolve
  split
  · rename_i player encounter _ active
    split
    · exact .stay
    rcases (hook.closeModals.log (.autoResolved encounter.eid)).handleVictory_cases (some player) loot with
      ⟨_, other, _, same, unprocessed, pays⟩ | ⟨refused, same⟩
    · rw [pays]
      cases Option.some.inj (active.symm.trans same)
      exact .autoPaid active unprocessed
    · rw [same]
      rcases refused with none | idle | processed
      · cases none
      · cases active.symm.trans idle
      · exact .autoRefused active processed
  · exact .stay

theorem moves_fireCounter {beat : CounterBeat} (armed : hook.combat.counterTimer = some beat) (draw : ℚ) :
    Moves hook (.fireCounter draw) (hook.fireCounter beat draw).core := by
  have fires : ∃ other, Action.fireCounter draw = .fireCounter other := ⟨draw, rfl⟩
  unfold fireCounter
  split
  · rename_i brace player braced _
    split
    · rename_i elsewhere
      exact .turnEnded armed (.inr (.inr elsewhere)) fires
    · rename_i here
      have same : hook.core.active.map EncounterObject.ref = beat.scheduled := not_not.mp here
      unfold strike
      dsimp only
      -- The player falls, and the fight ends with the strike; or the pause begins.
      split
      · unfold handlePlayerDefeat
        dsimp only
        split
        · rename_i encounter _
          have lost : Moves hook (.fireCounter draw) _ :=
            .defeated [.lost encounter.eid] armed braced same (by simp) fires
          simpa [core, Core.ended, Core.cancelCounterBeat, log, setPlayerAndSave, landStrike, pushHit,
            endEnemyTurn, disarmCounter, Combat.ended] using lost
        · exact .defeated [] armed braced same (by simp) fires
      · exact .struck armed braced same fires
  · rename_i missing
    refine .turnEnded armed ?_ fires
    cases braced : beat.brace with
    | none => exact .inl rfl
    | some brace =>
      cases loaded : hook.playerRef with
      | none => exact .inr (.inl rfl)
      | some player => exact absurd loaded (missing brace player braced)

theorem handleAbility_cases (hook : Hook) (ability : Ability) (draw : ℚ) (loot : LootRoll) :
    hook.handleAbility ability draw loot = (hook, false) ∨
    (∃ encounter, hook.combat.encounterRef = some encounter ∧
      (hook.creatureOf encounter).isDefeated = true ∧
      hook.handleAbility ability draw loot = ((hook.handleVictory none loot).hideCombat, false)) ∨
    ∃ encounter player state, hook.core.Ready encounter ∧ hook.playerRef = some player ∧
      hook.combat.playerCombatState = some state ∧
      (hook.creatureOf encounter).isDefeated = false ∧ ability.resourceCost ≤ state.resource ∧
      hook.handleAbility ability draw loot = hook.playAbility encounter player state ability draw := by
  unfold handleAbility
  split
  · rename_i encounter player state active loaded opened
    split
    · exact .inl rfl
    rename_i free
    have guards : hook.combat.victoryProcessed = false ∧ hook.combat.killBeatPending = false ∧
        hook.combat.counterPending = false := by
      simpa [and_assoc] using free
    split
    · rename_i dead
      exact .inr (.inl ⟨encounter, active, dead, rfl⟩)
    rename_i living
    split
    · exact .inl rfl
    · rename_i affordable
      exact .inr (.inr ⟨encounter, player, state, ⟨active, guards.1, guards.2.1, guards.2.2⟩, loaded,
        opened, by simpa using living, not_lt.mp affordable, rfl⟩)
  · exact .inl rfl

theorem handleAbility_eq_playAbility {encounter : EncounterObject} {player : Player}
    {state : CombatantState} {ability : Ability} {draw : ℚ} {loot : LootRoll}
    (ready : hook.core.Ready encounter) (loaded : hook.playerRef = some player)
    (opened : hook.combat.playerCombatState = some state) (living : 0 < (hook.creatureOf encounter).hp)
    (affordable : ability.resourceCost ≤ state.resource) :
    hook.handleAbility ability draw loot = hook.playAbility encounter player state ability draw := by
  obtain ⟨active, victory, kill, counter⟩ := ready
  have standing : (hook.creatureOf encounter).isDefeated = false :=
    Bool.eq_false_of_not_eq_true fun dead => not_le.mpr living ((Creature.isDefeated_eq_true _).mp dead)
  simp only [core] at active victory kill counter
  simp [handleAbility, active, loaded, opened, victory, kill, counter, standing, not_lt.mpr affordable]

theorem handleAbility_of_killBeatPending {ability : Ability} {draw : ℚ} {loot : LootRoll}
    (pending : hook.combat.killBeatPending = true) :
    hook.handleAbility ability draw loot = (hook, false) := by
  unfold handleAbility
  split
  · simp only [pending, Bool.or_true, Bool.true_or, if_true]
  · rfl

@[simp] theorem nextRef_writeTurn (hook : Hook) (encounter : EncounterObject) (turn : TurnOutcome) :
    (hook.writeTurn encounter turn).nextRef = hook.nextRef := by
  obtain ⟨_, _, pushed⟩ := hook.pushHits_eq turn.hits
  unfold writeTurn
  rw [pushed]

@[simp] theorem core_renewEncounter (hook : Hook) (encounter : EncounterObject) :
    (hook.renewEncounter encounter).core =
      { hook.core with active := some { encounter with ref := hook.nextRef } } := rfl

theorem core_savedTurn (hook : Hook) (encounter : EncounterObject) (turn : TurnOutcome) :
    (((hook.writeTurn encounter turn).setPlayerAndSave turn.player).renewEncounter encounter).core =
      { hook.core with active := some { encounter with ref := hook.nextRef } } := by
  have next : ((hook.writeTurn encounter turn).setPlayerAndSave turn.player).nextRef = hook.nextRef :=
    hook.nextRef_writeTurn encounter turn
  rw [core_renewEncounter, core_setPlayerAndSave, core_writeTurn, next]

theorem scheduleVictory_eq (player : Player) (eid : Nat) (unprocessed : hook.combat.victoryProcessed = false)
    (free : hook.combat.killBeatPending = false) :
    hook.scheduleVictory player eid = { hook with combat := { hook.combat with
      killBeatPending := true
      killBeatTimer := some ⟨player, eid⟩ } } := by
  unfold scheduleVictory
  rw [unprocessed, free]
  rfl

theorem scheduleCounterAttack_eq (creatureAttack playerDefense : ℚ) (creature : Nat)
    (free : hook.combat.counterPending = false) :
    hook.scheduleCounterAttack creatureAttack playerDefense creature =
      { hook with combat := { hook.combat with
        counterPending := true
        counterTimer := some {
          scheduled := hook.combat.encounterRef.map EncounterObject.ref
          fight := hook.combat.fight
          brace := some ⟨creatureAttack, playerDefense, creature⟩ } } } := by
  unfold scheduleCounterAttack
  rw [free]
  rfl

theorem core_scheduleVictory (player : Player) (eid : Nat) (unprocessed : hook.core.victoryProcessed = false)
    (free : hook.core.killBeatPending = false) :
    (hook.scheduleVictory player eid).core = hook.core.scheduleVictory eid := by
  rw [scheduleVictory_eq player eid unprocessed free]
  rfl

theorem core_scheduleCounterAttack (creatureAttack playerDefense : ℚ) (creature : Nat)
    (free : hook.core.counterPending = false) :
    (hook.scheduleCounterAttack creatureAttack playerDefense creature).core =
      hook.core.scheduleCounterAttack ⟨creatureAttack, playerDefense, creature⟩ := by
  rw [scheduleCounterAttack_eq creatureAttack playerDefense creature free]
  rfl

theorem dotKill_eq {encounter : EncounterObject} (ready : hook.core.Ready encounter) (turn : TurnOutcome) :
    ∃ hits next, hook.dotKill encounter turn = { hook with
      combatHits := hits
      hitId := next
      creatures := Function.update hook.creatures encounter.creature turn.creature
      trace := hook.trace ++ [.killed encounter.eid]
      combat := { hook.combat with
        playerCombatState := some turn.playerState
        creatureCombatState := turn.creatureState
        creatureDodgeStreak := turn.creatureDodgeStreak
        killBeatPending := true
        killBeatTimer := some ⟨turn.player, encounter.eid⟩ } } := by
  obtain ⟨hits, next, pushed⟩ := hook.pushHits_eq turn.hits
  refine ⟨hits, next, ?_⟩
  unfold dotKill writeTurn
  rw [pushed, scheduleVictory_eq _ _ (by exact ready.victory) (by exact ready.kill)]
  rfl

theorem resolvedTurn_cases {encounter : EncounterObject} (ready : hook.core.Ready encounter)
    (turn : TurnOutcome) : ∃ hits next,
    (turn.creature.hp ≤ 0 ∧ hook.resolvedTurn encounter turn = { hook with
      playerRef := some turn.player
      saved := some turn.player
      nextRef := hook.nextRef + 1
      combatHits := hits
      hitId := next
      creatures := Function.update hook.creatures encounter.creature turn.creature
      trace := hook.trace ++ [.killed encounter.eid] ++ [.accepted hook.combat.fight false]
      combat := { hook.combat with
        encounterRef := some { encounter with ref := hook.nextRef }
        playerCombatState := some turn.playerState
        creatureCombatState := turn.creatureState
        creatureDodgeStreak := turn.creatureDodgeStreak
        killBeatPending := true
        killBeatTimer := some ⟨turn.player, encounter.eid⟩ } }) ∨
    (0 < turn.creature.hp ∧ hook.resolvedTurn encounter turn = { hook with
      playerRef := some turn.player
      saved := some turn.player
      nextRef := hook.nextRef + 1
      combatHits := hits
      hitId := next
      creatures := Function.update hook.creatures encounter.creature turn.creature
      trace := hook.trace ++ [.accepted hook.combat.fight true]
      combat := { hook.combat with
        encounterRef := some { encounter with ref := hook.nextRef }
        playerCombatState := some turn.playerState
        creatureCombatState := turn.creatureState
        creatureDodgeStreak := turn.creatureDodgeStreak
        counterPending := true
        counterTimer := some {
          scheduled := some hook.nextRef
          fight := hook.combat.fight
          brace := some ⟨turn.counterAttack, turn.counterDefense, encounter.creature⟩ } } }) := by
  obtain ⟨hits, next, pushed⟩ := hook.pushHits_eq turn.hits
  refine ⟨hits, next, ?_⟩
  unfold resolvedTurn writeTurn
  rw [pushed]
  dsimp only
  split
  · rename_i dead
    rw [scheduleVictory_eq _ _ (by exact ready.victory) (by exact ready.kill)]
    exact .inl ⟨(Creature.isDefeated_eq_true _).mp dead, rfl⟩
  · rename_i living
    rw [scheduleCounterAttack_eq _ _ _ (by exact ready.counter)]
    exact .inr ⟨not_le.mp fun low => living ((Creature.isDefeated_eq_true _).mpr low), rfl⟩

theorem resolvedTurn_frame {encounter : EncounterObject} (ready : hook.core.Ready encounter)
    (turn : TurnOutcome) : (hook.resolvedTurn encounter turn).foes = hook.foes ∧
      (hook.resolvedTurn encounter turn).playerRef = some turn.player ∧
      (hook.resolvedTurn encounter turn).saved = some turn.player := by
  obtain ⟨_, _, ⟨_, won⟩ | ⟨_, struck⟩⟩ := resolvedTurn_cases ready turn
  · rw [won]
    exact ⟨rfl, rfl, rfl⟩
  · rw [struck]
    exact ⟨rfl, rfl, rfl⟩

theorem dotKill_frame {encounter : EncounterObject} (ready : hook.core.Ready encounter)
    (turn : TurnOutcome) : (hook.dotKill encounter turn).foes = hook.foes ∧
      (hook.dotKill encounter turn).playerRef = hook.playerRef ∧
      (hook.dotKill encounter turn).saved = hook.saved := by
  obtain ⟨_, _, killed⟩ := dotKill_eq ready turn
  rw [killed]
  exact ⟨rfl, rfl, rfl⟩

theorem moves_playAbility {encounter : EncounterObject} {player : Player}
    (ready : hook.core.Ready encounter) (loaded : hook.playerRef = some player) (state : CombatantState)
    (ability : Ability) (draw : ℚ) :
    Moves hook action (hook.playAbility encounter player state ability draw).1.core := by
  unfold playAbility
  dsimp only
  generalize playTurn player (hook.creatureOf encounter) state hook.combat.creatureCombatState ability
    hook.combat.creatureDodgeStreak draw = turn
  split
  · -- The ability ran; the creature is dead or strikes back.
    unfold resolvedTurn
    dsimp only
    split
    · rw [core_scheduleVictory, core_log, core_log, core_savedTurn]
      · exact .finished ready
      · exact ready.victory
      · exact ready.kill
    · rw [core_scheduleCounterAttack, core_log, core_savedTurn]
      · exact .accepted _ ready (by rw [loaded]; rfl)
      · exact ready.counter
  · unfold dotKill
    rw [core_scheduleVictory, core_log, core_writeTurn]
    · exact .dotKilled ready
    · exact ready.victory
    · exact ready.kill

theorem moves_handleAbility (ability : Ability) (draw : ℚ) (loot : LootRoll) :
    Moves hook action (hook.handleAbility ability draw loot).1.core := by
  rcases hook.handleAbility_cases ability draw loot with
    refused | ⟨encounter, active, dead, won⟩ | ⟨encounter, player, state, ready, loaded, _, _, _, played⟩
  · rw [refused]
    exact .stay
  · rw [won]
    exact moves_handleVictory active dead loot
  · rw [played]
    exact moves_playAbility ready loaded state ability draw

theorem Moves.of_walk {incremental : ℚ} {core : Core} (moves : Moves (hook.walk incremental) action core) :
    Moves hook action core := by
  unfold walk at moves
  split at moves
  · rename_i player current
    cases moves with
    | stay => exact .stay
    | cleared switched => exact .cleared switched
    | paid active unprocessed why => exact .paid active unprocessed why
    | autoPaid active unprocessed => exact .autoPaid active unprocessed
    | autoRefused active processed => exact .autoRefused active processed
    | fizzled idle => exact .fizzled idle
    | fled flees active free =>
      refine .fled ?_ active free
      cases action <;> exact flees
    | turnEnded armed why fires =>
      refine .turnEnded armed ?_ fires
      rcases why with held | none | elsewhere
      · exact .inl held
      · cases none
      · exact .inr (.inr elsewhere)
    | struck armed braced here fires => exact .struck armed braced here fires
    | defeated events armed braced here lost fires => exact .defeated events armed braced here lost fires
    | dotKilled ready => exact .dotKilled ready
    | accepted brace ready _ => exact .accepted brace ready (by rw [current]; rfl)
    | finished ready => exact .finished ready
    | presented idle ref eid => exact .presented idle ref eid
    | engaged resumed task => exact .engaged resumed task
  · exact moves

theorem moves_routeEncounter (idle : hook.combat.encounterRef = none) (tick : Tick)
    (encounter : Encounter) : Moves hook action (hook.routeEncounter tick encounter).core := by
  unfold routeEncounter
  dsimp only
  split
  · exact .presented idle rfl rfl
  · rw [core_resolvePassiveEncounter]
    exact .stay
  · exact .stay
  · rw [core_resolvePassiveEncounter]
    exact .stay

theorem moves_onDistanceEncounterUpdate {tick : Tick} (currentPlayer : Option Player) :
    Moves hook (.tick tick) (hook.onDistanceEncounterUpdate tick currentPlayer).core := by
  unfold onDistanceEncounterUpdate
  split
  · rename_i far
    exact moves_handleFlee far
  · split
    · rename_i idle _ _
      exact moves_routeEncounter idle tick _
    · exact .stay

theorem moves_of_step (taken : hook.step action = some after) : Moves hook action after.core := by
  cases does_of_step taken with
  | tick tick => exact (moves_onDistanceEncounterUpdate _).of_walk
  | fight loot => exact moves_handleFight loot
  | ability ability draw loot => exact moves_handleAbility ability draw loot
  | flee => exact moves_handleFlee rfl
  | autoResolve loot => exact moves_handleAutoResolve loot
  | closeCombat =>
    unfold handleCloseCombatModal
    split <;> exact .stay
  | fireKillBeat loot armed => exact moves_fireKillBeat armed loot
  | fireCounter draw armed => exact moves_fireCounter armed draw
  | refresh =>
    unfold refreshHeldFoe
    split <;> exact .stay
  | refreshResume now _ =>
    unfold refreshResume
    dsimp only
    split
    · exact .stay
    · split <;> exact .stay
  | engage =>
    unfold engageHeldFoe
    split <;> exact .stay
  | @engageResume i foe success task =>
    unfold engageResume
    dsimp only
    split
    · rename_i cleared
      exact .engaged rfl (cleared ▸ task)
    · exact .stay
  | holdResume draw loot _ =>
    unfold holdResume
    split
    · rw [core_resolvePassiveEncounter]
      exact .stay
    · exact .stay
  | holdFinish draw loot _ =>
    unfold holdFinish
    dsimp only
    split
    · exact .stay
    · rw [core_resolvePassiveEncounter]
      exact .stay
  | switchAccount => exact .cleared rfl
  | minimize => exact .stay
  | expand => exact .stay
  | fireReveal => exact .stay
  | dismissReward => exact .stay
  | refreshRead => exact .stay
  | engageClear => exact .stay
  | holdRead => exact .stay
  | holdWrite => exact .stay
  | render => exact .stay
  | setPlayer => exact .stay
  | wipeStore => exact .stay

end Hook

end WalkingRpg
