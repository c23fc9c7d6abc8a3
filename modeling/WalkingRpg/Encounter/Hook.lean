import WalkingRpg.Models.Encounter
import WalkingRpg.Models.Rewards
import WalkingRpg.Models.Turn
import WalkingRpg.Storage.PendingEncounter

/-! The encounter hook: its refs, timers and storage calls in flight, and its handlers.

Refs and state are one record. Encounter objects have an identity, because a strike
timer compares them, and share creature objects, because damage is dealt in place.
A timer is armed or absent; an asynchronous function is a task with a phase. The
fields marked as history are read by no handler.
-/

set_option autoImplicit false

namespace WalkingRpg

/-- An `Encounter` object. -/
structure EncounterObject where
  ref : Nat
  /-- The rolled encounter that this object, possibly rebuilt, stands for. History. -/
  eid : Nat
  /-- The creature object. -/
  creature : Nat
  location : Location
  timestamp : ℚ
  playerLevel : ℚ
  status : EncounterStatus
  daylight : Option Bool
  deriving DecidableEq

/-- A scheduled victory: the player captured when the blow fell. -/
structure KillBeat where
  player : Player
  /-- The encounter whose creature was killed. History. -/
  eid : Nat

structure Brace where
  creatureAttack : ℚ
  playerDefense : ℚ
  creature : Nat

/-- An armed counter timer: bracing for the strike, or holding the turn after it. -/
structure CounterBeat where
  /-- The encounter object it was scheduled for. -/
  scheduled : Option Nat
  /-- The fight it was scheduled in. History. -/
  fight : Nat
  brace : Option Brace

structure Combat where
  encounterRef : Option EncounterObject
  isMinimized : Bool
  showCombatModal : Bool
  victoryProcessed : Bool
  fleeProcessed : Bool
  killBeatPending : Bool
  killBeatTimer : Option KillBeat
  counterPending : Bool
  counterTimer : Option CounterBeat
  playerCombatState : Option CombatantState
  creatureCombatState : Option CombatantState
  playerDodgeStreak : ℚ
  creatureDodgeStreak : ℚ
  /-- Counts the times an encounter was made active. History. -/
  fight : Nat

/-- The record under the pending-encounter key, as the encounter it was written from. -/
structure StoredFoe where
  eid : Nat
  encounter : Encounter
  deriving DecidableEq

inductive RefreshTask where
  | reading
  | read (found : Option StoredFoe)

inductive HoldPhase where
  | reading
  | read (existing : Bool)
  | saving (encounter : Encounter)
  | saved (success : Bool)

structure HoldTask where
  foe : EncounterObject
  phase : HoldPhase

inductive EngagePhase where
  | clearing
  | cleared (success : Bool)

structure EngageTask where
  foe : EncounterObject
  phase : EngagePhase

/-- The worthy foe: card, store, and the calls that move it between them. -/
structure HeldFoes where
  heldFoe : Option EncounterObject
  /-- The value of `heldFoe` that the callbacks of the last render see. -/
  rendered : Option EncounterObject
  pendingStore : Option StoredFoe
  /-- A refresh in flight; `isCheckingPendingEncounterRef` is set exactly then. -/
  refresh : Option RefreshTask
  holds : List HoldTask
  engages : List EngageTask

/-- What happened, in order. History. -/
inductive Event where
  | accepted (fight : Nat) (alive : Bool)
  | struck (fight : Nat)
  | killed (eid : Nat)
  | autoResolved (eid : Nat)
  | paid (eid : Nat) (creatureHp : ℚ)
  | fled (eid : Nat) (creatureHp : ℚ)
  | lost (eid : Nat)
  | engaged (eid : Nat)
  deriving DecidableEq

structure Hook where
  playerRef : Option Player
  /-- The player last handed to `setPlayerAndSave`. -/
  saved : Option Player
  combat : Combat
  foes : HeldFoes
  creatures : Nat → Creature
  nextRef : Nat
  nextEncounter : Nat
  combatHits : List (Nat × CombatHitEvent)
  hitId : Nat
  rewardReveal : Option RewardReveal
  rewardRevealTimer : Option RewardReveal
  trace : List Event

namespace Hook

def creatureOf (hook : Hook) (encounter : EncounterObject) : Creature :=
  hook.creatures encounter.creature

def valueOf (hook : Hook) (encounter : EncounterObject) : Encounter where
  creature := hook.creatureOf encounter
  location := encounter.location
  timestamp := encounter.timestamp
  playerLevel := encounter.playerLevel
  status := encounter.status
  daylight := encounter.daylight

def log (hook : Hook) (event : Event) : Hook := { hook with trace := hook.trace ++ [event] }

def setPlayerAndSave (hook : Hook) (player : Player) : Hook :=
  { hook with playerRef := some player, saved := some player }

def withFoes (hook : Hook) (foes : HeldFoes) : Hook := { hook with foes := foes }

def setHolds (hook : Hook) (holds : List HoldTask) : Hook :=
  hook.withFoes { hook.foes with holds := holds }

def pushHit (hook : Hook) (event : CombatHitEvent) : Hook :=
  { hook with combatHits := hook.combatHits ++ [(hook.hitId, event)], hitId := hook.hitId + 1 }

def pushHits (hook : Hook) (events : List CombatHitEvent) : Hook := events.foldl pushHit hook

def allocate (hook : Hook) (eid : Nat) (encounter : Encounter) : Hook × EncounterObject :=
  ({ hook with
      creatures := Function.update hook.creatures hook.nextRef encounter.creature
      nextRef := hook.nextRef + 2 },
    { ref := hook.nextRef + 1
      eid := eid
      creature := hook.nextRef
      location := encounter.location
      timestamp := encounter.timestamp
      playerLevel := encounter.playerLevel
      status := encounter.status
      daylight := encounter.daylight })

end Hook

def Combat.cancelCounterBeat (combat : Combat) : Combat :=
  { combat with counterTimer := none, counterPending := false }

def Combat.ended (combat : Combat) : Combat :=
  { combat with
    encounterRef := none
    isMinimized := false
    showCombatModal := false
    playerCombatState := none
    creatureCombatState := none }

namespace Hook

def clearEncounter (hook : Hook) : Hook :=
  { hook with
    combat := { hook.combat.ended.cancelCounterBeat with
      killBeatTimer := none
      killBeatPending := false }
    foes := { hook.foes with heldFoe := none }
    combatHits := []
    rewardReveal := none
    rewardRevealTimer := none }

/-- The account-switch callback: `clearPlayer` and `clearEncounter`. -/
def switchAccount (hook : Hook) : Hook := { hook.clearEncounter with playerRef := none }

def payVictory (hook : Hook) (basePlayer : Player) (encounter : EncounterObject) (loot : LootRoll) :
    Hook :=
  let creature := hook.creatureOf encounter
  let (updatedPlayer, reveal) := victoryReward basePlayer creature loot
  let resolved := { hook with
    combat := { hook.combat.ended.cancelCounterBeat with
      victoryProcessed := true
      killBeatTimer := none
      killBeatPending := false
      fleeProcessed := false }
    rewardRevealTimer := some reveal }
  (resolved.setPlayerAndSave updatedPlayer).log (.paid encounter.eid creature.hp)

def handleVictory (hook : Hook) (playerToUse : Option Player) (loot : LootRoll) : Hook :=
  match playerToUse.or hook.playerRef, hook.combat.encounterRef with
  | some basePlayer, some encounter =>
    if hook.combat.victoryProcessed then hook else hook.payVictory basePlayer encounter loot
  | _, _ => hook

def scheduleVictory (hook : Hook) (player : Player) (eid : Nat) : Hook :=
  if hook.combat.victoryProcessed || hook.combat.killBeatPending then hook
  else { hook with combat := { hook.combat with
    killBeatPending := true
    killBeatTimer := some ⟨player, eid⟩ } }

def disarmKillBeat (hook : Hook) : Hook :=
  { hook with combat := { hook.combat with killBeatTimer := none, showCombatModal := false } }

def fireKillBeat (hook : Hook) (beat : KillBeat) (loot : LootRoll) : Hook :=
  hook.disarmKillBeat.handleVictory (some beat.player) loot

def handleFlee (hook : Hook) : Hook :=
  -- A pending kill beat does not refuse the flee, nor is its timer cancelled.
  if hook.combat.fleeProcessed || hook.combat.counterPending then hook
  else
    let fled := { hook with
      combat := { hook.combat.ended with fleeProcessed := true }
      combatHits := [] }
    match hook.combat.encounterRef, hook.playerRef with
    | some encounter, some player =>
      (fled.setPlayerAndSave player.clone.incrementEncounters.fullHeal).log
        (.fled encounter.eid (hook.creatureOf encounter).hp)
    | some encounter, none => fled.log (.fled encounter.eid (hook.creatureOf encounter).hp)
    | none, _ => fled

def handlePlayerDefeat (hook : Hook) (defeatedPlayer : Player) : Hook :=
  let healed := defeatedPlayer.clone.fullHeal.incrementEncounters
  let ended := { hook with combat := hook.combat.ended }
  match hook.combat.encounterRef with
  | some encounter => (ended.setPlayerAndSave healed).log (.lost encounter.eid)
  | none => ended.setPlayerAndSave healed

/-- Open the combat modal. Reopening it within the same encounter keeps the states. -/
def openCombat (hook : Hook) (player : Player) : Hook :=
  let opened := { hook with combat := { hook.combat with
    showCombatModal := true
    creatureCombatState := some (hook.combat.creatureCombatState.getD ⟨[], 0⟩) } }
  match hook.combat.playerCombatState with
  | some _ => opened
  | none =>
    { opened with
      combat := { opened.combat with
        playerCombatState := some (initCombatState player.archetype)
        playerDodgeStreak := 0
        creatureDodgeStreak := 0 }
      combatHits := [] }

def handleFight (hook : Hook) (loot : LootRoll) : Hook :=
  match hook.combat.encounterRef, hook.playerRef with
  | some encounter, some player =>
    if player.isDefeated then hook
    else if (hook.creatureOf encounter).isDefeated then hook.handleVictory none loot
    else hook.openCombat player
  | _, _ => hook

def scheduleCounterAttack (hook : Hook) (creatureAttack playerDefense : ℚ) (creature : Nat) : Hook :=
  if hook.combat.counterPending then hook
  else { hook with combat := { hook.combat with
    counterPending := true
    counterTimer := some {
      scheduled := hook.combat.encounterRef.map EncounterObject.ref
      fight := hook.combat.fight
      brace := some ⟨creatureAttack, playerDefense, creature⟩ } } }

def endEnemyTurn (hook : Hook) : Hook :=
  { hook with combat := { hook.combat with counterPending := false } }

def landStrike (hook : Hook) (beat : CounterBeat) (result : CounterStrike) : Hook :=
  let struck := { hook with combat := { hook.combat with
    playerDodgeStreak := result.playerDodgeStreak } }
  ((struck.pushHit result.hit).setPlayerAndSave result.player).log (.struck beat.fight)

def holdTurn (hook : Hook) (beat : CounterBeat) : Hook :=
  { hook with combat := { hook.combat with counterTimer := some { beat with brace := none } } }

def strike (hook : Hook) (beat : CounterBeat) (brace : Brace) (player : Player) (draw : ℚ) : Hook :=
  let result := counterStrike player (hook.creatures brace.creature) brace.creatureAttack
    brace.playerDefense hook.combat.playerDodgeStreak draw
  let struck := hook.landStrike beat result
  if result.player.isDefeated then struck.endEnemyTurn.handlePlayerDefeat result.player
  else struck.holdTurn beat

def disarmCounter (hook : Hook) : Hook :=
  { hook with combat := { hook.combat with counterTimer := none } }

def fireCounter (hook : Hook) (beat : CounterBeat) (draw : ℚ) : Hook :=
  match beat.brace, hook.playerRef with
  | some brace, some player =>
    -- The fight must be the one the strike was scheduled for, by object identity.
    if hook.combat.encounterRef.map EncounterObject.ref ≠ beat.scheduled then
      hook.disarmCounter.endEnemyTurn
    else hook.disarmCounter.strike beat brace player draw
  | _, _ => hook.disarmCounter.endEnemyTurn

def writeTurn (hook : Hook) (encounter : EncounterObject) (turn : TurnOutcome) : Hook :=
  { hook.pushHits turn.hits with
    creatures := Function.update hook.creatures encounter.creature turn.creature
    combat := { hook.combat with
      playerCombatState := some turn.playerState
      creatureCombatState := turn.creatureState
      creatureDodgeStreak := turn.creatureDodgeStreak } }

/-- A turn whose tick killed the creature: the ability did not run, nothing is saved. -/
def dotKill (hook : Hook) (encounter : EncounterObject) (turn : TurnOutcome) : Hook :=
  ((hook.writeTurn encounter turn).log (.killed encounter.eid)).scheduleVictory turn.player encounter.eid

/-- A new `Encounter` object with the same contents becomes the active one. -/
def renewEncounter (hook : Hook) (encounter : EncounterObject) : Hook :=
  { hook with
    nextRef := hook.nextRef + 1
    combat := { hook.combat with encounterRef := some { encounter with ref := hook.nextRef } } }

def resolvedTurn (hook : Hook) (encounter : EncounterObject) (turn : TurnOutcome) : Hook :=
  let saved := ((hook.writeTurn encounter turn).setPlayerAndSave turn.player).renewEncounter encounter
  if turn.creature.isDefeated then
    ((saved.log (.killed encounter.eid)).log (.accepted hook.combat.fight false)).scheduleVictory
      turn.player encounter.eid
  else
    (saved.log (.accepted hook.combat.fight true)).scheduleCounterAttack turn.counterAttack
      turn.counterDefense encounter.creature

def hideCombat (hook : Hook) : Hook :=
  { hook with combat := { hook.combat with showCombatModal := false } }

def playAbility (hook : Hook) (encounter : EncounterObject) (player : Player)
    (state : CombatantState) (ability : Ability) (draw : ℚ) : Hook × Bool :=
  let turn := playTurn player (hook.creatureOf encounter) state hook.combat.creatureCombatState
    ability hook.combat.creatureDodgeStreak draw
  if turn.resolved then (hook.resolvedTurn encounter turn, true)
  else (hook.dotKill encounter turn, false)

def handleAbility (hook : Hook) (ability : Ability) (draw : ℚ) (loot : LootRoll) : Hook × Bool :=
  match hook.combat.encounterRef, hook.playerRef, hook.combat.playerCombatState with
  | some encounter, some player, some state =>
    if hook.combat.victoryProcessed || hook.combat.killBeatPending || hook.combat.counterPending then
      (hook, false)
    else if (hook.creatureOf encounter).isDefeated then
      ((hook.handleVictory none loot).hideCombat, false)
    else if ability.resourceCost > state.resource then (hook, false)
    else hook.playAbility encounter player state ability draw
  | _, _, _ => (hook, false)

def handleMinimize (hook : Hook) : Hook :=
  { hook with combat := { hook.combat with isMinimized := true } }

def handleCloseCombatModal (hook : Hook) : Hook :=
  if hook.combat.counterPending then hook else hook.hideCombat

def handleExpandMinimized (hook : Hook) : Hook :=
  { hook with combat := { hook.combat with isMinimized := false } }

def presentEncounter (hook : Hook) (encounter : EncounterObject) : Hook :=
  { hook with combat := { hook.combat.ended.cancelCounterBeat with
    encounterRef := some encounter
    victoryProcessed := false
    fleeProcessed := false
    fight := hook.combat.fight + 1 } }

def closeModals (hook : Hook) : Hook :=
  { hook with combat := { hook.combat with showCombatModal := false, isMinimized := false } }

def handleAutoResolve (hook : Hook) (loot : LootRoll) : Hook :=
  match hook.playerRef, hook.combat.encounterRef with
  | some player, some encounter =>
    if isEliteCreature (hook.creatureOf encounter) then hook
    else (hook.closeModals.log (.autoResolved encounter.eid)).handleVictory (some player) loot
  | _, _ => hook

/-- The synchronous part of `resolvePassiveEncounter`. -/
def resolvePassiveEncounter (hook : Hook) (creature : Creature) (tier : RewardTier) (draw : ℚ)
    (loot : LootRoll) : Hook :=
  match hook.playerRef with
  | none => hook
  | some basePlayer => hook.setPlayerAndSave (passiveReward basePlayer creature tier draw loot)

/-- A roll of `processDistanceUpdate` that produced an encounter. -/
structure Roll where
  now : ℚ
  daylight : Bool
  location : Location
  stream : ℕ → ℚ

/-- A distance update, with everything the gate reads besides the hook. -/
structure Tick where
  incremental : ℚ
  located : Bool
  /-- The position is more than `AUTO_FLEE_DISTANCE` away from the active encounter. -/
  tooFar : Bool
  roll : Option Roll
  isBackground : Bool
  autoResolveBelowRare : Bool
  draw : ℚ
  loot : LootRoll

def Roll.encounter (roll : Roll) (playerLevel : ℚ) : Encounter :=
  (Encounter.createRandomEncounter roll.now roll.daylight roll.location playerLevel none roll.stream 0).1

def routeEncounter (hook : Hook) (tick : Tick) (encounter : Encounter) : Hook :=
  let rolled := { hook with nextEncounter := hook.nextEncounter + 1 }
  match resolveEncounterRoute tick.isBackground (isEliteCreature encounter.creature)
      tick.autoResolveBelowRare with
  | .present =>
    let (allocated, object) := rolled.allocate hook.nextEncounter encounter
    allocated.presentEncounter object
  | .autoResolve => rolled.resolvePassiveEncounter encounter.creature .active tick.draw tick.loot
  | .hold =>
    let (allocated, object) := rolled.allocate hook.nextEncounter encounter
    allocated.setHolds (allocated.foes.holds ++ [⟨object, .reading⟩])
  | .passive => rolled.resolvePassiveEncounter encounter.creature .idle tick.draw tick.loot

/-- The tick makes a minimized encounter flee. -/
def autoFlees (hook : Hook) (tick : Tick) : Bool :=
  hook.combat.encounterRef.isSome && hook.combat.isMinimized && tick.located &&
    !hook.combat.showCombatModal && tick.tooFar

def onDistanceEncounterUpdate (hook : Hook) (tick : Tick) (currentPlayer : Option Player) : Hook :=
  if hook.autoFlees tick then hook.handleFlee
  else
    match hook.combat.encounterRef, tick.located, currentPlayer, tick.roll with
    | none, true, some player, some roll => hook.routeEncounter tick (roll.encounter player.level)
    | _, _, _, _ => hook

def walk (hook : Hook) (incremental : ℚ) : Hook :=
  match hook.playerRef with
  | some player => hook.setPlayerAndSave (player.clone.addDistance incremental)
  | none => hook

def handleDistanceUpdate (hook : Hook) (tick : Tick) : Hook :=
  (hook.walk tick.incremental).onDistanceEncounterUpdate tick hook.playerRef

def refreshHeldFoe (hook : Hook) : Hook :=
  if hook.foes.refresh.isSome || hook.combat.encounterRef.isSome then hook
  else hook.withFoes { hook.foes with refresh := some .reading }

/-- The storage read of a refresh. A failed read reports no record. -/
def refreshRead (hook : Hook) (success : Bool) : Hook :=
  hook.withFoes { hook.foes with
    refresh := some (.read (if success then hook.foes.pendingStore else none)) }

def refreshResume (hook : Hook) (found : Option StoredFoe) (now : ℚ) : Hook :=
  let done := hook.withFoes { hook.foes with refresh := none }
  match found with
  | none => done.withFoes { done.foes with heldFoe := none }
  | some stored =>
    match rebuildHeldFoe now (heldEncounterData stored.encounter) with
    | none => done
    | some encounter =>
      let (allocated, object) := done.allocate stored.eid encounter
      allocated.withFoes { allocated.foes with heldFoe := some object }

/-- The call of `engageHeldFoe`, with the foe of the last render. -/
def engageHeldFoe (hook : Hook) : Hook :=
  match hook.foes.rendered, hook.combat.encounterRef with
  | some foe, none => hook.withFoes { hook.foes with engages := hook.foes.engages ++ [⟨foe, .clearing⟩] }
  | _, _ => hook

def engageClear (hook : Hook) (i : Nat) (foe : EncounterObject) (success : Bool) : Hook :=
  hook.withFoes { hook.foes with
    engages := hook.foes.engages.set i ⟨foe, .cleared success⟩
    pendingStore := if success then none else hook.foes.pendingStore }

def engageResume (hook : Hook) (i : Nat) (foe : EncounterObject) (success : Bool) : Hook :=
  let done := hook.withFoes { hook.foes with engages := hook.foes.engages.eraseIdx i }
  if success then
    -- Timers and combat states stay, and what was active is not looked at again.
    { done with
      combat := { hook.combat with
        encounterRef := some foe
        isMinimized := false
        showCombatModal := false
        victoryProcessed := false
        fleeProcessed := false
        fight := hook.combat.fight + 1 }
      foes := { done.foes with heldFoe := none } }.log (.engaged foe.eid)
  else done

def holdRead (hook : Hook) (i : Nat) (foe : EncounterObject) (success : Bool) : Hook :=
  hook.withFoes { hook.foes with
    holds := hook.foes.holds.set i ⟨foe, .read (success && hook.foes.pendingStore.isSome)⟩ }

/-- A hold that read the store: overflow resolves passively, otherwise the record is built. -/
def holdResume (hook : Hook) (i : Nat) (foe : EncounterObject) (existing : Bool) (draw : ℚ)
    (loot : LootRoll) : Hook :=
  -- The read may be old: another hold can have written the record since.
  if existing then
    (hook.setHolds (hook.foes.holds.eraseIdx i)).resolvePassiveEncounter (hook.creatureOf foe) .idle
      draw loot
  else hook.setHolds (hook.foes.holds.set i ⟨foe, .saving (hook.valueOf foe)⟩)

def holdWrite (hook : Hook) (i : Nat) (foe : EncounterObject) (encounter : Encounter)
    (success : Bool) : Hook :=
  hook.withFoes { hook.foes with
    holds := hook.foes.holds.set i ⟨foe, .saved success⟩
    pendingStore := if success then some ⟨foe.eid, encounter⟩ else hook.foes.pendingStore }

/-- A hold that wrote the store: it surfaces the card, or resolves passively. -/
def holdFinish (hook : Hook) (i : Nat) (foe : EncounterObject) (success : Bool) (draw : ℚ)
    (loot : LootRoll) : Hook :=
  let done := hook.setHolds (hook.foes.holds.eraseIdx i)
  if success then done.withFoes { done.foes with heldFoe := some foe }
  else done.resolvePassiveEncounter (hook.creatureOf foe) .idle draw loot

end Hook

end WalkingRpg
