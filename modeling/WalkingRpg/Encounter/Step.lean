import WalkingRpg.Encounter.Hook
import WalkingRpg.Library.Runs

/-! The steps of the encounter hook.

A step is one synchronous piece of the program: a tap, a distance update, a timer
callback, one storage operation or the code after it. `Does` is the inversion of
`step`: what a taken action found and which handler it ran.
-/

set_option autoImplicit false

namespace WalkingRpg

namespace Hook

inductive Action where
  | tick (tick : Tick)
  | fight (loot : LootRoll)
  | ability (ability : Ability) (draw : ℚ) (loot : LootRoll)
  | flee
  | autoResolve (loot : LootRoll)
  | minimize
  | closeCombat
  | expand
  | fireKillBeat (loot : LootRoll)
  | fireCounter (draw : ℚ)
  | fireReveal
  | dismissReward
  | refresh
  | refreshRead (success : Bool)
  | refreshResume (now : ℚ)
  | engage
  | engageClear (i : Nat) (success : Bool)
  | engageResume (i : Nat)
  | holdRead (i : Nat) (success : Bool)
  | holdResume (i : Nat) (draw : ℚ) (loot : LootRoll)
  | holdWrite (i : Nat) (success : Bool)
  | holdFinish (i : Nat) (draw : ℚ) (loot : LootRoll)
  | render
  /-- `usePlayer` puts another player in place, by a load or an adoption. -/
  | setPlayer (player : Player)
  | switchAccount
  /-- `clearLocalPlayerData` removes the pending-encounter key. -/
  | wipeStore

def step (hook : Hook) : Action → Option Hook
  | .tick tick => some (hook.handleDistanceUpdate tick)
  | .fight loot => some (hook.handleFight loot)
  | .ability ability draw loot => some (hook.handleAbility ability draw loot).1
  | .flee => some hook.handleFlee
  | .autoResolve loot => some (hook.handleAutoResolve loot)
  | .minimize => some hook.handleMinimize
  | .closeCombat => some hook.handleCloseCombatModal
  | .expand => some hook.handleExpandMinimized
  | .fireKillBeat loot => hook.combat.killBeatTimer.map fun beat => hook.fireKillBeat beat loot
  | .fireCounter draw => hook.combat.counterTimer.map fun beat => hook.fireCounter beat draw
  | .fireReveal => hook.rewardRevealTimer.map fun reveal =>
      { hook with rewardRevealTimer := none, rewardReveal := some reveal }
  | .dismissReward => some { hook with rewardReveal := none }
  | .refresh => some hook.refreshHeldFoe
  | .refreshRead success => match hook.foes.refresh with
    | some .reading => some (hook.refreshRead success)
    | _ => none
  | .refreshResume now => match hook.foes.refresh with
    | some (.read found) => some (hook.refreshResume found now)
    | _ => none
  | .engage => some hook.engageHeldFoe
  | .engageClear i success => match hook.foes.engages[i]? with
    | some ⟨foe, .clearing⟩ => some (hook.engageClear i foe success)
    | _ => none
  | .engageResume i => match hook.foes.engages[i]? with
    | some ⟨foe, .cleared success⟩ => some (hook.engageResume i foe success)
    | _ => none
  | .holdRead i success => match hook.foes.holds[i]? with
    | some ⟨foe, .reading⟩ => some (hook.holdRead i foe success)
    | _ => none
  | .holdResume i draw loot => match hook.foes.holds[i]? with
    | some ⟨foe, .read existing⟩ => some (hook.holdResume i foe existing draw loot)
    | _ => none
  | .holdWrite i success => match hook.foes.holds[i]? with
    | some ⟨foe, .saving encounter⟩ => some (hook.holdWrite i foe encounter success)
    | _ => none
  | .holdFinish i draw loot => match hook.foes.holds[i]? with
    | some ⟨foe, .saved success⟩ => some (hook.holdFinish i foe success draw loot)
    | _ => none
  | .render => some (hook.withFoes { hook.foes with rendered := hook.foes.heldFoe })
  | .setPlayer player => some (hook.setPlayerAndSave player)
  | .switchAccount => some hook.switchAccount
  | .wipeStore => some (hook.withFoes { hook.foes with pendingStore := none })

/-- A mounted hook. The store may hold a foe from an earlier session. -/
def start (player : Option Player) (stored : Option Encounter) : Hook where
  playerRef := player
  saved := player
  combat := {
    encounterRef := none, isMinimized := false, showCombatModal := false
    victoryProcessed := false, fleeProcessed := false
    killBeatPending := false, killBeatTimer := none, counterPending := false, counterTimer := none
    playerCombatState := none, creatureCombatState := none
    playerDodgeStreak := 0, creatureDodgeStreak := 0, fight := 0 }
  foes := {
    heldFoe := none, rendered := none, pendingStore := stored.map fun encounter => ⟨0, encounter⟩
    refresh := none, holds := [], engages := [] }
  creatures := fun _ => Creature.create
    { id := "", name := "", type := "", maxHp := 0, attack := 0, defense := 0, speed := 0 }
  nextRef := 0
  nextEncounter := 1
  combatHits := []
  hitId := 0
  rewardReveal := none
  rewardRevealTimer := none
  trace := []

/-- What a taken action found and did. -/
inductive Does (hook : Hook) : Action → Hook → Prop where
  | tick (tick : Tick) : Does hook (.tick tick) (hook.handleDistanceUpdate tick)
  | fight (loot : LootRoll) : Does hook (.fight loot) (hook.handleFight loot)
  | ability (ability : Ability) (draw : ℚ) (loot : LootRoll) :
      Does hook (.ability ability draw loot) (hook.handleAbility ability draw loot).1
  | flee : Does hook .flee hook.handleFlee
  | autoResolve (loot : LootRoll) : Does hook (.autoResolve loot) (hook.handleAutoResolve loot)
  | minimize : Does hook .minimize hook.handleMinimize
  | closeCombat : Does hook .closeCombat hook.handleCloseCombatModal
  | expand : Does hook .expand hook.handleExpandMinimized
  | fireKillBeat {beat : KillBeat} (loot : LootRoll) : hook.combat.killBeatTimer = some beat →
      Does hook (.fireKillBeat loot) (hook.fireKillBeat beat loot)
  | fireCounter {beat : CounterBeat} (draw : ℚ) : hook.combat.counterTimer = some beat →
      Does hook (.fireCounter draw) (hook.fireCounter beat draw)
  | fireReveal {reveal : RewardReveal} : hook.rewardRevealTimer = some reveal →
      Does hook .fireReveal { hook with rewardRevealTimer := none, rewardReveal := some reveal }
  | dismissReward : Does hook .dismissReward { hook with rewardReveal := none }
  | refresh : Does hook .refresh hook.refreshHeldFoe
  | refreshRead (success : Bool) : hook.foes.refresh = some .reading →
      Does hook (.refreshRead success) (hook.refreshRead success)
  | refreshResume {found : Option StoredFoe} (now : ℚ) : hook.foes.refresh = some (.read found) →
      Does hook (.refreshResume now) (hook.refreshResume found now)
  | engage : Does hook .engage hook.engageHeldFoe
  | engageClear {i : Nat} {foe : EncounterObject} (success : Bool) :
      hook.foes.engages[i]? = some ⟨foe, .clearing⟩ →
      Does hook (.engageClear i success) (hook.engageClear i foe success)
  | engageResume {i : Nat} {foe : EncounterObject} {success : Bool} :
      hook.foes.engages[i]? = some ⟨foe, .cleared success⟩ →
      Does hook (.engageResume i) (hook.engageResume i foe success)
  | holdRead {i : Nat} {foe : EncounterObject} (success : Bool) :
      hook.foes.holds[i]? = some ⟨foe, .reading⟩ →
      Does hook (.holdRead i success) (hook.holdRead i foe success)
  | holdResume {i : Nat} {foe : EncounterObject} {existing : Bool} (draw : ℚ) (loot : LootRoll) :
      hook.foes.holds[i]? = some ⟨foe, .read existing⟩ →
      Does hook (.holdResume i draw loot) (hook.holdResume i foe existing draw loot)
  | holdWrite {i : Nat} {foe : EncounterObject} {encounter : Encounter} (success : Bool) :
      hook.foes.holds[i]? = some ⟨foe, .saving encounter⟩ →
      Does hook (.holdWrite i success) (hook.holdWrite i foe encounter success)
  | holdFinish {i : Nat} {foe : EncounterObject} {success : Bool} (draw : ℚ) (loot : LootRoll) :
      hook.foes.holds[i]? = some ⟨foe, .saved success⟩ →
      Does hook (.holdFinish i draw loot) (hook.holdFinish i foe success draw loot)
  | render : Does hook .render (hook.withFoes { hook.foes with rendered := hook.foes.heldFoe })
  | setPlayer (player : Player) : Does hook (.setPlayer player) (hook.setPlayerAndSave player)
  | switchAccount : Does hook .switchAccount hook.switchAccount
  | wipeStore : Does hook .wipeStore (hook.withFoes { hook.foes with pendingStore := none })

theorem does_of_step {hook after : Hook} {action : Action} (taken : hook.step action = some after) :
    Does hook action after := by
  -- First the actions that need an armed timer or a task in the right phase.
  cases action with
  | fireKillBeat loot =>
    obtain ⟨beat, armed, rfl⟩ := Option.map_eq_some_iff.mp taken
    exact .fireKillBeat loot armed
  | fireCounter draw =>
    obtain ⟨beat, armed, rfl⟩ := Option.map_eq_some_iff.mp taken
    exact .fireCounter draw armed
  | fireReveal =>
    obtain ⟨reveal, armed, rfl⟩ := Option.map_eq_some_iff.mp taken
    exact .fireReveal armed
  | refreshRead success =>
    simp only [step] at taken
    split at taken
    · rename_i phase
      cases Option.some.inj taken
      exact .refreshRead success phase
    · cases taken
  | refreshResume now =>
    simp only [step] at taken
    split at taken
    · rename_i found phase
      cases Option.some.inj taken
      exact .refreshResume now phase
    · cases taken
  | engageClear i success =>
    simp only [step] at taken
    split at taken
    · rename_i foe phase
      cases Option.some.inj taken
      exact .engageClear success phase
    · cases taken
  | engageResume i =>
    simp only [step] at taken
    split at taken
    · rename_i foe success phase
      cases Option.some.inj taken
      exact .engageResume phase
    · cases taken
  | holdRead i success =>
    simp only [step] at taken
    split at taken
    · rename_i foe phase
      cases Option.some.inj taken
      exact .holdRead success phase
    · cases taken
  | holdResume i draw loot =>
    simp only [step] at taken
    split at taken
    · rename_i foe existing phase
      cases Option.some.inj taken
      exact .holdResume draw loot phase
    · cases taken
  | holdWrite i success =>
    simp only [step] at taken
    split at taken
    · rename_i foe encounter phase
      cases Option.some.inj taken
      exact .holdWrite success phase
    · cases taken
  | holdFinish i draw loot =>
    simp only [step] at taken
    split at taken
    · rename_i foe success phase
      cases Option.some.inj taken
      exact .holdFinish draw loot phase
    · cases taken
  | tick tick => cases Option.some.inj taken; exact .tick tick
  | fight loot => cases Option.some.inj taken; exact .fight loot
  | ability ability draw loot => cases Option.some.inj taken; exact .ability ability draw loot
  | flee => cases Option.some.inj taken; exact .flee
  | autoResolve loot => cases Option.some.inj taken; exact .autoResolve loot
  | minimize => cases Option.some.inj taken; exact .minimize
  | closeCombat => cases Option.some.inj taken; exact .closeCombat
  | expand => cases Option.some.inj taken; exact .expand
  | dismissReward => cases Option.some.inj taken; exact .dismissReward
  | refresh => cases Option.some.inj taken; exact .refresh
  | engage => cases Option.some.inj taken; exact .engage
  | render => cases Option.some.inj taken; exact .render
  | setPlayer player => cases Option.some.inj taken; exact .setPlayer player
  | switchAccount => cases Option.some.inj taken; exact .switchAccount
  | wipeStore => cases Option.some.inj taken; exact .wipeStore

end Hook

end WalkingRpg
