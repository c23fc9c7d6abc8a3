import WalkingRpg.Encounter.Frames
import WalkingRpg.Encounter.Saves
import WalkingRpg.Models.HitFeed

/-! The hit feed of the hook against the hit points of a fight.

Every handler rebuilds the player through the constructor, which cuts the hit points down to the maximum.
A rebuilt player has the hit points of the old one only if these were within the maximum, so that is
followed over runs first.
-/

set_option autoImplicit false

namespace WalkingRpg

open Runs (Run)

theorem Fight.capped_play (fight : Fight) (call : AbilityCall) : (fight.play call).player.Capped := by
  have whole : call.player.clone.Capped := Player.capped_create call.player.toJSON
  cases survives : (tickCreature fight.creature fight.creatureState).creature.isDefeated with
  | true =>
    obtain ⟨_, _, player, _⟩ := @stopped_play fight call survives
    rw [player]
    exact whole
  | false =>
    rw [(@ran_play fight call survives).player]
    split
    · exact min_le_left _ _
    · exact whole

namespace Hook

def Capped (hook : Hook) : Prop := ∀ player ∈ hook.playerRef, player.Capped

/-- A player put in place by the player hook is within the maximum, as every constructed one is. -/
def PutsCapped (_ : Hook) : Action → Prop
  | .setPlayer player => player.Capped
  | _ => True

instance (hook : Hook) (action : Action) : Decidable (hook.PutsCapped action) := by
  apply @Action.casesOn fun action => Decidable (hook.PutsCapped action)
  all_goals intros; dsimp only [PutsCapped]; infer_instance

variable {hook before after : Hook} {action : Action} {encounter : EncounterObject} {player : Player}

theorem Capped.of_some (current : hook.playerRef = some player) (capped : player.Capped) : hook.Capped := by
  intro other present
  cases Option.some.inj (current.symm.trans present)
  exact capped

theorem handled_capped : Handled fun _ player => player.Capped where
  victory basePlayer creature loot := (hp_victoryReward basePlayer creature loot).le
  passive basePlayer creature tier draw loot := (hp_passiveReward basePlayer creature tier draw loot).le
  flee _ := le_rfl
  turn base creature playerState creatureState ability dodgeStreak draw :=
    Fight.capped_play ⟨creature, playerState, creatureState, dodgeStreak⟩ ⟨base, ability, draw⟩
  strike _ creature creatureAttack playerDefense dodgeStreak draw :=
    capped_counterStrike creature creatureAttack playerDefense dodgeStreak draw
  defeat _ _ _ _ _ _ := le_rfl

theorem Capped.rebuilt (capped : before.Capped) (rebuilds : Rebuilds (fun _ player => player.Capped) before after) :
    after.Capped := by
  rcases rebuilds with ⟨same, _⟩ | ⟨_, player, _, put, _, within⟩
  · intro player present
    exact capped player (same ▸ present)
  · exact .of_some put within

theorem Capped.step (capped : hook.Capped) (puts : hook.PutsCapped action) (taken : hook.step action = some after) :
    after.Capped := by
  cases puts_of_step handled_capped taken with
  | rebuilt _ rebuilds => exact capped.rebuilt rebuilds
  | walked tick _ gate =>
    -- The walked player is a new one, too.
    have walked : (hook.walk tick.incremental).Capped := by
      unfold walk
      split
      · exact .of_some rfl (Player.capped_create _)
      · exact capped
    exact walked.rebuilt gate
  | captured _ _ _ _ _ within put => exact .of_some put within
  | replaced player same put =>
    subst same
    exact .of_some put puts
  | dropped _ put =>
    intro player present
    rw [put] at present
    exact absurd present (Option.not_mem_none player)

def Publishes (before after : Hook) (events : List CombatHitEvent) : Prop :=
  after.combatHits.map Prod.snd = before.combatHits.map Prod.snd ++ events

theorem publishes_pushHits (events : List CombatHitEvent) : Publishes hook (hook.pushHits events) events := by
  unfold Publishes pushHits
  induction events generalizing hook with
  | nil => simp
  | cons event events ih =>
    rw [List.foldl_cons, ih, pushHit, List.map_append, List.append_assoc]
    rfl

/-- The events of an ability turn account for what it did to the creature and the player. A heal event
reports what the ability offers, which is what the player regained exactly when it fits below the maximum. -/
structure AccountsTurn (before after : Hook) (ability : Ability) (encounter : EncounterObject) (player : Player)
    (events : List CombatHitEvent) (later : Player) : Prop where
  published : Publishes before after events
  current : after.playerRef = some later
  creatureLoss : Accounts .creature events (before.creatureOf encounter).hp (after.creatureOf encounter).hp
  playerLoss : Accounts .player events player.hp later.hp
  heals : ∀ event ∈ events, event.kind = .heal → event.target = .player ∧
    event.amount = ability.offeredHeal player.maxHp ∧
    (event.amount = later.hp - player.hp ↔ player.hp + ability.offeredHeal player.maxHp ≤ player.maxHp)

theorem accountsTurn_playAbility (capped : player.Capped) (loaded : hook.playerRef = some player)
    (alive : (hook.creatureOf encounter).isDefeated = false) (state : CombatantState) (ability : Ability) (draw : ℚ) :
    ∃ events later, AccountsTurn hook (hook.playAbility encounter player state ability draw).1 ability encounter
      player events later := by
  let fight : Fight := ⟨hook.creatureOf encounter, state, hook.combat.creatureCombatState,
    hook.combat.creatureDodgeStreak⟩
  let call : AbilityCall := ⟨player, ability, draw⟩
  obtain ⟨_, _, _, _, _, played⟩ := hook.playAbility_frame encounter player state ability draw
  have whole : player.clone.hp = player.hp := Player.hp_clone capped
  -- The player after the turn: the one the turn saved, or the one before it.
  let later := if (fight.play call).resolved then (fight.play call).player else player
  have current : (hook.playAbility encounter player state ability draw).1.playerRef = some later := by
    rw [played, loaded]
    exact (apply_ite some _ _ _).symm
  have kept : player.hp ≤ later.hp := by
    have played : call.player.clone.hp ≤ (fight.play call).player.hp := Fight.hp_le_play
    unfold later
    split
    · exact whole ▸ played
    · exact le_rfl
  refine ⟨(fight.play call).hits, later, ?_, current, ?_, .of_spared Fight.harm_player_play kept, ?_⟩
  · unfold Publishes
    rw [played]
    exact publishes_pushHits _
  · have written : (hook.playAbility encounter player state ability draw).1.creatureOf encounter =
        (fight.play call).creature := by
      rw [creatureOf, played]
      exact Function.update_self ..
    rw [written]
    exact Fight.accounts_creature alive
  · intro event present heals
    obtain ⟨resolved, target, positive, offered, restored⟩ := Fight.heals_play present heals
    have amount : later.hp = min player.maxHp (player.hp + event.amount) := by
      unfold later
      rw [if_pos resolved, restored, ← whole]
      rfl
    refine ⟨target, offered, ?_⟩
    rw [← show event.amount = ability.offeredHeal player.maxHp from offered, amount]
    constructor
    · intro exact
      by_contra cut
      rw [min_eq_left (not_le.mp cut).le] at exact
      linarith
    · intro fits
      rw [min_eq_right fits, add_sub_cancel_left]

/-- The event of a counter strike accounts for what the strike took from the player. A player struck down
to zero is healed by the defeat that follows. -/
structure AccountsStrike (before after : Hook) (player : Player) (events : List CombatHitEvent)
    (struck : Player) : Prop where
  published : Publishes before after events
  creatures : after.creatures = before.creatures
  creatureLoss : ∀ hp, Accounts .creature events hp hp
  playerLoss : Accounts .player events player.hp struck.hp
  noHeal : ∀ event ∈ events, event.kind ≠ .heal
  survived : struck.isDefeated = false → after.playerRef = some struck
  defeated : struck.isDefeated = true → after.playerRef = some struck.clone.fullHeal.incrementEncounters

theorem accountsStrike_strike (capped : player.Capped) (beat : CounterBeat) (brace : Brace) (draw : ℚ) :
    let result := counterStrike player (hook.creatures brace.creature) brace.creatureAttack brace.playerDefense
      hook.combat.playerDodgeStreak draw
    AccountsStrike hook (hook.strike beat brace player draw) player [result.hit] result.player := by
  intro result
  obtain ⟨_, _, _, struck⟩ := hook.strike_frame beat brace player draw
  exact {
    published := by
      unfold Publishes
      rw [struck]
      exact List.map_append
    creatures := by rw [struck]; rfl
    creatureLoss := fun hp => .of_spared (harm_eq_zero fun event present harms => by
      cases List.mem_singleton.mp present
      cases harms.1) le_rfl
    playerLoss := accounts_counterStrike _ _ _ _ _ capped
    noHeal := fun event present heals => by
      cases List.mem_singleton.mp present
      cases heals
    survived := fun standing => by rw [struck]; exact congrArg some (if_neg (Bool.eq_false_iff.mp standing))
    defeated := fun fallen => by rw [struck]; exact congrArg some (if_pos fallen) }

structure Accepts (hook : Hook) (ability : Ability) (encounter : EncounterObject) (player : Player)
    (state : CombatantState) : Prop where
  ready : hook.core.Ready encounter
  loaded : hook.playerRef = some player
  entered : hook.combat.playerCombatState = some state
  alive : (hook.creatureOf encounter).isDefeated = false
  affordable : ability.resourceCost ≤ state.resource

structure Strikes (hook : Hook) (beat : CounterBeat) (brace : Brace) (player : Player) : Prop where
  armed : hook.combat.counterTimer = some beat
  braced : beat.brace = some brace
  loaded : hook.playerRef = some player
  here : hook.combat.encounterRef.map EncounterObject.ref = beat.scheduled

/-- In every reachable state of the hook, an accepted ability turn and a counter strike publish what they
did to the hit points: the damage reported is the damage taken, unless the target ended at zero, and a heal event
reports what was regained exactly when it fits below the maximum. -/
theorem run_hits_account {started : Option Player} {stored : Option Encounter} {actions : List Action}
    (capped : ∀ player ∈ started, player.Capped) (run : Run step PutsCapped (start started stored) actions hook) :
    (∀ ability encounter player state, hook.Accepts ability encounter player state → ∀ draw loot,
      ∃ events later, AccountsTurn hook (hook.handleAbility ability draw loot).1 ability encounter player events
        later) ∧
    ∀ beat brace player, hook.Strikes beat brace player → ∀ draw,
      let result := counterStrike player (hook.creatures brace.creature) brace.creatureAttack brace.playerDefense
        hook.combat.playerDodgeStreak draw
      AccountsStrike hook (hook.fireCounter beat draw) player [result.hit] result.player := by
  have within : hook.Capped := run.invariant Capped capped fun _ _ _ held puts taken => held.step puts taken
  refine ⟨?_, ?_⟩
  · intro ability encounter player state accepts draw loot
    obtain ⟨ready, loaded, entered, alive, affordable⟩ := accepts
    have living : 0 < (hook.creatureOf encounter).hp := by simpa [Creature.isDefeated] using alive
    rw [handleAbility_eq_playAbility ready loaded entered living affordable]
    exact accountsTurn_playAbility (within player loaded) loaded alive state ability draw
  · intro beat brace player strikes draw result
    have fired : hook.fireCounter beat draw = hook.disarmCounter.strike beat brace player draw := by
      unfold fireCounter
      rw [strikes.braced, strikes.loaded]
      exact if_neg (not_not.mpr strikes.here)
    rw [fired]
    have accounts := hook.disarmCounter.accountsStrike_strike (within player strikes.loaded) beat brace draw
    exact { accounts with }

def evasiveLeap : Ability := ⟨"evasive_leap", "Evasive Leap", 30, .defensive (some 12) none none⟩

def scout : Option Player := some (Player.new .agile 1)

def opening : List Action := [.tick (stroll 60 (some firstRoll)), .fight fun _ => none]

/-- `Accepts` with the objects left open, to be evaluated. -/
def accepting (hook : Hook) (ability : Ability) : Bool :=
  match hook.combat.encounterRef, hook.playerRef, hook.combat.playerCombatState with
  | some encounter, some _, some state =>
    !hook.combat.victoryProcessed && !hook.combat.killBeatPending && !hook.combat.counterPending &&
      !(hook.creatureOf encounter).isDefeated && decide (ability.resourceCost ≤ state.resource)
  | _, _, _ => false

theorem exists_accepts {ability : Ability} (accepting : hook.accepting ability = true) :
    ∃ encounter player state, hook.Accepts ability encounter player state := by
  unfold Hook.accepting at accepting
  split at accepting
  · rename_i encounter player state active loaded entered
    simp only [Bool.and_eq_true, Bool.not_eq_true', decide_eq_true_eq, and_assoc] at accepting
    obtain ⟨victory, kill, counter, alive, affordable⟩ := accepting
    exact ⟨encounter, player, state, ⟨active, victory, kill, counter⟩, loaded, entered, alive, affordable⟩
  · cases accepting

/-- The first swing of a mage is in the feed as the creature felt it, and so is the answer. -/
theorem run_hits_account_surge :
    (∃ hook encounter player state events later,
      Run step PutsCapped (start mage none) opening hook ∧ hook.Accepts arcaneSurge encounter player state ∧
      AccountsTurn hook (hook.handleAbility arcaneSurge (9 / 10) fun _ => none).1 arcaneSurge encounter player
        events later) ∧
    ∃ hook beat brace player events struck,
      Run step PutsCapped (start mage none) (opening ++ [Action.ability arcaneSurge (9 / 10) fun _ => none]) hook ∧
      hook.Strikes beat brace player ∧
      AccountsStrike hook (hook.fireCounter beat (9 / 10)) player events struck := by
  have capped : ∀ player ∈ mage, player.Capped := by
    intro player present
    cases Option.some.inj present
    exact Player.capped_create _
  refine ⟨?_, ?_⟩
  · have executed : ∃ hook, Run step PutsCapped (start mage none) opening hook ∧
        hook.accepting arcaneSurge = true := Run.exists_of_exec (by decide +kernel)
    obtain ⟨hook, run, accepting⟩ := executed
    obtain ⟨encounter, player, state, accepts⟩ := exists_accepts accepting
    obtain ⟨events, later, accounts⟩ := (run_hits_account capped run).1 _ _ _ _ accepts (9 / 10) fun _ => none
    exact ⟨hook, encounter, player, state, events, later, run, accepts, accounts⟩
  · have executed : ∃ hook,
        Run step PutsCapped (start mage none) (opening ++ [Action.ability arcaneSurge (9 / 10) fun _ => none]) hook ∧
        hook.playerRef.isSome = true ∧ hook.combat.counterTimer.any (fun beat => beat.brace.isSome &&
          decide (hook.combat.encounterRef.map EncounterObject.ref = beat.scheduled)) = true :=
      Run.exists_of_exec (by decide +kernel)
    obtain ⟨hook, run, loaded, timer⟩ := executed
    obtain ⟨player, loaded⟩ := Option.isSome_iff_exists.mp loaded
    obtain ⟨beat, armed, checks⟩ := (Option.any_eq_true _ _).mp timer
    obtain ⟨braced, here⟩ := (Bool.and_eq_true _ _).mp checks
    obtain ⟨brace, braced⟩ := Option.isSome_iff_exists.mp braced
    have strikes : hook.Strikes beat brace player := ⟨armed, braced, loaded, of_decide_eq_true here⟩
    exact ⟨hook, beat, brace, player, _, _, run, strikes, (run_hits_account capped run).2 _ _ _ strikes (9 / 10)⟩

/-- At full strength the leap reports twelve points healed and heals none. -/
theorem run_leap_reports_unhealed : ∃ hook encounter player state event,
    Run step PutsCapped (start scout none) opening hook ∧ hook.Accepts evasiveLeap encounter player state ∧
      Publishes hook (hook.handleAbility evasiveLeap 0 fun _ => none).1 [event] ∧
      event.kind = .heal ∧ event.amount = 12 ∧
      (hook.handleAbility evasiveLeap 0 fun _ => none).1.playerRef.map Player.hp = some player.hp := by
  have executed : ∃ hook, Run step PutsCapped (start scout none) opening hook ∧
      hook.accepting evasiveLeap = true ∧ hook.combatHits = [] ∧
      ((hook.handleAbility evasiveLeap 0 fun _ => none).1.combatHits.map fun hit => (hit.2.kind, hit.2.amount)) =
        [(.heal, 12)] ∧
      (hook.handleAbility evasiveLeap 0 fun _ => none).1.playerRef.map Player.hp = hook.playerRef.map Player.hp :=
    Run.exists_of_exec (by decide +kernel)
  obtain ⟨hook, run, accepting, silent, published, unhealed⟩ := executed
  obtain ⟨encounter, player, state, accepts⟩ := exists_accepts accepting
  obtain ⟨hit, single, reported⟩ := List.map_eq_singleton_iff.mp published
  refine ⟨hook, encounter, player, state, hit.2, run, accepts, ?_, congrArg Prod.fst reported,
    congrArg Prod.snd reported, ?_⟩
  · rw [Publishes, single, silent]
    rfl
  · rw [unhealed, accepts.loaded]
    rfl

end Hook

end WalkingRpg
