import WalkingRpg.Encounter.Saves
import WalkingRpg.Encounter.WalkSummary

/-! What a step does to the player, as data.

A deed is one rebuild of the player by a handler, with everything the handler read for it. A step
performs at most two: a walk, and then what the gate decides. `Acts` is the inversion of a step in
these terms. Along with the deeds it gives what the step lets the player see of them.
-/

set_option autoImplicit false

namespace WalkingRpg

namespace PassiveResolution

/-- The item that was rolled, whether or not there is room for it. -/
def dropped (call : PassiveResolution) : Option Item :=
  match call.tier with
  | .active => call.loot call.leveled.level
  | .idle => call.outcome.item

theorem updatedPlayer_eq (call : PassiveResolution) : call.updatedPlayer = match call.dropped with
    | none => call.leveled.fullHeal
    | some item => (call.leveled.addItemToInventory item).1.fullHeal := by
  obtain ⟨eid, basePlayer, creature, tier, draw, loot⟩ := call
  cases tier <;> rfl

end PassiveResolution

/-- A rebuild of the player. -/
inductive Deed where
  | walked (distance : ℚ)
  | won (creature : Creature) (loot : LootRoll)
  | skipped (eid : Nat) (creature : Creature) (tier : RewardTier) (draw : ℚ) (loot : LootRoll)
  | fled
  | acted (creature : Creature) (playerState : CombatantState) (creatureState : Option CombatantState)
      (ability : Ability) (dodgeStreak draw : ℚ)
  | struck (creature : Creature) (creatureAttack playerDefense dodgeStreak draw : ℚ)
  /-- A strike that was the last one of the fight. -/
  | fell (creature : Creature) (creatureAttack playerDefense dodgeStreak draw : ℚ)

/-- What is seen of a deed: a distance, a reveal, an entry of the recap, or an event of the fight. -/
inductive Sight where
  | walked (distance : ℚ)
  | revealed (reveal : RewardReveal)
  | recapped (entry : WalkSummaryEntry)
  | fled
  | struck
  | lost

namespace Deed

def apply (base : Player) : Deed → Player
  | .walked distance => base.clone.addDistance distance
  | .won creature loot => (victoryReward base creature loot).1
  | .skipped _ creature tier draw loot => passiveReward base creature tier draw loot
  | .fled => base.clone.incrementEncounters.fullHeal
  | .acted creature playerState creatureState ability dodgeStreak draw =>
    (playTurn base creature playerState creatureState ability dodgeStreak draw).player
  | .struck creature creatureAttack playerDefense dodgeStreak draw =>
    (counterStrike base creature creatureAttack playerDefense dodgeStreak draw).player
  | .fell creature creatureAttack playerDefense dodgeStreak draw =>
    (counterStrike base creature creatureAttack playerDefense dodgeStreak
      draw).player.clone.fullHeal.incrementEncounters

def sights (now : ℚ) (base : Player) : Deed → List Sight
  | .walked distance => [.walked distance]
  | .won creature loot => [.revealed (victoryReward base creature loot).2]
  | .skipped eid creature tier draw loot =>
    [.recapped (PassiveResolution.walkSummaryEntry ⟨eid, base, creature, tier, draw, loot⟩ now)]
  | .fled => [.fled]
  | .acted _ _ _ _ _ _ => []
  | .struck _ _ _ _ _ => [.struck]
  | .fell _ _ _ _ _ => [.struck, .lost]

def sightsOf (now : ℚ) : Player → List Deed → List Sight
  | _, [] => []
  | base, deed :: rest => deed.sights now base ++ sightsOf now (deed.apply base) rest

end Deed

namespace Hook

def Action.loot? : Action → Option LootRoll
  | .tick update => some update.loot
  | .fight loot => some loot
  | .ability _ _ loot => some loot
  | .autoResolve loot => some loot
  | .fireKillBeat loot => some loot
  | .holdResume _ _ loot => some loot
  | .holdFinish _ _ loot => some loot
  | _ => none

def Meets (hook : Hook) (creature : Creature) : Prop :=
  (∃ ref, creature = hook.creatures ref) ∨ ∃ (roll : Roll) (level : ℚ), creature = (roll.encounter level).creature

/-- Where a deed takes what it depends on. -/
def Grounds (hook : Hook) (action : Action) : Deed → Prop
  | .walked distance => distance = action.walked
  | .won creature loot => action.loot? = some loot ∧ hook.Meets creature
  | .skipped _ creature _ _ loot => action.loot? = some loot ∧ hook.Meets creature
  | _ => True

end Hook

/-- What an event of the fight announces. A payment announces the reveal that it has scheduled. -/
def Event.sights (reveal : Option RewardReveal) : Event → List Sight
  | .paid _ _ => (reveal.map Sight.revealed).toList
  | .fled _ _ => [.fled]
  | .struck _ => [.struck]
  | .lost _ => [.lost]
  | _ => []

namespace Hook

/-- What a step announces outside the fight: the distance of an update and the entry of a passive resolution. -/
def outside (hook : Hook) (now : ℚ) (action : Action) : List Sight :=
  (match action with
    | .tick tick => [.walked tick.incremental]
    | _ => []) ++
  (hook.passiveResolution action).toList.map fun call => .recapped (call.walkSummaryEntry now)

def sights (hook : Hook) (action : Action) (now : ℚ) (after : Hook) : List Sight :=
  hook.outside now action ++ (after.trace.drop hook.trace.length).flatMap (Event.sights after.rewardRevealTimer)

/-- The deeds lead from `base` to the player after the step, and are all that the step shows. Beside the events of the
fight something may be seen already. A kill beat that is armed was armed before, or deeds lead to its player too. -/
structure Performs (hook : Hook) (action : Action) (now : ℚ) (after : Hook) (base : Player) (seen : List Sight)
    (deeds : List Deed) : Prop where
  current : after.playerRef = some (deeds.foldl Deed.apply base)
  saved : deeds = [] ∧ after.saved = hook.saved ∨ after.saved = after.playerRef
  shown : ∃ news, after.trace = hook.trace ++ news ∧
    seen ++ news.flatMap (Event.sights after.rewardRevealTimer) = Deed.sightsOf now base deeds
  grounds : ∀ deed ∈ deeds, hook.Grounds action deed
  captured : ∀ beat ∈ after.combat.killBeatTimer, beat ∈ hook.combat.killBeatTimer ∨
    ∃ more : List Deed, beat.player = more.foldl Deed.apply base ∧ ∀ deed ∈ more, hook.Grounds action deed

variable {hook middle after : Hook} {action : Action} {now : ℚ} {base : Player} {seen : List Sight} {deeds : List Deed}
variable {loot : LootRoll}

theorem performs_idle {news : List Event} (current : hook.playerRef = some base)
    (player : after.playerRef = hook.playerRef) (saved : after.saved = hook.saved)
    (timer : after.combat.killBeatTimer = hook.combat.killBeatTimer) (trace : after.trace = hook.trace ++ news)
    (quiet : ∀ event ∈ news, event.sights after.rewardRevealTimer = []) :
    Performs hook action now after base [] [] where
  current := player.trans current
  saved := .inl ⟨rfl, saved⟩
  shown := ⟨news, trace, List.flatMap_eq_nil_iff.mpr quiet⟩
  grounds _ present := (List.not_mem_nil present).elim
  captured _ armed := .inl (timer ▸ armed)

theorem performs_same (current : hook.playerRef = some base) (player : after.playerRef = hook.playerRef)
    (saved : after.saved = hook.saved) (timer : after.combat.killBeatTimer = hook.combat.killBeatTimer)
    (trace : after.trace = hook.trace) : Performs hook action now after base [] [] :=
  performs_idle current player saved timer (trace.trans (List.append_nil _).symm) fun _ present => by cases present

theorem Grounds.of_creatures {deed : Deed} (grounds : middle.Grounds action deed)
    (creatures : middle.creatures = hook.creatures) : hook.Grounds action deed := by
  unfold Grounds Meets at *
  rwa [← creatures]

theorem Performs.of_before (performs : Performs middle action now after base seen deeds) (news : List Event)
    (saved : middle.saved = hook.saved) (creatures : middle.creatures = hook.creatures)
    (armed : ∀ beat ∈ middle.combat.killBeatTimer, beat ∈ hook.combat.killBeatTimer)
    (trace : middle.trace = hook.trace ++ news) (quiet : ∀ reveal, ∀ event ∈ news, event.sights reveal = []) :
    Performs hook action now after base seen deeds where
  current := performs.current
  saved := performs.saved.imp (fun ⟨nothing, kept⟩ => ⟨nothing, kept.trans saved⟩) id
  shown := by
    obtain ⟨more, after_trace, shown⟩ := performs.shown
    refine ⟨news ++ more, by rw [after_trace, trace, List.append_assoc], ?_⟩
    rw [List.flatMap_append, List.flatMap_eq_nil_iff.mpr (quiet _), List.nil_append]
    exact shown
  grounds deed present := (performs.grounds deed present).of_creatures creatures
  captured beat present := (performs.captured beat present).imp (armed beat) fun ⟨more, captured, grounds⟩ =>
    ⟨more, captured, fun deed listed => (grounds deed listed).of_creatures creatures⟩

theorem Performs.of_same (performs : Performs middle action now after base seen deeds)
    (saved : middle.saved = hook.saved) (creatures : middle.creatures = hook.creatures)
    (armed : ∀ beat ∈ middle.combat.killBeatTimer, beat ∈ hook.combat.killBeatTimer)
    (trace : middle.trace = hook.trace) : Performs hook action now after base seen deeds :=
  performs.of_before [] saved creatures armed (trace.trans (List.append_nil _).symm) fun _ _ present => by cases present

theorem performs_payVictory (encounter : EncounterObject) (brought : action.loot? = some loot) :
    Performs hook action now (hook.payVictory base encounter loot) base []
      [.won (hook.creatureOf encounter) loot] where
  current := rfl
  saved := .inr rfl
  shown := ⟨[.paid encounter.eid (hook.creatureOf encounter).hp], rfl, rfl⟩
  grounds deed present := by
    cases List.mem_singleton.mp present
    exact ⟨brought, .inl ⟨_, rfl⟩⟩
  captured _ armed := by cases armed

theorem performs_handleVictory {playerToUse : Option Player} (current : hook.playerRef = some base)
    (used : playerToUse.or hook.playerRef = some base) (brought : action.loot? = some loot) :
    ∃ deeds, Performs hook action now (hook.handleVictory playerToUse loot) base [] deeds := by
  rcases hook.handleVictory_cases playerToUse loot with ⟨player, encounter, found, _, _, pays⟩ | ⟨_, same⟩
  · cases Option.some.inj (used.symm.trans found)
    rw [pays]
    exact ⟨_, performs_payVictory encounter brought⟩
  · rw [same]
    exact ⟨[], performs_same current rfl rfl rfl rfl⟩

theorem performs_handleFlee (current : hook.playerRef = some base) :
    ∃ deeds, Performs hook action now hook.handleFlee base [] deeds := by
  unfold handleFlee
  split
  · exact ⟨[], performs_same current rfl rfl rfl rfl⟩
  · dsimp only
    split
    · rename_i encounter player _ loaded
      cases Option.some.inj (current.symm.trans loaded)
      exact ⟨[.fled], rfl, .inr rfl, ⟨[.fled encounter.eid (hook.creatureOf encounter).hp], rfl, rfl⟩,
        by simp [Grounds], fun _ => .inl⟩
    · rename_i absent
      cases current.symm.trans absent
    · exact ⟨[], performs_same current rfl rfl rfl rfl⟩

theorem performs_handleFight (current : hook.playerRef = some base) (brought : action.loot? = some loot) :
    ∃ deeds, Performs hook action now (hook.handleFight loot) base [] deeds := by
  unfold handleFight
  split
  · split
    · exact ⟨[], performs_same current rfl rfl rfl rfl⟩
    · split
      · exact performs_handleVictory current current brought
      · unfold openCombat
        dsimp only
        split <;> exact ⟨[], performs_same current rfl rfl rfl rfl⟩
  · exact ⟨[], performs_same current rfl rfl rfl rfl⟩

theorem performs_handleAutoResolve (current : hook.playerRef = some base) (brought : action.loot? = some loot) :
    ∃ deeds, Performs hook action now (hook.handleAutoResolve loot) base [] deeds := by
  unfold handleAutoResolve
  split
  · rename_i player encounter loaded _
    cases Option.some.inj (current.symm.trans loaded)
    split
    · exact ⟨[], performs_same current rfl rfl rfl rfl⟩
    · -- The choice is logged before the victory is paid.
      let chosen := hook.closeModals.log (.autoResolved encounter.eid)
      obtain ⟨deeds, performs⟩ :
          ∃ deeds, Performs chosen action now (chosen.handleVictory (some base) loot) base [] deeds :=
        performs_handleVictory current rfl brought
      exact ⟨deeds, performs.of_before [.autoResolved encounter.eid] rfl rfl (fun _ => id) rfl (by simp [Event.sights])⟩
  · exact ⟨[], performs_same current rfl rfl rfl rfl⟩

theorem performs_strike (fought : hook.combat.encounterRef.isSome = true) (beat : CounterBeat) (brace : Brace) (draw : ℚ) :
    ∃ deeds, Performs hook action now (hook.strike beat brace base draw) base [] deeds := by
  unfold strike
  dsimp only
  split
  · -- The defeat is told after the strike that caused it.
    unfold handlePlayerDefeat
    dsimp only
    refine ⟨[.fell (hook.creatures brace.creature) brace.creatureAttack brace.playerDefense
      hook.combat.playerDodgeStreak draw], ?_⟩
    split
    · rename_i encounter _
      refine ⟨rfl, .inr rfl, ⟨[.struck beat.fight, .lost encounter.eid], ?_, rfl⟩, by simp [Grounds], fun _ => .inl⟩
      simp [log, setPlayerAndSave, landStrike, pushHit, endEnemyTurn]
    · rename_i idle
      have none : hook.combat.encounterRef = none := idle
      rw [none] at fought
      cases fought
  · exact ⟨[.struck (hook.creatures brace.creature) brace.creatureAttack brace.playerDefense
      hook.combat.playerDodgeStreak draw], rfl, .inr rfl, ⟨[.struck beat.fight], rfl, rfl⟩, by simp [Grounds],
        fun _ => .inl⟩

theorem performs_fireCounter (current : hook.playerRef = some base) {beat : CounterBeat}
    (aimed : beat.scheduled.isSome = true) (draw : ℚ) :
    ∃ deeds, Performs hook action now (hook.fireCounter beat draw) base [] deeds := by
  unfold fireCounter
  split
  · rename_i brace player _ loaded
    cases Option.some.inj (current.symm.trans loaded)
    split
    · exact ⟨[], performs_same current rfl rfl rfl rfl⟩
    · rename_i here
      have fought : hook.combat.encounterRef.isSome = true := by
        rw [← not_not.mp here, Option.isSome_map] at aimed
        exact aimed
      obtain ⟨deeds, performs⟩ : ∃ deeds, Performs hook.disarmCounter action now
          (hook.disarmCounter.strike beat brace base draw) base [] deeds :=
        performs_strike (by exact fought) beat brace draw
      exact ⟨deeds, performs.of_same rfl rfl (fun _ => id) rfl⟩
  · exact ⟨[], performs_same current rfl rfl rfl rfl⟩

theorem performs_playAbility {encounter : EncounterObject} (current : hook.playerRef = some base)
    (ready : hook.core.Ready encounter) (state : CombatantState) (ability : Ability) (draw : ℚ) :
    ∃ deeds, Performs hook action now (hook.playAbility encounter base state ability draw).1 base [] deeds := by
  let deed : Deed := .acted (hook.creatureOf encounter) state hook.combat.creatureCombatState ability
    hook.combat.creatureDodgeStreak draw
  have captured (eid : Nat) : ∀ beat ∈ some (KillBeat.mk (deed.apply base) eid), beat ∈ hook.combat.killBeatTimer ∨
      ∃ more : List Deed, beat.player = more.foldl Deed.apply base ∧ ∀ deed ∈ more, hook.Grounds action deed := by
    intro beat armed
    cases armed
    exact .inr ⟨[deed], rfl, by simp [deed, Grounds]⟩
  unfold playAbility
  dsimp only
  split
  · obtain ⟨_, _, ⟨_, won⟩ | ⟨_, answered⟩⟩ := resolvedTurn_cases ready (playTurn base (hook.creatureOf encounter)
      state hook.combat.creatureCombatState ability hook.combat.creatureDodgeStreak draw)
    · rw [won]
      exact ⟨[deed], rfl, .inr rfl, ⟨_, List.append_assoc _ _ _, rfl⟩, by simp [deed, Grounds], captured _⟩
    · rw [answered]
      exact ⟨[deed], rfl, .inr rfl, ⟨_, rfl, rfl⟩, by simp [deed, Grounds], fun _ => .inl⟩
  · obtain ⟨_, _, killed⟩ := dotKill_eq ready (playTurn base (hook.creatureOf encounter) state
      hook.combat.creatureCombatState ability hook.combat.creatureDodgeStreak draw)
    rw [killed]
    exact ⟨[], current, .inl ⟨rfl, rfl⟩, ⟨_, rfl, rfl⟩, fun _ present => (List.not_mem_nil present).elim,
      captured _⟩

theorem performs_handleAbility (current : hook.playerRef = some base) (ability : Ability) (draw : ℚ)
    (brought : action.loot? = some loot) :
    ∃ deeds, Performs hook action now (hook.handleAbility ability draw loot).1 base [] deeds := by
  rcases hook.handleAbility_cases ability draw loot with
    refused | ⟨encounter, _, _, won⟩ | ⟨encounter, player, state, ready, loaded, _, _, _, played⟩
  · rw [refused]
    exact ⟨[], performs_same current rfl rfl rfl rfl⟩
  · rw [won]
    obtain ⟨deeds, performs⟩ : ∃ deeds, Performs hook action now (hook.handleVictory none loot) base [] deeds :=
      performs_handleVictory current current brought
    exact ⟨deeds, { performs with }⟩
  · rw [played]
    cases Option.some.inj (current.symm.trans loaded)
    exact performs_playAbility current ready state ability draw

def recaps (now : ℚ) (call : Option PassiveResolution) : List Sight :=
  call.toList.map fun made => .recapped (made.walkSummaryEntry now)

theorem performs_resolvePassiveEncounter (current : hook.playerRef = some base) {creature : Creature}
    (met : hook.Meets creature) (eid : Nat) (tier : RewardTier) (draw : ℚ) (brought : action.loot? = some loot) :
    Performs hook action now (hook.resolvePassiveEncounter creature tier draw loot) base
      (recaps now (hook.callPassive eid creature tier draw loot)) [.skipped eid creature tier draw loot] := by
  unfold resolvePassiveEncounter callPassive
  rw [current]
  refine ⟨rfl, .inr rfl, ⟨[], (List.append_nil _).symm, rfl⟩, fun deed present => ?_, fun _ => .inl⟩
  cases List.mem_singleton.mp present
  exact ⟨brought, met⟩

theorem performs_routeEncounter (current : hook.playerRef = some base) (tick : Tick) (roll : Roll) (level : ℚ) :
    ∃ deeds, Performs hook (.tick tick) now (hook.routeEncounter tick (roll.encounter level)) base
      (recaps now (hook.routesPassively tick (roll.encounter level))) deeds := by
  have route := hook.routed tick (roll.encounter level)
  generalize hook.routeEncounter tick (roll.encounter level) = result at route
  generalize hook.routesPassively tick (roll.encounter level) = call at route
  cases route with
  | presented => exact ⟨[], performs_same current rfl rfl rfl rfl⟩
  | queued => exact ⟨[], performs_same current rfl rfl rfl rfl⟩
  | skipped tier =>
    have skip : Performs hook.rolled (.tick tick) now _ base _ _ :=
      performs_resolvePassiveEncounter (by exact current) (.inr ⟨roll, level, rfl⟩) hook.nextEncounter tier tick.draw rfl
    exact ⟨_, skip.of_same rfl rfl (fun _ => id) rfl⟩

theorem performs_onDistanceEncounterUpdate (current : hook.playerRef = some base) (tick : Tick)
    (currentPlayer : Option Player) :
    ∃ deeds, Performs hook (.tick tick) now (hook.onDistanceEncounterUpdate tick currentPlayer) base
      (recaps now (hook.gatesPassively tick currentPlayer)) deeds := by
  unfold onDistanceEncounterUpdate gatesPassively
  by_cases far : hook.autoFlees tick = true
  · rw [if_pos far, if_pos far]
    exact performs_handleFlee current
  · rw [if_neg far, if_neg far]
    cases hook.combat.encounterRef <;> cases tick.located <;> cases currentPlayer <;> cases tick.roll <;>
      try exact ⟨[], performs_same current rfl rfl rfl rfl⟩
    exact performs_routeEncounter current tick _ _

theorem performs_handleDistanceUpdate (current : hook.playerRef = some base) (tick : Tick) :
    ∃ deeds, Performs hook (.tick tick) now (hook.handleDistanceUpdate tick) base (hook.outside now (.tick tick))
      deeds := by
  let walked := base.clone.addDistance tick.incremental
  have walks : hook.walk tick.incremental = hook.setPlayerAndSave walked := by
    unfold walk
    rw [current]
  have current : (hook.walk tick.incremental).playerRef = some walked := by
    rw [walks]
    rfl
  obtain ⟨deeds, performs⟩ : ∃ deeds, Performs (hook.walk tick.incremental) (.tick tick) now
      (hook.handleDistanceUpdate tick) walked _ deeds := performs_onDistanceEncounterUpdate current tick hook.playerRef
  have grounds {deed : Deed} : (hook.walk tick.incremental).Grounds (.tick tick) deed → hook.Grounds (.tick tick) deed :=
    fun grounds => grounds.of_creatures (by rw [walks]; rfl)
  refine ⟨.walked tick.incremental :: deeds, performs.current, .inr ?_, ?_, ?_, fun beat armed => ?_⟩
  · rcases performs.saved with ⟨nothing, kept⟩ | saved
    · rw [kept, performs.current, nothing, walks]
      rfl
    · exact saved
  · obtain ⟨news, trace, shown⟩ := performs.shown
    have kept : (hook.walk tick.incremental).trace = hook.trace := by rw [walks]; rfl
    refine ⟨news, by rw [← kept]; exact trace, ?_⟩
    exact congrArg (Sight.walked tick.incremental :: ·) shown
  · exact List.forall_mem_cons.mpr ⟨rfl, fun deed later => grounds (performs.grounds deed later)⟩
  · rcases performs.captured beat armed with before | ⟨more, captured, listed⟩
    · rw [walks] at before
      exact .inl before
    · exact .inr ⟨.walked tick.incremental :: more, captured,
        List.forall_mem_cons.mpr ⟨rfl, fun deed later => grounds (listed deed later)⟩⟩

def Aimed (hook : Hook) : Prop := ∀ beat ∈ hook.combat.counterTimer, beat.scheduled.isSome = true

theorem Aimed.step (aimed : hook.Aimed) (taken : hook.step action = some after) : after.Aimed := by
  have moves := moves_of_step taken
  have counted : after.combat.counterTimer = after.core.counterTimer := rfl
  unfold Aimed
  rw [counted]
  generalize after.core = core at moves
  cases moves with
  | stay | autoRefused | fizzled | fled | dotKilled | finished | engaged => exact aimed
  | cleared | paid | autoPaid | turnEnded | defeated | presented => exact fun _ present => by cases present
  | struck armed =>
    intro beat present
    cases Option.some.inj present
    have shot := aimed _ armed
    exact shot
  | accepted =>
    intro beat present
    cases Option.some.inj present
    rfl

inductive Acts (hook : Hook) (action : Action) (now : ℚ) (after : Hook) : Prop where
  | current {base : Player} {deeds : List Deed} : hook.playerRef = some base →
      Performs hook action now after base (hook.outside now action) deeds → Acts hook action now after
  /-- The kill beat starts from the player captured when the blow fell. -/
  | captured {beat : KillBeat} {creature : Creature} (loot : LootRoll) : action = .fireKillBeat loot →
      hook.combat.killBeatTimer = some beat → hook.combat.encounterRef.isSome = true →
      hook.combat.victoryProcessed = false →
      Performs hook action now after beat.player (hook.outside now action) [.won creature loot] →
      Acts hook action now after
  | absent : hook.playerRef = none → after.playerRef = none → after.saved = hook.saved →
      (∀ beat ∈ after.combat.killBeatTimer, beat ∈ hook.combat.killBeatTimer) → Acts hook action now after
  | replaced (player : Player) : action = .setPlayer player → after.playerRef = some player →
      after.saved = some player → after.combat.killBeatTimer = hook.combat.killBeatTimer → Acts hook action now after
  | dropped : action = .switchAccount → after.playerRef = none → after.saved = hook.saved →
      after.combat.killBeatTimer = none → Acts hook action now after

theorem Rebuilds.absent {made : Player → Player → Prop} (rebuilds : Rebuilds made hook after)
    (unloaded : hook.playerRef = none) : after.playerRef = none ∧ after.saved = hook.saved := by
  rcases rebuilds with ⟨player, saved⟩ | ⟨base, _, current, _⟩
  · exact ⟨player.trans unloaded, saved⟩
  · cases unloaded.symm.trans current

theorem acts_fireKillBeat {beat : KillBeat} (armed : hook.combat.killBeatTimer = some beat) (loot : LootRoll) :
    Acts hook (.fireKillBeat loot) now (hook.fireKillBeat beat loot) := by
  unfold fireKillBeat
  rcases hook.disarmKillBeat.handleVictory_cases (some beat.player) loot with
    ⟨base, encounter, used, active, unprocessed, pays⟩ | ⟨_, same⟩
  · rw [pays]
    cases Option.some.inj used
    have present : hook.combat.encounterRef.isSome = true := by
      rw [show hook.combat.encounterRef = some encounter from active]
      rfl
    have won : Performs hook.disarmKillBeat (.fireKillBeat loot) now _ beat.player [] _ :=
      performs_payVictory encounter rfl
    exact .captured loot rfl armed present unprocessed (won.of_same rfl rfl (fun _ gone => by cases gone) rfl)
  · rw [same]
    cases loaded : hook.playerRef with
    | none => exact .absent loaded loaded rfl fun _ gone => by cases gone
    | some base =>
      have idle : Performs hook.disarmKillBeat (.fireKillBeat loot) now hook.disarmKillBeat base [] [] :=
        performs_same loaded rfl rfl rfl rfl
      exact .current loaded (idle.of_same rfl rfl (fun _ gone => by cases gone) rfl)

theorem performs_of_step (aimed : hook.Aimed) (current : hook.playerRef = some base)
    (stays : action.keepsPlayer = true) (other : action.firesKillBeat = false)
    (taken : hook.step action = some after) :
    ∃ deeds, Performs hook action now after base (hook.outside now action) deeds := by
  cases does_of_step taken with
  | tick tick => exact performs_handleDistanceUpdate current tick
  | fight loot => exact performs_handleFight current rfl
  | ability ability draw loot => exact performs_handleAbility current ability draw rfl
  | flee => exact performs_handleFlee current
  | autoResolve loot => exact performs_handleAutoResolve current rfl
  | fireKillBeat => cases other
  | fireCounter draw armed => exact performs_fireCounter current (aimed _ armed) draw
  | closeCombat | refresh | refreshResume | engage =>
    simp only [handleCloseCombatModal, refreshHeldFoe, refreshResume, engageHeldFoe]
    repeat' split
    all_goals exact ⟨[], performs_same current rfl rfl rfl rfl⟩
  | engageResume =>
    unfold engageResume
    dsimp only
    split
    · exact ⟨[], performs_idle current rfl rfl rfl rfl (by simp [Event.sights])⟩
    · exact ⟨[], performs_same current rfl rfl rfl rfl⟩
  | @holdResume i foe existing draw loot task =>
    have seen : hook.outside now (.holdResume i draw loot) = recaps now
        (if existing then hook.callPassive foe.eid (hook.creatureOf foe) .idle draw loot else none) := by
      simp only [outside, passiveResolution, task, recaps, List.nil_append]
      cases existing <;> rfl
    rw [seen]
    unfold holdResume
    cases existing with
    | true =>
      have skip : Performs (hook.setHolds (hook.foes.holds.eraseIdx i)) (.holdResume i draw loot) now _ base _ _ :=
        performs_resolvePassiveEncounter (by exact current) (.inl ⟨foe.creature, rfl⟩) foe.eid .idle draw rfl
      exact ⟨_, skip.of_same rfl rfl (fun _ => id) rfl⟩
    | false => exact ⟨[], performs_same current rfl rfl rfl rfl⟩
  | @holdFinish i foe success draw loot task =>
    have seen : hook.outside now (.holdFinish i draw loot) = recaps now
        (if success then none else hook.callPassive foe.eid (hook.creatureOf foe) .idle draw loot) := by
      simp only [outside, passiveResolution, task, recaps, List.nil_append]
      cases success <;> rfl
    rw [seen]
    unfold holdFinish
    cases success with
    | false =>
      have skip : Performs (hook.setHolds (hook.foes.holds.eraseIdx i)) (.holdFinish i draw loot) now _ base _ _ :=
        performs_resolvePassiveEncounter (by exact current) (.inl ⟨foe.creature, rfl⟩) foe.eid .idle draw rfl
      exact ⟨_, skip.of_same rfl rfl (fun _ => id) rfl⟩
    | true => exact ⟨[], performs_same current rfl rfl rfl rfl⟩
  | setPlayer => cases stays
  | switchAccount => cases stays
  | minimize | expand | fireReveal | dismissReward | refreshRead | engageClear | holdRead | holdWrite | render |
      wipeStore => exact ⟨[], performs_same current rfl rfl rfl rfl⟩

theorem handled_any : Handled fun _ _ => True := ⟨by simp, by simp, by simp, by simp, by simp, by simp⟩

theorem killBeatTimer_of_unloaded (unloaded : hook.playerRef = none) (other : action.firesKillBeat = false)
    (taken : hook.step action = some after) : ∀ beat ∈ after.combat.killBeatTimer, beat ∈ hook.combat.killBeatTimer := by
  cases does_of_step taken with
  | fireKillBeat => cases other
  | switchAccount => exact fun _ armed => by cases armed
  | minimize | expand | fireReveal | dismissReward | refreshRead | engageClear | holdRead | holdWrite | render |
      setPlayer | wipeStore => exact fun _ => id
  | tick | fight | ability | flee | autoResolve | closeCombat | fireCounter | refresh | refreshResume | engage |
      engageResume | holdResume | holdFinish =>
    -- Whatever could arm the timer looks for a player first.
    simp only [handleDistanceUpdate, walk, onDistanceEncounterUpdate, handleFight, handleAbility, handleFlee,
      handleAutoResolve, handleCloseCombatModal, fireCounter, refreshHeldFoe, refreshResume, engageHeldFoe, engageResume,
      holdResume, holdFinish, resolvePassiveEncounter, setHolds, withFoes, unloaded]
    repeat' split
    all_goals first | exact fun _ => id | simp_all

theorem acts_of_unloaded (unloaded : hook.playerRef = none) (stays : action.keepsPlayer = true)
    (other : action.firesKillBeat = false) (taken : hook.step action = some after) : Acts hook action now after := by
  have armed := killBeatTimer_of_unloaded unloaded other taken
  cases puts_of_step handled_any taken with
  | rebuilt _ rebuilds =>
    obtain ⟨player, saved⟩ := rebuilds.absent unloaded
    exact .absent unloaded player saved armed
  | walked tick _ gate =>
    have idle : hook.walk tick.incremental = hook := by
      unfold walk
      rw [unloaded]
    rw [idle] at gate
    obtain ⟨player, saved⟩ := gate.absent unloaded
    exact .absent unloaded player saved armed
  | captured _ fired => cases fired ▸ other
  | replaced _ same => cases same ▸ stays
  | dropped same => cases same ▸ stays

theorem acts_of_step (aimed : hook.Aimed) (now : ℚ) (taken : hook.step action = some after) :
    Acts hook action now after := by
  cases fires : action.firesKillBeat with
  | true =>
    cases does_of_step taken with
    | fireKillBeat loot armed => exact acts_fireKillBeat armed loot
    | _ => cases fires
  | false =>
    cases stays : action.keepsPlayer with
    | false =>
      cases does_of_step taken with
      | setPlayer player => exact .replaced player rfl rfl rfl rfl
      | switchAccount => exact .dropped rfl rfl rfl rfl
      | _ => cases stays
    | true =>
      cases current : hook.playerRef with
      | none => exact acts_of_unloaded current stays fires taken
      | some base =>
        obtain ⟨deeds, performs⟩ := performs_of_step aimed current stays fires taken
        exact .current current performs

structure Every (P : Player → Prop) (hook : Hook) : Prop where
  current : ∀ player ∈ hook.playerRef, P player
  saved : ∀ player ∈ hook.saved, P player
  captured : ∀ beat ∈ hook.combat.killBeatTimer, P beat.player

section Every

variable {P : Player → Prop}

theorem every_start {player : Option Player} (holds : ∀ one ∈ player, P one) (stored : Option Encounter) :
    (start player stored).Every P :=
  ⟨holds, holds, fun _ armed => by cases armed⟩

theorem Performs.every (performs : Performs hook action now after base seen deeds) (every : hook.Every P)
    (holds : P base) (keeps : ∀ one deed, P one → hook.Grounds action deed → P (deed.apply one)) : after.Every P := by
  have led (more : List Deed) (grounds : ∀ deed ∈ more, hook.Grounds action deed) : P (more.foldl Deed.apply base) :=
    List.foldlRecOn more Deed.apply holds fun one kept deed present => keeps one deed kept (grounds deed present)
  have current : ∀ player ∈ after.playerRef, P player := by
    intro player loaded
    cases Option.some.inj (performs.current.symm.trans loaded)
    exact led deeds performs.grounds
  refine ⟨current, ?_, fun beat armed => ?_⟩
  · rcases performs.saved with ⟨_, kept⟩ | saved
    · rw [kept]
      exact every.saved
    · rw [saved]
      exact current
  · rcases performs.captured beat armed with before | ⟨more, captured, grounds⟩
    · exact every.captured beat before
    · rw [captured]
      exact led more grounds

theorem Every.step (every : hook.Every P) (aimed : hook.Aimed)
    (keeps : ∀ base deed, P base → hook.Grounds action deed → P (deed.apply base))
    (puts : ∀ player, action = .setPlayer player → P player) (taken : hook.step action = some after) :
    after.Every P := by
  cases acts_of_step aimed 0 taken with
  | current loaded performs => exact performs.every every (every.current _ loaded) keeps
  | captured loot _ armed _ _ performs => exact performs.every every (every.captured _ armed) keeps
  | absent _ unloaded kept armed =>
    refine ⟨fun _ loaded => ?_, kept ▸ every.saved, fun beat present => every.captured beat (armed beat present)⟩
    cases unloaded.symm.trans loaded
  | replaced player same put saved timer =>
    have holds : ∀ one ∈ some player, P one := fun one loaded => by
      cases Option.some.inj loaded
      exact puts player same
    exact ⟨put ▸ holds, saved ▸ holds, timer ▸ every.captured⟩
  | dropped _ unloaded kept timer =>
    refine ⟨fun _ loaded => ?_, kept ▸ every.saved, fun _ armed => ?_⟩
    · cases unloaded.symm.trans loaded
    · cases timer.symm.trans armed

end Every

end Hook

end WalkingRpg
