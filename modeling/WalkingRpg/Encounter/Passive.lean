import WalkingRpg.Encounter.Step

/-! Which encounter a step resolves without a fight.

`resolvePassiveEncounter` runs from three places: the gate of a distance update, a hold that
found a foe already held, and a hold whose write failed. `passiveResolution` says which call a
step makes, with everything the call reads.
-/

set_option autoImplicit false

namespace WalkingRpg

/-- A call of `resolvePassiveEncounter` that found a player. -/
structure PassiveResolution where
  eid : Nat
  basePlayer : Player
  creature : Creature
  tier : RewardTier
  draw : ℚ
  loot : LootRoll

def PassiveResolution.updatedPlayer (call : PassiveResolution) : Player :=
  passiveReward call.basePlayer call.creature call.tier call.draw call.loot

namespace Hook

def callPassive (hook : Hook) (eid : Nat) (creature : Creature) (tier : RewardTier) (draw : ℚ)
    (loot : LootRoll) : Option PassiveResolution :=
  hook.playerRef.map fun basePlayer => ⟨eid, basePlayer, creature, tier, draw, loot⟩

def routesPassively (hook : Hook) (tick : Tick) (encounter : Encounter) : Option PassiveResolution :=
  match resolveEncounterRoute tick.isBackground (isEliteCreature encounter.creature)
      tick.autoResolveBelowRare with
  | .autoResolve => hook.callPassive hook.nextEncounter encounter.creature .active tick.draw tick.loot
  | .passive => hook.callPassive hook.nextEncounter encounter.creature .idle tick.draw tick.loot
  | .present => none
  | .hold => none

def gatesPassively (hook : Hook) (tick : Tick) (currentPlayer : Option Player) : Option PassiveResolution :=
  if hook.autoFlees tick then none
  else
    match hook.combat.encounterRef, tick.located, currentPlayer, tick.roll with
    | none, true, some player, some roll => hook.routesPassively tick (roll.encounter player.level)
    | _, _, _, _ => none

/-- The call a step makes, if it makes one. -/
def passiveResolution (hook : Hook) : Action → Option PassiveResolution
  | .tick tick => (hook.walk tick.incremental).gatesPassively tick hook.playerRef
  | .holdResume i draw loot => match hook.foes.holds[i]? with
    | some ⟨foe, .read true⟩ => hook.callPassive foe.eid (hook.creatureOf foe) .idle draw loot
    | _ => none
  | .holdFinish i draw loot => match hook.foes.holds[i]? with
    | some ⟨foe, .saved false⟩ => hook.callPassive foe.eid (hook.creatureOf foe) .idle draw loot
    | _ => none
  | _ => none

variable {hook after : Hook} {action : Action} {call : PassiveResolution}

theorem saved_of_callPassive {before : Hook} {eid : Nat} {creature : Creature} {tier : RewardTier} {draw : ℚ}
    {loot : LootRoll} (same : before.playerRef = hook.playerRef)
    (made : hook.callPassive eid creature tier draw loot = some call) :
    (before.resolvePassiveEncounter creature tier draw loot).saved = some call.updatedPlayer := by
  obtain ⟨basePlayer, loaded, rfl⟩ := Option.map_eq_some_iff.mp made
  unfold resolvePassiveEncounter
  rw [same, loaded]
  rfl

def rolled (hook : Hook) : Hook := { hook with nextEncounter := hook.nextEncounter + 1 }

inductive Routed (hook : Hook) (tick : Tick) (encounter : Encounter) : Hook → Option PassiveResolution → Prop where
  | presented : Routed hook tick encounter
      ((hook.rolled.allocate hook.nextEncounter encounter).1.presentEncounter
        (hook.rolled.allocate hook.nextEncounter encounter).2) none
  | queued : Routed hook tick encounter
      ((hook.rolled.allocate hook.nextEncounter encounter).1.setHolds
        (hook.foes.holds ++ [⟨(hook.rolled.allocate hook.nextEncounter encounter).2, .reading⟩])) none
  | skipped (tier : RewardTier) : Routed hook tick encounter
      (hook.rolled.resolvePassiveEncounter encounter.creature tier tick.draw tick.loot)
      (hook.callPassive hook.nextEncounter encounter.creature tier tick.draw tick.loot)

theorem routed (hook : Hook) (tick : Tick) (encounter : Encounter) :
    Routed hook tick encounter (hook.routeEncounter tick encounter) (hook.routesPassively tick encounter) := by
  unfold routeEncounter routesPassively
  cases resolveEncounterRoute tick.isBackground (isEliteCreature encounter.creature)
      tick.autoResolveBelowRare with
  | present => exact .presented
  | autoResolve => exact .skipped .active
  | hold => exact .queued
  | passive => exact .skipped .idle

inductive Gated (hook : Hook) (tick : Tick) (currentPlayer : Option Player) :
    Hook → Option PassiveResolution → Prop where
  | fled (far : hook.autoFlees tick = true) : Gated hook tick currentPlayer hook.handleFlee none
  | passed : Gated hook tick currentPlayer hook none
  | rolled {encounter : Encounter} {result : Hook} {call : Option PassiveResolution}
      (idle : hook.combat.encounterRef = none) (loaded : currentPlayer.isSome = true)
      (alive : 0 < encounter.creature.hp) (route : Routed hook tick encounter result call) :
      Gated hook tick currentPlayer result call

theorem gated (hook : Hook) (tick : Tick) (currentPlayer : Option Player) :
    Gated hook tick currentPlayer (hook.onDistanceEncounterUpdate tick currentPlayer)
      (hook.gatesPassively tick currentPlayer) := by
  unfold onDistanceEncounterUpdate gatesPassively
  by_cases far : hook.autoFlees tick = true
  · rw [if_pos far, if_pos far]
    exact .fled far
  · rw [if_neg far, if_neg far]
    cases idle : hook.combat.encounterRef with
    | some _ => exact .passed
    | none =>
      cases tick.located with
      | false => exact .passed
      | true =>
        cases currentPlayer with
        | none => exact .passed
        | some player =>
          cases tick.roll with
          | none => exact .passed
          | some roll =>
            exact .rolled idle rfl (hp_createRandomEncounter_pos _ _ _ _ _ _ _)
              (hook.routed tick (roll.encounter player.level))

theorem saved_of_gatesPassively {tick : Tick} {currentPlayer : Option Player}
    (made : hook.gatesPassively tick currentPlayer = some call) :
    (hook.onDistanceEncounterUpdate tick currentPlayer).saved = some call.updatedPlayer := by
  have gate := hook.gated tick currentPlayer
  rw [made] at gate
  generalize hook.onDistanceEncounterUpdate tick currentPlayer = result at gate
  generalize called : some call = calls at gate
  cases gate with
  | fled => cases called
  | passed => cases called
  | rolled _ _ _ route =>
    cases route with
    | presented => cases called
    | queued => cases called
    | skipped => exact saved_of_callPassive rfl called.symm

theorem saved_of_passiveResolution (made : hook.passiveResolution action = some call)
    (taken : hook.step action = some after) : after.saved = some call.updatedPlayer := by
  cases does_of_step taken with
  | tick tick => exact saved_of_gatesPassively made
  | @holdResume i foe existing draw loot task =>
    simp only [passiveResolution, task] at made
    cases existing with
    | false => cases made
    | true => exact saved_of_callPassive rfl made
  | @holdFinish i foe success draw loot task =>
    simp only [passiveResolution, task] at made
    cases success with
    | true => cases made
    | false => exact saved_of_callPassive rfl made
  | _ => cases made

end Hook

end WalkingRpg
