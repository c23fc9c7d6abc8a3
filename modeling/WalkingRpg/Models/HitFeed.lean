import WalkingRpg.Models.Damage
import WalkingRpg.Models.Fight

/-! The hit feed of one turn against the hit points.

Damage is taken away in stages, each stopped at zero: the ticks in one sum, then the swing. Since no stage
adds anything, stopping on the way is the same as stopping at the end, and the published amounts
account for what a target lost.
-/

set_option autoImplicit false

namespace WalkingRpg

def CombatHitEvent.Harms (event : CombatHitEvent) (target : Combatant) : Prop :=
  event.target = target ∧ (event.kind = .hit ∨ event.kind = .dot)

instance (event : CombatHitEvent) (target : Combatant) : Decidable (event.Harms target) :=
  inferInstanceAs (Decidable (_ ∧ _))

def harm (target : Combatant) (events : List CombatHitEvent) : ℚ :=
  ((events.filter fun event => event.Harms target).map CombatHitEvent.amount).sum

/-- What events report as damage to a target is what the target lost, and no less than that if it ended at
zero. -/
structure Accounts (target : Combatant) (events : List CombatHitEvent) (before after : ℚ) : Prop where
  exact : after ≠ 0 → harm target events = max 0 (before - after)
  covers : after = 0 → max 0 (before - after) ≤ harm target events

variable {target : Combatant} {events : List CombatHitEvent} {before after : ℚ}

@[simp] theorem harm_nil (target : Combatant) : harm target [] = 0 := rfl

@[simp] theorem harm_append (target : Combatant) (first second : List CombatHitEvent) :
    harm target (first ++ second) = harm target first + harm target second := by
  simp [harm]

theorem harm_cons (target : Combatant) (event : CombatHitEvent) (events : List CombatHitEvent) :
    harm target (event :: events) = (if event.Harms target then event.amount else 0) + harm target events := by
  by_cases harms : event.Harms target <;> simp [harm, harms]

theorem harm_eq_zero (harmless : ∀ event ∈ events, ¬event.Harms target) : harm target events = 0 := by
  have none : (events.filter fun event => event.Harms target) = [] :=
    List.filter_eq_nil_iff.mpr fun event present => by simpa using harmless event present
  rw [harm, none]
  rfl

theorem Accounts.of_taken (nonneg : 0 ≤ harm target events) (taken : after = max 0 (before - harm target events)) :
    Accounts target events before after where
  exact standing := by
    have above : 0 ≤ before - harm target events := by
      by_contra below
      exact standing (taken.trans (max_eq_left (not_le.mp below).le))
    rw [taken, max_eq_right above, sub_sub_cancel, max_eq_right nonneg]
  covers fallen := by
    have below : before - harm target events ≤ 0 := max_eq_left_iff.mp (taken.symm.trans fallen)
    rw [fallen, sub_zero]
    exact max_le nonneg (sub_nonpos.mp below)

theorem Accounts.of_spared (harmless : harm target events = 0) (kept : before ≤ after) :
    Accounts target events before after := by
  have lost : max 0 (before - after) = 0 := max_eq_left (sub_nonpos.mpr kept)
  constructor <;> intro _ <;> rw [harmless, lost]

theorem max_sub_max_sub {level first second : ℚ} (nonneg : 0 ≤ second) :
    max 0 (max 0 (level - first) - second) = max 0 (level - (first + second)) := by
  rw [← sub_sub]
  rcases le_total 0 (level - first) with above | below
  · rw [max_eq_right above]
  · rw [max_eq_left below, max_eq_left (by linarith), max_eq_left (by linarith)]

theorem dealt_nonneg (creature : Creature) (effect : StatusEffect) : 0 ≤ effect.dealt creature := by
  unfold StatusEffect.dealt
  cases effect.dotEffect with
  | none => exact le_rfl
  | some dot => exact applyResistance_nonneg _ _

theorem applyEvasionDamage_nonneg (baseDamage : ℚ) (outcome : EvadeOutcome) :
    0 ≤ applyEvasionDamage baseDamage outcome := by
  unfold applyEvasionDamage
  split
  · exact le_rfl
  · rename_i lands
    push Not at lands
    split
    · exact zero_le_one.trans (le_max_left _ _)
    · exact lands.2.le

section Tick

variable (creature : Creature) (state : Option CombatantState)

theorem hits_tickCreature :
    (tickCreature creature state).hits =
      (((state.map CombatantState.statusEffects).getD []).filterMap StatusEffect.dotEffect).filterMap
        fun dot => (resistedDot creature dot).2 := by
  unfold tickCreature
  cases state with
  | none => rfl
  | some current =>
    cases effects : current.statusEffects with
    | nil => simp [effects]
    | cons effect rest =>
      simp only [effects, List.length_cons, gt_iff_lt, Nat.zero_lt_succ, if_true, tickStatusEffects,
        Option.map_some, Option.getD_some, List.filterMap_map]
      rfl

theorem harm_creature_tickCreature :
    harm .creature (tickCreature creature state).hits =
      (((state.map CombatantState.statusEffects).getD []).map (StatusEffect.dealt creature)).sum := by
  rw [hits_tickCreature]
  induction (state.map CombatantState.statusEffects).getD [] with
  | nil => rfl
  | cons effect effects ih =>
    rw [List.map_cons, List.sum_cons, ← ih, StatusEffect.dealt]
    cases found : effect.dotEffect with
    | none => simp [found]
    | some dot =>
      rw [List.filterMap_cons_some found, List.filterMap_cons]
      by_cases dealt : applyResistance dot.damage ((dot.damageType.map creature.resistances.get).getD 0) > 0
      · simp [resistedDot, dealt, harm_cons, CombatHitEvent.Harms]
      · -- What is not positive is zero.
        have zero := le_antisymm (not_lt.mp dealt) (applyResistance_nonneg _ _)
        simp [resistedDot, zero]

theorem target_hits_tickCreature : ∀ event ∈ (tickCreature creature state).hits,
    event.target = .creature ∧ event.kind = .dot := by
  rw [hits_tickCreature]
  intro event present
  obtain ⟨dot, _, reported⟩ := List.mem_filterMap.mp present
  unfold resistedDot at reported
  dsimp only at reported
  split at reported
  · cases Option.some.inj reported
    exact ⟨rfl, rfl⟩
  · cases reported

theorem hp_tickCreature (alive : creature.isDefeated = false) :
    0 ≤ harm .creature (tickCreature creature state).hits ∧ (tickCreature creature state).creature.hp =
      max 0 (creature.hp - harm .creature (tickCreature creature state).hits) := by
  rw [harm_creature_tickCreature, creature_tickCreature]
  have nonneg : 0 ≤ (((state.map CombatantState.statusEffects).getD []).map (StatusEffect.dealt creature)).sum := by
    refine List.sum_nonneg fun amount listed => ?_
    obtain ⟨effect, _, rfl⟩ := List.mem_map.mp listed
    exact dealt_nonneg creature effect
  refine ⟨nonneg, ?_⟩
  unfold Creature.worn
  split
  · rfl
  · rename_i harmless
    have positive : 0 < creature.hp := by simpa [Creature.isDefeated] using alive
    rw [le_antisymm (not_lt.mp harmless) nonneg, sub_zero, max_eq_right positive.le]

end Tick

section Swing

variable (player : Player) (creature : Creature) (ability : Ability) (damage dodgeStreak draw : ℚ)

theorem kind_hits_swing : ∀ event ∈ (swing player creature ability damage dodgeStreak draw).hits,
    event.target = .creature ∧ event.kind = .hit := by
  intro event present
  unfold swing at present
  split at present
  · split at present
    · cases List.mem_singleton.mp present
      exact ⟨rfl, rfl⟩
    · cases present
  · cases present

theorem hp_swing (nonneg : 0 ≤ creature.hp) :
    let struck := swing player creature ability damage dodgeStreak draw
    0 ≤ harm .creature struck.hits ∧ struck.creature.hp = max 0 (creature.hp - harm .creature struck.hits) := by
  intro struck
  have missed : (creature.hp : ℚ) = max 0 (creature.hp - 0) := by rw [sub_zero, max_eq_right nonneg]
  unfold struck swing
  split
  · split
    · dsimp only
      rw [harm_cons, if_pos ⟨rfl, .inl rfl⟩, harm_nil, add_zero]
      exact ⟨applyEvasionDamage_nonneg _ _, rfl⟩
    · exact ⟨le_rfl, missed⟩
  · exact ⟨le_rfl, missed⟩

end Swing

theorem kind_statusHits (player : Player) (creature : Creature) (ability : Ability) :
    ∀ event ∈ statusHits player creature ability, event.kind = .buff ∨ event.kind = .debuff := by
  intro event present
  unfold statusHits at present
  split at present
  · cases List.mem_singleton.mp present
    exact .inl rfl
  · cases List.mem_singleton.mp present
    exact .inr rfl
  · cases present

theorem mem_healHits {player : Player} {heal : ℚ} {event : CombatHitEvent}
    (present : event ∈ Fight.healHits player heal) :
    0 < heal ∧ event.target = .player ∧ event.kind = .heal ∧ event.amount = heal := by
  unfold Fight.healHits at present
  split at present
  · rename_i positive
    cases List.mem_singleton.mp present
    exact ⟨positive, rfl, rfl, rfl⟩
  · cases present

namespace Player

def Capped (player : Player) : Prop := player.hp ≤ player.maxHp

instance (player : Player) : Decidable player.Capped := inferInstanceAs (Decidable (_ ≤ _))

theorem capped_create (params : PlayerData) : (create params).Capped := by
  unfold Capped create
  dsimp only
  split
  · exact le_rfl
  · exact not_lt.mp (by assumption)

theorem hp_clone {player : Player} (capped : player.Capped) : player.clone.hp = player.hp :=
  if_neg (not_lt.mpr capped)

end Player

/-- The hit points that an ability offers a caster with this maximum. -/
def Ability.offeredHeal (ability : Ability) (maxHp : ℚ) : ℚ :=
  match ability.primitive with
  | .defensive healAmount healPercent _ =>
    healAmount.getD 0 + (healPercent.map fun percent => (⌊maxHp * percent⌋ : ℚ)).getD 0
  | .direct _ _ | .dot _ _ _ | .buffDebuff _ _ _ => 0

namespace Fight

variable {fight : Fight} {call : AbilityCall}

theorem heal_abilityResult (fight : Fight) (call : AbilityCall) :
    (fight.abilityResult call).heal = call.ability.offeredHeal call.player.maxHp := by
  unfold abilityResult resolveAbility Ability.offeredHeal
  cases call.ability.primitive <;> rfl

/-- What an event of a turn reports: damage to the creature, a heal the player took up to the maximum, or a
status cue. -/
inductive Reports (fight : Fight) (call : AbilityCall) (event : CombatHitEvent) : Prop where
  | damage : event.target = .creature → event.kind = .dot ∨ event.kind = .hit → Reports fight call event
  | heal : event.target = .player → event.kind = .heal → 0 < event.amount →
      event.amount = call.ability.offeredHeal call.player.maxHp →
      (fight.play call).resolved = true → (fight.play call).player = call.player.clone.restoreHp event.amount →
      Reports fight call event
  | cue : event.kind = .buff ∨ event.kind = .debuff → Reports fight call event

theorem reports_play {event : CombatHitEvent} (present : event ∈ (fight.play call).hits) :
    fight.Reports call event := by
  cases survives : (tickCreature fight.creature fight.creatureState).creature.isDefeated with
  | true =>
    obtain ⟨_, _, _, hits⟩ := @stopped_play fight call survives
    rw [hits] at present
    obtain ⟨target, kind⟩ := target_hits_tickCreature _ _ event present
    exact .damage target (.inl kind)
  | false =>
    have ran := @ran_play fight call survives
    rw [ran.hits, List.mem_append, List.mem_append, List.mem_append] at present
    rcases present with ((ticked | struck) | healed) | cued
    · obtain ⟨target, kind⟩ := target_hits_tickCreature _ _ event ticked
      exact .damage target (.inl kind)
    · obtain ⟨target, kind⟩ := kind_hits_swing _ _ _ _ _ _ event struck
      exact .damage target (.inr kind)
    · obtain ⟨positive, target, kind, amount⟩ := mem_healHits healed
      refine .heal target kind (amount.symm ▸ positive) (amount.trans (fight.heal_abilityResult call)) ran.resolved ?_
      rw [amount, ran.player, if_pos positive]
    · exact .cue (kind_statusHits _ _ _ event cued)

theorem harm_player_play : harm .player (fight.play call).hits = 0 := by
  refine harm_eq_zero fun event present harms => ?_
  obtain ⟨here, kind⟩ := harms
  cases reports_play present with
  | damage target _ => cases here.symm.trans target
  | heal _ heals => simp [heals] at kind
  | cue cues => rcases cues with cues | cues <;> simp [cues] at kind

theorem heals_play {event : CombatHitEvent} (present : event ∈ (fight.play call).hits)
    (heals : event.kind = .heal) :
    (fight.play call).resolved = true ∧ event.target = .player ∧ 0 < event.amount ∧
      event.amount = call.ability.offeredHeal call.player.maxHp ∧
      (fight.play call).player = call.player.clone.restoreHp event.amount := by
  cases reports_play present with
  | damage _ kind => rcases kind with kind | kind <;> cases heals.symm.trans kind
  | heal target _ positive offered resolved restored => exact ⟨resolved, target, positive, offered, restored⟩
  | cue cues => rcases cues with cues | cues <;> cases heals.symm.trans cues

theorem harm_creature_healHits (player : Player) (heal : ℚ) : harm .creature (healHits player heal) = 0 :=
  harm_eq_zero fun _ present harms => by cases harms.1.symm.trans (mem_healHits present).2.1

theorem harm_statusHits (target : Combatant) (player : Player) (creature : Creature) (ability : Ability) :
    harm target (statusHits player creature ability) = 0 := by
  refine harm_eq_zero fun event present harms => ?_
  obtain ⟨_, kind⟩ := harms
  rcases kind_statusHits _ _ _ event present with cues | cues <;> simp [cues] at kind

theorem accounts_creature (alive : fight.creature.isDefeated = false) :
    Accounts .creature (fight.play call).hits fight.creature.hp (fight.play call).creature.hp := by
  obtain ⟨tickNonneg, ticked⟩ := hp_tickCreature fight.creature fight.creatureState alive
  cases survives : (tickCreature fight.creature fight.creatureState).creature.isDefeated with
  | true =>
    obtain ⟨_, creature, _, hits⟩ := @stopped_play fight call survives
    rw [creature, hits]
    exact .of_taken tickNonneg ticked
  | false =>
    have ran := @ran_play fight call survives
    have standing : 0 ≤ (tickCreature fight.creature fight.creatureState).creature.hp := by
      rw [ticked]
      exact le_max_left _ _
    obtain ⟨swingNonneg, struck⟩ := hp_swing call.player.clone
      (tickCreature fight.creature fight.creatureState).creature call.ability (fight.abilityResult call).damage
      fight.creatureDodgeStreak call.draw standing
    -- Neither the heal nor the status cue is damage, so the two stages are all there is.
    have stages := congrArg (harm .creature) ran.hits
    rw [harm_append, harm_append, harm_append, harm_creature_healHits, harm_statusHits, add_zero, add_zero] at stages
    refine .of_taken ?_ ?_
    · rw [stages]
      exact add_nonneg tickNonneg swingNonneg
    · rw [stages, ran.creature, struck, ticked, max_sub_max_sub swingNonneg]

theorem hp_le_play : call.player.clone.hp ≤ (fight.play call).player.hp := by
  cases survives : (tickCreature fight.creature fight.creatureState).creature.isDefeated with
  | true =>
    obtain ⟨_, _, player, _⟩ := @stopped_play fight call survives
    rw [player]
  | false =>
    rw [(@ran_play fight call survives).player]
    split
    · rename_i positive
      exact le_min (Player.capped_create call.player.toJSON) (le_add_of_nonneg_right positive.le)
    · exact le_rfl

end Fight

section Strike

variable {player : Player} (creature : Creature) (creatureAttack playerDefense dodgeStreak draw : ℚ)

theorem accounts_counterStrike (capped : player.Capped) :
    let result := counterStrike player creature creatureAttack playerDefense dodgeStreak draw
    Accounts .player [result.hit] player.hp result.player.hp := by
  intro result
  have reported : harm .player [result.hit] = result.hit.amount := by
    rw [harm_cons, if_pos ⟨rfl, .inl rfl⟩, harm_nil, add_zero]
  have nonneg : 0 ≤ result.hit.amount := applyEvasionDamage_nonneg _ _
  have before : player.clone.incrementCombatTurns.hp = player.hp := Player.hp_clone capped
  by_cases strikes : result.hit.amount > 0
  · have struck : result.player = player.clone.incrementCombatTurns.takeDamage result.hit.amount := if_pos strikes
    refine .of_taken (by rw [reported]; exact nonneg) ?_
    rw [reported, struck, ← before]
    rfl
  · have missed : result.player = player.clone.incrementCombatTurns := if_neg strikes
    refine .of_spared ?_ ?_
    · rw [reported]
      exact le_antisymm (not_lt.mp strikes) nonneg
    · rw [missed, before]

theorem capped_counterStrike :
    let result := counterStrike player creature creatureAttack playerDefense dodgeStreak draw
    result.player.isDefeated = false → result.player.Capped := by
  intro result survives
  have whole : player.clone.hp ≤ player.clone.maxHp := Player.capped_create player.toJSON
  by_cases strikes : result.hit.amount > 0
  · have struck : result.player = player.clone.incrementCombatTurns.takeDamage result.hit.amount := if_pos strikes
    rw [struck] at survives ⊢
    have standing : 0 < (player.clone.incrementCombatTurns.takeDamage result.hit.amount).hp := by
      simpa [Player.isDefeated] using survives
    have above : 0 < player.clone.hp - result.hit.amount := (lt_max_iff.mp standing).resolve_left (lt_irrefl 0)
    refine (max_eq_right above.le).trans_le ?_
    show player.clone.hp - result.hit.amount ≤ player.clone.maxHp
    linarith
  · have missed : result.player = player.clone.incrementCombatTurns := if_neg strikes
    rw [missed]
    exact whole

end Strike

end WalkingRpg
