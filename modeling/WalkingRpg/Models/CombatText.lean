import WalkingRpg.Models.CombatLog

/-! The floating text of a hit, and that it says what the log says.

An event carries all that its text shows. A dodge is an event as well, so an amount of zero
has to mean a dodge and nothing else before a text can be read back.
-/

set_option autoImplicit false

namespace WalkingRpg

def mathRound (x : ℚ) : ℤ := ⌊x + 1 / 2⌋

theorem mathRound_natCast (n : ℕ) : mathRound n = n := by
  unfold mathRound
  rw [add_comm, Int.floor_add_natCast]
  norm_num

inductive CombatTextKind where
  | damage | heal
  deriving DecidableEq, Repr

structure CombatTextStyle where
  label : String
  color : String
  fontSize : ℚ

structure DamageTier where
  min : ℚ
  color : String
  fontSize : ℚ

def glancingTier : DamageTier := ⟨0, "#FFB300", 20⟩

/-- `DAMAGE_TIERS`, by the share of the hit points a blow takes. -/
def damageTiers : List DamageTier := [⟨0.25, "#D32F2F", 34⟩, ⟨0.12, "#FF7043", 26⟩, glancingTier]

def DamageType.textColor : DamageType → String
  | .physical => "#ECEFF1"
  | .fire => "#FF7043"
  | .frost => "#4FC3F7"
  | .arcane => "#BA68C8"

section Text

variable (numeral : ℚ → String)

def combatTextStyle (amount maxHp : ℚ) (kind : CombatTextKind) : CombatTextStyle :=
  let magnitude : ℚ := max 0 (mathRound amount)
  match kind with
  | .heal => ⟨"+" ++ numeral magnitude, "#43A047", 22⟩
  | .damage =>
    let fraction := if maxHp > 0 then magnitude / maxHp else 0
    let tier := (damageTiers.find? fun tier => fraction ≥ tier.min).getD glancingTier
    ⟨numeral magnitude, tier.color, tier.fontSize⟩

/-- The text of a hit. Evasion comes before the tell of a resistance. -/
def hitFloaterStyle (event : CombatHitEvent) : CombatTextStyle :=
  let statusLabel (symbol : String) : String := (event.label.map (formatStatModLabel numeral)).getD symbol
  match event.kind with
  | .heal => combatTextStyle numeral event.amount event.targetMaxHp .heal
  | .buff => ⟨statusLabel "▲", "#FFD54F", 18⟩
  | .debuff => ⟨statusLabel "▼", "#B39DDB", 18⟩
  | .hit | .dot =>
    let fontSize := (combatTextStyle numeral event.amount event.targetMaxHp .damage).fontSize
    let amount : ℚ := max 0 (mathRound event.amount)
    let typeColor := (event.damageType.getD .physical).textColor
    match event.evade with
    | some .dodged => ⟨match event.target with | .player => "DODGE" | .creature => "MISS", "#4FC3F7", 18⟩
    | some .glancing => ⟨numeral amount ++ " GLANCING", "#B0BEC5", mathRound (fontSize * 0.85)⟩
    | _ =>
      match event.resist with
      | .resisted => ⟨numeral amount ++ " RESIST", "#90A4AE", mathRound (fontSize * 0.85)⟩
      | .vulnerable => ⟨numeral amount ++ " WEAK", typeColor, mathRound (fontSize * 1.15)⟩
      | .neutral => ⟨numeral amount, typeColor, fontSize⟩

end Text

namespace CombatHitEvent

def Blow (event : CombatHitEvent) : Prop := event.kind = .hit ∨ event.kind = .dot

def Cast (event : CombatHitEvent) : Prop := event.kind = .buff ∨ event.kind = .debuff

/-- A reported event: damage in whole points, none exactly for a dodge; heals heal, and casts have a label. -/
structure Honest (event : CombatHitEvent) : Prop where
  whole : event.kind ≠ .heal → ∃ n : ℕ, event.amount = n
  landed : event.Blow → (0 < event.amount ↔ event.evade ≠ some .dodged)
  steady : event.kind ≠ .hit → event.evade = none
  heals : event.kind = .heal → 0 < event.amount
  casts : event.Cast → event.amount = 0 ∧ event.label.isSome = true

def WholeHeal (event : CombatHitEvent) : Prop := event.kind = .heal → ∃ n : ℕ, event.amount = n

theorem Honest.exists_amount {event : CombatHitEvent} (honest : event.Honest) (heal : event.WholeHeal) :
    ∃ n : ℕ, event.amount = n := by
  by_cases kind : event.kind = .heal
  · exact heal kind
  · exact honest.whole kind

end CombatHitEvent

theorem honest_resistedDot {creature : Creature} {effect : DotEffect} {event : CombatHitEvent}
    (reported : (resistedDot creature effect).2 = some event) : event.Honest := by
  unfold resistedDot at reported
  dsimp only at reported
  split at reported
  · rename_i dealt
    obtain ⟨n, whole⟩ := exists_applyResistance effect.damage
      ((effect.damageType.map creature.resistances.get).getD 0)
    cases Option.some.inj reported
    exact {
      whole := fun _ => ⟨n, whole⟩
      landed := fun _ => ⟨fun _ => nofun, fun _ => dealt⟩
      steady := fun _ => rfl
      heals := nofun
      casts := fun cast => by rcases cast with cast | cast <;> cases cast }
  · cases reported

theorem honest_tickCreature (creature : Creature) (state : Option CombatantState) :
    ∀ event ∈ (tickCreature creature state).hits, event.Honest := by
  rw [hits_tickCreature]
  intro event present
  obtain ⟨dot, _, reported⟩ := List.mem_filterMap.mp present
  exact honest_resistedDot reported

theorem evadeTag_ne_dodged_iff {damage : ℚ} (positive : 0 < damage) (outcome : EvadeOutcome) :
    0 < applyEvasionDamage damage outcome ↔ evadeTag outcome ≠ some .dodged := by
  cases outcome with
  | dodged => simp [applyEvasionDamage, evadeTag]
  | normal => simp [applyEvasionDamage_pos_iff, evadeTag, positive]
  | glancing => simp [applyEvasionDamage_pos_iff, evadeTag, positive]

theorem honest_swing {player : Player} {creature : Creature} {ability : Ability} {damage dodgeStreak draw : ℚ}
    (whole : ∃ n : ℕ, damage = n) :
    ∀ event ∈ (swing player creature ability damage dodgeStreak draw).hits, event.Honest := by
  intro event present
  unfold swing at present
  split at present
  · split at present
    · rename_i positive
      obtain ⟨n, rfl⟩ := whole
      cases List.mem_singleton.mp present
      exact {
        whole := fun _ => exists_applyEvasionDamage n _
        landed := fun _ => evadeTag_ne_dodged_iff positive _
        steady := fun other => absurd rfl other
        heals := nofun
        casts := fun cast => by rcases cast with cast | cast <;> cases cast }
    · cases present
  · cases present

theorem honest_healHits (player : Player) (heal : ℚ) : ∀ event ∈ Fight.healHits player heal, event.Honest := by
  intro event present
  unfold Fight.healHits at present
  split at present
  · rename_i positive
    cases List.mem_singleton.mp present
    exact {
      whole := fun other => absurd rfl other
      landed := fun blow => by rcases blow with blow | blow <;> cases blow
      steady := fun _ => rfl
      heals := fun _ => positive
      casts := fun cast => by rcases cast with cast | cast <;> cases cast }
  · cases present

theorem honest_statusHits (player : Player) (creature : Creature) (ability : Ability) :
    ∀ event ∈ statusHits player creature ability, event.Honest := by
  have cue (event : CombatHitEvent) (zero : event.amount = 0) (cast : event.Cast) (steady : event.evade = none)
      (labelled : event.label.isSome = true) : event.Honest := {
    whole := fun _ => ⟨0, zero.trans Nat.cast_zero.symm⟩
    landed := fun blow => by rcases cast with cast | cast <;> rcases blow with blow | blow <;> cases cast.symm.trans blow
    steady := fun _ => steady
    heals := fun heal => by rcases cast with cast | cast <;> cases cast.symm.trans heal
    casts := fun _ => ⟨zero, labelled⟩ }
  intro event present
  unfold statusHits at present
  split at present
  · cases List.mem_singleton.mp present
    exact cue _ rfl (.inl rfl) rfl rfl
  · cases List.mem_singleton.mp present
    exact cue _ rfl (.inr rfl) rfl rfl
  · cases present

theorem exists_damage_resolveAbility (ability : Ability) (casterAttack targetDefense : ℚ) (resistances : Resistances)
    (casterMaxHp : ℚ) :
    ∃ n : ℕ, (resolveAbility ability casterAttack targetDefense resistances casterMaxHp).damage = n := by
  unfold resolveAbility
  cases ability.primitive with
  | direct damageMultiplier damageType => exact exists_applyResistance _ _
  | dot => exact ⟨0, Nat.cast_zero.symm⟩
  | buffDebuff => exact ⟨0, Nat.cast_zero.symm⟩
  | defensive => exact ⟨0, Nat.cast_zero.symm⟩

theorem honest_playTurn (currentPlayer : Player) (creature : Creature) (playerState : CombatantState)
    (creatureState : Option CombatantState) (ability : Ability) (dodgeStreak draw : ℚ) :
    ∀ event ∈ (playTurn currentPlayer creature playerState creatureState ability dodgeStreak draw).hits,
      event.Honest := by
  unfold playTurn
  dsimp only
  split
  · exact honest_tickCreature creature creatureState
  · intro event present
    rw [List.mem_append, List.mem_append, List.mem_append] at present
    rcases present with ((ticked | struck) | healed) | cued
    · exact honest_tickCreature creature creatureState event ticked
    · exact honest_swing (exists_damage_resolveAbility _ _ _ _ _) event struck
    · exact honest_healHits _ _ event healed
    · exact honest_statusHits _ _ _ event cued

def Ability.healsWhole (ability : Ability) : Bool :=
  match ability.primitive with
  | .defensive (some healAmount) _ _ => healAmount.den = 1
  | _ => true

theorem exists_heal_resolveAbility {ability : Ability} (heals : ability.healsWhole = true)
    (casterAttack targetDefense : ℚ) (resistances : Resistances) (casterMaxHp : ℚ) :
    ∃ n : ℤ, (resolveAbility ability casterAttack targetDefense resistances casterMaxHp).heal = n := by
  unfold Ability.healsWhole at heals
  unfold resolveAbility
  cases primitive : ability.primitive with
  | direct => exact ⟨0, Int.cast_zero.symm⟩
  | dot => exact ⟨0, Int.cast_zero.symm⟩
  | buffDebuff => exact ⟨0, Int.cast_zero.symm⟩
  | defensive healAmount healPercent shieldAmount =>
    rw [primitive] at heals
    have fixed : ∃ n : ℤ, healAmount.getD 0 = n := by
      cases healAmount with
      | none => exact ⟨0, Int.cast_zero.symm⟩
      | some amount => exact ⟨amount.num, (Rat.coe_int_num_of_den_eq_one (of_decide_eq_true heals)).symm⟩
    obtain ⟨n, amount⟩ := fixed
    dsimp only
    rw [amount]
    cases healPercent with
    | none => exact ⟨n, add_zero _⟩
    | some percent => exact ⟨n + ⌊casterMaxHp * percent⌋, (Int.cast_add _ _).symm⟩

theorem wholeHeal_playTurn {ability : Ability} (heals : ability.healsWhole = true) (currentPlayer : Player)
    (creature : Creature) (playerState : CombatantState) (creatureState : Option CombatantState)
    (dodgeStreak draw : ℚ) :
    ∀ event ∈ (playTurn currentPlayer creature playerState creatureState ability dodgeStreak draw).hits,
      event.WholeHeal := by
  have ticks (event : CombatHitEvent) (present : event ∈ (tickCreature creature creatureState).hits) :
      event.WholeHeal := fun heal => by
    cases (target_hits_tickCreature _ _ event present).2.symm.trans heal
  unfold playTurn
  dsimp only
  split
  · exact ticks
  · intro event present
    rw [List.mem_append, List.mem_append, List.mem_append] at present
    rcases present with ((ticked | struck) | healed) | cued
    · exact ticks event ticked
    · exact fun heal => by cases (kind_hits_swing _ _ _ _ _ _ event struck).2.symm.trans heal
    · intro _
      obtain ⟨positive, _, _, amount⟩ := mem_healHits healed
      rw [amount]
      obtain ⟨n, whole⟩ := exists_heal_resolveAbility heals _ _ _ _
      rw [whole] at positive ⊢
      lift n to ℕ using by exact_mod_cast positive.le
      exact ⟨n, Int.cast_natCast n⟩
    · exact fun heal => by rcases kind_statusHits _ _ _ event cued with kind | kind <;> cases kind.symm.trans heal

theorem honest_counterStrike (currentPlayer : Player) (creature : Creature)
    (creatureAttack playerDefense dodgeStreak draw : ℚ) :
    (counterStrike currentPlayer creature creatureAttack playerDefense dodgeStreak draw).hit.Honest := by
  have positive : 0 < mitigateDamage creatureAttack playerDefense 1 :=
    zero_lt_one.trans_le (one_le_mitigateDamage _ _ _)
  have whole : ∃ n : ℕ, mitigateDamage creatureAttack playerDefense 1 = n := by
    rw [mitigateDamage_eq]
    refine ⟨(max 1 ⌊mitigationRatio creatureAttack playerDefense * 1⌋).toNat, ?_⟩
    have nonneg : 0 ≤ max 1 ⌊mitigationRatio creatureAttack playerDefense * 1⌋ := zero_le_one.trans (le_max_left _ _)
    rw [← Int.cast_natCast, Int.toNat_of_nonneg nonneg, Int.cast_max, Int.cast_one]
  obtain ⟨n, exact⟩ := whole
  unfold counterStrike
  dsimp only
  exact {
    whole := fun _ => by
      rw [exact]
      exact exists_applyEvasionDamage n _
    landed := fun _ => evadeTag_ne_dodged_iff positive _
    steady := fun other => absurd rfl other
    heals := nofun
    casts := fun cast => by rcases cast with cast | cast <;> cases cast }

def CombatHitEvent.sign (event : CombatHitEvent) : String := if event.kind = .heal then "+" else ""

def CombatHitEvent.tell (event : CombatHitEvent) : String :=
  if event.kind = .heal then ""
  else if event.evade = some .glancing then " GLANCING"
  else match event.resist with
    | .resisted => " RESIST"
    | .vulnerable => " WEAK"
    | .neutral => ""

/-- A line of the log and the floating text of an event say the same. -/
structure SameStory (numeral : ℚ → String) (letters : LetterCase) (names : CombatLogNames) (line : CombatLogEntry)
    (event : CombatHitEvent) : Prop where
  /-- The same number, if one is shown. -/
  landed : event.Blow ∨ event.kind = .heal → event.evade ≠ some .dodged →
    (hitFloaterStyle numeral event).label = event.sign ++ numeral event.amount ++ event.tell ∧
      ∃ opening closing, formatCombatLogEntry numeral letters line names = opening ++ numeral event.amount ++ closing
  /-- No number on either side for a dodge. -/
  dodged : event.Blow → event.evade = some .dodged →
    (hitFloaterStyle numeral event).label = (match event.target with | .player => "DODGE" | .creature => "MISS") ∧
      formatCombatLogEntry numeral letters line names = subj event.target names ++ " " ++
        verb event.target "dodge" "dodges" ++ " " ++ subj line.actor names ++ "'s attack!"
  /-- The same change of stats for a cast. -/
  cast : event.Cast → ∃ mods, event.label = some mods ∧
    (hitFloaterStyle numeral event).label = formatStatModLabel numeral mods ∧
    ∃ opening closing, formatCombatLogEntry numeral letters line names =
      opening ++ formatStatModLabel numeral mods ++ closing

section Story

variable {event : CombatHitEvent} (numeral : ℚ → String) (letters : LetterCase) (names : CombatLogNames)

theorem label_hitFloaterStyle (honest : event.Honest) (heal : event.WholeHeal) (numbered : event.Blow ∨ event.kind = .heal)
    (hit : event.evade ≠ some .dodged) :
    (hitFloaterStyle numeral event).label = event.sign ++ numeral event.amount ++ event.tell := by
  obtain ⟨n, whole⟩ := honest.exists_amount heal
  have magnitude : ((max 0 (mathRound event.amount) : ℤ) : ℚ) = event.amount := by
    rw [whole, mathRound_natCast, max_eq_right (Int.natCast_nonneg n), Int.cast_natCast]
  rw [Int.cast_max, Int.cast_zero] at magnitude
  unfold hitFloaterStyle CombatHitEvent.sign CombatHitEvent.tell
  rcases numbered with (blow | blow) | heal
  · rw [blow]
    dsimp only
    rw [magnitude]
    cases evade : event.evade with
    | none => cases event.resist <;> simp
    | some outcome =>
      cases outcome with
      | dodged => exact absurd evade hit
      | glancing => simp
      | normal => cases event.resist <;> simp
  · rw [blow, honest.steady (by rw [blow]; decide)]
    dsimp only
    rw [magnitude]
    cases event.resist <;> simp
  · rw [heal]
    simp [combatTextStyle, magnitude]

theorem hasTag_dodged (event : CombatHitEvent) : hasTag event.tags .dodged = true ↔ event.evade = some .dodged := by
  unfold CombatHitEvent.tags
  cases event.evade with
  | none => cases event.resist <;> decide
  | some outcome => cases event.resist <;> cases outcome <;> decide

theorem sameStory_of_narrates {line : CombatLogEntry} (honest : event.Honest) (heal : event.WholeHeal)
    (narrates : Narrates line event) :
    SameStory numeral letters names line event where
  landed numbered hit := by
    refine ⟨label_hitFloaterStyle numeral honest heal numbered hit, ?_⟩
    have untagged : ¬hasTag event.tags .dodged = true := fun tagged => hit ((hasTag_dodged event).mp tagged)
    rw [narrates]
    unfold formatCombatLogEntry CombatHitEvent.line
    rcases numbered with (blow | blow) | heal
    · rw [blow]
      dsimp only
      rw [if_neg untagged]
      refine ⟨subj line.actor names ++ " " ++ verb line.actor "hit" "hits" ++ " " ++ obj letters event.target names ++ " for ",
        " " ++ typeWord event.damageType ++ "damage" ++ sourceText " with " line.source "" ++ tagSuffix event.tags, ?_⟩
      simp only [String.append_assoc, Option.getD_some]
    · rw [blow]
      refine ⟨subj event.target names ++ " " ++ verb event.target "take" "takes" ++ " ",
        " " ++ typeWord event.damageType ++ "damage" ++ sourceText " from " line.source "" ++ tagSuffix event.tags, ?_⟩
      simp only [String.append_assoc, Option.getD_some]
    · rw [heal]
      refine ⟨subj line.actor names ++ " " ++ verb line.actor "heal" "heals" ++ " ",
        " HP" ++ sourceText " with " line.source "", ?_⟩
      simp only [String.append_assoc, Option.getD_some]
  dodged blow dodge := by
    -- Only a struck blow can be dodged.
    have struck : event.kind = .hit := by
      by_contra other
      cases (honest.steady other).symm.trans dodge
    constructor
    · unfold hitFloaterStyle
      rw [struck, dodge]
    · rw [narrates]
      unfold formatCombatLogEntry CombatHitEvent.line
      rw [struck]
      exact if_pos ((hasTag_dodged event).mpr dodge)
  cast cast := by
    obtain ⟨mods, labelled⟩ := Option.isSome_iff_exists.mp (honest.casts cast).2
    refine ⟨mods, labelled, ?_⟩
    rw [narrates]
    unfold hitFloaterStyle formatCombatLogEntry CombatHitEvent.line
    rcases cast with cast | cast
    · rw [cast, labelled]
      exact ⟨rfl, subj line.actor names ++ " " ++ verb line.actor "gain" "gains" ++ " ",
        sourceText " (" line.source ")", rfl⟩
    · rw [cast, labelled]
      exact ⟨rfl, subj event.target names ++ " " ++ verb event.target "suffer" "suffers" ++ " ",
        sourceText " (" line.source ")", rfl⟩

end Story

end WalkingRpg
