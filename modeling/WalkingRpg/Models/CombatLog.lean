import WalkingRpg.Models.HitFeed

/-! The combat log: what a turn writes to it and how a line reads.

A turn publishes each hit twice, as an event for the effects on screen and as a line of
the log. Both are computed where the hit is dealt. How a number is printed and how letters change
case is left open.
-/

set_option autoImplicit false

namespace WalkingRpg

inductive CombatLogTag where
  | resisted | weak | glancing | dodged | crit
  deriving DecidableEq, Repr

inductive CombatLogKind where
  | attack | dot | heal | buff | debuff | defeat
  deriving DecidableEq, Repr

/-- A line of the log. As in an event, the label is kept as the stat changes. -/
structure CombatLogEntry where
  kind : CombatLogKind
  actor : Combatant
  target : Option Combatant := none
  source : Option String := none
  amount : Option ℚ := none
  damageType : Option DamageType := none
  label : Option StatModifiers := none
  tags : Option (List CombatLogTag) := none
  deriving DecidableEq

structure CombatLogNames where
  player : String
  creature : String

/-- `toUpperCase` of a first character, and `toLowerCase`. -/
structure LetterCase where
  upper : Char → String
  lower : String → String

def cap (letters : LetterCase) (s : String) : String :=
  match s.toList with
  | [] => ""
  | first :: rest => letters.upper first ++ String.ofList rest

def subj (actor : Combatant) (names : CombatLogNames) : String :=
  match actor with
  | .player => names.player
  | .creature => names.creature

def obj (letters : LetterCase) (actor : Combatant) (names : CombatLogNames) : String :=
  match actor with
  | .player => letters.lower names.player
  | .creature => names.creature

def verb (actor : Combatant) (playerForm creatureForm : String) : String :=
  match actor with
  | .player => playerForm
  | .creature => creatureForm

def hasTag (tags : Option (List CombatLogTag)) (tag : CombatLogTag) : Bool := (tags.getD []).contains tag

def tagSuffix (tags : Option (List CombatLogTag)) : String :=
  (if hasTag tags .crit then " — critical!" else "") ++
  (if hasTag tags .glancing then " — glancing" else "") ++
  (if hasTag tags .weak then " — vulnerable!" else "") ++
  (if hasTag tags .resisted then " (resisted)" else "")

def DamageType.word : DamageType → String
  | .physical => "physical"
  | .fire => "fire"
  | .frost => "frost"
  | .arcane => "arcane"

def typeWord : Option DamageType → String
  | some damageType => damageType.word ++ " "
  | none => ""

def sourceText (opening : String) (source : Option String) (closing : String) : String :=
  match source with
  | some name => if name = "" then "" else opening ++ name ++ closing
  | none => ""

section Text

variable (numeral : ℚ → String)

def formatStatModLabel (mods : StatModifiers) : String :=
  let fmt (name : String) (delta : ℚ) : String :=
    name ++ " " ++ if delta ≥ 0 then "↑ +" ++ numeral delta else "↓ " ++ numeral delta
  "  ".intercalate ((mods.attack.map (fmt "ATK")).toList ++ (mods.defense.map (fmt "DEF")).toList)

def formatCombatLogEntry (letters : LetterCase) (e : CombatLogEntry) (n : CombatLogNames) : String :=
  let amt := e.amount.getD 0
  match e.kind with
  | .attack =>
    let t := e.target.getD (match e.actor with | .player => .creature | .creature => .player)
    -- An avoided hit reads as an avoidance, not as no damage.
    if hasTag e.tags .dodged then
      subj t n ++ " " ++ verb t "dodge" "dodges" ++ " " ++ subj e.actor n ++ "'s attack!"
    else
      subj e.actor n ++ " " ++ verb e.actor "hit" "hits" ++ " " ++ obj letters t n ++ " for " ++
        numeral amt ++ " " ++ typeWord e.damageType ++ "damage" ++ sourceText " with " e.source "" ++
        tagSuffix e.tags
  | .dot =>
    let t := e.target.getD .creature
    subj t n ++ " " ++ verb t "take" "takes" ++ " " ++
      numeral amt ++ " " ++ typeWord e.damageType ++ "damage" ++ sourceText " from " e.source "" ++
      tagSuffix e.tags
  | .heal =>
    subj e.actor n ++ " " ++ verb e.actor "heal" "heals" ++ " " ++
      numeral amt ++ " HP" ++ sourceText " with " e.source ""
  | .buff =>
    subj e.actor n ++ " " ++ verb e.actor "gain" "gains" ++ " " ++
      (e.label.map (formatStatModLabel numeral)).getD "a boon" ++ sourceText " (" e.source ")"
  | .debuff =>
    let t := e.target.getD .creature
    subj t n ++ " " ++ verb t "suffer" "suffers" ++ " " ++
      (e.label.map (formatStatModLabel numeral)).getD "a hex" ++ sourceText " (" e.source ")"
  | .defeat =>
    match e.target.getD .creature with
    | .player => n.player ++ " were defeated!"
    | .creature => cap letters n.creature ++ " is defeated!"

end Text

def resistTags : ResistTier → Option (List CombatLogTag)
  | .resisted => some [.resisted]
  | .vulnerable => some [.weak]
  | .neutral => none

def evadeTags : EvadeOutcome → List CombatLogTag
  | .normal => []
  | .glancing => [.glancing]
  | .dodged => [.dodged]

/-- A readable source name from an effect id. The ids are ASCII. -/
def prettifyId (id : String) : String := " ".intercalate ((id.splitOn "_").map String.capitalize)

def someTags (tags : List CombatLogTag) : Option (List CombatLogTag) :=
  if tags.length > 0 then some tags else none

def dotLog (creature : Creature) (effect : DotEffect) : Option CombatLogEntry :=
  let resistVal := (effect.damageType.map creature.resistances.get).getD 0
  let dealt := applyResistance effect.damage resistVal
  if dealt > 0 then
    some { kind := .dot, actor := .player, target := some .creature, amount := some dealt
           damageType := effect.damageType
           source := if effect.sourceId = "" then none else some (prettifyId effect.sourceId)
           tags := resistTags (classifyResist resistVal) }
  else none

def tickLog (creature : Creature) (state : Option CombatantState) : List CombatLogEntry :=
  match state with
  | none => []
  | some current =>
    if current.statusEffects.length > 0 then (tickStatusEffects current).dotEffects.filterMap (dotLog creature)
    else []

def swingLog (player : Player) (creature : Creature) (ability : Ability) (damage dodgeStreak draw : ℚ) :
    List CombatLogEntry :=
  match ability.primitive with
  | .direct _ damageType =>
    if damage > 0 then
      let evasion := rollEvasion player.speed creature.speed .creature dodgeStreak draw
      [{ kind := .attack, actor := .player, target := some .creature
         amount := some (applyEvasionDamage damage evasion.outcome), damageType := some damageType
         source := some ability.name
         tags := someTags ((resistTags (classifyResist (creature.resistances.get damageType))).getD [] ++
           evadeTags evasion.outcome) }]
    else []
  | _ => []

def healLog (ability : Ability) (heal : ℚ) : List CombatLogEntry :=
  if heal > 0 then
    [{ kind := .heal, actor := .player, target := some .player, amount := some heal, source := some ability.name }]
  else []

def statusLog (ability : Ability) : List CombatLogEntry :=
  match ability.primitive with
  | .buffDebuff _ statModifiers true =>
    [{ kind := .buff, actor := .player, target := some .player, label := some statModifiers
       source := some ability.name }]
  | .buffDebuff _ statModifiers false =>
    [{ kind := .debuff, actor := .player, target := some .creature, label := some statModifiers
       source := some ability.name }]
  | _ => []

def turnLog (currentPlayer : Player) (creature : Creature) (playerState : CombatantState)
    (creatureState : Option CombatantState) (ability : Ability) (dodgeStreak draw : ℚ) : List CombatLogEntry :=
  let player := currentPlayer.clone
  let effective := computeEffectiveStats player.attack player.defense playerState.statusEffects
  let preTick := (creatureState.map CombatantState.statusEffects).getD []
  let ticked := (tickCreature creature creatureState).creature
  if ticked.isDefeated then tickLog creature creatureState
  else
    let targetDefense := (computeEffectiveStats 0 creature.defense preTick).defense
    let result := resolveAbility ability effective.attack targetDefense creature.resistances player.maxHp
    tickLog creature creatureState ++ swingLog player ticked ability result.damage dodgeStreak draw ++
      healLog ability result.heal ++ statusLog ability

def strikeLog (currentPlayer : Player) (creature : Creature) (creatureAttack playerDefense dodgeStreak draw : ℚ) :
    CombatLogEntry :=
  let baseDamage := mitigateDamage creatureAttack playerDefense 1
  let evasion := rollEvasion creature.speed currentPlayer.clone.incrementCombatTurns.speed .player dodgeStreak draw
  { kind := .attack, actor := .creature, target := some .player
    amount := some (applyEvasionDamage baseDamage evasion.outcome), damageType := some .physical
    tags := someTags (evadeTags evasion.outcome) }

def CombatHitEvent.tags (event : CombatHitEvent) : Option (List CombatLogTag) :=
  someTags ((resistTags event.resist).getD [] ++ (event.evade.map evadeTags).getD [])

/-- The line that tells of an event; only the actor and the name of the source are not in the event. -/
def CombatHitEvent.line (event : CombatHitEvent) (actor : Combatant) (source : Option String) : CombatLogEntry :=
  match event.kind with
  | .hit => { kind := .attack, actor := actor, target := some event.target, source := source
              amount := some event.amount, damageType := event.damageType, tags := event.tags }
  | .dot => { kind := .dot, actor := actor, target := some event.target, source := source
              amount := some event.amount, damageType := event.damageType, tags := event.tags }
  | .heal => { kind := .heal, actor := actor, target := some event.target, source := source
               amount := some event.amount }
  | .buff => { kind := .buff, actor := actor, target := some event.target, source := source, label := event.label }
  | .debuff => { kind := .debuff, actor := actor, target := some event.target, source := source, label := event.label }

def Narrates (entry : CombatLogEntry) (event : CombatHitEvent) : Prop :=
  entry = event.line entry.actor entry.source

theorem tags_evadeTag (outcome : EvadeOutcome) : ((evadeTag outcome).map evadeTags).getD [] = evadeTags outcome := by
  cases outcome <;> rfl

theorem someTags_resistTags (resist : ResistTier) : someTags ((resistTags resist).getD [] ++ []) = resistTags resist := by
  cases resist <;> rfl

theorem forall₂_filterMap {Source First Second : Type} {related : First → Second → Prop} {first : Source → Option First}
    {second : Source → Option Second} (together : ∀ source, Option.Rel related (first source) (second source))
    (sources : List Source) : List.Forall₂ related (sources.filterMap first) (sources.filterMap second) := by
  induction sources with
  | nil => exact .nil
  | cons source rest ih =>
    have here := together source
    cases one : first source with
    | none =>
      cases other : second source with
      | none => rwa [List.filterMap_cons_none one, List.filterMap_cons_none other]
      | some value => rw [one, other] at here; cases here
    | some value =>
      cases other : second source with
      | none => rw [one, other] at here; cases here
      | some told =>
        rw [one, other] at here
        cases here with
        | some pair =>
          rw [List.filterMap_cons_some one, List.filterMap_cons_some other]
          exact .cons pair ih

theorem narrates_dotLog (creature : Creature) (effect : DotEffect) :
    Option.Rel Narrates (dotLog creature effect) (resistedDot creature effect).2 := by
  unfold dotLog resistedDot
  dsimp only
  split
  · refine .some ?_
    unfold Narrates CombatHitEvent.line CombatHitEvent.tags
    dsimp only [Option.map_none, Option.getD_none]
    rw [someTags_resistTags]
  · exact .none

theorem narrates_tickLog (creature : Creature) (state : Option CombatantState) :
    List.Forall₂ Narrates (tickLog creature state) (tickCreature creature state).hits := by
  have lines : tickLog creature state =
      (((state.map CombatantState.statusEffects).getD []).filterMap StatusEffect.dotEffect).filterMap
        (dotLog creature) := by
    unfold tickLog
    cases state with
    | none => rfl
    | some current =>
      cases effects : current.statusEffects with
      | nil => simp [effects]
      | cons effect rest => simp [effects, tickStatusEffects]
  rw [lines, hits_tickCreature]
  exact forall₂_filterMap (narrates_dotLog creature) _

theorem narrates_swingLog (player : Player) (creature : Creature) (ability : Ability) (damage dodgeStreak draw : ℚ) :
    List.Forall₂ Narrates (swingLog player creature ability damage dodgeStreak draw)
      (swing player creature ability damage dodgeStreak draw).hits := by
  unfold swingLog swing
  cases ability.primitive with
  | direct damageMultiplier damageType =>
    dsimp only
    split
    · refine .cons ?_ .nil
      unfold Narrates CombatHitEvent.line CombatHitEvent.tags
      dsimp only
      rw [tags_evadeTag]
    · exact .nil
  | dot => exact .nil
  | buffDebuff => exact .nil
  | defensive => exact .nil

theorem narrates_healLog (player : Player) (ability : Ability) (heal : ℚ) :
    List.Forall₂ Narrates (healLog ability heal) (Fight.healHits player heal) := by
  unfold healLog Fight.healHits
  split
  · exact .cons rfl .nil
  · exact .nil

theorem narrates_statusLog (player : Player) (creature : Creature) (ability : Ability) :
    List.Forall₂ Narrates (statusLog ability) (statusHits player creature ability) := by
  unfold statusLog statusHits
  cases ability.primitive with
  | buffDebuff tickDuration statModifiers targetSelf =>
    cases targetSelf with
    | true => exact .cons rfl .nil
    | false => exact .cons rfl .nil
  | direct => exact .nil
  | dot => exact .nil
  | defensive => exact .nil

theorem narrates_turnLog (currentPlayer : Player) (creature : Creature) (playerState : CombatantState)
    (creatureState : Option CombatantState) (ability : Ability) (dodgeStreak draw : ℚ) :
    List.Forall₂ Narrates (turnLog currentPlayer creature playerState creatureState ability dodgeStreak draw)
      (playTurn currentPlayer creature playerState creatureState ability dodgeStreak draw).hits := by
  unfold turnLog playTurn
  dsimp only
  split
  · exact narrates_tickLog creature creatureState
  · exact List.rel_append (List.rel_append (List.rel_append (narrates_tickLog creature creatureState)
      (narrates_swingLog _ _ _ _ _ _)) (narrates_healLog _ _ _)) (narrates_statusLog _ _ _)

theorem narrates_strikeLog (currentPlayer : Player) (creature : Creature)
    (creatureAttack playerDefense dodgeStreak draw : ℚ) :
    Narrates (strikeLog currentPlayer creature creatureAttack playerDefense dodgeStreak draw)
      (counterStrike currentPlayer creature creatureAttack playerDefense dodgeStreak draw).hit := by
  unfold Narrates CombatHitEvent.line CombatHitEvent.tags strikeLog counterStrike
  dsimp only
  rw [tags_evadeTag]
  rfl

end WalkingRpg
