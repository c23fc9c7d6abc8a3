import WalkingRpg.Encounter.Narration

/-! The impact effects of a fight: the reader of the hit feed.

The effect runs after a render, on the feed and the encounter of that render; the hook may
have moved on by then. Floating texts and bursts are lists that their animations shrink
again. Animations that are only started are kept as the list of what was started.
-/

set_option autoImplicit false

namespace WalkingRpg

open Runs (Run)

structure CombatFloater where
  id : Nat
  target : Combatant
  label : String
  color : String
  fontSize : ℚ
  dx : ℚ

inductive BurstKind where
  | damage | buff | debuff
  deriving DecidableEq, Repr

structure CombatBurst where
  id : Nat
  target : Combatant
  damageType : Option DamageType
  resist : ResistTier
  kind : BurstKind

/-- An animation that is started: on a panel, or of the whole modal by so many pixels. -/
inductive Cue where
  | flash (target : Combatant)
  | shake (magnitude : ℚ)
  | recoil
  | empower (target : Combatant)
  deriving DecidableEq

namespace Impact

def shakeFullAtFraction : ℚ := 0.25

def floaterDxSpread : ℚ := 18

def baseMagnitude : ℚ := 3

def maxMagnitude : ℚ := 9

def shakeMagnitude (amount maxHp : ℚ) : ℚ :=
  let intensity := if maxHp > 0 then min 1 (amount / (maxHp * shakeFullAtFraction)) else 0.5
  baseMagnitude + (maxMagnitude - baseMagnitude) * intensity

/-- The burst of an event, without its id. A heal and a dodge have none. -/
def burst (event : CombatHitEvent) (id : Nat) : Option CombatBurst :=
  match event.kind with
  | .heal => none
  | .buff => some ⟨id, event.target, none, event.resist, .buff⟩
  | .debuff => some ⟨id, event.target, none, event.resist, .debuff⟩
  | .hit | .dot =>
    if event.evade = some .dodged then none
    else some ⟨id, event.target, event.damageType, event.resist, .damage⟩

def cues (event : CombatHitEvent) : List Cue :=
  match event.kind with
  | .heal => []
  | .buff | .debuff => [.empower event.target]
  | .hit | .dot =>
    if event.evade = some .dodged then []
    else .shake (shakeMagnitude event.amount event.targetMaxHp) :: .flash event.target ::
      match event.target with
      | .creature => [.recoil]
      | .player => []

def hasBurst (event : CombatHitEvent) : Bool := (burst event 0).isSome

def spawnBursts (first : Nat) (events : List CombatHitEvent) : List CombatBurst :=
  (Feeds.numbered first (events.filter hasBurst)).filterMap fun item => burst item.2 item.1

def floater (numeral : ℚ → String) (event : CombatHitEvent) (id : Nat) (draw : ℚ) : CombatFloater :=
  let style := hitFloaterStyle numeral event
  ⟨id, event.target, style.label, style.color, style.fontSize, (draw * 2 - 1) * floaterDxSpread⟩

def spawnFloaters (numeral : ℚ → String) (draws : Nat → ℚ) (first : Nat) (events : List CombatHitEvent) :
    List CombatFloater :=
  (Feeds.numbered first events).map fun item => floater numeral item.2 item.1 (draws item.1)

end Impact

structure Impact where
  floaters : List CombatFloater
  bursts : List CombatBurst
  nextFloaterId : Nat
  nextBurstId : Nat
  lastSeenHitId : ℤ
  fxEncounter : Option ℚ
  /-- The animations started and the bursts spawned so far. History. -/
  started : List Cue
  spawned : List CombatBurst

namespace Impact

def mounted : Impact := ⟨[], [], 0, 0, -1, none, [], []⟩

/-- A change of the encounter drops what is still animating. -/
def face (impact : Impact) (encounterId : Option ℚ) : Impact :=
  if impact.fxEncounter = encounterId then impact
  else { impact with fxEncounter := encounterId, floaters := [], bursts := [] }

def spawn (impact : Impact) (numeral : ℚ → String) (draws : Nat → ℚ) (events : List CombatHitEvent) : Impact :=
  { impact with
    floaters := impact.floaters ++ spawnFloaters numeral draws impact.nextFloaterId events
    nextFloaterId := impact.nextFloaterId + events.length
    bursts := impact.bursts ++ spawnBursts impact.nextBurstId events
    nextBurstId := impact.nextBurstId + (events.filter hasBurst).length
    started := impact.started ++ events.flatMap cues
    spawned := impact.spawned ++ spawnBursts impact.nextBurstId events }

def effect (impact : Impact) (numeral : ℚ → String) (draws : Nat → ℚ) (encounterId : Option ℚ)
    (hits : List (Nat × CombatHitEvent)) : Impact :=
  let faced := impact.face encounterId
  let fresh := Feeds.fresh faced.lastSeenHitId hits
  if fresh = [] then faced
  else
    { faced with lastSeenHitId := Feeds.advance faced.lastSeenHitId fresh }.spawn numeral draws (fresh.map Prod.snd)

def removeFloater (impact : Impact) (id : Nat) : Impact :=
  { impact with floaters := impact.floaters.filter fun floater => floater.id ≠ id }

def removeBurst (impact : Impact) (id : Nat) : Impact :=
  { impact with bursts := impact.bursts.filter fun burst => burst.id ≠ id }

end Impact

namespace Impact

/-- The effects on screen, and those started, against the events they were spawned for. -/
structure StandsFor (numeral : ℚ → String) (impact : Impact) (events : List CombatHitEvent) : Prop where
  floaters : Feeds.Displays CombatFloater.id (fun event shown => ∃ draw, shown = floater numeral event shown.id draw)
    impact.floaters impact.nextFloaterId events
  bursts : Feeds.Displays CombatBurst.id (fun event shown => burst event shown.id = some shown)
    impact.bursts impact.nextBurstId (events.filter hasBurst)
  started : impact.started = events.flatMap cues
  spawned : List.Forall₂ (fun event shown => burst event shown.id = some shown) (events.filter hasBurst) impact.spawned

variable {numeral : ℚ → String} {impact : Impact} {events : List CombatHitEvent}

theorem standsFor_mounted : mounted.StandsFor numeral [] where
  floaters := ⟨rfl, nofun, .nil⟩
  bursts := ⟨rfl, nofun, .nil⟩
  started := rfl
  spawned := .nil

theorem StandsFor.sublist (stands : impact.StandsFor numeral events) {floaters : List CombatFloater}
    {bursts : List CombatBurst} (fewerFloaters : floaters.Sublist impact.floaters)
    (fewerBursts : bursts.Sublist impact.bursts) :
    { impact with floaters := floaters, bursts := bursts }.StandsFor numeral events :=
  ⟨stands.floaters.sublist fewerFloaters, stands.bursts.sublist fewerBursts, stands.started, stands.spawned⟩

theorem lastSeenHitId_face (impact : Impact) (encounterId : Option ℚ) :
    (impact.face encounterId).lastSeenHitId = impact.lastSeenHitId := by
  unfold face
  split <;> rfl

theorem StandsFor.face (stands : impact.StandsFor numeral events) (encounterId : Option ℚ) :
    (impact.face encounterId).StandsFor numeral events := by
  unfold Impact.face
  split
  · exact stands
  · exact { stands.sublist (List.nil_sublist _) (List.nil_sublist _) with }

theorem id_burst {event : CombatHitEvent} {id : Nat} {shown : CombatBurst} (spawned : burst event id = some shown) :
    shown.id = id := by
  unfold burst at spawned
  split at spawned
  · cases spawned
  · cases Option.some.inj spawned; rfl
  · cases Option.some.inj spawned; rfl
  all_goals
    split at spawned
    · cases spawned
    · cases Option.some.inj spawned; rfl

theorem forall₂_spawnBursts (first : Nat) (events : List CombatHitEvent) :
    List.Forall₂ (fun event shown => burst event shown.id = some shown) (events.filter hasBurst)
      (spawnBursts first events) := by
  have having : ∀ event ∈ events.filter hasBurst, ∀ id, (burst event id).isSome = true := by
    intro event kept id
    have has := (List.mem_filter.mp kept).2
    unfold hasBurst burst at has
    unfold burst
    split at has <;> simp_all
  unfold spawnBursts
  generalize events.filter hasBurst = kept at having
  induction kept generalizing first with
  | nil => exact .nil
  | cons event rest ih =>
    obtain ⟨shown, spawned⟩ := Option.isSome_iff_exists.mp (having event List.mem_cons_self first)
    rw [Feeds.numbered_cons, List.filterMap_cons]
    simp only [spawned]
    refine .cons ?_ (ih (first + 1) fun other later => having other (List.mem_cons_of_mem event later))
    rw [id_burst spawned]
    exact spawned

theorem StandsFor.spawn (stands : impact.StandsFor numeral events) (draws : Nat → ℚ) (fresh : List CombatHitEvent) :
    (impact.spawn numeral draws fresh).StandsFor numeral (events ++ fresh) where
  floaters := by
    refine stands.floaters.append (fun shown present => ?_) (List.pairwise_map.mpr (Feeds.rising_numbered _ fresh))
    obtain ⟨item, listed, rfl⟩ := List.mem_map.mp present
    exact ⟨item.2, listed, draws item.1, rfl⟩
  bursts := by
    rw [List.filter_append]
    refine stands.bursts.append (fun shown present => ?_) (List.Pairwise.filterMap _ ?_ (Feeds.rising_numbered _ _))
    · obtain ⟨item, listed, spawned⟩ := List.mem_filterMap.mp present
      have same := id_burst spawned
      exact ⟨item.2, same ▸ listed, same ▸ spawned⟩
    · intro earlier later before first spawned second spawnedToo
      rw [id_burst spawned, id_burst spawnedToo]
      exact before
  started := by
    rw [List.flatMap_append, ← stands.started]
    rfl
  spawned := by
    rw [List.filter_append]
    exact List.rel_append stands.spawned (forall₂_spawnBursts _ fresh)

theorem StandsFor.effect (stands : impact.StandsFor numeral events) (draws : Nat → ℚ) (encounterId : Option ℚ)
    (hits : List (Nat × CombatHitEvent)) :
    (impact.effect numeral draws encounterId hits).StandsFor numeral
      (events ++ (Feeds.fresh impact.lastSeenHitId hits).map Prod.snd) := by
  have faced := stands.face encounterId
  unfold Impact.effect
  dsimp only
  rw [lastSeenHitId_face]
  split
  · rename_i none
    rw [none, List.map_nil, List.append_nil]
    exact faced
  · have moved : { impact.face encounterId with
        lastSeenHitId := Feeds.advance impact.lastSeenHitId (Feeds.fresh impact.lastSeenHitId hits) }.StandsFor
        numeral events := { faced with }
    exact moved.spawn draws _

end Impact

namespace Impact

theorem shakeMagnitude_bounds {amount maxHp : ℚ} (nonneg : 0 ≤ amount) :
    baseMagnitude ≤ shakeMagnitude amount maxHp ∧ shakeMagnitude amount maxHp ≤ maxMagnitude := by
  have intensity : 0 ≤ (if maxHp > 0 then min 1 (amount / (maxHp * shakeFullAtFraction)) else 0.5) ∧
      (if maxHp > 0 then min 1 (amount / (maxHp * shakeFullAtFraction)) else 0.5) ≤ (1 : ℚ) := by
    split
    · rename_i positive
      have scale : 0 ≤ maxHp * shakeFullAtFraction := mul_nonneg positive.le (by norm_num [shakeFullAtFraction])
      exact ⟨le_min zero_le_one (div_nonneg nonneg scale), min_le_left _ _⟩
    · norm_num
  unfold shakeMagnitude
  dsimp only
  generalize (if maxHp > 0 then min 1 (amount / (maxHp * shakeFullAtFraction)) else 0.5) = share at intensity
  unfold baseMagnitude maxMagnitude
  constructor <;> linarith [intensity.1, intensity.2]

theorem shake_mem_cues_iff (event : CombatHitEvent) (magnitude : ℚ) :
    .shake magnitude ∈ cues event ↔ event.Blow ∧ event.evade ≠ some .dodged ∧
      magnitude = shakeMagnitude event.amount event.targetMaxHp := by
  unfold cues CombatHitEvent.Blow
  cases kind : event.kind with
  | heal => simp
  | buff => simp
  | debuff => simp
  | hit | dot =>
    by_cases dodged : event.evade = some .dodged
    · simp [dodged]
    · cases event.target <;> simp [dodged]

theorem shakes_iff {event : CombatHitEvent} (honest : event.Honest) :
    ((∃ magnitude, .shake magnitude ∈ cues event) ↔ event.Blow ∧ 0 < event.amount) ∧
      ∀ magnitude, .shake magnitude ∈ cues event → baseMagnitude ≤ magnitude ∧ magnitude ≤ maxMagnitude := by
  simp only [shake_mem_cues_iff]
  constructor
  · constructor
    · rintro ⟨_, blow, landed, _⟩
      exact ⟨blow, (honest.landed blow).mpr landed⟩
    · rintro ⟨blow, damage⟩
      exact ⟨_, blow, (honest.landed blow).mp damage, rfl⟩
  · rintro magnitude ⟨blow, landed, rfl⟩
    exact shakeMagnitude_bounds ((honest.landed blow).mpr landed).le

theorem hasBurst_iff {event : CombatHitEvent} (honest : event.Honest) :
    hasBurst event = true ↔ event.Blow ∧ 0 < event.amount ∨ event.Cast := by
  have landed := honest.landed
  unfold CombatHitEvent.Blow at landed
  unfold hasBurst burst CombatHitEvent.Blow CombatHitEvent.Cast
  cases kind : event.kind with
  | heal => simp
  | buff => simp
  | debuff => simp
  | hit | dot =>
    rw [kind] at landed
    by_cases dodged : event.evade = some .dodged
    · simp_all
    · simp_all

end Impact

structure Snapshot where
  encounterId : Option ℚ
  hits : List (Nat × CombatHitEvent)

structure Stage where
  hook : Hook
  rendered : Snapshot
  /-- The effect of the last render has not run yet. -/
  pending : Bool
  impact : Impact
  /-- All events that were ever put on the feed. History. -/
  published : List (Nat × CombatHitEvent)
  /-- All events that effects were spawned for. History. -/
  shown : List (Nat × CombatHitEvent)

namespace Stage

inductive Action where
  | hook (action : Hook.Action)
  | render
  | effect (draws : Nat → ℚ)
  | floaterDone (id : Nat)
  | burstDone (id : Nat)

variable (numeral : ℚ → String)

/-- A pending effect runs before the next render. -/
def step (stage : Stage) : Action → Option Stage
  | .hook action => (stage.hook.step action).map fun after =>
      { stage with hook := after, published := stage.published ++ Feeds.news stage.hook.hitId after.combatHits }
  | .render => if stage.pending then none else some { stage with
      rendered := ⟨stage.hook.combat.encounterRef.map EncounterObject.timestamp, stage.hook.combatHits⟩
      pending := true }
  | .effect draws => if stage.pending then some { stage with
      pending := false
      impact := stage.impact.effect numeral draws stage.rendered.encounterId stage.rendered.hits
      shown := stage.shown ++ Feeds.fresh stage.impact.lastSeenHitId stage.rendered.hits } else none
  | .floaterDone id => some { stage with impact := stage.impact.removeFloater id }
  | .burstDone id => some { stage with impact := stage.impact.removeBurst id }

def start (player : Option Player) (stored : Option Encounter) : Stage :=
  ⟨Hook.start player stored, ⟨none, []⟩, false, .mounted, [], []⟩

def board (stage : Stage) : Feeds.Board CombatHitEvent :=
  ⟨stage.hook.combatHits, stage.hook.hitId, stage.rendered.hits, stage.impact.lastSeenHitId, stage.published,
    stage.shown⟩

variable {numeral}
variable {stage after : Stage} {action : Action} {actions : List Action}

theorem lastSeenHitId_effect (impact : Impact) (draws : Nat → ℚ) (encounterId : Option ℚ)
    (hits : List (Nat × CombatHitEvent)) :
    (impact.effect numeral draws encounterId hits).lastSeenHitId =
      Feeds.advance impact.lastSeenHitId (Feeds.fresh impact.lastSeenHitId hits) := by
  unfold Impact.effect
  dsimp only
  rw [Impact.lastSeenHitId_face]
  split
  · rename_i none
    rw [Impact.lastSeenHitId_face, none]
    rfl
  · rfl

theorem sound_step (sound : stage.board.Sound) (taken : stage.step numeral action = some after) :
    after.board.Sound := by
  cases action with
  | hook action =>
    obtain ⟨hook, moved, rfl⟩ := Option.map_eq_some_iff.mp taken
    exact sound.write (Hook.feeds_of_step moved).writes
  | render =>
    obtain ⟨_, same⟩ := Option.ite_none_left_eq_some.mp taken
    cases Option.some.inj same
    exact sound.take
  | effect draws =>
    obtain ⟨_, same⟩ := Option.ite_none_right_eq_some.mp taken
    cases Option.some.inj same
    have read := sound.read
    unfold board Feeds.Board.read at *
    dsimp only at read ⊢
    rw [lastSeenHitId_effect]
    exact read
  | floaterDone id =>
    cases Option.some.inj taken
    exact sound
  | burstDone id =>
    cases Option.some.inj taken
    exact sound

structure Good (numeral : ℚ → String) (stage : Stage) : Prop where
  sound : stage.board.Sound
  stands : stage.impact.StandsFor numeral (stage.shown.map Prod.snd)
  honest : ∀ hit ∈ stage.published, hit.2.Honest
  read : stage.pending = false → ∀ hit ∈ stage.rendered.hits, hit ∈ stage.shown

theorem good_start (player : Option Player) (stored : Option Encounter) : (start player stored).Good numeral where
  sound := Feeds.Board.sound_empty
  stands := Impact.standsFor_mounted
  honest _ present := (List.not_mem_nil present).elim
  read _ _ present := (List.not_mem_nil present).elim

theorem Good.step (good : stage.Good numeral) (taken : stage.step numeral action = some after) :
    after.Good numeral := by
  have sound := sound_step good.sound taken
  cases action with
  | hook action =>
    obtain ⟨hook, moved, rfl⟩ := Option.map_eq_some_iff.mp taken
    refine ⟨sound, good.stands, fun hit present => ?_, good.read⟩
    rcases List.mem_append.mp present with old | new
    · exact good.honest hit old
    · rcases (Hook.feeds_of_step moved).honest (List.mem_of_mem_filter new) with listed | honest
      · exact good.honest hit (good.sound.numbers.ends.subset listed)
      · exact honest
  | render =>
    obtain ⟨_, same⟩ := Option.ite_none_left_eq_some.mp taken
    cases Option.some.inj same
    exact ⟨sound, good.stands, good.honest, nofun⟩
  | effect draws =>
    obtain ⟨_, same⟩ := Option.ite_none_right_eq_some.mp taken
    cases Option.some.inj same
    refine ⟨sound, ?_, good.honest, fun _ hit present => good.sound.mem_handled_read present⟩
    rw [List.map_append]
    exact good.stands.effect draws _ _
  | floaterDone id =>
    cases Option.some.inj taken
    exact ⟨sound, { good.stands.sublist List.filter_sublist (List.Sublist.refl _) with }, good.honest, good.read⟩
  | burstDone id =>
    cases Option.some.inj taken
    exact ⟨sound, { good.stands.sublist (List.Sublist.refl _) List.filter_sublist with }, good.honest, good.read⟩

theorem good_of_run {player : Option Player} {stored : Option Encounter}
    (run : Run (step numeral) (fun _ _ => True) (start player stored) actions stage) : stage.Good numeral :=
  run.invariant (Good numeral) (good_start player stored) fun _ _ _ good _ taken => good.step taken

/-- Over every interleaving of the fight with renders, effects and ending animations: every event gets its effects at
most once, in the order of publishing, and once the effect of a render has run, every event that the render saw has
got them. Every floating text and every burst on screen stands for an event of its own. -/
theorem run_effects_once {player : Option Player} {stored : Option Encounter}
    (run : Run (step numeral) (fun _ _ => True) (start player stored) actions stage) :
    Feeds.Rising stage.shown ∧ (∀ hit ∈ stage.shown, hit ∈ stage.published) ∧ Feeds.Rising stage.published ∧
      (stage.pending = false → ∀ hit ∈ stage.rendered.hits, hit ∈ stage.shown) ∧
      stage.impact.StandsFor numeral (stage.shown.map Prod.snd) := by
  have good := good_of_run run
  exact ⟨good.sound.rising, good.sound.real, good.sound.numbers.rising, good.read, good.stands⟩

/-- Over every interleaving, the animations started are those of the events shown, in their order; among them the modal
shakes exactly for the blows that took hit points. The bursts spawned are one for each of those, and for each cast on
a stat, in their order. -/
theorem run_shakes_for_damage {player : Option Player} {stored : Option Encounter}
    (run : Run (step numeral) (fun _ _ => True) (start player stored) actions stage) :
    stage.impact.started = stage.shown.flatMap (fun hit => Impact.cues hit.2) ∧
    List.Forall₂ (fun event shown => Impact.burst event shown.id = some shown)
      ((stage.shown.map Prod.snd).filter Impact.hasBurst) stage.impact.spawned ∧ ∀ hit ∈ stage.shown,
      ((∃ magnitude, .shake magnitude ∈ Impact.cues hit.2) ↔ hit.2.Blow ∧ 0 < hit.2.amount) ∧
      (∀ magnitude, .shake magnitude ∈ Impact.cues hit.2 →
        Impact.baseMagnitude ≤ magnitude ∧ magnitude ≤ Impact.maxMagnitude) ∧
      (Impact.hasBurst hit.2 = true ↔ hit.2.Blow ∧ 0 < hit.2.amount ∨ hit.2.Cast) := by
  have good := good_of_run run
  refine ⟨good.stands.started.trans (List.flatMap_map _ _ _), good.stands.spawned, fun hit present => ?_⟩
  have honest := good.honest hit (good.sound.real hit present)
  obtain ⟨shakes, bounded⟩ := Impact.shakes_iff honest
  exact ⟨shakes, bounded, Impact.hasBurst_iff honest⟩

def firstBlow : List Action :=
  [.hook (.tick (Hook.stroll 60 (some Hook.firstRoll))), .hook (.fight fun _ => none),
    .hook (.ability Hook.arcaneSurge (9 / 10) fun _ => none), .render, .hook (.fireCounter (9 / 10)),
    .effect fun _ => 1 / 2, .render]

/-- One blow of two is on screen; the answer waits for the effect of its own render. -/
theorem run_effects_once_firstBlow : ∃ stage,
    Run (step fun amount => toString amount.num) (fun _ _ => True) (start Hook.mage none) firstBlow stage ∧
      stage.published.length = 2 ∧ stage.shown.length = 1 ∧ stage.impact.floaters.length = 1 ∧
      Feeds.Rising stage.shown := by
  have executed : ∃ stage,
      Run (step fun amount => toString amount.num) (fun _ _ => True) (start Hook.mage none) firstBlow stage ∧
        stage.published.length = 2 ∧ stage.shown.length = 1 ∧ stage.impact.floaters.length = 1 :=
    Run.exists_of_exec (by decide +kernel)
  obtain ⟨stage, run, published, shown, floaters⟩ := executed
  exact ⟨stage, run, published, shown, floaters, (run_effects_once run).1⟩

theorem run_shakes_for_damage_firstBlow : ∃ stage,
    Run (step fun amount => toString amount.num) (fun _ _ => True) (start Hook.mage none) firstBlow stage ∧
      stage.shown.length = 1 ∧ stage.impact.spawned.length = 1 ∧ ∀ hit ∈ stage.shown,
        ((∃ magnitude, .shake magnitude ∈ Impact.cues hit.2) ↔ hit.2.Blow ∧ 0 < hit.2.amount) := by
  have executed : ∃ stage,
      Run (step fun amount => toString amount.num) (fun _ _ => True) (start Hook.mage none) firstBlow stage ∧
        stage.shown.length = 1 ∧ stage.impact.spawned.length = 1 := Run.exists_of_exec (by decide +kernel)
  obtain ⟨stage, run, shown, spawned⟩ := executed
  exact ⟨stage, run, shown, spawned, fun hit present => ((run_shakes_for_damage run).2.2 hit present).1⟩

end Stage

end WalkingRpg
