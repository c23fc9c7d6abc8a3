import WalkingRpg.Encounter.HitFeed
import WalkingRpg.Library.Feed
import WalkingRpg.Models.CombatText

/-! The combat log of the hook, beside its hit feed.

The log is a second piece of state that no handler reads. Its writes follow the control
flow of the handlers, so they are given here handler by handler, and the log is laid over
the hook as it is.
-/

set_option autoImplicit false

namespace WalkingRpg

open Runs (Run)
open Feeds (numbered)

/-- What a step does to the log: lines at its end, or an empty log. -/
inductive LogMove where
  | write (lines : List CombatLogEntry)
  | reset

def creatureDefeat : CombatLogEntry := { kind := .defeat, actor := .player, target := some .creature }

def playerDefeat : CombatLogEntry := { kind := .defeat, actor := .creature, target := some .player }

namespace Hook

def victoryLog (hook : Hook) (playerToUse : Option Player) : List CombatLogEntry :=
  match playerToUse.or hook.playerRef, hook.combat.encounterRef with
  | some _, some _ => if hook.combat.victoryProcessed then [] else [creatureDefeat]
  | _, _ => []

def fleeLog (hook : Hook) : LogMove :=
  if hook.combat.fleeProcessed || hook.combat.counterPending then .write [] else .reset

def fightLog (hook : Hook) : LogMove :=
  match hook.combat.encounterRef, hook.playerRef with
  | some encounter, some player =>
    if player.isDefeated then .write []
    else if (hook.creatureOf encounter).isDefeated then .write (hook.victoryLog none)
    else if hook.combat.playerCombatState.isSome then .write [] else .reset
  | _, _ => .write []

def abilityLog (hook : Hook) (ability : Ability) (draw : ℚ) : List CombatLogEntry :=
  match hook.combat.encounterRef, hook.playerRef, hook.combat.playerCombatState with
  | some encounter, some player, some state =>
    if hook.combat.victoryProcessed || hook.combat.killBeatPending || hook.combat.counterPending then []
    else if (hook.creatureOf encounter).isDefeated then hook.victoryLog none
    else if ability.resourceCost > state.resource then []
    else turnLog player (hook.creatureOf encounter) state hook.combat.creatureCombatState ability
      hook.combat.creatureDodgeStreak draw
  | _, _, _ => []

def autoResolveLog (hook : Hook) : List CombatLogEntry :=
  match hook.playerRef, hook.combat.encounterRef with
  | some player, some encounter =>
    if isEliteCreature (hook.creatureOf encounter) then [] else hook.victoryLog (some player)
  | _, _ => []

def counterLog (hook : Hook) (beat : CounterBeat) (draw : ℚ) : List CombatLogEntry :=
  match beat.brace, hook.playerRef with
  | some brace, some player =>
    if hook.combat.encounterRef.map EncounterObject.ref ≠ beat.scheduled then []
    else
      let creature := hook.creatures brace.creature
      let result := counterStrike player creature brace.creatureAttack brace.playerDefense
        hook.combat.playerDodgeStreak draw
      strikeLog player creature brace.creatureAttack brace.playerDefense hook.combat.playerDodgeStreak draw ::
        if result.player.isDefeated then [playerDefeat] else []
  | _, _ => []

def narration (hook : Hook) : Action → LogMove
  | .tick tick => if hook.autoFlees tick then hook.fleeLog else .write []
  | .fight _ => hook.fightLog
  | .ability ability draw _ => .write (hook.abilityLog ability draw)
  | .flee => hook.fleeLog
  | .autoResolve _ => .write hook.autoResolveLog
  | .fireKillBeat _ => .write ((hook.combat.killBeatTimer.map fun beat => hook.victoryLog (some beat.player)).getD [])
  | .fireCounter draw => .write ((hook.combat.counterTimer.map fun beat => hook.counterLog beat draw).getD [])
  | .switchAccount => .reset
  | _ => .write []

/-- A line that tells of a hit, and not of a defeat. -/
def tellsHit (line : CombatLogEntry) : Bool := line.kind ≠ .defeat

/-- An ability that heals does so in whole points. -/
def Action.healsWhole : Action → Bool
  | .ability cast _ _ => cast.healsWhole
  | _ => true

/-- What a step does to the hit feed, against what it does to the log. -/
inductive FeedMoves (hook : Hook) (action : Action) (after : Hook) : LogMove → Prop where
  | told {lines : List CombatLogEntry} (events : List CombatHitEvent) :
      after.combatHits = hook.combatHits ++ numbered hook.hitId events →
      after.hitId = hook.hitId + events.length →
      List.Forall₂ Narrates (lines.filter tellsHit) events →
      (∀ event ∈ events, event.Honest) → (action.healsWhole = true → ∀ event ∈ events, event.WholeHeal) →
      FeedMoves hook action after (.write lines)
  | cleared : after.combatHits = [] → after.hitId = hook.hitId → FeedMoves hook action after .reset

structure SameFeed (hook after : Hook) : Prop where
  hits : after.combatHits = hook.combatHits
  hitId : after.hitId = hook.hitId

variable {hook after : Hook} {action : Action} {lines : List CombatLogEntry}

theorem SameFeed.moves (same : SameFeed hook after) (defeats : lines.filter tellsHit = []) :
    FeedMoves hook action after (.write lines) := by
  refine .told [] ?_ same.hitId (by rw [defeats]; exact .nil) (fun _ present => by cases present)
    fun _ _ present => by cases present
  rw [same.hits, Feeds.numbered_nil, List.append_nil]

theorem SameFeed.quiet (same : SameFeed hook after) : FeedMoves hook action after (.write []) := same.moves rfl

theorem FeedMoves.and_then {middle : Hook} {move : LogMove} (moves : FeedMoves hook action middle move)
    (same : SameFeed middle after) : FeedMoves hook action after move := by
  cases moves with
  | told events hits next told honest heals =>
    exact .told events (same.hits.trans hits) (same.hitId.trans next) told honest heals
  | cleared hits next => exact .cleared (same.hits.trans hits) (same.hitId.trans next)

theorem FeedMoves.of_same {middle : Hook} {move : LogMove} (moves : FeedMoves middle action after move)
    (same : SameFeed hook middle) : FeedMoves hook action after move := by
  cases moves with
  | told events hits next told honest heals =>
    rw [same.hits, same.hitId] at hits
    rw [same.hitId] at next
    exact .told events hits next told honest heals
  | cleared hits next => exact .cleared hits (next.trans same.hitId)

theorem FeedMoves.writes {move : LogMove} (moves : FeedMoves hook action after move) :
    Feeds.Writes hook.combatHits hook.hitId after.combatHits after.hitId := by
  cases moves with
  | told events hits next =>
    rw [hits, next]
    exact .published events
  | cleared hits next =>
    rw [hits, next]
    exact .dropped

theorem FeedMoves.honest {move : LogMove} (moves : FeedMoves hook action after move) {hit : Nat × CombatHitEvent}
    (present : hit ∈ after.combatHits) : hit ∈ hook.combatHits ∨ hit.2.Honest := by
  cases moves with
  | told events hits _ _ honest =>
    rw [hits] at present
    refine (List.mem_append.mp present).imp id fun new => honest hit.2 ?_
    have listed := List.mem_map_of_mem (f := Prod.snd) new
    rwa [Feeds.map_snd_numbered] at listed
  | cleared hits =>
    rw [hits] at present
    cases present

theorem feed_pushHits (hook : Hook) (events : List CombatHitEvent) :
    (hook.pushHits events).combatHits = hook.combatHits ++ numbered hook.hitId events ∧
      (hook.pushHits events).hitId = hook.hitId + events.length := by
  unfold pushHits
  induction events generalizing hook with
  | nil => exact ⟨(List.append_nil _).symm, rfl⟩
  | cons event rest ih =>
    obtain ⟨hits, next⟩ := ih (hook.pushHit event)
    rw [List.foldl_cons, hits, next, Feeds.numbered_cons, List.length_cons]
    refine ⟨?_, Nat.add_right_comm _ _ _⟩
    rw [pushHit, List.append_assoc]
    rfl

theorem feed_victory (hook : Hook) (playerToUse : Option Player) (loot : LootRoll) :
    FeedMoves hook action (hook.handleVictory playerToUse loot) (.write (hook.victoryLog playerToUse)) := by
  unfold handleVictory victoryLog
  cases playerToUse.or hook.playerRef <;> cases hook.combat.encounterRef <;> try exact SameFeed.quiet ⟨rfl, rfl⟩
  dsimp only
  split
  · exact SameFeed.quiet ⟨rfl, rfl⟩
  · exact SameFeed.moves ⟨rfl, rfl⟩ rfl

theorem feed_flee (hook : Hook) : FeedMoves hook action hook.handleFlee hook.fleeLog := by
  unfold handleFlee fleeLog
  split
  · exact SameFeed.quiet ⟨rfl, rfl⟩
  · dsimp only
    split <;> exact .cleared rfl rfl

theorem feed_openCombat (hook : Hook) (player : Player) :
    FeedMoves hook action (hook.openCombat player)
      (if hook.combat.playerCombatState.isSome then .write [] else .reset) := by
  unfold openCombat
  cases opened : hook.combat.playerCombatState with
  | some state => exact SameFeed.quiet ⟨rfl, rfl⟩
  | none => exact .cleared rfl rfl

theorem feed_fight (hook : Hook) (loot : LootRoll) : FeedMoves hook action (hook.handleFight loot) hook.fightLog := by
  unfold handleFight fightLog
  cases hook.combat.encounterRef <;> cases hook.playerRef <;> try exact SameFeed.quiet ⟨rfl, rfl⟩
  dsimp only
  split
  · exact SameFeed.quiet ⟨rfl, rfl⟩
  split
  · exact feed_victory hook none loot
  · exact feed_openCombat hook _

theorem tellsHit_of_narrates {line : CombatLogEntry} {event : CombatHitEvent} (narrates : Narrates line event) :
    tellsHit line = true := by
  rw [narrates]
  unfold CombatHitEvent.line
  split <;> rfl

theorem filter_tellsHit {events : List CombatHitEvent} (told : List.Forall₂ Narrates lines events) :
    lines.filter tellsHit = lines := by
  induction told with
  | nil => rfl
  | cons narrates _ ih => rw [List.filter_cons_of_pos (tellsHit_of_narrates narrates), ih]

theorem feed_playAbility (hook : Hook) (encounter : EncounterObject) (player : Player) (state : CombatantState)
    (ability : Ability) (draw : ℚ) (loot : LootRoll) :
    FeedMoves hook (.ability ability draw loot) (hook.playAbility encounter player state ability draw).1
      (.write (turnLog player (hook.creatureOf encounter) state hook.combat.creatureCombatState ability
        hook.combat.creatureDodgeStreak draw)) := by
  have told := narrates_turnLog player (hook.creatureOf encounter) state hook.combat.creatureCombatState ability
    hook.combat.creatureDodgeStreak draw
  obtain ⟨hits, next⟩ := feed_pushHits hook (playTurn player (hook.creatureOf encounter) state
    hook.combat.creatureCombatState ability hook.combat.creatureDodgeStreak draw).hits
  obtain ⟨_, _, _, _, _, played⟩ := hook.playAbility_frame encounter player state ability draw
  rw [played]
  refine .told _ hits next ?_ (honest_playTurn _ _ _ _ _ _ _) fun heals => wholeHeal_playTurn heals _ _ _ _ _ _
  rw [filter_tellsHit told]
  exact told

theorem feed_ability (hook : Hook) (ability : Ability) (draw : ℚ) (loot : LootRoll) :
    FeedMoves hook (.ability ability draw loot) (hook.handleAbility ability draw loot).1
      (.write (hook.abilityLog ability draw)) := by
  unfold handleAbility abilityLog
  cases hook.combat.encounterRef <;> cases hook.playerRef <;> cases hook.combat.playerCombatState <;>
    try exact SameFeed.quiet ⟨rfl, rfl⟩
  dsimp only
  split
  · exact SameFeed.quiet ⟨rfl, rfl⟩
  split
  · exact (feed_victory hook none loot).and_then ⟨rfl, rfl⟩
  split
  · exact SameFeed.quiet ⟨rfl, rfl⟩
  · exact feed_playAbility hook _ _ _ ability draw loot

theorem feed_autoResolve (hook : Hook) (loot : LootRoll) :
    FeedMoves hook action (hook.handleAutoResolve loot) (.write hook.autoResolveLog) := by
  unfold handleAutoResolve autoResolveLog
  cases hook.playerRef <;> cases hook.combat.encounterRef <;> try exact SameFeed.quiet ⟨rfl, rfl⟩
  rename_i player encounter
  dsimp only
  split
  · exact SameFeed.quiet ⟨rfl, rfl⟩
  · -- The modals are closed before the victory, which reads none of them.
    exact (feed_victory (hook.closeModals.log (.autoResolved encounter.eid)) (some player) loot).of_same ⟨rfl, rfl⟩

theorem feed_strike (hook : Hook) (beat : CounterBeat) (brace : Brace) (player : Player) (draw : ℚ) :
    let creature := hook.creatures brace.creature
    let result := counterStrike player creature brace.creatureAttack brace.playerDefense
      hook.combat.playerDodgeStreak draw
    FeedMoves hook action (hook.disarmCounter.strike beat brace player draw)
      (.write (strikeLog player creature brace.creatureAttack brace.playerDefense hook.combat.playerDodgeStreak draw ::
        if result.player.isDefeated then [playerDefeat] else [])) := by
  intro creature result
  have told : Narrates (strikeLog player creature brace.creatureAttack brace.playerDefense
      hook.combat.playerDodgeStreak draw) result.hit := narrates_strikeLog _ _ _ _ _ _
  have honest : ∀ event ∈ [result.hit], event.Honest := fun event present =>
    List.mem_singleton.mp present ▸ honest_counterStrike _ _ _ _ _ _
  have heals : ∀ event ∈ [result.hit], event.WholeHeal := fun event present heal => by
    cases List.mem_singleton.mp present
    cases heal
  obtain ⟨_, _, _, struck⟩ := hook.disarmCounter.strike_frame beat brace player draw
  rw [struck]
  refine .told [result.hit] rfl rfl ?_ honest fun _ => heals
  rw [List.filter_cons_of_pos (tellsHit_of_narrates told)]
  split <;> exact .cons told .nil

theorem feed_counter (hook : Hook) (beat : CounterBeat) (draw : ℚ) :
    FeedMoves hook action (hook.fireCounter beat draw) (.write (hook.counterLog beat draw)) := by
  unfold fireCounter counterLog
  cases beat.brace <;> cases hook.playerRef <;> try exact SameFeed.quiet ⟨rfl, rfl⟩
  dsimp only
  split
  · exact SameFeed.quiet ⟨rfl, rfl⟩
  · exact feed_strike hook beat _ _ draw

theorem feed_tick (hook : Hook) (tick : Tick) :
    FeedMoves hook action (hook.handleDistanceUpdate tick) (if hook.autoFlees tick then hook.fleeLog else .write []) := by
  have walked : SameFeed hook (hook.walk tick.incremental) ∧ (hook.walk tick.incremental).combat = hook.combat := by
    obtain ⟨_, _, walks⟩ := hook.walk_frame tick.incremental
    rw [walks]
    exact ⟨⟨rfl, rfl⟩, rfl⟩
  obtain ⟨same, combat⟩ := walked
  have flees : (hook.walk tick.incremental).autoFlees tick = hook.autoFlees tick := by
    unfold autoFlees
    rw [combat]
  have lines : (hook.walk tick.incremental).fleeLog = hook.fleeLog := by
    unfold fleeLog
    rw [combat]
  unfold handleDistanceUpdate onDistanceEncounterUpdate
  rw [← flees, ← lines]
  split
  · exact (feed_flee (hook.walk tick.incremental)).of_same same
  · refine FeedMoves.of_same ?_ same
    split
    · obtain ⟨_, _, _, _, _, _, _, routed⟩ := routeEncounter_frame (hook.walk tick.incremental) tick _
      rw [routed]
      exact SameFeed.quiet ⟨rfl, rfl⟩
    · exact SameFeed.quiet ⟨rfl, rfl⟩

theorem feeds_of_step (taken : hook.step action = some after) : FeedMoves hook action after (hook.narration action) := by
  cases does_of_step taken with
  | tick tick => exact feed_tick hook tick
  | fight loot => exact feed_fight hook loot
  | ability ability draw loot => exact feed_ability hook ability draw loot
  | flee => exact feed_flee hook
  | autoResolve loot => exact feed_autoResolve hook loot
  | fireKillBeat loot armed =>
    unfold narration
    rw [armed]
    exact (feed_victory hook.disarmKillBeat _ loot).of_same ⟨rfl, rfl⟩
  | fireCounter draw armed =>
    unfold narration
    rw [armed]
    exact feed_counter hook _ draw
  | switchAccount => exact .cleared rfl rfl
  | closeCombat | refresh | refreshResume | engage | engageResume =>
    simp only [handleCloseCombatModal, refreshHeldFoe, refreshResume, engageHeldFoe, engageResume]
    repeat' split
    all_goals exact SameFeed.quiet ⟨rfl, rfl⟩
  | holdResume draw loot _ =>
    unfold holdResume
    split
    · obtain ⟨_, _, resolved⟩ := resolvePassiveEncounter_frame (hook.setHolds _) (hook.creatureOf _) .idle draw loot
      rw [resolved]
      exact SameFeed.quiet ⟨rfl, rfl⟩
    · exact SameFeed.quiet ⟨rfl, rfl⟩
  | holdFinish draw loot _ =>
    unfold holdFinish
    dsimp only
    split
    · exact SameFeed.quiet ⟨rfl, rfl⟩
    · obtain ⟨_, _, resolved⟩ := resolvePassiveEncounter_frame (hook.setHolds _) (hook.creatureOf _) .idle draw loot
      rw [resolved]
      exact SameFeed.quiet ⟨rfl, rfl⟩
  | minimize | expand | fireReveal | dismissReward | refreshRead | engageClear | holdRead | holdWrite | render |
      setPlayer | wipeStore => exact SameFeed.quiet ⟨rfl, rfl⟩

end Hook

structure Narrated where
  hook : Hook
  combatLog : List (Nat × CombatLogEntry)
  logId : Nat

namespace Narrated

def tell (narrated : Narrated) (after : Hook) : LogMove → Narrated
  | .write lines =>
    ⟨after, narrated.combatLog ++ numbered narrated.logId lines, narrated.logId + lines.length⟩
  | .reset => ⟨after, [], narrated.logId⟩

def step (narrated : Narrated) (action : Hook.Action) : Option Narrated :=
  (narrated.hook.step action).map fun after => narrated.tell after (narrated.hook.narration action)

def start (player : Option Player) (stored : Option Encounter) : Narrated := ⟨Hook.start player stored, [], 0⟩

def hitLines (narrated : Narrated) : List CombatLogEntry := (narrated.combatLog.map Prod.snd).filter Hook.tellsHit

def events (narrated : Narrated) : List CombatHitEvent := narrated.hook.combatHits.map Prod.snd

variable {narrated after : Narrated} {action : Hook.Action} {actions : List Hook.Action}

@[simp] theorem hook_tell (narrated : Narrated) (after : Hook) (move : LogMove) :
    (narrated.tell after move).hook = after := by
  cases move <;> rfl

theorem hook_step (taken : narrated.step action = some after) : narrated.hook.step action = some after.hook ∧
    after = narrated.tell after.hook (narrated.hook.narration action) := by
  obtain ⟨hook, moved, told⟩ := Option.map_eq_some_iff.mp taken
  subst told
  rw [hook_tell]
  exact ⟨moved, rfl⟩

structure Matches (narrated : Narrated) : Prop where
  told : List.Forall₂ Narrates narrated.hitLines narrated.events
  honest : ∀ event ∈ narrated.events, event.Honest ∧ event.WholeHeal
  lines : ∃ written, Feeds.Numbers written narrated.combatLog narrated.logId
  hits : ∃ published, Feeds.Numbers published narrated.hook.combatHits narrated.hook.hitId

theorem matches_start (player : Option Player) (stored : Option Encounter) : (start player stored).Matches :=
  ⟨.nil, fun _ present => (List.not_mem_nil present).elim, ⟨[], .start⟩, ⟨[], .start⟩⟩

theorem Matches.step (matching : narrated.Matches) (heals : action.healsWhole = true)
    (taken : narrated.step action = some after) : after.Matches := by
  obtain ⟨moved, same⟩ := hook_step taken
  obtain ⟨written, lines⟩ := matching.lines
  obtain ⟨published, hits⟩ := matching.hits
  have moves := Hook.feeds_of_step moved
  generalize narrated.hook.narration action = move at moves same
  cases moves with
  | @told told events shown next tells honest whole =>
    have log : after.combatLog = narrated.combatLog ++ numbered narrated.logId told := by rw [same]; rfl
    have count : after.logId = narrated.logId + told.length := by rw [same]; rfl
    have shownEvents : after.events = narrated.events ++ events := by
      unfold Narrated.events
      rw [shown, List.map_append, Feeds.map_snd_numbered]
    exact {
      told := by
        rw [shownEvents, hitLines, log, List.map_append, Feeds.map_snd_numbered, List.filter_append]
        exact List.rel_append matching.told tells
      honest := by
        rw [shownEvents]
        intro event present
        exact (List.mem_append.mp present).elim (matching.honest event) fun new => ⟨honest event new, whole heals event new⟩
      lines := by
        rw [log, count]
        exact ⟨_, lines.writes (.published told)⟩
      hits := by
        rw [shown, next]
        exact ⟨_, hits.writes (.published events)⟩ }
  | cleared shown next =>
    have log : after.combatLog = [] := by rw [same]; rfl
    have count : after.logId = narrated.logId := by rw [same]; rfl
    have silent : after.events = [] := by rw [events, shown]; rfl
    exact {
      told := by
        rw [silent, hitLines, log]
        exact .nil
      honest := by
        rw [silent]
        exact fun _ present => (List.not_mem_nil present).elim
      lines := by
        rw [log, count]
        exact ⟨_, lines.writes .dropped⟩
      hits := by
        rw [shown, next]
        exact ⟨_, hits.writes .dropped⟩ }

/-- In every run whose abilities heal in whole points, the log without its lines on defeats and the hit feed tell the
same story, line by line: the same numbers, dodges and changes of stats, for every way to print a number, letters
and names. No two lines, and no two events, on screen share an id. -/
theorem run_log_and_floaters_agree {player : Option Player} {stored : Option Encounter}
    (run : Run step (fun _ action => action.healsWhole = true) (start player stored) actions narrated)
    (numeral : ℚ → String) (letters : LetterCase) (names : CombatLogNames) :
    List.Forall₂ (SameStory numeral letters names) narrated.hitLines narrated.events ∧
      Feeds.Rising narrated.combatLog ∧ Feeds.Rising narrated.hook.combatHits := by
  have matching : narrated.Matches := run.invariant Matches (matches_start player stored)
    fun _ _ _ held heals taken => held.step heals taken
  obtain ⟨written, lines⟩ := matching.lines
  obtain ⟨published, hits⟩ := matching.hits
  refine ⟨?_, lines.rising.sublist lines.ends.sublist, hits.rising.sublist hits.ends.sublist⟩
  have paired : List.Forall₂ (fun event line => (event.Honest ∧ event.WholeHeal) ∧
      Narrates line event) narrated.events narrated.hitLines :=
    (List.forall₂_and_left _ _).mpr ⟨matching.honest, matching.told.flip⟩
  exact (paired.imp fun _ _ pair => sameStory_of_narrates numeral letters names pair.1.1 pair.1.2 pair.2).flip

/-- The three blows of the duel. -/
theorem run_log_and_floaters_agree_duel : ∃ narrated,
    Run step (fun _ action => action.healsWhole = true) (start Hook.mage none) Hook.duel narrated ∧
      narrated.events.length = 3 ∧
      List.Forall₂ (SameStory (fun amount => toString amount.num) ⟨fun letter => letter.toUpper.toString, String.toLower⟩
        ⟨"You", "Forest Sprite"⟩) narrated.hitLines narrated.events := by
  have executed : ∃ narrated,
      Run step (fun _ action => action.healsWhole = true) (start Hook.mage none) Hook.duel narrated ∧
        narrated.events.length = 3 := Run.exists_of_exec (by decide +kernel)
  obtain ⟨narrated, run, three⟩ := executed
  exact ⟨narrated, run, three, (run_log_and_floaters_agree run _ _ _).1⟩

end Narrated

end WalkingRpg
