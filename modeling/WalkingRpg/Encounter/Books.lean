import WalkingRpg.Encounter.Deeds
import WalkingRpg.Encounter.Frames
import WalkingRpg.Encounter.SummaryAccount
import WalkingRpg.Models.PlayerLifetime

/-! The player against what was announced, and what was announced against what was shown.

Every change of a player's totals is announced: a victory by the reveal it schedules, a passive
resolution by the entry it queues, a distance by the update that reported it, the rest by the event
of the fight. The player is what it was at the start plus the announcements. A reveal can be cleared
before it comes up, and an entry can be lost before a summary shows it; the book keeps both beside
the walk, which reads none of it.
-/

set_option autoImplicit false

namespace WalkingRpg

open Runs (Run)

structure WalkSummaryTotals where
  fought : Nat
  won : Nat
  totalXp : ℚ
  itemsFound : Nat

/-- What `WalkSummaryModal` computes from its entries. -/
def walkSummaryTotals (entries : List WalkSummaryEntry) : WalkSummaryTotals where
  fought := entries.length
  won := entries.foldl (fun n e => n + if e.won then 1 else 0) 0
  totalXp := entries.foldl (fun n e => n + e.xpGained) 0
  itemsFound := entries.foldl (fun n e => n + if e.item.isSome then 1 else 0) 0

@[simp] theorem walkSummaryTotals_cons (entry : WalkSummaryEntry) (rest : List WalkSummaryEntry) :
    walkSummaryTotals (entry :: rest) =
      { fought := (walkSummaryTotals rest).fought + 1
        won := (if entry.won then 1 else 0) + (walkSummaryTotals rest).won
        totalXp := entry.xpGained + (walkSummaryTotals rest).totalXp
        itemsFound := (if entry.item.isSome then 1 else 0) + (walkSummaryTotals rest).itemsFound } := by
  have summed {R : Type} [AddMonoid R] (value : WalkSummaryEntry → R) (entries : List WalkSummaryEntry) :
      entries.foldl (fun n e => n + value e) 0 = (entries.map value).sum := by
    rw [List.sum_eq_foldl, List.foldl_map]
  simp only [walkSummaryTotals, summed, List.length_cons, List.map_cons, List.sum_cons]

theorem itemsFound_eq_card (entries : List WalkSummaryEntry) :
    (walkSummaryTotals entries).itemsFound = (Slots.contents (entries.map WalkSummaryEntry.item)).card := by
  induction entries with
  | nil => rfl
  | cons entry rest ih =>
    rw [walkSummaryTotals_cons, List.map_cons, Slots.contents_cons, Multiset.card_add, ← ih]
    cases entry.item <;> rfl

def WalkSummaryEntry.totals (entry : WalkSummaryEntry) : Totals :=
  { encounters := 1, defeats := if entry.won then 1 else 0, experience := entry.xpGained
    items := Slots.held entry.item }

namespace PassiveResolution

variable {call : PassiveResolution}

theorem leveled_totals (regular : call.basePlayer.Regular) :
    call.leveled.Regular ∧ call.leveled.totals = call.basePlayer.totals +
      { encounters := 1, defeats := if call.outcome.won then 1 else 0, experience := call.outcome.xpGained } := by
  obtain ⟨copied, copy⟩ := Player.clone_totals regular
  have encountered := call.basePlayer.clone.totals_incrementEncounters
  rw [copy] at encountered
  unfold leveled
  cases call.outcome.won with
  | false =>
    obtain ⟨whole, leveled⟩ := Player.addExperience_totals copied.incrementEncounters call.outcome.xpGained
    refine ⟨whole, leveled.trans ?_⟩
    rw [encountered]
    ext <;> simp
  | true =>
    obtain ⟨whole, leveled⟩ := Player.addExperience_totals copied.incrementEncounters.defeatCreature
      call.outcome.xpGained
    refine ⟨whole, leveled.trans ?_⟩
    rw [Player.totals_defeatCreature, encountered]
    ext <;> simp

theorem updatedPlayer_totals (regular : call.basePlayer.Regular) (now : ℚ) :
    call.updatedPlayer.Regular ∧
      call.updatedPlayer.totals = call.basePlayer.totals + (call.walkSummaryEntry now).totals := by
  obtain ⟨whole, leveled⟩ := leveled_totals regular
  have recorded : call.item = call.dropped.filter fun item => (call.leveled.addItemToInventory item).2.isSome := rfl
  rw [updatedPlayer_eq]
  cases drop : call.dropped with
  | none =>
    refine ⟨whole.hp _, ?_⟩
    dsimp only
    rw [Player.totals_fullHeal, leveled]
    ext <;> simp [WalkSummaryEntry.totals, walkSummaryEntry, recorded, drop]
  | some item =>
    obtain ⟨stocked, owned⟩ := Player.addItemToInventory_totals whole item
    refine ⟨stocked.hp _, ?_⟩
    dsimp only
    rw [Player.totals_fullHeal, owned, leveled]
    -- The entry keeps the item exactly when the inventory took it.
    cases room : (call.leveled.addItemToInventory item).2 with
    | none =>
      have lost : call.item = none := by simp [recorded, drop, Option.filter, room]
      ext <;> simp [WalkSummaryEntry.totals, walkSummaryEntry, lost]
    | some _ =>
      have kept : call.item = some item := by simp [recorded, drop, Option.filter, room]
      ext <;> simp [WalkSummaryEntry.totals, walkSummaryEntry, kept]

end PassiveResolution

namespace Sight

def totals : Sight → Totals
  | .walked distance => { distance := distance }
  | .revealed reveal => reveal.totals
  | .recapped entry => entry.totals
  | .fled => { encounters := 1 }
  | .struck => { turns := 1 }
  | .lost => { encounters := 1 }

def distance? : Sight → Option ℚ
  | .walked distance => some distance
  | _ => none

def reveal? : Sight → Option RewardReveal
  | .revealed reveal => some reveal
  | _ => none

def recap? : Sight → Option WalkSummaryEntry
  | .recapped entry => some entry
  | _ => none

def ends : Sight → Bool
  | .fled => true
  | .lost => true
  | _ => false

def strikes : Sight → Bool
  | .struck => true
  | _ => false

theorem sum_totals (sights : List Sight) : (sights.map totals).sum =
    let recaps := sights.filterMap recap?
    let reveals := sights.filterMap reveal?
    let recap := walkSummaryTotals recaps
    { distance := (sights.filterMap distance?).sum
      encounters := recap.fought + reveals.length + sights.countP ends
      defeats := recap.won + reveals.length
      turns := sights.countP strikes
      experience := recap.totalXp + (reveals.map RewardReveal.xpGained).sum
      items := Slots.contents (recaps.map WalkSummaryEntry.item) + (reveals.map RewardReveal.gained).sum } := by
  induction sights with
  | nil =>
    show ({} : Totals) = _
    simp [walkSummaryTotals]
  | cons sight rest ih =>
    rw [List.map_cons, List.sum_cons, ih]
    cases sight with
    | revealed reveal =>
      ext <;> simp [totals, RewardReveal.totals, List.filterMap_cons, distance?, reveal?, recap?, ends, strikes] <;> ring
    | recapped entry =>
      ext <;> simp [totals, WalkSummaryEntry.totals, List.filterMap_cons, distance?, reveal?, recap?, ends, strikes] <;>
        ring
    | walked | fled | struck | lost =>
      ext <;> simp [totals, List.filterMap_cons, List.countP_cons, distance?, reveal?, recap?, ends, strikes] <;> ring

end Sight

theorem Deed.apply_totals {base : Player} (regular : base.Regular) (now : ℚ) (deed : Deed) :
    (deed.apply base).Regular ∧
      (deed.apply base).totals = base.totals + ((deed.sights now base).map Sight.totals).sum := by
  obtain ⟨copied, copy⟩ := Player.clone_totals regular
  cases deed with
  | walked distance =>
    refine ⟨⟨copied.level, copied.inventory⟩, ?_⟩
    simp only [sights, List.map_cons, List.map_nil, List.sum_cons, List.sum_nil, add_zero, Sight.totals]
    rw [apply, Player.totals_addDistance, copy]
  | won creature loot =>
    simpa [apply, sights, Sight.totals] using victoryReward_totals regular creature loot
  | skipped eid creature tier draw loot =>
    have skipped := @PassiveResolution.updatedPlayer_totals ⟨eid, base, creature, tier, draw, loot⟩ regular now
    simp only [sights, List.map_cons, List.map_nil, List.sum_cons, List.sum_nil, add_zero, Sight.totals]
    exact skipped
  | fled =>
    refine ⟨copied.incrementEncounters.hp _, ?_⟩
    simp only [sights, List.map_cons, List.map_nil, List.sum_cons, List.sum_nil, add_zero, Sight.totals]
    rw [apply, Player.totals_fullHeal, Player.totals_incrementEncounters, copy]
  | acted creature playerState creatureState ability dodgeStreak draw =>
    simpa [apply, sights] using playTurn_totals regular creature playerState creatureState ability dodgeStreak draw
  | struck creature creatureAttack playerDefense dodgeStreak draw =>
    simpa [apply, sights, Sight.totals] using
      counterStrike_totals regular creature creatureAttack playerDefense dodgeStreak draw
  | fell creature creatureAttack playerDefense dodgeStreak draw =>
    obtain ⟨struck, counted⟩ := counterStrike_totals regular creature creatureAttack playerDefense dodgeStreak draw
    obtain ⟨fallen, recopied⟩ := Player.clone_totals struck
    refine ⟨(fallen.hp _).incrementEncounters, ?_⟩
    simp only [sights, List.map_cons, List.map_nil, List.sum_cons, List.sum_nil, add_zero, Sight.totals]
    rw [apply, Player.totals_incrementEncounters, Player.totals_fullHeal, recopied, counted, add_assoc]

theorem Deed.foldl_apply_totals {base : Player} (regular : base.Regular) (now : ℚ) (deeds : List Deed) :
    (deeds.foldl Deed.apply base).totals = base.totals + ((Deed.sightsOf now base deeds).map Sight.totals).sum := by
  induction deeds generalizing base with
  | nil => exact (add_zero _).symm
  | cons deed rest ih =>
    obtain ⟨kept, added⟩ := deed.apply_totals regular now
    rw [List.foldl_cons, ih kept, added, sightsOf, List.map_append, List.sum_append, add_assoc]

namespace Hook

variable {hook after : Hook} {action : Action} {now : ℚ} {base : Player} {deeds : List Deed}

/-- A kill-beat timer that resolves finds the totals it captured. -/
def CapturesTotals (hook : Hook) (action : Action) : Prop :=
  action.keepsPlayer = true ∧ (action.firesKillBeat = true →
    ∀ beat ∈ hook.combat.killBeatTimer, hook.combat.encounterRef.isSome = true →
      hook.combat.victoryProcessed = false → hook.playerRef.map Player.totals = some beat.player.totals)

instance (hook : Hook) (action : Action) : Decidable (hook.CapturesTotals action) :=
  inferInstanceAs (Decidable (_ ∧ (_ → _)))

theorem Performs.sights_eq (performs : Performs hook action now after base (hook.outside now action) deeds) :
    hook.sights action now after = Deed.sightsOf now base deeds := by
  obtain ⟨news, trace, shown⟩ := performs.shown
  rw [sights, trace, List.drop_left]
  exact shown

/-- The reveals that a step announces. -/
def announces (hook : Hook) (action : Action) (now : ℚ) (after : Hook) : List RewardReveal :=
  (hook.sights action now after).filterMap Sight.reveal?

/-- The reveal that a step brings up. -/
def uncovers (hook : Hook) : Action → List RewardReveal
  | .fireReveal => hook.rewardRevealTimer.toList
  | _ => []

/-- The reveal whose timer a further payment clears. -/
def cancels (hook : Hook) (action : Action) (now : ℚ) (after : Hook) : List RewardReveal :=
  if (hook.announces action now after).isEmpty then [] else hook.rewardRevealTimer.toList

theorem filterMap_recap_sights (hook : Hook) (action : Action) (now : ℚ) (after : Hook) :
    (hook.sights action now after).filterMap Sight.recap? =
      ((hook.passiveResolution action).map fun call => call.walkSummaryEntry now).toList := by
  have fight (reveal : Option RewardReveal) (news : List Event) :
      (news.flatMap (Event.sights reveal)).filterMap Sight.recap? = [] := by
    refine List.filterMap_eq_nil_iff.mpr fun sight seen => ?_
    obtain ⟨event, _, shown⟩ := List.mem_flatMap.mp seen
    cases event <;> cases reveal <;> simp [Event.sights] at shown <;> subst shown <;> rfl
  rw [sights, List.filterMap_append, fight, List.append_nil]
  unfold outside
  cases hook.passiveResolution action <;> cases action <;> rfl

theorem announces_eq (news : List Event) (trace : after.trace = hook.trace ++ news) :
    hook.announces action now after =
      (news.filter Event.isPaid).flatMap fun _ => after.rewardRevealTimer.toList := by
  have outside : (hook.outside now action).filterMap Sight.reveal? = [] := by
    unfold Hook.outside
    cases hook.passiveResolution action <;> cases action <;> rfl
  rw [announces, sights, List.filterMap_append, outside, List.nil_append, trace, List.drop_left]
  clear trace
  induction news with
  | nil => rfl
  | cons event rest ih =>
    rw [List.flatMap_cons, List.filterMap_append, ih]
    cases event with
    | paid =>
      show ((after.rewardRevealTimer.map Sight.revealed).toList.filterMap Sight.reveal?) ++ _ =
        after.rewardRevealTimer.toList ++ _
      cases after.rewardRevealTimer <;> rfl
    | _ => rfl

theorem announces_plain {news : List Event} (plain : ∀ event ∈ news, event.isPaid = false)
    (trace : after.trace = hook.trace ++ news) : hook.announces action now after = [] := by
  rw [announces_eq news trace, List.filter_eq_nil_iff.mpr fun event known => by simp [plain event known]]
  rfl

theorem announces_of_step (stays : action.keepsPlayer = true) (now : ℚ) (taken : hook.step action = some after) :
    hook.announces action now after = [] ∧
        hook.rewardRevealTimer.toList = hook.uncovers action ++ after.rewardRevealTimer.toList ∨
      action.pays = true ∧ hook.uncovers action = [] ∧
        hook.announces action now after = after.rewardRevealTimer.toList ∧ hook.announces action now after ≠ [] := by
  by_cases fires : action = .fireReveal
  · subst fires
    cases does_of_step taken with
    | fireReveal armed =>
      exact .inl ⟨announces_plain (fun _ known => by cases known) (List.append_nil _).symm, (List.append_nil _).symm⟩
  have unmoved : hook.uncovers action = [] := by
    cases action with
    | fireReveal => exact absurd rfl fires
    | _ => rfl
  rw [unmoved]
  cases reveals_of_step taken with
  | quiet news plain trace _ timer => exact .inl ⟨announces_plain plain trace, by rw [timer]; rfl⟩
  | paid pays news plain trace _ timer =>
    have announced : hook.announces action now after = after.rewardRevealTimer.toList := by
      rw [announces_eq _ (trace.trans (List.append_assoc _ _ _)), List.filter_append,
        List.filter_eq_nil_iff.mpr fun event known => by simp [plain event known]]
      exact List.append_nil _
    refine .inr ⟨pays, rfl, announced, ?_⟩
    obtain ⟨reveal, armed⟩ := Option.isSome_iff_exists.mp timer
    rw [announced, armed]
    exact List.cons_ne_nil _ _
  | fired => exact absurd rfl fires
  | dismissed => exact .inl ⟨announces_plain (fun _ known => by cases known) (List.append_nil _).symm, rfl⟩
  | cleared => cases stays

theorem reveals_account (stays : action.keepsPlayer = true) (now : ℚ) (taken : hook.step action = some after) :
    (hook.rewardRevealTimer.toList : Multiset RewardReveal) + hook.announces action now after =
      hook.uncovers action + hook.cancels action now after + after.rewardRevealTimer.toList := by
  unfold cancels
  rcases announces_of_step stays now taken with ⟨silent, waits⟩ | ⟨_, unmoved, announced, some⟩
  · rw [silent, waits]
    simp
  · rw [if_neg (by simpa using some), announced, unmoved]
    simp

theorem cancels_of_unhurried (stays : action.keepsPlayer = true)
    (unhurried : action.pays = true → hook.rewardRevealTimer = none) (now : ℚ) (taken : hook.step action = some after) :
    hook.cancels action now after = [] := by
  unfold cancels
  rcases announces_of_step stays now taken with ⟨silent, _⟩ | ⟨pays, _⟩
  · rw [silent]
    rfl
  · rw [unhurried pays]
    exact ite_self _

end Hook

/-- The walk, what it has announced, and what has become of the reveals and of the entries. -/
structure Book where
  walk : Walk
  sights : List Sight
  /-- The reveals that came up, and those whose timer a further victory cleared. -/
  revealed : List RewardReveal
  cancelled : List RewardReveal
  /-- The entries that a summary showed, and those that the log lost. -/
  summarized : List WalkSummaryEntry
  lost : List WalkSummaryEntry

namespace Walk

variable {walk next : Walk} {action : Action}

def sights (walk : Walk) (action : Action) (next : Walk) : List Sight :=
  match action with
  | .hook action now => walk.hook.sights action now next.hook
  | _ => []

def uncovers (walk : Walk) : Action → List RewardReveal
  | .hook action _ => walk.hook.uncovers action
  | _ => []

def cancels (walk : Walk) (action : Action) (next : Walk) : List RewardReveal :=
  match action with
  | .hook action now => walk.hook.cancels action now next.hook
  | _ => []

/-- The player is kept, and kill beats find the totals they captured. -/
def CapturesTotals (walk : Walk) : Action → Prop
  | .hook action _ => walk.hook.CapturesTotals action
  | .removeKeys success => success = false
  | _ => True

instance (walk : Walk) : DecidablePred walk.CapturesTotals
  | .hook action _ => inferInstanceAs (Decidable (walk.hook.CapturesTotals action))
  | .removeKeys _ => inferInstanceAs (Decidable (_ = _))
  | .checkWalkSummary _ | .access _ | .checkResume | .dismissWalkSummary => .isTrue trivial

/-- No victory follows while a reveal waits, storage answers, and the log has room. -/
def Unhurried (walk : Walk) : Action → Prop
  | .hook action _ => action.pays = true → walk.hook.rewardRevealTimer = none
  | .access success => success = true ∧ walk.log.HasRoom
  | _ => True

instance (walk : Walk) : DecidablePred walk.Unhurried
  | .hook _ _ => inferInstanceAs (Decidable (_ → _ = none))
  | .access _ => inferInstanceAs (Decidable (_ ∧ _))
  | .checkWalkSummary _ | .checkResume | .dismissWalkSummary | .removeKeys _ => .isTrue trivial

theorem hook_or_same (captures : walk.CapturesTotals action) (taken : walk.step action = some next) :
    (∃ act now, action = .hook act now ∧ walk.hook.step act = some next.hook) ∨
      next.hook = walk.hook ∧ walk.resolves action = [] ∧ walk.uncovers action = [] ∧
        ∀ other, walk.sights action other = [] ∧ walk.cancels action other = [] := by
  cases takes_of_step taken with
  | @hook act after now _ stepped => exact .inl ⟨act, now, rfl, stepped⟩
  | checkWalkSummary first view => exact .inr ⟨hook_checkWalkSummary _ _, rfl, rfl, fun _ => ⟨rfl, rfl⟩⟩
  | access accessed => exact .inr ⟨hook_deliver _ _, rfl, rfl, fun _ => ⟨rfl, rfl⟩⟩
  | present found => exact .inr ⟨hook_present _ _ _, rfl, rfl, fun _ => ⟨rfl, rfl⟩⟩
  | reappend found => exact .inr ⟨hook_reappend _ _ _, rfl, rfl, fun _ => ⟨rfl, rfl⟩⟩
  | dismissWalkSummary => exact .inr ⟨rfl, rfl, rfl, fun _ => ⟨rfl, rfl⟩⟩
  | removeKeys success =>
    cases (show success = false from captures)
    exact .inr ⟨rfl, rfl, rfl, fun _ => ⟨rfl, rfl⟩⟩

end Walk

namespace Book

def step (book : Book) (action : Walk.Action) : Option Book :=
  (book.walk.step action).map fun next =>
    { walk := next
      sights := book.sights ++ book.walk.sights action next
      revealed := book.revealed ++ book.walk.uncovers action
      cancelled := book.cancelled ++ book.walk.cancels action next
      summarized := book.summarized ++ book.walk.shows action
      lost := book.lost ++ book.walk.loses action }

def opened (player : Player) (stored : Option Encounter) (content : Option WalkSummary.Content) : Book :=
  ⟨Walk.start (some player) stored content, [], [], [], [], []⟩

variable {player : Player} {stored : Option Encounter} {content : Option WalkSummary.Content}
  {book after : Book} {action : Walk.Action} {actions : List Walk.Action}

structure Balanced (player : Player) (book : Book) : Prop where
  aimed : book.walk.hook.Aimed
  regular : book.walk.hook.Every Player.Regular
  balance : ∃ saved, book.walk.hook.playerRef = some saved ∧ book.walk.hook.saved = some saved ∧
    saved.totals = player.totals + (book.sights.map Sight.totals).sum

theorem balanced_opened (regular : player.Regular) (stored : Option Encounter)
    (content : Option WalkSummary.Content) : (opened player stored content).Balanced player where
  aimed _ present := by cases present
  regular := Hook.every_start (fun one loaded => by cases Option.some.inj loaded; exact regular) stored
  balance := ⟨player, rfl, rfl, (add_zero _).symm⟩

theorem balance_performed {hook next : Hook} {act : Hook.Action} {now : ℚ} {base saved : Player} {deeds : List Deed}
    {sights : List Sight} (performs : Hook.Performs hook act now next base (hook.outside now act) deeds)
    (regular : base.Regular) (stored : hook.saved = some saved)
    (same : base.totals = saved.totals) (unchanged : deeds = [] → base = saved)
    (balance : saved.totals = player.totals + (sights.map Sight.totals).sum) :
    ∃ final, next.playerRef = some final ∧ next.saved = some final ∧ final.totals = player.totals +
      ((sights ++ hook.sights act now next).map Sight.totals).sum := by
  refine ⟨_, performs.current, ?_, ?_⟩
  · rcases performs.saved with ⟨nothing, kept⟩ | put
    · rw [kept, stored, nothing, unchanged nothing]
      rfl
    · rw [put, performs.current]
  · rw [Deed.foldl_apply_totals regular now, same, balance, performs.sights_eq, List.map_append, List.sum_append,
      add_assoc]

theorem Balanced.step (balanced : book.Balanced player) (captures : book.walk.CapturesTotals action)
    (taken : book.step action = some after) : after.Balanced player := by
  obtain ⟨next, moved, rfl⟩ := Option.map_eq_some_iff.mp taken
  rcases Walk.hook_or_same captures moved with ⟨act, now, rfl, stepped⟩ | ⟨same, _, _, quiet⟩
  · have captures : book.walk.hook.CapturesTotals act := captures
    have regular : next.hook.Every Player.Regular := balanced.regular.step balanced.aimed
      (fun _ deed kept _ => (deed.apply_totals kept 0).1)
      (fun _ put => by rw [put] at captures; cases captures.1) stepped
    refine ⟨balanced.aimed.step stepped, regular, ?_⟩
    obtain ⟨saved, loaded, put, balance⟩ := balanced.balance
    cases Hook.acts_of_step balanced.aimed now stepped with
    | current found performs =>
      cases Option.some.inj (loaded.symm.trans found)
      exact balance_performed performs (balanced.regular.current _ found) put rfl (fun _ => rfl) balance
    | captured loot fired armed active unprocessed performs =>
      rw [fired] at captures
      have same := captures.2 rfl _ armed active unprocessed
      rw [loaded] at same
      exact balance_performed performs (balanced.regular.captured _ armed) put (Option.some.inj same).symm nofun balance
    | absent unloaded => cases unloaded.symm.trans loaded
    | replaced one same =>
      rw [same] at captures
      cases captures.1
    | dropped same =>
      rw [same] at captures
      cases captures.1
  · rw [(quiet next).1, List.append_nil]
    refine ⟨?_, ?_, ?_⟩ <;> rw [same]
    exacts [balanced.aimed, balanced.regular, balanced.balance]

/-- Every reveal and every entry that was announced is shown, lost or on its way. -/
structure Settled (opening : List WalkSummaryEntry) (book : Book) : Prop where
  tidy : book.walk.log.Tidy
  attended : book.walk.Attended
  reveals : (book.sights.filterMap Sight.reveal? : Multiset RewardReveal) =
    book.revealed + book.cancelled + book.walk.hook.rewardRevealTimer.toList
  entries : (opening : Multiset WalkSummaryEntry) + book.sights.filterMap Sight.recap? =
    book.summarized + book.lost + book.walk.underWay

theorem settled_opened (player : Player) (stored : Option Encounter) (content : Option WalkSummary.Content) :
    (opened player stored content).Settled (WalkSummary.held (content.map WalkSummary.Content.earlier)) where
  tidy := Walk.tidy_start _ _ _
  attended := Walk.attended_start _ _ _
  reveals := rfl
  entries := by
    show _ = (([] : List WalkSummaryEntry) : Multiset WalkSummaryEntry) + ([] : List WalkSummaryEntry) +
      ((WalkSummary.held (content.map WalkSummary.Content.earlier) ++ [] : List WalkSummaryEntry) +
        (([] : List WalkSummaryEntry) : Multiset WalkSummaryEntry))
    simp [opened]

theorem Settled.step {opening : List WalkSummaryEntry} (settled : book.Settled opening)
    (captures : book.walk.CapturesTotals action) (taken : book.step action = some after) : after.Settled opening := by
  obtain ⟨next, moved, rfl⟩ := Option.map_eq_some_iff.mp taken
  have kept : action ≠ .removeKeys true := by
    rintro rfl
    cases (show true = false from captures)
  have accounts := Walk.accounts_of_step settled.tidy settled.attended kept moved
  have recapped : (book.walk.sights action next).filterMap Sight.recap? = book.walk.resolves action := by
    rcases Walk.hook_or_same captures moved with ⟨act, now, rfl, _⟩ | ⟨_, resolved, _, quiet⟩
    · exact Hook.filterMap_recap_sights _ _ _ _
    · rw [(quiet next).1, resolved]
      rfl
  have announced : (book.walk.hook.rewardRevealTimer.toList : Multiset RewardReveal) +
      (book.walk.sights action next).filterMap Sight.reveal? =
        book.walk.uncovers action + book.walk.cancels action next + next.hook.rewardRevealTimer.toList := by
    rcases Walk.hook_or_same captures moved with ⟨act, now, rfl, stepped⟩ | ⟨same, _, unmoved, quiet⟩
    · exact Hook.reveals_account captures.1 now stepped
    · rw [(quiet next).1, (quiet next).2, unmoved, same]
      simp
  refine ⟨accounts.tidy, settled.attended.step moved, ?_, ?_⟩
  · have before := settled.reveals
    simp only [List.filterMap_append, ← Multiset.coe_add, before]
    rw [add_assoc, announced]
    abel
  · have before := settled.entries
    have moves := accounts.entries
    simp only [List.filterMap_append, recapped, ← Multiset.coe_add]
    rw [← add_assoc, before, add_assoc, moves]
    abel

structure Complete (book : Book) : Prop where
  whole : book.walk.log.Whole
  cancelled : book.cancelled = []
  lost : book.lost = []

theorem complete_opened (player : Player) (stored : Option Encounter) (content : Option WalkSummary.Content) :
    (opened player stored content).Complete := ⟨fun _ _ first => (by cases first), rfl, rfl⟩

theorem Complete.step {opening : List WalkSummaryEntry} (complete : book.Complete) (settled : book.Settled opening)
    (captures : book.walk.CapturesTotals action) (unhurried : book.walk.Unhurried action)
    (taken : book.step action = some after) : after.Complete := by
  obtain ⟨next, moved, rfl⟩ := Option.map_eq_some_iff.mp taken
  have kept : action ≠ .removeKeys true := by
    rintro rfl
    cases (show true = false from captures)
  refine ⟨Walk.whole_of_step settled.tidy complete.whole kept ?_ moved, ?_, ?_⟩
  · rintro success rfl
    exact unhurried.1
  · have spared : book.walk.cancels action next = [] := by
      rcases Walk.hook_or_same captures moved with ⟨act, now, rfl, stepped⟩ | ⟨_, _, _, quiet⟩
      · exact Hook.cancels_of_unhurried captures.1 unhurried now stepped
      · exact (quiet next).2
    rw [spared, complete.cancelled, List.append_nil]
  · have spared : book.walk.loses action = [] := by
      cases action with
      | access success =>
        cases unhurried.1
        exact WalkSummary.Log.loses_of_room complete.whole unhurried.2
      | _ => rfl
    rw [spared, complete.lost, List.append_nil]

/-- Over every run whose kill beats find the totals they captured, the saved player is the opening one plus the reveals
that were scheduled, the entries that were queued and the events of the fights. A reveal came up, was cleared by a
further victory, or waits for its timer. An entry, or one stored at the start, was shown, was lost by the log, or is on
its way. Where no victory follows while a reveal waits, storage answers and the log has room, nothing is cleared or
lost. -/
theorem run_balances (regular : player.Regular)
    (run : Run step (fun book action => book.walk.CapturesTotals action) (opened player stored content) actions book) :
    let recaps := book.sights.filterMap Sight.recap?
    let reveals := book.sights.filterMap Sight.reveal?
    let recap := walkSummaryTotals recaps
    (∃ saved, book.walk.hook.playerRef = some saved ∧ book.walk.hook.saved = some saved ∧
      saved.totalDistance = player.totalDistance + (book.sights.filterMap Sight.distance?).sum ∧
      saved.totalEncounters =
        player.totalEncounters + (recap.fought + reveals.length + book.sights.countP Sight.ends) ∧
      saved.creaturesDefeated = player.creaturesDefeated + (recap.won + reveals.length) ∧
      saved.combatTurnsTaken = player.combatTurnsTaken + book.sights.countP Sight.strikes ∧
      saved.lifetimeExperience =
        player.lifetimeExperience + (recap.totalXp + (reveals.map RewardReveal.xpGained).sum) ∧
      saved.owned = player.owned +
        (Slots.contents (recaps.map WalkSummaryEntry.item) + (reveals.map RewardReveal.gained).sum) ∧
      recap.itemsFound = (Slots.contents (recaps.map WalkSummaryEntry.item)).card) ∧
    (reveals : Multiset RewardReveal) = book.revealed + book.cancelled + book.walk.hook.rewardRevealTimer.toList ∧
    (WalkSummary.held (content.map WalkSummary.Content.earlier) : Multiset WalkSummaryEntry) + recaps =
      book.summarized + book.lost + book.walk.underWay ∧
    (Run step (fun book action => book.walk.CapturesTotals action ∧ book.walk.Unhurried action)
      (opened player stored content) actions book → book.cancelled = [] ∧ book.lost = []) := by
  have balanced : book.Balanced player := run.invariant (Balanced player) (balanced_opened regular stored content)
    fun _ _ _ held captures taken => held.step captures taken
  have settled := run.invariant (Settled _) (settled_opened player stored content)
    fun _ _ _ held captures taken => held.step captures taken
  obtain ⟨saved, loaded, put, balance⟩ := balanced.balance
  rw [Sight.sum_totals] at balance
  obtain ⟨distance, encounters, defeats, turns, experience, items⟩ := Totals.ext_iff.mp balance
  refine ⟨⟨saved, loaded, put, distance, encounters, defeats, turns, experience, items, itemsFound_eq_card _⟩,
    settled.reveals, settled.entries, fun unhurried => ?_⟩
  have complete := unhurried.invariant
    (fun book => book.Settled (WalkSummary.held (content.map WalkSummary.Content.earlier)) ∧ book.Complete)
    ⟨settled_opened player stored content, complete_opened player stored content⟩
    fun _ _ _ held allowed taken =>
      ⟨held.1.step allowed.1 taken, held.2.step held.1 allowed.1 allowed.2 taken⟩
  exact ⟨complete.2.cancelled, complete.2.lost⟩

def outing : List Walk.Action :=
  let stroll : Hook.Action := .tick { Hook.stroll 60 (some Hook.firstRoll) with isBackground := true }
  let fight : List Hook.Action := Hook.duel ++ [.fireKillBeat fun _ => none, .fireReveal, .dismissReward, .render]
  [.hook stroll 0, .access true, .access true] ++ (fight.map fun action => .hook action 60000) ++
    [.checkWalkSummary false, .access true, .access true, .checkResume]

theorem regular_new : (Player.new .mage 1).Regular := ⟨⟨1, le_rfl, by decide +kernel⟩, by decide +kernel⟩

/-- The summary and the reveal account for the outing: 10 and 15 experience, two encounters. -/
theorem run_balances_outing : ∃ book saved,
    Run step (fun book action => book.walk.CapturesTotals action) (opened (Player.new .mage 1) none none) outing book ∧
      book.walk.hook.saved = some saved ∧ saved.totalEncounters = 2 ∧ saved.lifetimeExperience = 25 ∧
      book.revealed.map RewardReveal.xpGained = [15] ∧ book.summarized.map WalkSummaryEntry.xpGained = [10] ∧
      book.cancelled = [] ∧ book.lost = [] := by
  have executed : ∃ book, Run step
      (fun book action => book.walk.CapturesTotals action ∧ book.walk.Unhurried action)
      (opened (Player.new .mage 1) none none) outing book ∧
        (walkSummaryTotals (book.sights.filterMap Sight.recap?)).fought = 1 ∧
        (walkSummaryTotals (book.sights.filterMap Sight.recap?)).totalXp = 10 ∧
        (book.sights.filterMap Sight.reveal?).map RewardReveal.xpGained = [15] ∧
        book.sights.countP Sight.ends = 0 ∧ book.revealed.map RewardReveal.xpGained = [15] ∧
        book.summarized.map WalkSummaryEntry.xpGained = [10] := Run.exists_of_exec (by decide +kernel)
  obtain ⟨book, unhurried, fought, totalXp, announced, ended, revealed, summarized⟩ := executed
  have one : (book.sights.filterMap Sight.reveal?).length = 1 := by
    rw [← List.length_map RewardReveal.xpGained, announced]
    rfl
  have run : Run step (fun book action => book.walk.CapturesTotals action) _ outing book :=
    unhurried.exchange (fun _ => True) trivial fun _ _ _ _ allowed _ => ⟨trivial, allowed.1⟩
  obtain ⟨⟨saved, _, put, _, encounters, _, _, experience, _⟩, _, _, complete⟩ := run_balances regular_new run
  refine ⟨book, saved, run, put, ?_, ?_, revealed, summarized, complete unhurried⟩
  · rw [encounters, fought, one, ended]
    decide +kernel
  · rw [experience, totalXp, announced]
    decide +kernel

end Book

end WalkingRpg
