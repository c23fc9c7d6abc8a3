import WalkingRpg.Library.WeightedPick
import WalkingRpg.Services.LootService

/-! The rarity tables by level: a higher level never rolls a lower rarity.

Both rolls read one draw against the weights of a band. Between two bands of a table, the higher one has
at every rarity less of its weight below it, so the same draw stops no earlier. The weights of the bands
are checked once for the two tables; everything else follows from that.
-/

set_option autoImplicit false

namespace WalkingRpg

open Sampling (pickLoop)
open WeightedPick (firstOrLast pickIndex share RisesTo)

def Rarity.rank : Rarity → ℕ
  | .common => 0
  | .uncommon => 1
  | .rare => 2
  | .epic => 3
  | .legendary => 4

/-- A band lists the rarities from common on, the first of them with some weight. -/
structure Graded (band : List (Rarity × ℚ)) : Prop where
  ranks : band.map (fun entry => entry.1.rank) = List.range band.length
  short : band.length ≤ 5
  total : 0 < (band.map Prod.snd).sum
  first : ∀ weight ∈ (band.map Prod.snd).head?, 0 < weight

/-- Every band is graded, and of two bands the one listed first has less of its weight at the front. -/
structure RisingTable (table : List (ℚ × List (Rarity × ℚ))) : Prop where
  graded : ∀ band ∈ table, Graded band.2
  rises : table.Pairwise fun high low => RisesTo (low.2.map Prod.snd) (high.2.map Prod.snd)

section Band

variable {band : List (Rarity × ℚ)} {draw : ℚ}

theorem Graded.rank_eq (graded : Graded band) {i : ℕ} {entry : Rarity × ℚ} (found : band[i]? = some entry) :
    entry.1.rank = i := by
  have ranked := congrArg (fun ranks => ranks[i]?) graded.ranks
  obtain ⟨inside, rfl⟩ := List.getElem?_eq_some_iff.mp found
  simpa [inside] using ranked

theorem Graded.pick (graded : Graded band) (below : draw < 1) :
    ∃ rarity weight, pickIndex (band.map Prod.snd) (draw * (band.map Prod.snd).sum) = some rarity.rank ∧
      pickLoop band (draw * (band.map Prod.snd).sum) = some rarity ∧
      band[rarity.rank]? = some (rarity, weight) ∧ 0 < weight := by
  have stocked : band.map Prod.snd ≠ [] := by
    intro empty
    have total := graded.total
    rw [empty, List.sum_nil] at total
    exact lt_irrefl 0 total
  have within : draw * (band.map Prod.snd).sum ≤ (band.map Prod.snd).sum :=
    mul_le_of_le_one_left graded.total.le below.le
  obtain ⟨i, picked⟩ := WeightedPick.exists_pickIndex stocked within
  have bound := (WeightedPick.pickIndex_eq_some_iff.mp picked).1
  have inside : i < band.length := by simpa using bound
  have found := List.getElem?_eq_getElem inside
  have rank := graded.rank_eq found
  have weight := WeightedPick.weight_pos_of_pickIndex graded.first picked bound
  refine ⟨band[i].1, band[i].2, ?_, ?_, ?_, by simpa using weight⟩
  · rw [rank]
    exact picked
  · rw [WeightedPick.pickLoop_eq, picked, Option.bind_some, found]
    rfl
  · rw [rank]
    exact found

theorem Graded.pick_weightless (graded : Graded band) (below : draw < 1) {rarity : Rarity}
    (weightless : (rarity, 0) ∈ band) :
    pickLoop band (draw * (band.map Prod.snd).sum) ≠ some rarity := by
  intro picked
  obtain ⟨other, weight, _, returned, found, positive⟩ := graded.pick below
  cases Option.some.inj (returned.symm.trans picked)
  obtain ⟨i, listed⟩ := List.mem_iff_getElem?.mp weightless
  have rank := graded.rank_eq listed
  rw [← rank] at listed
  cases Option.some.inj (listed.symm.trans found)
  exact lt_irrefl 0 positive

end Band

section Table

variable {table : List (ℚ × List (Rarity × ℚ))}

def bandAt (table : List (ℚ × List (Rarity × ℚ))) (playerLevel : ℚ) : List (Rarity × ℚ) :=
  (firstOrLast (fun band => playerLevel ≥ band.1) table).elim [] Prod.snd

theorem RisingTable.exists_band (stocked : table ≠ []) (playerLevel : ℚ) :
    ∃ band ∈ table, firstOrLast (fun band => decide (playerLevel ≥ band.1)) table = some band := by
  have last : (firstOrLast (fun band => decide (playerLevel ≥ band.1)) table).isSome = true := by
    simp [firstOrLast, List.getLast?_eq_some_getLast stocked]
  obtain ⟨band, found⟩ := Option.isSome_iff_exists.mp last
  exact ⟨band, WeightedPick.mem_of_firstOrLast found, found⟩

theorem RisingTable.graded_bandAt (rising : RisingTable table) (stocked : table ≠ []) (playerLevel : ℚ) :
    Graded (bandAt table playerLevel) := by
  obtain ⟨band, listed, found⟩ := exists_band stocked playerLevel
  rw [bandAt, found]
  exact rising.graded band listed

theorem RisingTable.risesTo_bandAt (rising : RisingTable table) (stocked : table ≠ []) {low high : ℚ}
    (le : low ≤ high) :
    RisesTo ((bandAt table low).map Prod.snd) ((bandAt table high).map Prod.snd) := by
  obtain ⟨lower, _, lowFound⟩ := exists_band stocked low
  obtain ⟨upper, _, highFound⟩ := exists_band stocked high
  have weaker : ∀ band : ℚ × List (Rarity × ℚ),
      decide (low ≥ band.1) = true → decide (high ≥ band.1) = true := by
    intro band reached
    have reaches : band.1 ≤ low := of_decide_eq_true reached
    exact decide_eq_true (reaches.trans le)
  rw [bandAt, bandAt, lowFound, highFound]
  rcases WeightedPick.firstOrLast_earlier rising.rises weaker lowFound highFound with same | earlier
  · rw [same]
    exact fun _ => le_rfl
  · exact earlier

theorem RisingTable.rank_le (rising : RisingTable table) (stocked : table ≠ []) {low high draw : ℚ}
    (le : low ≤ high) (below : draw < 1) {rarity other : Rarity}
    (lowPick : pickLoop (bandAt table low) (draw * ((bandAt table low).map Prod.snd).sum) = some rarity)
    (highPick : pickLoop (bandAt table high) (draw * ((bandAt table high).map Prod.snd).sum) = some other) :
    rarity.rank ≤ other.rank := by
  have lowGraded := rising.graded_bandAt stocked low
  have highGraded := rising.graded_bandAt stocked high
  obtain ⟨_, _, lowIndex, lowReturned, _⟩ := lowGraded.pick below
  obtain ⟨_, _, highIndex, highReturned, _⟩ := highGraded.pick below
  cases Option.some.inj (lowReturned.symm.trans lowPick)
  cases Option.some.inj (highReturned.symm.trans highPick)
  exact (rising.risesTo_bandAt stocked le).index_le lowGraded.total highGraded.total lowIndex highIndex

theorem RisingTable.of_check
    (graded : ∀ band ∈ table,
      band.2.map (fun entry => entry.1.rank) = List.range band.2.length ∧ band.2.length ≤ 5 ∧
        0 < (band.2.map Prod.snd).sum ∧ ∀ weight ∈ (band.2.map Prod.snd).head?, 0 < weight)
    (rises : table.Pairwise fun high low =>
      ∀ i < 5, share (high.2.map Prod.snd) i ≤ share (low.2.map Prod.snd) i) : RisingTable table := by
  have bands : ∀ band ∈ table, Graded band.2 := by
    intro band listed
    obtain ⟨ranks, short, total, first⟩ := graded band listed
    exact ⟨ranks, short, total, first⟩
  refine ⟨bands, rises.imp_of_mem fun {high low} highListed lowListed check => ?_⟩
  have upper := bands high highListed
  have lower := bands low lowListed
  exact WeightedPick.risesTo_of_lt lower.total.ne' upper.total.ne' (by simpa using lower.short)
    (by simpa using upper.short) check

end Table

theorem rising_encounterRarityWeights : RisingTable encounterRarityWeights :=
  .of_check (by decide +kernel) (by decide +kernel)

theorem encounterRarityBand_eq (playerLevel : ℚ) :
    encounterRarityBand playerLevel = bandAt encounterRarityWeights playerLevel := rfl

namespace LootService

def lootWeights (playerLevel : ℚ) : List ℚ :=
  ((rarityWeights.find? fun band => playerLevel ≥ band.1).getD (1, [65, 30, 5, 0, 0])).2

def lootTable : List (ℚ × List (Rarity × ℚ)) := rarityWeights.map fun band => (band.1, rarities.zip band.2)

theorem rising_lootTable : RisingTable lootTable :=
  .of_check (by decide +kernel) (by decide +kernel)

def lootBand (playerLevel : ℚ) : List (Rarity × ℚ) := rarities.zip (lootWeights playerLevel)

theorem lootBand_eq (playerLevel : ℚ) : lootBand playerLevel = bandAt lootTable playerLevel := by
  have last : rarityWeights.getLast? = some (1, [65, 30, 5, 0, 0]) := rfl
  rw [lootBand, lootWeights, bandAt, firstOrLast, lootTable, List.find?_map, List.getLast?_map, last]
  have same : (fun band : ℚ × List (Rarity × ℚ) => decide (playerLevel ≥ band.1)) ∘
      (fun band : ℚ × List ℚ => (band.1, rarities.zip band.2)) =
      fun band : ℚ × List ℚ => decide (playerLevel ≥ band.1) := rfl
  rw [same]
  cases rarityWeights.find? fun band => decide (playerLevel ≥ band.1) with
  | none => rfl
  | some band => rfl

theorem length_lootWeights (playerLevel : ℚ) : (lootWeights playerLevel).length = 5 := by
  have bands : ∀ band ∈ rarityWeights, band.2.length = 5 := by decide +kernel
  unfold lootWeights
  cases found : rarityWeights.find? fun band => decide (playerLevel ≥ band.1) with
  | none => rfl
  | some band => exact bands band (List.mem_of_find?_eq_some found)

theorem weights_lootBand (playerLevel : ℚ) : (lootBand playerLevel).map Prod.snd = lootWeights playerLevel :=
  List.map_snd_zip (by rw [length_lootWeights]; rfl)

theorem rollRarity_eq (playerLevel : ℚ) (stream : ℕ → ℚ) (position : ℕ) :
    rollRarity playerLevel stream position =
      ((pickLoop (lootBand playerLevel) (stream position * ((lootBand playerLevel).map Prod.snd).sum)).getD .common,
        position + 1) := by
  rw [weights_lootBand]
  rfl

end LootService

section Rolls

open LootService (lootBand lootBand_eq lootTable rising_lootTable rollRarity rollRarity_eq)

variable {stream : ℕ → ℚ} {position : ℕ} (below : stream position < 1)

include below

theorem rollEncounterRarity_pick (playerLevel : ℚ) :
    pickLoop (encounterRarityBand playerLevel)
        (stream position * ((encounterRarityBand playerLevel).map Prod.snd).sum) =
      some (rollEncounterRarity playerLevel stream position).1 := by
  obtain ⟨rarity, _, _, picked, _⟩ :=
    (rising_encounterRarityWeights.graded_bandAt (by decide) playerLevel).pick below
  rw [← encounterRarityBand_eq] at picked
  have rolled : (rollEncounterRarity playerLevel stream position).1 =
      (pickLoop (encounterRarityBand playerLevel)
        (stream position * ((encounterRarityBand playerLevel).map Prod.snd).sum)).getD .common := rfl
  rw [rolled, picked]
  rfl

theorem rollRarity_pick (playerLevel : ℚ) :
    pickLoop (lootBand playerLevel) (stream position * ((lootBand playerLevel).map Prod.snd).sum) =
      some (rollRarity playerLevel stream position).1 := by
  obtain ⟨rarity, _, _, picked, _⟩ := (rising_lootTable.graded_bandAt (by decide) playerLevel).pick below
  rw [← lootBand_eq] at picked
  rw [rollRarity_eq, picked]
  rfl

/-- With the same draw a higher level rolls no lower rarity, for encounters and for loot. Neither roll
reaches its fallback or returns a rarity that has no weight in the band of the level. -/
theorem rarity_rolls_rise :
    (∀ {low high : ℚ}, low ≤ high → (rollEncounterRarity low stream position).1.rank ≤
      (rollEncounterRarity high stream position).1.rank) ∧
    (∀ {low high : ℚ}, low ≤ high → (rollRarity low stream position).1.rank ≤
      (rollRarity high stream position).1.rank) ∧
    (∀ playerLevel, pickLoop (encounterRarityBand playerLevel)
        (stream position * ((encounterRarityBand playerLevel).map Prod.snd).sum) =
          some (rollEncounterRarity playerLevel stream position).1 ∧
      ∀ rarity, (rarity, 0) ∈ encounterRarityBand playerLevel →
        (rollEncounterRarity playerLevel stream position).1 ≠ rarity) ∧
    ∀ playerLevel, pickLoop (lootBand playerLevel)
        (stream position * ((lootBand playerLevel).map Prod.snd).sum) =
          some (rollRarity playerLevel stream position).1 ∧
      ∀ rarity, (rarity, 0) ∈ lootBand playerLevel → (rollRarity playerLevel stream position).1 ≠ rarity := by
  refine ⟨fun {low high} le => ?_, fun {low high} le => ?_,
    fun playerLevel => ⟨rollEncounterRarity_pick below playerLevel, ?_⟩,
    fun playerLevel => ⟨rollRarity_pick below playerLevel, ?_⟩⟩
  · exact rising_encounterRarityWeights.rank_le (by decide) le below (rollEncounterRarity_pick below low)
      (rollEncounterRarity_pick below high)
  · have lowPick := rollRarity_pick below low
    have highPick := rollRarity_pick below high
    rw [lootBand_eq] at lowPick highPick
    exact rising_lootTable.rank_le (by decide) le below lowPick highPick
  · rintro rarity weightless rfl
    exact (rising_encounterRarityWeights.graded_bandAt (by decide) playerLevel).pick_weightless below weightless
      (rollEncounterRarity_pick below playerLevel)
  · rintro rarity weightless rfl
    have picked := rollRarity_pick below playerLevel
    rw [lootBand_eq] at weightless picked
    exact (rising_lootTable.graded_bandAt (by decide) playerLevel).pick_weightless below weightless picked

end Rolls

/-- The draw of 0.9 meets an uncommon creature on the first level and an epic one on the twentieth. -/
theorem rarity_rolls_rise_late :
    (rollEncounterRarity 1 (fun _ => 0.9) 0).1 = .uncommon ∧ (rollEncounterRarity 20 (fun _ => 0.9) 0).1 = .epic ∧
      (rollEncounterRarity 1 (fun _ => 0.9) 0).1.rank ≤ (rollEncounterRarity 20 (fun _ => 0.9) 0).1.rank :=
  ⟨by decide +kernel, by decide +kernel,
    (@rarity_rolls_rise (fun _ => 0.9) 0 (by norm_num)).1 (by norm_num)⟩

end WalkingRpg
