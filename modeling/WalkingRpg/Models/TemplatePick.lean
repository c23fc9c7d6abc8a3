import WalkingRpg.Library.WeightedPick
import WalkingRpg.Models.Creature

/-! Which template of a rarity is met: the pick is exact.

Every template of the pool has a weight at every hour, so the loop stops before its trailing return,
and the draws that meet a template are as many as its weight says.
-/

set_option autoImplicit false

namespace WalkingRpg

open Sampling (pickLoop)
open WeightedPick (Chosen IsIntervalOfLength)

def templatesOfRarity (rarity : Rarity) : List CreatureTemplate :=
  creatureTemplates.filter fun template => template.rarity = rarity

def templateWeights (rarity : Rarity) (daylight : Bool) : List ℚ :=
  (templatesOfRarity rarity).map fun template => spawnWeightAt template daylight

theorem spawnWeightAt_pos (template : CreatureTemplate) (daylight : Bool) : 0 < spawnWeightAt template daylight := by
  unfold spawnWeightAt
  cases spawnWindowFor template <;> cases daylight <;> decide +kernel

theorem templateWeights_nonneg (rarity : Rarity) (daylight : Bool) :
    ∀ weight ∈ templateWeights rarity daylight, 0 ≤ weight := by
  intro weight listed
  obtain ⟨template, _, rfl⟩ := List.mem_map.mp listed
  exact (spawnWeightAt_pos template daylight).le

theorem encounterPool_eq {rarity : Rarity} (stocked : templatesOfRarity rarity ≠ []) :
    encounterPool rarity = templatesOfRarity rarity :=
  if_pos (List.length_pos_iff.mpr stocked)

theorem nodup_templatesOfRarity (rarity : Rarity) : (templatesOfRarity rarity).Nodup := by
  have listed : creatureTemplates.Nodup := by decide +kernel
  exact listed.filter _

theorem pickEncounterTemplateOfRarity_chosen {rarity : Rarity} (stocked : templatesOfRarity rarity ≠ [])
    (daylight : Bool) {stream : ℕ → ℚ} {position : ℕ} (drawn : 0 ≤ stream position)
    (below : stream position < 1) :
    ∃ i template, (templatesOfRarity rarity)[i]? = some template ∧
      pickEncounterTemplateOfRarity rarity (some daylight) stream position = (template, position + 1) ∧
      ∀ j, Chosen (templateWeights rarity daylight) (stream position) j ↔ j = i := by
  have weights : ((templatesOfRarity rarity).map fun template =>
      (template, spawnWeightAt template daylight)).map Prod.snd = templateWeights rarity daylight := by
    rw [List.map_map]
    rfl
  have positive : ∀ entry ∈ (templatesOfRarity rarity).map fun template =>
      (template, spawnWeightAt template daylight), 0 < entry.2 := by
    intro entry listed
    obtain ⟨template, _, rfl⟩ := List.mem_map.mp listed
    exact spawnWeightAt_pos template daylight
  obtain ⟨i, entry, found, picked, unique⟩ :=
    WeightedPick.pickLoop_chosen (by simpa using stocked) positive drawn below.le
  rw [List.getElem?_map] at found
  obtain ⟨template, listed, rfl⟩ := Option.map_eq_some_iff.mp found
  rw [weights] at unique
  refine ⟨i, template, listed, ?_, unique⟩
  have returned : pickEncounterTemplateOfRarity rarity (some daylight) stream position =
      ((pickLoop ((encounterPool rarity).map fun template => (template, spawnWeightAt template daylight))
        (stream position * (((encounterPool rarity).map fun template =>
          (template, spawnWeightAt template daylight)).map Prod.snd).sum)).getD
            ((encounterPool rarity).getLastD default), position + 1) := rfl
  rw [returned, encounterPool_eq stocked, picked]
  rfl

theorem isIntervalOfLength_template {rarity : Rarity} {template : CreatureTemplate}
    (listed : template ∈ templatesOfRarity rarity) (daylight : Bool) :
    IsIntervalOfLength
      {draw | 0 ≤ draw ∧ draw < 1 ∧
        (pickEncounterTemplateOfRarity rarity (some daylight) (fun _ => draw) 0).1 = template}
      (spawnWeightAt template daylight / (templateWeights rarity daylight).sum) := by
  obtain ⟨i, inside, rfl⟩ := List.getElem_of_mem listed
  have bound : i < (templateWeights rarity daylight).length := by simpa [templateWeights] using inside
  have weight : (templateWeights rarity daylight)[i] =
      spawnWeightAt (templatesOfRarity rarity)[i] daylight := by
    simp [templateWeights]
  have length := WeightedPick.isIntervalOfLength_chosen (templateWeights_nonneg rarity daylight) bound
  rw [weight] at length
  convert length using 1
  ext draw
  refine and_congr_right fun drawn => and_congr_right fun below => ?_
  obtain ⟨j, picked, found, returned, unique⟩ :=
    @pickEncounterTemplateOfRarity_chosen rarity (List.ne_nil_of_mem listed) daylight (fun _ => draw) 0 drawn below
  rw [returned, unique i]
  -- No other index holds the same template.
  constructor
  · rintro rfl
    exact (List.getElem?_inj inside (nodup_templatesOfRarity rarity)).mp
      ((List.getElem?_eq_getElem inside).trans found.symm)
  · rintro rfl
    exact Option.some.inj (found.symm.trans (List.getElem?_eq_getElem inside))

/-- The draw picks the template whose interval of the cumulated weights holds it. So does the loop over
any positive weights, which never falls through; and each template is met in proportion to its weight. -/
theorem pickEncounterTemplateOfRarity_exact :
    (∀ {rarity : Rarity}, templatesOfRarity rarity ≠ [] → ∀ (daylight : Bool) (stream : ℕ → ℚ) (position : ℕ),
      0 ≤ stream position → stream position < 1 →
      ∃ i template, (templatesOfRarity rarity)[i]? = some template ∧
        pickEncounterTemplateOfRarity rarity (some daylight) stream position = (template, position + 1) ∧
        ∀ j, Chosen (templateWeights rarity daylight) (stream position) j ↔ j = i) ∧
    (∀ {α : Type} {entries : List (α × ℚ)}, entries ≠ [] → (∀ entry ∈ entries, 0 < entry.2) →
      ∀ {draw : ℚ}, 0 ≤ draw → draw < 1 →
      ∃ i entry, entries[i]? = some entry ∧
        pickLoop entries (draw * (entries.map Prod.snd).sum) = some entry.1 ∧
        ∀ j, Chosen (entries.map Prod.snd) draw j ↔ j = i) ∧
    ∀ {rarity : Rarity} {template : CreatureTemplate}, template ∈ templatesOfRarity rarity → ∀ daylight : Bool,
      IsIntervalOfLength
        {draw | 0 ≤ draw ∧ draw < 1 ∧
          (pickEncounterTemplateOfRarity rarity (some daylight) (fun _ => draw) 0).1 = template}
        (spawnWeightAt template daylight / (templateWeights rarity daylight).sum) :=
  ⟨fun stocked daylight _ _ drawn below => pickEncounterTemplateOfRarity_chosen stocked daylight drawn below,
    fun stocked positive _ drawn below => WeightedPick.pickLoop_chosen stocked positive drawn below.le,
    fun listed daylight => isIntervalOfLength_template listed daylight⟩

/-- Two epics, both at home in any light: each is met by half of the draws. -/
theorem pickEncounterTemplateOfRarity_exact_epic : ∃ (i : ℕ) (template : CreatureTemplate),
    (templatesOfRarity .epic)[i]? = some template ∧
      pickEncounterTemplateOfRarity .epic (some true) (fun _ => 0.75) 0 = (template, 1) ∧
      Chosen ([1, 1] : List ℚ) 0.75 i := by
  have weights : templateWeights .epic true = [1, 1] := by decide +kernel
  obtain ⟨i, template, found, picked, unique⟩ := pickEncounterTemplateOfRarity_exact.1
    (by decide +kernel : templatesOfRarity .epic ≠ []) true (fun _ => 0.75) 0 (by norm_num) (by norm_num)
  rw [weights] at unique
  exact ⟨i, template, found, picked, (unique i).mpr rfl⟩

end WalkingRpg
