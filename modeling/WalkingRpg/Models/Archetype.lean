import Mathlib.Data.Rat.Floor

/-! Archetypes, primary attributes and the combat stats derived from them.

Numbers of the program are exact rationals throughout the development.
-/

set_option autoImplicit false

namespace WalkingRpg

inductive Archetype where
  | martial | agile | mage
  deriving DecidableEq, Repr

inductive Resource where
  | rage | energy | mana
  deriving DecidableEq, Repr

structure ArchetypeConfig where
  resource : Resource
  strBase : ℚ
  strPerLevel : ℚ
  agiBase : ℚ
  agiPerLevel : ℚ
  intBase : ℚ
  intPerLevel : ℚ
  hpConstant : ℚ

/-- `ARCHETYPE_CONFIGS`, without its display texts. -/
def archetypeConfigs : Archetype → ArchetypeConfig
  | .martial =>
    { resource := .rage, strBase := 10, strPerLevel := 3, agiBase := 6, agiPerLevel := 1,
      intBase := 4, intPerLevel := 0, hpConstant := 64 }
  | .agile =>
    { resource := .energy, strBase := 6, strPerLevel := 1, agiBase := 10, agiPerLevel := 3,
      intBase := 6, intPerLevel := 1, hpConstant := 52 }
  | .mage =>
    { resource := .mana, strBase := 4, strPerLevel := 0, agiBase := 6, agiPerLevel := 1,
      intBase := 10, intPerLevel := 3, hpConstant := 42 }

structure Attributes where
  str : ℚ
  agi : ℚ
  int : ℚ
  deriving DecidableEq

def computeAttributes (archetype : Archetype) (level : ℚ) : Attributes :=
  let cfg := archetypeConfigs archetype
  let l := max 1 level
  { str := cfg.strBase + (l - 1) * cfg.strPerLevel
    agi := cfg.agiBase + (l - 1) * cfg.agiPerLevel
    int := cfg.intBase + (l - 1) * cfg.intPerLevel }

def deriveAttack (str agi : ℚ) : ℚ := max 1 ⌊str * 0.8 + agi * 0.6 + 8⌋

def deriveDefense (str agi : ℚ) : ℚ := max 1 ⌊str * 0.5 + agi * 0.25⌋

def deriveMaxHp (archetype : Archetype) (str agi : ℚ) : ℚ :=
  (archetypeConfigs archetype).hpConstant + str * 3 + agi * 1

def deriveSpeed (agi : ℚ) : ℚ := max 1 ⌊agi * 0.6 + 5⌋

theorem computeAttributes_succ (archetype : Archetype) {level : ℚ} (atLeastOne : 1 ≤ level) :
    computeAttributes archetype (level + 1) =
      { str := (computeAttributes archetype level).str + (archetypeConfigs archetype).strPerLevel
        agi := (computeAttributes archetype level).agi + (archetypeConfigs archetype).agiPerLevel
        int := (computeAttributes archetype level).int + (archetypeConfigs archetype).intPerLevel } := by
  have next : (1 : ℚ) ≤ level + 1 := by linarith
  simp only [computeAttributes, max_eq_right atLeastOne, max_eq_right next, Attributes.mk.injEq]
  refine ⟨?_, ?_, ?_⟩ <;> ring

theorem computeAttributes_nonneg (archetype : Archetype) (level : ℚ) :
    0 ≤ (computeAttributes archetype level).str ∧ 0 ≤ (computeAttributes archetype level).agi := by
  have above : 0 ≤ max 1 level - 1 := by linarith [le_max_left 1 level]
  cases archetype <;> simp only [computeAttributes, archetypeConfigs] <;> constructor <;> linarith

theorem deriveMaxHp_nonneg (archetype : Archetype) {str agi : ℚ} (hstr : 0 ≤ str) (hagi : 0 ≤ agi) :
    0 ≤ deriveMaxHp archetype str agi := by
  cases archetype <;> simp only [deriveMaxHp, archetypeConfigs] <;> linarith

end WalkingRpg
