import Mathlib.Data.Rat.Floor

/-! The damage pipeline: mitigation by defense, resistance by damage type, evasion by speed. -/

set_option autoImplicit false

namespace WalkingRpg

/-- Ratio-based mitigation; the result is never below one. -/
def mitigateDamage (attack defense multiplier : ℚ) : ℚ :=
  let atk := max 0 attack
  let dfn := max 0 defense
  let denom := atk + dfn
  let raw := if denom = 0 then 0 else atk * atk / denom
  max 1 ⌊raw * multiplier⌋

inductive DamageType where
  | physical | fire | frost | arcane
  deriving DecidableEq, Repr

structure Resistances where
  physical : ℚ
  fire : ℚ
  frost : ℚ
  arcane : ℚ
  deriving DecidableEq

def Resistances.get (resistances : Resistances) : DamageType → ℚ
  | .physical => resistances.physical
  | .fire => resistances.fire
  | .frost => resistances.frost
  | .arcane => resistances.arcane

def defaultResistances : Resistances := ⟨0, 0, 0, 0⟩

def applyResistance (rawDamage resistance : ℚ) : ℚ := max 0 ⌊rawDamage * (1 - resistance)⌋

inductive EvadeOutcome where
  | normal | glancing | dodged
  deriving DecidableEq, Repr

inductive Combatant where
  | player | creature
  deriving DecidableEq, Repr

structure EvadeChance where
  glance : ℚ
  dodge : ℚ

namespace EvasionConfig

def glanceMultiplier : ℚ := 0.5

def base : EvadeChance := ⟨0.08, 0.03⟩

def slopePerSpeed : EvadeChance := ⟨0.012, 0.005⟩

def cap : Combatant → EvadeChance
  | .player => ⟨0.4, 0.18⟩
  | .creature => ⟨0.16, 0.08⟩

def prdDodgeGrowth : ℚ := 0.5

end EvasionConfig

structure EvasionRoll where
  outcome : EvadeOutcome
  nextDodgeStreak : ℚ

def clamp (n lo hi : ℚ) : ℚ := max lo (min hi n)

/-- One evasion roll for the defender; `r` is the draw taken from the generator. -/
def rollEvasion (attackerSpeed defenderSpeed : ℚ) (defender : Combatant) (dodgeStreak r : ℚ) :
    EvasionRoll :=
  let delta := defenderSpeed - attackerSpeed
  let caps := EvasionConfig.cap defender
  let glance := clamp (EvasionConfig.base.glance + EvasionConfig.slopePerSpeed.glance * delta)
    0 caps.glance
  let dodgeBase := clamp (EvasionConfig.base.dodge + EvasionConfig.slopePerSpeed.dodge * delta)
    0 caps.dodge
  let dodge := min caps.dodge (dodgeBase * (1 + EvasionConfig.prdDodgeGrowth * dodgeStreak))
  if r < dodge then ⟨.dodged, 0⟩
  else if r < dodge + glance then ⟨.glancing, dodgeStreak + 1⟩
  else ⟨.normal, dodgeStreak + 1⟩

def applyEvasionDamage (baseDamage : ℚ) (outcome : EvadeOutcome) : ℚ :=
  if outcome = .dodged ∨ baseDamage ≤ 0 then 0
  else if outcome = .glancing then max 1 ⌊baseDamage * EvasionConfig.glanceMultiplier⌋
  else baseDamage

end WalkingRpg
