import Mathlib.Algebra.Order.Field.Rat
import Mathlib.Tactic.Linarith
import Mathlib.Tactic.NormNum
import Mathlib.Tactic.Ring

/-! The combat stage: where a sprite and its grounding pool are placed.

The sprite is fitted into the stage without cropping and stands on its bottom edge. The pool follows
the ground contacts measured on the sprite. Pixels grow to the right and downwards, so the bottom of
the stage is its height, and what sticks out below the baseline is beyond it.
-/

set_option autoImplicit false

namespace WalkingRpg

/-- The shape of a sprite. Contacts and depth are fractions of its own width and height. -/
structure SpriteFraming where
  aspect : ℚ
  footLeft : ℚ
  footRight : ℚ
  stanceDepth : ℚ
  deriving DecidableEq

structure Rect where
  left : ℚ
  top : ℚ
  width : ℚ
  height : ℚ

structure StageLayout where
  sprite : Rect
  pool : Rect

structure StageOptions where
  spread : Option ℚ := none
  depth : Option ℚ := none

def poolSpread : ℚ := 1.25

def poolDepth : ℚ := 1.6

def poolSink : ℚ := 0.34

/-- The rendered width and height before scaling; the limiting axis decides. -/
def containFit (stageWidth stageHeight aspect : ℚ) : ℚ × ℚ :=
  if stageWidth / stageHeight > aspect then (stageHeight * aspect, stageHeight)
  else (stageWidth, stageWidth / aspect)

def computeStageLayout (stageWidth stageHeight : ℚ) (framing : SpriteFraming) (scale : ℚ)
    (opts : StageOptions) : StageLayout :=
  let spread := opts.spread.getD poolSpread
  let depth := opts.depth.getD poolDepth
  let renderW := (containFit stageWidth stageHeight framing.aspect).1 * scale
  let renderH := (containFit stageWidth stageHeight framing.aspect).2 * scale
  let spriteLeft := (stageWidth - renderW) / 2
  -- Anchored at the bottom.
  let spriteTop := stageHeight - renderH
  let contactL := spriteLeft + renderW * framing.footLeft
  let contactR := spriteLeft + renderW * framing.footRight
  let pad := (contactR - contactL) * (spread - 1) / 2
  let poolLeft := contactL - pad
  let poolRight := contactR + pad
  let poolW := poolRight - poolLeft
  let poolH := renderH * framing.stanceDepth * depth
  { sprite := { left := spriteLeft, top := spriteTop, width := renderW, height := renderH }
    pool := { left := poolLeft, top := stageHeight - poolH * (1 - poolSink), width := poolW, height := poolH } }

namespace Rect

def right (rect : Rect) : ℚ := rect.left + rect.width

def bottom (rect : Rect) : ℚ := rect.top + rect.height

def middle (rect : Rect) : ℚ := rect.left + rect.width / 2

def contactL (rect : Rect) (framing : SpriteFraming) : ℚ := rect.left + rect.width * framing.footLeft

def contactR (rect : Rect) (framing : SpriteFraming) : ℚ := rect.left + rect.width * framing.footRight

structure Inside (rect : Rect) (stageWidth stageHeight : ℚ) : Prop where
  left : 0 ≤ rect.left
  top : 0 ≤ rect.top
  right : rect.right ≤ stageWidth
  bottom : rect.bottom ≤ stageHeight

end Rect

structure SpriteFraming.Measured (framing : SpriteFraming) : Prop where
  aspect : 0 < framing.aspect
  footLeft : 0 ≤ framing.footLeft
  ordered : framing.footLeft ≤ framing.footRight
  footRight : framing.footRight ≤ 1
  stanceDepth : 0 < framing.stanceDepth

section Fit

variable {stageWidth stageHeight aspect : ℚ} (wide : 0 < stageWidth) (tall : 0 < stageHeight)
  (shaped : 0 < aspect)

include shaped in
theorem containFit_ratio (stageWidth stageHeight : ℚ) :
    (containFit stageWidth stageHeight aspect).1 = aspect * (containFit stageWidth stageHeight aspect).2 := by
  unfold containFit
  split
  · exact mul_comm _ _
  · exact (mul_div_cancel₀ _ shaped.ne').symm

include tall shaped in
theorem containFit_le :
    (containFit stageWidth stageHeight aspect).1 ≤ stageWidth ∧
      (containFit stageWidth stageHeight aspect).2 ≤ stageHeight := by
  unfold containFit
  split
  · rename_i wider
    have fits : aspect * stageHeight < stageWidth := (lt_div_iff₀ tall).mp wider
    exact ⟨by linarith, le_rfl⟩
  · rename_i narrow
    have fits : stageWidth ≤ aspect * stageHeight := (div_le_iff₀ tall).mp (not_lt.mp narrow)
    exact ⟨le_rfl, (div_le_iff₀' shaped).mpr fits⟩

include wide tall shaped in
theorem containFit_pos : 0 < (containFit stageWidth stageHeight aspect).2 := by
  unfold containFit
  split
  · exact tall
  · exact div_pos wide shaped

theorem containFit_fills (stageWidth stageHeight aspect : ℚ) :
    (containFit stageWidth stageHeight aspect).1 = stageWidth ∨
      (containFit stageWidth stageHeight aspect).2 = stageHeight := by
  unfold containFit
  split
  · exact .inr rfl
  · exact .inl rfl

end Fit

section Layout

variable {stageWidth stageHeight scale : ℚ} {framing : SpriteFraming}

structure Stands (sprite : Rect) (stageWidth stageHeight aspect scale : ℚ) : Prop where
  inside : sprite.Inside stageWidth stageHeight
  grounded : sprite.bottom = stageHeight
  centred : sprite.middle = stageWidth / 2
  shape : sprite.width = aspect * sprite.height
  fills : scale = 1 → sprite.width = stageWidth ∨ sprite.height = stageHeight

structure Grounds (pool sprite : Rect) (framing : SpriteFraming) (stageHeight spread : ℚ) : Prop where
  spansLeft : pool.left ≤ sprite.contactL framing
  spansRight : sprite.contactR framing ≤ pool.right
  centred : pool.middle = (sprite.contactL framing + sprite.contactR framing) / 2
  width : pool.width = spread * (sprite.contactR framing - sprite.contactL framing)
  sinks : pool.bottom - stageHeight = poolSink * pool.height
  reaches : framing.stanceDepth * sprite.height ≤ stageHeight - pool.top

theorem stands_computeStageLayout (wide : 0 < stageWidth) (tall : 0 < stageHeight)
    (shaped : 0 < framing.aspect) (within : scale ≤ 1) (opts : StageOptions) :
    Stands (computeStageLayout stageWidth stageHeight framing scale opts).sprite stageWidth stageHeight
      framing.aspect scale := by
  obtain ⟨fitsW, fitsH⟩ := @containFit_le stageWidth stageHeight framing.aspect tall shaped
  have height := containFit_pos wide tall shaped
  have ratio := containFit_ratio shaped stageWidth stageHeight
  have width : 0 < (containFit stageWidth stageHeight framing.aspect).1 := by
    rw [ratio]
    exact mul_pos shaped height
  -- Scaling down keeps both dimensions within the stage.
  have renderW : (containFit stageWidth stageHeight framing.aspect).1 * scale ≤ stageWidth :=
    (mul_le_of_le_one_right width.le within).trans fitsW
  have renderH : (containFit stageWidth stageHeight framing.aspect).2 * scale ≤ stageHeight :=
    (mul_le_of_le_one_right height.le within).trans fitsH
  refine ⟨⟨?_, ?_, ?_, ?_⟩, ?_, ?_, ?_, fun full => ?_⟩ <;>
    simp only [computeStageLayout, Rect.right, Rect.bottom, Rect.middle]
  · linarith
  · linarith
  · linarith
  · linarith
  · ring
  · ring
  · rw [ratio]
    ring
  · rw [full, mul_one, mul_one]
    exact containFit_fills stageWidth stageHeight framing.aspect

theorem grounds_computeStageLayout (wide : 0 < stageWidth) (tall : 0 < stageHeight)
    (measured : framing.Measured) (scaled : 0 < scale) {spread : Option ℚ}
    (feathered : 1 ≤ spread.getD poolSpread) :
    let layout := computeStageLayout stageWidth stageHeight framing scale { spread := spread }
    Grounds layout.pool layout.sprite framing stageHeight (spread.getD poolSpread) := by
  have height := mul_pos (containFit_pos wide tall measured.aspect) scaled
  have width : 0 < (containFit stageWidth stageHeight framing.aspect).1 * scale := by
    rw [containFit_ratio measured.aspect, mul_assoc]
    exact mul_pos measured.aspect height
  intro layout
  -- The stance is as wide as the contacts are apart, and the feather on each side is not negative.
  have stance : layout.sprite.contactL framing ≤ layout.sprite.contactR framing :=
    add_le_add le_rfl (mul_le_mul_of_nonneg_left measured.ordered width.le)
  have pad : 0 ≤ (layout.sprite.contactR framing - layout.sprite.contactL framing) *
      (spread.getD poolSpread - 1) / 2 :=
    div_nonneg (mul_nonneg (sub_nonneg.mpr stance) (sub_nonneg.mpr feathered)) zero_le_two
  have left : layout.pool.left = layout.sprite.contactL framing -
      (layout.sprite.contactR framing - layout.sprite.contactL framing) * (spread.getD poolSpread - 1) / 2 := rfl
  have right : layout.pool.width = layout.sprite.contactR framing +
      (layout.sprite.contactR framing - layout.sprite.contactL framing) * (spread.getD poolSpread - 1) / 2 -
        layout.pool.left := rfl
  have poolHeight : layout.pool.height = layout.sprite.height * framing.stanceDepth * poolDepth := rfl
  have poolTop : layout.pool.top = stageHeight - layout.pool.height * (1 - poolSink) := rfl
  refine ⟨?_, ?_, ?_, ?_, ?_, ?_⟩
  · rw [left]
    linarith
  · rw [Rect.right, right]
    linarith
  · rw [Rect.middle, right, left]
    ring
  · rw [right, left]
    ring
  · rw [Rect.bottom, poolTop]
    ring
  · -- The depth outweighs the part that is sunk.
    have reach : 1 ≤ poolDepth * (1 - poolSink) := by norm_num [poolDepth, poolSink]
    have stanceHeight : 0 ≤ layout.sprite.height * framing.stanceDepth :=
      mul_nonneg height.le measured.stanceDepth.le
    rw [poolTop, poolHeight]
    have reached := le_mul_of_one_le_right stanceHeight reach
    linarith

/-- On every stage the sprite stands whole, centred and in shape on the bottom edge, and its pool lies
around both ground contacts and the baseline. -/
theorem computeStageLayout_places (wide : 0 < stageWidth) (tall : 0 < stageHeight)
    (measured : framing.Measured) (scaled : 0 < scale) (within : scale ≤ 1) {spread : Option ℚ}
    (feathered : ∀ given ∈ spread, 1 ≤ given) :
    let layout := computeStageLayout stageWidth stageHeight framing scale { spread := spread }
    Stands layout.sprite stageWidth stageHeight framing.aspect scale ∧
      Grounds layout.pool layout.sprite framing stageHeight (spread.getD poolSpread) := by
  have spreads : 1 ≤ spread.getD poolSpread := by
    cases spread with
    | none => norm_num [poolSpread]
    | some given => exact feathered given rfl
  exact ⟨stands_computeStageLayout wide tall measured.aspect within _,
    grounds_computeStageLayout wide tall measured scaled spreads⟩

/-- The Ash Wretch by night, at half its size on a phone-wide stage, with a pool of its exact stance. -/
theorem computeStageLayout_places_wretch :
    let framing : SpriteFraming := { aspect := 0.87, footLeft := 0.017, footRight := 0.884, stanceDepth := 0.223 }
    let layout := computeStageLayout 390 320 framing 0.5 { spread := some 1 }
    layout.sprite.height = 160 ∧ Stands layout.sprite 390 320 0.87 0.5 ∧
      Grounds layout.pool layout.sprite framing 320 1 := by
  refine ⟨by decide +kernel, ?_⟩
  refine computeStageLayout_places (by norm_num) (by norm_num) ?_ (by norm_num) (by norm_num) ?_
  · constructor <;> norm_num
  · intro given present
    cases Option.some.inj present
    exact le_rfl

end Layout

structure PaintedCreature where
  /-- The framing of the art for the night. -/
  night : SpriteFraming
  /-- That of the art for the day, when it has been painted. -/
  day : Option SpriteFraming
  scale : ℚ

def paintedCreatures (creatureId : String) : Option PaintedCreature :=
  if creatureId = "ash_wretch" then some {
    scale := 1
    night := { aspect := 0.87, footLeft := 0.017, footRight := 0.884, stanceDepth := 0.223 }
    day := some { aspect := 0.784, footLeft := 0.178, footRight := 0.911, stanceDepth := 0.223 } }
  else none

structure ResolvedPaintedCreature where
  key : SpriteFraming
  scale : ℚ
  gloom : Bool

/-- The art for the current light. Without a day key the night art is shown by day, in its gloom. -/
def resolvePaintedCreature (creatureId : Option String) (daylight : Option Bool) :
    Option ResolvedPaintedCreature :=
  (creatureId.bind paintedCreatures).map fun painted =>
    match daylight, painted.day with
    | some true, some day => { key := day, scale := painted.scale, gloom := false }
    | _, _ => { key := painted.night, scale := painted.scale, gloom := daylight = some true }

structure PaintedCreature.Layable (painted : PaintedCreature) : Prop where
  night : painted.night.Measured
  day : ∀ framing ∈ painted.day, framing.Measured
  scaled : 0 < painted.scale
  within : painted.scale ≤ 1

theorem layable_paintedCreatures {creatureId : String} {painted : PaintedCreature}
    (listed : paintedCreatures creatureId = some painted) : painted.Layable := by
  unfold paintedCreatures at listed
  split at listed
  · cases Option.some.inj listed
    refine ⟨?_, fun framing present => ?_, one_pos, le_rfl⟩
    · constructor <;> norm_num
    · cases Option.some.inj present
      constructor <;> norm_num
  · cases listed

theorem measured_resolvePaintedCreature {creatureId : Option String} {daylight : Option Bool}
    {painted : ResolvedPaintedCreature} (resolved : resolvePaintedCreature creatureId daylight = some painted) :
    painted.key.Measured ∧ 0 < painted.scale ∧ painted.scale ≤ 1 := by
  obtain ⟨entry, found, rfl⟩ := Option.map_eq_some_iff.mp resolved
  obtain ⟨id, _, listed⟩ := Option.bind_eq_some_iff.mp found
  have layable := layable_paintedCreatures listed
  split
  · rename_i day painted
    exact ⟨layable.day day painted, layable.scaled, layable.within⟩
  · exact ⟨layable.night, layable.scaled, layable.within⟩

def creatureStage (creatureId : Option String) (daylight : Option Bool) (width height : ℚ) :
    Option StageLayout :=
  (resolvePaintedCreature creatureId daylight).map fun painted =>
    computeStageLayout width height painted.key painted.scale {}

theorem stands_creatureStage {creatureId : Option String} {daylight : Option Bool} {width height : ℚ}
    (wide : 0 < width) (tall : 0 < height) {layout : StageLayout}
    (shown : creatureStage creatureId daylight width height = some layout) :
    ∃ framing scale, Stands layout.sprite width height framing.aspect scale ∧
      Grounds layout.pool layout.sprite framing height poolSpread := by
  obtain ⟨painted, resolved, rfl⟩ := Option.map_eq_some_iff.mp shown
  obtain ⟨measured, scaled, within⟩ := measured_resolvePaintedCreature resolved
  exact ⟨painted.key, painted.scale, stands_computeStageLayout wide tall measured.aspect within _,
    grounds_computeStageLayout wide tall measured scaled (by norm_num [poolSpread])⟩

end WalkingRpg
