import Mathlib.Data.Rat.Floor

/-! JavaScript values as a program meets them in data that it did not build itself.

Finite numbers are exact. The two infinities and NaN are values of type number as
well, and a check on such data has to say what it does with them.
-/

set_option autoImplicit false

namespace Js

inductive Number where
  | finite (value : ℚ)
  | nan
  | infinity (positive : Bool)
  deriving DecidableEq

namespace Number

/-- `number >= bound`. Every comparison with NaN is false. -/
def atLeast (bound : ℚ) : Number → Bool
  | .finite value => bound ≤ value
  | .nan => false
  | .infinity positive => positive

def atMost (bound : ℚ) : Number → Bool
  | .finite value => value ≤ bound
  | .nan => false
  | .infinity positive => !positive

def greater : Number → Number → Bool
  | .finite first, .finite second => second < first
  | .finite _, .infinity positive => !positive
  | .infinity positive, .finite _ => positive
  | .infinity first, .infinity second => first && !second
  | .nan, _ | _, .nan => false

def max (first second : Number) : Number :=
  match first, second with
  | .nan, _ | _, .nan => .nan
  | first, second => if first.greater second then first else second

def neg : Number → Number
  | .finite value => .finite (-value)
  | .nan => .nan
  | .infinity positive => .infinity !positive

/-- `first + second`. Two infinities of different signs have no sum. -/
def add : Number → Number → Number
  | .nan, _ | _, .nan => .nan
  | .finite first, .finite second => .finite (first + second)
  | .infinity first, .infinity second => if first = second then .infinity first else .nan
  | .infinity positive, .finite _ | .finite _, .infinity positive => .infinity positive

def sub (first second : Number) : Number := first.add second.neg

/-- `first * second`. Zero times an infinity is NaN. -/
def mul : Number → Number → Number
  | .nan, _ | _, .nan => .nan
  | .finite first, .finite second => .finite (first * second)
  | .infinity first, .infinity second => .infinity (first = second)
  | .infinity positive, .finite factor | .finite factor, .infinity positive =>
    if factor = 0 then .nan else .infinity (positive = decide (0 < factor))

def floor : Number → Number
  | .finite value => .finite ⌊value⌋
  | other => other

@[simp] theorem greater_finite (first second : ℚ) :
    greater (.finite first) (.finite second) = decide (first > second) := rfl

@[simp] theorem add_finite (first second : ℚ) : add (.finite first) (.finite second) = .finite (first + second) := rfl

@[simp] theorem sub_finite (first second : ℚ) : sub (.finite first) (.finite second) = .finite (first - second) := by
  rw [sub_eq_add_neg]
  rfl

@[simp] theorem mul_finite (first second : ℚ) : mul (.finite first) (.finite second) = .finite (first * second) := rfl

@[simp] theorem floor_finite (value : ℚ) : floor (.finite value) = .finite ⌊value⌋ := rfl

@[simp] theorem max_finite (first second : ℚ) :
    max (.finite first) (.finite second) = .finite (first ⊔ second) := by
  by_cases above : second < first
  · simp [max, above, max_eq_left above.le]
  · simp [max, above, max_eq_right (not_lt.mp above)]

def truthy : Number → Bool
  | .finite value => value ≠ 0
  | .nan => false
  | .infinity _ => true

end Number

inductive Value where
  | undefined
  | null
  | boolean (value : Bool)
  | number (value : Number)
  | string (value : String)
  | array (items : List Value)
  | object (fields : List (String × Value))
  /-- An instance of a class, none of whose properties are read. -/
  | exotic

inductive TypeName where
  | undefined | boolean | number | string | object
  deriving DecidableEq, Repr

namespace Value

def typeof : Value → TypeName
  | .undefined => .undefined
  | .boolean _ => .boolean
  | .number _ => .number
  | .string _ => .string
  | .null | .array _ | .object _ | .exotic => .object

def truthy : Value → Bool
  | .undefined | .null => false
  | .boolean value => value
  | .number value => value.truthy
  | .string value => value ≠ ""
  | .array _ | .object _ | .exotic => true

def isNull : Value → Bool
  | .null => true
  | _ => false

def isUndefined : Value → Bool
  | .undefined => true
  | _ => false

def isNullish : Value → Bool
  | .undefined | .null => true
  | _ => false

def isText (text : String) : Value → Bool
  | .string value => value = text
  | _ => false

/-- A parameter with a default, which stands in for undefined only. -/
def orDefault (value fallback : Value) : Value := if value.isUndefined then fallback else value

@[simp] theorem orDefault_undefined (fallback : Value) : undefined.orDefault fallback = fallback := rfl

@[simp] theorem orDefault_number (held : Number) (fallback : Value) :
    (number held).orDefault fallback = number held := rfl

@[simp] theorem orDefault_string (text : String) (fallback : Value) :
    (string text).orDefault fallback = string text := rfl

def coalesce (value alternative : Value) : Value := if value.isNullish then alternative else value

/-- `value ?? alternative`, where the alternative can throw and is evaluated only if needed. -/
def coalesceWith (value : Value) (alternative : Option Value) : Option Value :=
  if value.isNullish then alternative else some value

@[simp] theorem coalesceWith_some (value alternative : Value) :
    value.coalesceWith (some alternative) = some (value.coalesce alternative) := by
  unfold coalesceWith coalesce
  split <;> rfl

theorem coalesceWith_of_typeof {value : Value} (known : value.typeof = .number) (alternative : Option Value) :
    value.coalesceWith alternative = some value := by
  cases value with
  | number _ => rfl
  | _ => cases known

def property (name : String) : Value → Value
  | .object fields => (fields.lookup name).getD .undefined
  | _ => .undefined

def atLeast (bound : ℚ) : Value → Bool
  | .number value => value.atLeast bound
  | _ => false

def Reads (value : Value) : Option ℚ → Prop
  | none => value.isNullish = true
  | some amount => value = .number (.finite amount)

theorem Reads.coalesce {value : Value} {held : Option ℚ} (reads : value.Reads held) (alternative : ℚ) :
    value.coalesce (.number (.finite alternative)) = .number (.finite (held.getD alternative)) := by
  cases held with
  | none => exact if_pos (show value.isNullish = true from reads)
  | some amount =>
    cases reads
    rfl

end Value

/-- What the operators make of operands of other types than their own. The conversion of an object
calls methods of the object and can end in a type error. -/
structure Coercions where
  number : Value → Option Number
  propertyKey : Value → Option String
  greater : Value → Value → Option Bool

namespace Coercions

def toNumber (coercions : Coercions) : Value → Option Number
  | .number value => some value
  | other => coercions.number other

def toPropertyKey (coercions : Coercions) : Value → Option String
  | .string value => some value
  | other => coercions.propertyKey other

def isGreater (coercions : Coercions) : Value → Value → Option Bool
  | .number first, .number second => some (first.greater second)
  | first, second => coercions.greater first second

@[simp] theorem toNumber_number (coercions : Coercions) (value : Number) :
    coercions.toNumber (.number value) = some value := rfl

@[simp] theorem toPropertyKey_string (coercions : Coercions) (value : String) :
    coercions.toPropertyKey (.string value) = some value := rfl

@[simp] theorem isGreater_number (coercions : Coercions) (first second : Number) :
    coercions.isGreater (.number first) (.number second) = some (first.greater second) := rfl

end Coercions

end Js
