import Mathlib.Algebra.Order.Ring.Rat

/-! JSON values as a program sees them after `JSON.parse`.

An absent field reads as undefined, here `none`, and serialization drops the
fields that are undefined. Numbers are finite.
-/

set_option autoImplicit false

inductive Json where
  | null
  | bool (value : Bool)
  | num (value : ℚ)
  | str (value : String)
  | arr (items : List Json)
  | obj (fields : List (String × Json))

namespace Json

/-- Serialize a record: fields whose value is undefined are left out. -/
def object (fields : List (String × Option Json)) : Json :=
  .obj (fields.filterMap fun field => field.2.map fun value => (field.1, value))

/-- Read a property; anything but an object has none. -/
def field (name : String) : Json → Option Json
  | .obj fields => (fields.find? fun entry => entry.1 = name).map Prod.snd
  | _ => none

def isObject : Option Json → Bool
  | some (.obj _) | some (.arr _) => true
  | _ => false

def isNumber : Option Json → Bool
  | some (.num _) => true
  | _ => false

def getNum : Json → Option ℚ
  | .num value => some value
  | _ => none

def getStr : Json → Option String
  | .str value => some value
  | _ => none

def getBool : Json → Option Bool
  | .bool value => some value
  | _ => none

def num? (name : String) (json : Json) : Option ℚ := (json.field name).bind getNum

def str? (name : String) (json : Json) : Option String := (json.field name).bind getStr

def bool? (name : String) (json : Json) : Option Bool := (json.field name).bind getBool

@[simp] theorem getNum_num (value : ℚ) : getNum (.num value) = some value := rfl

@[simp] theorem getStr_str (value : String) : getStr (.str value) = some value := rfl

@[simp] theorem getBool_bool (value : Bool) : getBool (.bool value) = some value := rfl

end Json
