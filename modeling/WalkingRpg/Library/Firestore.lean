import WalkingRpg.Library.Js

/-! Document values of Firestore, the security rules that guard them, and the values
that a JavaScript client gets to see.

A rule that runs into an evaluation error, such as the read of a missing field, denies
the request. An expression therefore has an optional value, and a request is admitted
when its condition evaluates to true.
-/

set_option autoImplicit false

namespace Firestore

inductive Value where
  | null
  | boolean (value : Bool)
  | integer (value : ℤ)
  | double (value : Js.Number)
  | string (value : String)
  | bytes (content : List (Fin 256))
  | timestamp (seconds nanoseconds : ℤ)
  | geoPoint (latitude longitude : ℚ)
  | reference (path : String)
  | array (items : List Value)
  | map (fields : List (String × Value))

namespace Value

/-- How a JavaScript number is stored: integers and doubles are kept apart. -/
def ofNumber : Js.Number → Value
  | .finite value => if value.den = 1 then .integer value.num else .double (.finite value)
  | other => .double other

/-- A record is stored without the fields that are undefined. -/
def record (fields : List (String × Option Value)) : Value :=
  .map (fields.filterMap fun field => field.2.map fun value => (field.1, value))

def number? : Value → Option Js.Number
  | .integer value => some (.finite value)
  | .double value => some value
  | _ => none

mutual

def toJs : Value → Js.Value
  | .null => .null
  | .boolean value => .boolean value
  | .integer value => .number (.finite value)
  | .double value => .number value
  | .string value => .string value
  | .bytes _ | .timestamp _ _ | .geoPoint _ _ | .reference _ => .exotic
  | .array items => .array (itemsToJs items)
  | .map fields => .object (fieldsToJs fields)

def itemsToJs : List Value → List Js.Value
  | [] => []
  | item :: rest => item.toJs :: itemsToJs rest

def fieldsToJs : List (String × Value) → List (String × Js.Value)
  | [] => []
  | (name, value) :: rest => (name, value.toJs) :: fieldsToJs rest

end

theorem lookup_fieldsToJs (name : String) (fields : List (String × Value)) :
    (fieldsToJs fields).lookup name = (fields.lookup name).map toJs := by
  induction fields with
  | nil => rfl
  | cons field rest ih =>
    obtain ⟨label, value⟩ := field
    simp only [fieldsToJs, List.lookup_cons]
    split
    · rfl
    · exact ih

theorem property_toJs (name : String) (fields : List (String × Value)) :
    (Value.map fields).toJs.property name = ((fields.lookup name).map toJs).getD .undefined := by
  simp [toJs, Js.Value.property, lookup_fieldsToJs]

theorem toJs_of_number? {value : Value} {number : Js.Number} (known : value.number? = some number) :
    value.toJs = .number number := by
  cases value with
  | integer _ | double _ =>
    cases known
    rfl
  | _ => cases known

@[simp] theorem number?_ofNumber (number : Js.Number) : (ofNumber number).number? = some number := by
  cases number with
  | finite value =>
    by_cases whole : value.den = 1
    · have same : (value.num : ℚ) = value := Rat.coe_int_num_of_den_eq_one whole
      simp [ofNumber, whole, number?, same]
    · simp [ofNumber, whole, number?]
  | nan => rfl
  | infinity positive => rfl

end Value

namespace Rules

def field (name : String) : Value → Option Value
  | .map fields => fields.lookup name
  | _ => none

def keys : Value → Option (List String)
  | .map fields => some (fields.map Prod.fst)
  | _ => none

def hasOnly (allowed keys : List String) : Bool := keys.all (allowed.contains ·)

def hasAll (required keys : List String) : Bool := required.all (keys.contains ·)

def size : Value → Option ℚ
  | .string text => some text.length
  | .bytes content => some content.length
  | .array items => some items.length
  | .map fields => some fields.length
  | _ => none

def isNumber (value : Value) : Bool := value.number?.isSome

def isString : Value → Bool
  | .string _ => true
  | _ => false

def isMap : Value → Bool
  | .map _ => true
  | _ => false

/-- `value >= bound`; only numbers compare with a number. -/
def atLeast (bound : ℚ) (value : Value) : Option Bool := value.number?.map (Js.Number.atLeast bound)

def atMost (bound : ℚ) (value : Value) : Option Bool := value.number?.map (Js.Number.atMost bound)

def greater (first second : Value) : Option Bool := do
  return (← first.number?).greater (← second.number?)

/-- A conjunction, which stops at the first condition that is not true. -/
def all : List (Option Bool) → Option Bool
  | [] => some true
  | some true :: rest => all rest
  | condition :: _ => condition

@[simp] theorem all_nil : all [] = some true := rfl

@[simp] theorem all_cons_eq_true {condition : Option Bool} {rest : List (Option Bool)} :
    all (condition :: rest) = some true ↔ condition = some true ∧ all rest = some true := by
  rcases condition with _ | _ | _ <;> simp [all]

theorem field_record {fields : List (String × Option Value)} (distinct : (fields.map Prod.fst).Nodup)
    (name : String) : field name (.record fields) = (fields.lookup name).join := by
  show List.lookup name (fields.filterMap _) = _
  induction fields with
  | nil => rfl
  | cons field rest ih =>
    obtain ⟨label, value⟩ := field
    obtain ⟨fresh, tail⟩ := List.nodup_cons.mp distinct
    have rest := ih tail
    by_cases same : name = label
    · subst same
      cases value with
      | some value => simp
      | none =>
        -- The name does not occur again further on.
        have absent : List.lookup name _ = none := List.lookup_eq_none_iff.mpr fun other member =>
          bne_iff_ne.mpr fun again => fresh (List.mem_map.mpr ⟨other, member, again.symm⟩)
        rw [absent] at rest
        simpa using rest
    · have skip : (name == label) = false := beq_eq_false_iff_ne.mpr same
      cases value with
      | some value => simpa [List.lookup_cons, skip] using rest
      | none => simpa [List.lookup_cons, skip] using rest

theorem hasAll_of_field {required : List String} {fields : List (String × Value)}
    (present : ∀ name ∈ required, (field name (.map fields)).isSome = true) :
    (keys (.map fields)).map (hasAll required) = some true := by
  simp only [keys, hasAll, Option.map_some, Option.some.injEq, List.all_eq_true, List.contains_iff_mem]
  intro name member
  by_contra absent
  have none : fields.lookup name = none := List.lookup_eq_none_iff.mpr fun entry listed =>
    bne_iff_ne.mpr fun same => absent (List.mem_map.mpr ⟨entry, listed, same.symm⟩)
  have found := present name member
  rw [field, none] at found
  cases found

theorem property_of_field {name : String} {document value : Value} (found : field name document = some value) :
    document.toJs.property name = value.toJs := by
  cases document with
  | map fields =>
    rw [Value.property_toJs, show fields.lookup name = some value from found]
    rfl
  | _ => cases found

theorem typeof_of_isString {name : String} {document : Value}
    (admitted : (field name document).map isString = some true) :
    (document.toJs.property name).typeof = .string := by
  obtain ⟨value, found, text⟩ := Option.map_eq_some_iff.mp admitted
  rw [property_of_field found]
  cases value with
  | string _ => rfl
  | _ => cases text

theorem number_of_isNumber {name : String} {document : Value}
    (admitted : (field name document).map isNumber = some true) :
    ∃ number, (field name document).bind Value.number? = some number ∧
      document.toJs.property name = .number number := by
  obtain ⟨value, found, known⟩ := Option.map_eq_some_iff.mp admitted
  obtain ⟨number, held⟩ := Option.isSome_iff_exists.mp known
  refine ⟨number, by rw [found]; exact held, ?_⟩
  rw [property_of_field found]
  exact Value.toJs_of_number? held

theorem typeof_of_isNumber {name : String} {document : Value}
    (admitted : (field name document).map isNumber = some true) :
    (document.toJs.property name).typeof = .number := by
  obtain ⟨number, _, seen⟩ := number_of_isNumber admitted
  rw [seen]
  rfl

theorem atLeast_of_atLeast {name : String} {document : Value} {bound : ℚ}
    (admitted : (field name document).bind (atLeast bound) = some true) :
    (document.toJs.property name).atLeast bound = true := by
  obtain ⟨value, found, compared⟩ := Option.bind_eq_some_iff.mp admitted
  obtain ⟨number, held, above⟩ := Option.map_eq_some_iff.mp compared
  have known : (field name document).map isNumber = some true := by
    simp [found, isNumber, held]
  obtain ⟨again, same, seen⟩ := number_of_isNumber known
  rw [found, Option.bind_some, held] at same
  cases same
  rw [seen]
  exact above

theorem object_of_isMap {name : String} {document : Value}
    (admitted : (field name document).map isMap = some true) :
    ∃ fields, field name document = some (.map fields) ∧
      document.toJs.property name = (Value.map fields).toJs := by
  obtain ⟨value, found, shape⟩ := Option.map_eq_some_iff.mp admitted
  cases value with
  | map fields => exact ⟨fields, found, property_of_field found⟩
  | _ => cases shape

end Rules

end Firestore
