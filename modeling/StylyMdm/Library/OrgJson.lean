import Mathlib

/-!
# JSON objects of `org.json`

The values of the `org.json` library, with the accessors of its objects. A number keeps the Java
type it has, and a `Double` is known by its bits. What an accessor makes of a value of another type
depends on the version of the library, so it is a parameter (`Coercions`): some versions make a
number of a text, others do not.

The accessors that do not coerce have equations for what they find after a `put`
(`opt_put`, `opt_putSome`): a name that is there keeps its place, and `putSome` leaves out a value
that is not there. Those that coerce are defined by them: a value of the right type is taken as it
is, one of another type is handed to the parameter, and a missing one gives the default of `opt…`
or makes `getString` throw.
-/

namespace OrgJson

/-- A value. `JSONObject.NULL` is `null`. -/
inductive Value
  | null
  | bool (b : Bool)
  | int (n : Int)
  | long (n : Int)
  | double (bits : UInt64)
  | string (text : String)
  | array (items : List Value)
  | object (fields : List (String × Value))

/-- `JSONObject`: its fields in insertion order. -/
abbrev Object := List (String × Value)

/-- The value, if it is an object. -/
def Value.asObject : Value → Option Object
  | object fields => some fields
  | _ => none

/-- The value, if it is an array. -/
def Value.asArray : Value → Option (List Value)
  | array items => some items
  | _ => none

namespace Object

/-- `opt`. -/
def opt (o : Object) (name : String) : Option Value := o.lookup name

/-- `has`. -/
def has (o : Object) (name : String) : Bool := (o.opt name).isSome

/-- `isNull`: no value, or `NULL`. -/
def isNull (o : Object) (name : String) : Bool :=
  match o.opt name with
  | none | some .null => true
  | _ => false

/-- `optJSONObject`. -/
def optJSONObject (o : Object) (name : String) : Option Object := (o.opt name).bind Value.asObject

/-- `optJSONArray`. -/
def optJSONArray (o : Object) (name : String) : Option (List Value) :=
  (o.opt name).bind Value.asArray

/-- `put`. A name that is there keeps its place. -/
def put (o : Object) (name : String) (v : Value) : Object :=
  match o with
  | [] => [(name, v)]
  | field :: o => if field.1 = name then (name, v) :: o else field :: put o name v

/-- `if (v != null) put(name, v)`. -/
def putSome (o : Object) (name : String) (v : Option Value) : Object := v.elim o (o.put name)

variable {o : Object} {name name' : String} {v : Value}

@[simp] theorem opt_nil : opt [] name = none := rfl

@[simp] theorem opt_cons (field : String × Value) :
    opt (field :: o) name = if name = field.1 then some field.2 else opt o name := by
  rw [opt, List.lookup]
  by_cases h : name = field.1
  · rw [if_pos h, h, beq_self_eq_true]
  · rw [if_neg h, beq_false_of_ne h]
    rfl

@[simp] theorem opt_put :
    (o.put name v).opt name' = if name' = name then some v else o.opt name' := by
  induction o with
  | nil => rw [put, opt_cons]
  | cons field o ih =>
    rw [put]
    by_cases hfield : field.1 = name
    · rw [if_pos hfield, opt_cons, opt_cons, hfield]
      by_cases hname : name' = name
      · rw [if_pos hname, if_pos hname]
      · rw [if_neg hname, if_neg hname, if_neg hname]
    · rw [if_neg hfield, opt_cons, opt_cons, ih]
      by_cases hname : name' = field.1
      · rw [if_pos hname, if_pos hname, if_neg (hname ▸ hfield)]
      · rw [if_neg hname, if_neg hname]

@[simp] theorem opt_putSome {v : Option Value} :
    (o.putSome name v).opt name' = if name' = name then v.or (o.opt name') else o.opt name' := by
  cases v with
  | none => rw [putSome, Option.elim_none, Option.none_or, ite_self]
  | some v => rw [putSome, Option.elim_some, opt_put, Option.some_or]

end Object

/-! ### Accessors that coerce -/

/-- What the accessors make of a value: `none` where `opt…` falls back on its default, and where
`getString` throws. Each takes the values of its own type as they are. -/
structure Coercions where
  toText : Value → Option String
  optText : Value → Option String
  optInt : Value → Option Int
  optLong : Value → Option Int
  toText_string (text : String) : toText (.string text) = some text
  optText_string (text : String) : optText (.string text) = some text
  optInt_int (n : Int) : optInt (.int n) = some n
  optLong_long (n : Int) : optLong (.long n) = some n

/-- A version that coerces nothing. -/
def Coercions.strict : Coercions where
  toText | .string text => some text | _ => none
  optText | .string text => some text | _ => none
  optInt | .int n => some n | _ => none
  optLong | .int n => some n | .long n => some n | _ => none
  toText_string _ := rfl
  optText_string _ := rfl
  optInt_int _ := rfl
  optLong_long _ := rfl

attribute [simp] Coercions.toText_string Coercions.optText_string Coercions.optInt_int
  Coercions.optLong_long

namespace Object

variable (c : Coercions) (o : Object) (name : String)

/-- `optString`. -/
def optString (fallback : String) : String := ((o.opt name).bind c.optText).getD fallback

/-- `optInt`. -/
def optInt (fallback : Int) : Int := ((o.opt name).bind c.optInt).getD fallback

/-- `optLong`. -/
def optLong (fallback : Int) : Int := ((o.opt name).bind c.optLong).getD fallback

/-- `getString`, or nothing where it throws. -/
def getString? : Option String := (o.opt name).bind c.toText

end Object

end OrgJson
