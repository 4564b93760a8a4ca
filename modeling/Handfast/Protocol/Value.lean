/-
  Handfast.Protocol.Value

  JSON values as `serde_json::Value` holds them, with the accessors the daemon
  and the plugins read packet bodies through (`get`, `as_str`, `as_bool`,
  `as_u64`, `as_f64`, `as_array`, `as_object`).
-/
import Mathlib.Data.Rat.Defs
import Mathlib.Data.Rat.Floor

namespace Handfast.Protocol

/-- A JSON number: a `u64`, a negative `i64`, or a finite binary64 float.
    Every finite float is a rational, so the float is kept as its value. -/
inductive Number where
  | posInt (n : UInt64)
  | negInt (i : Int)
  | float (q : Rat)
  deriving DecidableEq, Repr

/-- A JSON value.  An object is kept as its fields; the parser leaves each key
    at most once, and a lookup takes the first field of that name. -/
inductive Value where
  | null
  | bool (b : Bool)
  | number (n : Number)
  | string (s : String)
  | array (xs : List Value)
  | object (fields : List (String × Value))
  deriving Repr, Inhabited

abbrev Fields := List (String × Value)

namespace Value

/-- `as_object`: the fields, for an object only. -/
def asObject : Value → Option Fields
  | object fields => some fields
  | _ => none

/-- `get(key)`: the field of that name; `none` for every value that is not an
    object. -/
def get (v : Value) (key : String) : Option Value :=
  match v with
  | object fields => fields.lookup key
  | _ => none

/-- `as_str`. -/
def asStr : Value → Option String
  | string s => some s
  | _ => none

/-- `as_bool`. -/
def asBool : Value → Option Bool
  | bool b => some b
  | _ => none

/-- `as_array`. -/
def asArray : Value → Option (List Value)
  | array xs => some xs
  | _ => none

/-- `as_u64`: non-negative integers only, floats never. -/
def asU64 : Value → Option UInt64
  | number (.posInt n) => some n
  | _ => none

/-- `as_f64`, as the exact number.  (Conversion of a large integer to binary64
    rounds; the one caller clamps the result into `0..=100`, where it does not.) -/
def asF64 : Value → Option Rat
  | number (.posInt n) => some (n.toNat : Rat)
  | number (.negInt i) => some (i : Rat)
  | number (.float q) => some q
  | _ => none

/-- `get(key)` followed by `as_str`. -/
def getStr (v : Value) (key : String) : Option String := (v.get key).bind asStr

variable {fields : Fields} {key k : String} {v : Value}

@[simp] theorem getStr_object_self {s : String} :
    (object ((key, string s) :: fields)).getStr key = some s := by
  simp [getStr, get, List.lookup_cons_self, asStr]

@[simp] theorem getStr_object_of_ne (h : key ≠ k) :
    (object ((k, v) :: fields)).getStr key = (object fields).getStr key := by
  have hne : (key == k) = false := beq_false_of_ne h
  simp [getStr, get, List.lookup_cons, hne]

end Value
end Handfast.Protocol
