import PipeBolt.Domain.Rule
import PipeBolt.Rust.F64

/-!
# JSON values

The operations of `serde_json::Value` that the core uses: equality, lookup in an object, and the
reading of a number as an `f64`.
-/

namespace PipeBolt
namespace Domain

open Rust

/-- `Number::as_f64`: every number has one. -/
def Number.asF64 : Number → F64
  | .posInt value => .ofNat value.toNat
  | .negInt value => .ofInt value.toInt
  | .float bits => .ofBits bits

/-- `PartialEq` of `Number`: numbers of different kinds differ, and floats are compared as such. -/
def Number.eq : Number → Number → Bool
  | .posInt m, .posInt n => m == n
  | .negInt m, .negInt n => m == n
  | .float m, .float n => F64.ofBits m == F64.ofBits n
  | .posInt _, _ | .negInt _, _ | .float _, _ => false

mutual

/-- `PartialEq` of `Value`. -/
def Value.eq : Value → Value → Bool
  | .null, .null => true
  | .bool a, .bool b => a == b
  | .number a, .number b => a.eq b
  | .string a, .string b => a == b
  | .array a, .array b => Value.eqArray a b
  | .object a, .object b => Value.eqObject a b
  | .null, _ | .bool _, _ | .number _, _ | .string _, _ | .array _, _ | .object _, _ => false

/-- The elements of two arrays, one by one. -/
def Value.eqArray : List Value → List Value → Bool
  | [], [] => true
  | a :: as, b :: bs => Value.eq a b && Value.eqArray as bs
  | [], _ :: _ | _ :: _, [] => false

/-- The entries of two objects, one by one in key order. -/
def Value.eqObject : List (String × Value) → List (String × Value) → Bool
  | [], [] => true
  | (k, a) :: as, (l, b) :: bs => k == l && Value.eq a b && Value.eqObject as bs
  | [], _ :: _ | _ :: _, [] => false

end

/-- `Value::get` with a key. -/
def Value.get : Value → String → Option Value
  | .object entries, key => (entries.find? fun entry => entry.1 == key).map Prod.snd
  | .null, _ | .bool _, _ | .number _, _ | .string _, _ | .array _, _ => none

/-- `Value::as_f64`. -/
def Value.asF64 : Value → Option F64
  | .number value => some value.asF64
  | .null | .bool _ | .string _ | .array _ | .object _ => none

/-- `get_json_path`: the same loop in the rule engine and in the normalizer. -/
def getJsonPath (value : Value) : List String → Option Value
  | [] => some value
  | segment :: segments => (value.get segment).bind fun value => getJsonPath value segments

end Domain
end PipeBolt
