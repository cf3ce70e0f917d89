import ChannelLedger.Json.Basic

/-!
# Records as JSON

A record is an object with a field of its own for each component. In an object, fields that the
record does not know are ignored, but a known field must not stand there twice. A record may also
be written as the array of its components in order, which must then be complete; the empty array is
no record.

A component is read from its field, if the field is there. An absent component reads as its
default where it has one: `null` and an absent field both mean that an optional value is missing.
-/
namespace ChannelLedger.Json

/-- The values of the named fields of an object, in the order of the names. -/
def fieldsOf? (names : List String) (fields : List (String × Json)) : Option (List (Option Json)) :=
  names.mapM fun name =>
    match fields.filter (·.1 = name) with
    | [] => some none
    | [(_, value)] => some (some value)
    | _ => none

/-- The components of a record with the given field names. -/
def components? (names : List String) : Json → Option (List (Option Json))
  | .object fields => fieldsOf? names fields
  | .array [] => none
  | .array items => if items.length = names.length then some (items.map some) else none
  | _ => none

/-! ## Components -/

/-- A component that must be there. -/
def required {α : Type} (read : Json → Option α) (component : Option Json) : Option α :=
  component.bind read

/-- A component that may be absent or `null`. -/
def optional? {α : Type} (read : Json → Option α) : Option Json → Option (Option α)
  | none | some .null => some none
  | some json => (read json).map some

/-- A component that has a default if it is absent. -/
def withDefault {α : Type} (default : α) (read : Json → Option α) : Option Json → Option α
  | none => some default
  | some json => read json

def string? : Json → Option String
  | .string s => some s
  | _ => none

def bool? : Json → Option Bool
  | .bool b => some b
  | _ => none

/-- A non-negative integer below the bound. -/
def natBelow? (bound : Nat) : Json → Option Nat
  | .int (.ofNat n) => if n < bound then some n else none
  | _ => none

/-- A count or a number of 64 bits. -/
def nat64? : Json → Option Nat :=
  natBelow? 0x10000000000000000

def uint64? (json : Json) : Option UInt64 :=
  (nat64? json).map UInt64.ofNat

def uint8? (json : Json) : Option UInt8 :=
  (natBelow? 0x100 json).map UInt8.ofNat

def int32? : Json → Option Int32
  | .int n => if -0x80000000 ≤ n ∧ n < 0x80000000 then some (Int32.ofInt n) else none
  | _ => none

/-- An array of records or values. -/
def list? {α : Type} (read : Json → Option α) : Json → Option (List α)
  | .array items => items.mapM read
  | _ => none

end ChannelLedger.Json
