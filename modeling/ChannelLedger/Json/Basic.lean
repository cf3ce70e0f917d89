/-!
# JSON values

The interchange form of every record. The fields of an object keep their order, since printed
records list their fields in a fixed order, and an integer keeps all its digits: block numbers use
the whole range of 64 bits. A number with a fraction or an exponent is no integer, whatever its
value; only its text is kept, because no record holds one.
-/
namespace ChannelLedger

inductive Json where
  | null
  | bool (value : Bool)
  | int (value : Int)
  /-- A number that is not written as an integer, or that no 64-bit integer holds. -/
  | real (text : String)
  | string (value : String)
  | array (items : List Json)
  | object (fields : List (String × Json))
  deriving Inhabited

namespace Json

/-- A number as JSON. -/
def nat (n : Nat) : Json := .int n

/-- An absent value is `null`. -/
def optional (f : α → Json) : Option α → Json
  | none => .null
  | some a => f a

/-- The value of the first field of that name; `none` also for what is no object. -/
def field? (name : String) : Json → Option Json
  | .object fields => fields.lookup name
  | _ => none

end Json

end ChannelLedger
