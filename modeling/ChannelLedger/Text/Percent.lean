import ChannelLedger.Bytes.Hex
import ChannelLedger.Text.Utf8

/-!
# Percent escapes and forms

In the path and the query of a web address a byte may be written as a percent sign and two
hexadecimal digits; a percent sign that no two digits follow stands for itself. A query may be a
form: names and values in pairs, where a plus sign stands for a blank.
-/
namespace ChannelLedger

namespace Percent

/-- The percent sign. -/
def sign : UInt8 := 0x25

/-- The bytes that a byte string with escapes stands for. -/
def decode : Bytes → Bytes
  | [] => []
  | [a] => [a]
  | [a, b] => [a, b]
  | a :: high :: low :: rest =>
    if a = sign then
      match Hex.value? high, Hex.value? low with
      | some h, some l => UInt8.ofNat (16 * h + l) :: decode rest
      | _, _ => a :: decode (high :: low :: rest)
    else a :: decode (high :: low :: rest)

end Percent

namespace Form

/-- The text of a name or a value; what is not UTF-8 in it is replaced. -/
def decode (written : List Char) : String :=
  let bytes := Bytes.ofText (String.ofList (written.map fun c => if c = '+' then ' ' else c))
  Utf8.lossy (Percent.decode bytes)

/-- The pairs of a form in their order. Pairs stand between ampersands, and the first equals sign
of a pair divides it. -/
def pairs (form : String) : List (String × String) :=
  ((form.splitOn "&").filter (· ≠ "")).map fun pair =>
    let (name, value) := pair.toList.span (· ≠ '=')
    (decode name, decode (value.drop 1))

/-- The component of a form that goes by a name: its default if the name does not stand in the
form, and nothing if it stands there twice or its value cannot be read. -/
def component? {α : Type} (pairs : List (String × String)) (name : String) (default : α)
    (read : String → Option α) : Option α :=
  match pairs.filter (·.1 = name) with
  | [] => some default
  | [(_, value)] => read value
  | _ => none

end Form

end ChannelLedger
