/-!
# Decimal numbers in text

Numbers as users write them: ASCII digits, leading zeros allowed, with a plus sign in front if one
likes. A number outside its range is no number.
-/
namespace ChannelLedger.Decimal

/-- The value of a digit. -/
def digit? (c : Char) : Option Nat :=
  if '0' ≤ c ∧ c ≤ '9' then some (c.toNat - 0x30) else none

/-- The number that at least one digit writes. -/
def ofDigits? (digits : List Char) : Option Nat :=
  if digits.isEmpty then none
  else digits.foldlM (fun n c => (digit? c).map (10 * n + ·)) 0

/-- The natural number below the bound that a text writes. -/
def natural? (bound : Nat) (s : String) : Option Nat :=
  (match s.toList with
    | '+' :: digits => ofDigits? digits
    | digits => ofDigits? digits).filter (· < bound)

/-- The integer of 32 bits that a text writes. -/
def int32? (s : String) : Option Int32 :=
  match s.toList with
  | '-' :: digits =>
    ((ofDigits? digits).filter (· ≤ 0x80000000)).map fun n => Int32.ofInt (-(n : Int))
  | _ => (natural? 0x80000000 s).map fun n => Int32.ofNat n

def uint64? (s : String) : Option UInt64 :=
  (natural? 0x10000000000000000 s).map UInt64.ofNat

def uint16? (s : String) : Option UInt16 :=
  (natural? 0x10000 s).map UInt16.ofNat

end ChannelLedger.Decimal
