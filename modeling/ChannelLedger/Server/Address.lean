/-!
# Addresses to listen on

The address of a socket: an internet address of either version, and a port. Version 4 is written as
four decimal numbers without leading zeros. Version 6 is written as eight hexadecimal groups
between brackets, of which a run of zeros may be left out once and the last two may be written as
an address of version 4; behind a percent sign the number of a zone may follow.

An address has one printed form: lower case, no leading zeros, the first of the longest runs of at
least two zero groups left out, and version 4 inside version 6 written as such.
-/
namespace ChannelLedger.Server

/-- An address of version 4: its four bytes. -/
structure Ipv4 where
  a : UInt8
  b : UInt8
  c : UInt8
  d : UInt8
  deriving DecidableEq, Repr

/-- An address of version 6: its eight groups, and its zone, which is zero for none. -/
structure Ipv6 where
  groups : Vector UInt16 8
  zone : UInt32 := 0
  deriving DecidableEq, Repr

inductive IpAddress where
  | v4 (address : Ipv4)
  | v6 (address : Ipv6)
  deriving DecidableEq, Repr

structure SocketAddress where
  ip : IpAddress
  port : UInt16
  deriving DecidableEq, Repr

/-! ## Writing -/

namespace Ipv4

def text (ip : Ipv4) : String :=
  ".".intercalate ([ip.a, ip.b, ip.c, ip.d].map toString)

/-- The two groups that the four bytes are. -/
def groups (ip : Ipv4) : List UInt16 :=
  [ip.a.toUInt16 * 256 + ip.b.toUInt16, ip.c.toUInt16 * 256 + ip.d.toUInt16]

/-- The four bytes that two groups are. -/
def ofGroups (high low : UInt16) : Ipv4 :=
  ⟨(high / 256).toUInt8, high.toUInt8, (low / 256).toUInt8, low.toUInt8⟩

end Ipv4

namespace Ipv6

/-- Groups between colons. -/
def groupText (groups : List UInt16) : String :=
  ":".intercalate (groups.map fun g => String.ofList (Nat.toDigits 16 g.toNat))

/-- How many zeros stand from a place on. -/
def zerosAt (groups : List UInt16) (start : Nat) : Nat :=
  ((groups.drop start).takeWhile (· = 0)).length

/-- Where the first of the longest runs of zeros begins, and how long it is. -/
def longestZeros (groups : List UInt16) : Nat × Nat :=
  (List.range groups.length).foldl (fun best start =>
    if best.2 < zerosAt groups start then (start, zerosAt groups start) else best) (0, 0)

def text (ip : Ipv6) : String :=
  let groups := ip.groups.toList
  match groups with
  | [0, 0, 0, 0, 0, 0xffff, high, low] => "::ffff:" ++ (Ipv4.ofGroups high low).text
  | _ =>
    let (start, length) := longestZeros groups
    if length ≤ 1 then groupText groups
    else groupText (groups.take start) ++ "::" ++ groupText (groups.drop (start + length))

end Ipv6

def SocketAddress.text (address : SocketAddress) : String :=
  match address.ip with
  | .v4 ip => ip.text ++ ":" ++ toString address.port
  | .v6 ip =>
    let zone := if ip.zone = 0 then "" else "%" ++ toString ip.zone
    "[" ++ ip.text ++ zone ++ "]:" ++ toString address.port

/-! ## Reading -/

/-- How a number is written in an address. -/
structure Numeral where
  base : Nat
  /-- The numbers are below it. -/
  bound : Nat
  /-- How many digits there are at most, if there is such a limit. -/
  places : Option Nat
  /-- Whether zeros may stand in front. -/
  leadingZeros : Bool

namespace Numeral

/-- A byte of an address of version 4. -/
def byte : Numeral := ⟨10, 0x100, some 3, false⟩

/-- A group of an address of version 6. -/
def group : Numeral := ⟨16, 0x10000, some 4, true⟩

def zone : Numeral := ⟨10, 0x100000000, none, true⟩

def port : Numeral := ⟨10, 0x10000, none, true⟩

/-- The value of a digit. -/
def digit? (base : Nat) (c : Char) : Option Nat :=
  let value :=
    if '0' ≤ c ∧ c ≤ '9' then some (c.toNat - 0x30)
    else if 'a' ≤ c ∧ c ≤ 'z' then some (c.toNat - 0x57)
    else if 'A' ≤ c ∧ c ≤ 'Z' then some (c.toNat - 0x37)
    else none
  value.filter (· < base)

/-- Reads the number at the front of a text, with all its digits. -/
def read (numeral : Numeral) (text : List Char) : Option (Nat × List Char) :=
  let isDigit (c : Char) : Bool := (digit? numeral.base c).isSome
  let digits := text.takeWhile isDigit
  let value := digits.foldl (fun n c => n * numeral.base + (digit? numeral.base c).getD 0) 0
  if digits.isEmpty ∨ numeral.places.any (· < digits.length)
      ∨ (!numeral.leadingZeros ∧ digits.head? = some '0' ∧ digits.length ≠ 1)
      ∨ numeral.bound ≤ value then none
  else some (value, text.dropWhile isDigit)

end Numeral

/-- What follows a character at the front of a text. -/
def after (c : Char) : List Char → Option (List Char)
  | d :: rest => if d = c then some rest else none
  | [] => none

/-- Reads an address of version 4. -/
def Ipv4.read (text : List Char) : Option (Ipv4 × List Char) := do
  let (a, rest) ← Numeral.byte.read text
  let (b, rest) ← Numeral.byte.read (← after '.' rest)
  let (c, rest) ← Numeral.byte.read (← after '.' rest)
  let (d, rest) ← Numeral.byte.read (← after '.' rest)
  return (⟨UInt8.ofNat a, UInt8.ofNat b, UInt8.ofNat c, UInt8.ofNat d⟩, rest)

namespace Ipv6

/-- Reads as many groups as there are, but not more than there is room for. A colon stands in front
of each but the first. An address of version 4 takes the place of two groups and is the last;
whether there was one is told as well. -/
def readGroups :
    (room : Nat) → (isFirst : Bool) → List Char → List UInt16 × Bool × List Char
  | 0, _, text => ([], false, text)
  | room + 1, isFirst, text =>
    match if isFirst then some text else after ':' text with
    | none => ([], false, text)
    | some start =>
      match if room = 0 then none else Ipv4.read start with
      | some (ip, rest) => (ip.groups, true, rest)
      | none =>
        match Numeral.group.read start with
        | none => ([], false, text)
        | some (group, rest) =>
          let (groups, endsInV4, rest) := readGroups room false rest
          (UInt16.ofNat group :: groups, endsInV4, rest)

/-- The address of eight groups; places that have none are zero. -/
def ofGroups (groups : List UInt16) : Ipv6 :=
  ⟨Vector.ofFn fun i => groups.getD i.val 0, 0⟩

/-- Reads an address without a zone. -/
def read (text : List Char) : Option (Ipv6 × List Char) :=
  let (front, endsInV4, rest) := readGroups 8 true text
  if front.length = 8 then some (ofGroups front, rest)
  else if endsInV4 then none
  else do
    let rest ← after ':' (← after ':' rest)
    let (back, _, rest) := readGroups (7 - front.length) true rest
    let zeros := List.replicate (8 - front.length - back.length) 0
    return (ofGroups (front ++ zeros ++ back), rest)

/-- Reads an address between brackets. -/
def readBracketed (text : List Char) : Option (Ipv6 × List Char) := do
  let (ip, rest) ← read (← after '[' text)
  let (zone, rest) := ((after '%' rest).bind Numeral.zone.read).getD (0, rest)
  return ({ ip with zone := UInt32.ofNat zone }, ← after ']' rest)

end Ipv6

/-- The address that a text writes. -/
def SocketAddress.ofText? (text : String) : Option SocketAddress := do
  let (ip, rest) ←
    ((Ipv4.read text.toList).map fun (ip, rest) => (IpAddress.v4 ip, rest))
      <|> ((Ipv6.readBracketed text.toList).map fun (ip, rest) => (IpAddress.v6 ip, rest))
  match Numeral.port.read (← after ':' rest) with
  | some (port, []) => return ⟨ip, UInt16.ofNat port⟩
  | _ => none

end ChannelLedger.Server
