import ChannelLedger.Json.Basic

/-!
# Reading JSON

The grammar of JSON with three limits: values nest at most 127 deep, a number must be finite as a
double, and a `\u` escape must denote a character (surrogates come in pairs). Nothing but blanks may
follow the value. The limits hold everywhere in a text. The program is less strict where it has no
use for a value: what stands in a field that a record does not have may nest deeper and may be a
number out of range.

Every reader takes the characters that are left and answers with what it read and the characters
after that, or with nothing if the text is malformed.
-/
namespace ChannelLedger.Json.Reader

/-- The text left over by a reader. -/
abbrev Input := List Char

def isBlank (c : Char) : Bool :=
  c = ' ' || c = '\n' || c = '\t' || c = '\r'

def skipBlanks (input : Input) : Input :=
  input.dropWhile isBlank

/-- Reads the given characters. -/
def keyword (word : List Char) (input : Input) : Option Input :=
  if word.isPrefixOf input then some (input.drop word.length) else none

/-! ## Strings -/

def hexValue? (c : Char) : Option Nat :=
  if '0' ≤ c ∧ c ≤ '9' then some (c.toNat - 0x30)
  else if 'a' ≤ c ∧ c ≤ 'f' then some (c.toNat - 0x57)
  else if 'A' ≤ c ∧ c ≤ 'F' then some (c.toNat - 0x37)
  else none

/-- The number written by four hexadecimal digits. -/
def fourDigits : Input → Option (Nat × Input)
  | a :: b :: c :: d :: rest => do
    let a ← hexValue? a
    let b ← hexValue? b
    let c ← hexValue? c
    let d ← hexValue? d
    return (((a * 16 + b) * 16 + c) * 16 + d, rest)
  | _ => none

/-- The character of a `\u` escape, whose digits come next; a leading surrogate needs a second
escape with a trailing one. -/
def unicode (input : Input) : Option (Char × Input) := do
  let (high, rest) ← fourDigits input
  if 0xd800 ≤ high ∧ high < 0xdc00 then
    match rest with
    | '\\' :: 'u' :: rest =>
      let (low, rest) ← fourDigits rest
      if 0xdc00 ≤ low ∧ low < 0xe000 then
        return (Char.ofNat (0x10000 + (high - 0xd800) * 0x400 + (low - 0xdc00)), rest)
      else none
    | _ => none
  else if 0xdc00 ≤ high ∧ high < 0xe000 then none
  else return (Char.ofNat high, rest)

/-- The character of an escape, whose letter comes next. -/
def escaped : Input → Option (Char × Input)
  | '"' :: rest => some ('"', rest)
  | '\\' :: rest => some ('\\', rest)
  | '/' :: rest => some ('/', rest)
  | 'b' :: rest => some ('\x08', rest)
  | 'f' :: rest => some ('\x0c', rest)
  | 'n' :: rest => some ('\n', rest)
  | 'r' :: rest => some ('\r', rest)
  | 't' :: rest => some ('\t', rest)
  | 'u' :: rest => unicode rest
  | _ => none

/-- The characters up to the closing quote, and the text after it. Each step reads at least one
character, so the length of the text is fuel enough. -/
def characters : (fuel : Nat) → Input → Option (List Char × Input)
  | 0, _ => none
  | _ + 1, [] => none
  | fuel + 1, c :: rest =>
    if c = '"' then some ([], rest)
    else if c = '\\' then do
      let (c, rest) ← escaped rest
      let (cs, rest) ← characters fuel rest
      return (c :: cs, rest)
    else if c.toNat < 0x20 then none
    else do
      let (cs, rest) ← characters fuel rest
      return (c :: cs, rest)

/-- A string whose opening quote has been read. -/
def string (input : Input) : Option (String × Input) :=
  (characters (input.length + 1) input).map fun (cs, rest) => (String.ofList cs, rest)

/-! ## Numbers -/

def digits (input : Input) : List Char × Input :=
  (input.takeWhile Char.isDigit, input.dropWhile Char.isDigit)

def digitsValue (ds : List Char) : Nat :=
  ds.foldl (fun n d => n * 10 + (d.toNat - 0x30)) 0

/-- The part of a number before the point: no zero in front of further digits. -/
def whole (input : Input) : Option (List Char × Input) :=
  match digits input with
  | ([], _) => none
  | ('0' :: _ :: _, _) => none
  | (ds, rest) => some (ds, rest)

/-- The digits after the point, if there is one. -/
def fraction : Input → Option (List Char × Input)
  | '.' :: rest =>
    match digits rest with
    | ([], _) => none
    | (ds, rest) => some (ds, rest)
  | input => some ([], input)

/-- The exponent, if there is one. -/
def exponent : Input → Option (Option Int × Input)
  | [] => some (none, [])
  | e :: rest =>
    if e = 'e' ∨ e = 'E' then
      let (negative, rest) :=
        match rest with
        | '-' :: rest => (true, rest)
        | '+' :: rest => (false, rest)
        | rest => (false, rest)
      match digits rest with
      | ([], _) => none
      | (ds, rest) =>
        let n : Int := digitsValue ds
        some (some (if negative then -n else n), rest)
    else some (none, e :: rest)

/-- Whether `mantissa` times ten to the power `exp` is below the range of a double: less than the
number halfway between the largest finite double and the next power of two. -/
def isFinite (mantissa : Nat) (exp : Int) : Bool :=
  let size := (Nat.toDigits 10 mantissa).length + exp
  if mantissa = 0 ∨ size < 300 then true
  else if size > 400 then false
  else
    let limit := Nat.pow 2 1024 - Nat.pow 2 970
    if exp < 0 then mantissa < limit * Nat.pow 10 (-exp).toNat
    else mantissa * Nat.pow 10 exp.toNat < limit

/-- A number, sign included. Minus zero is no integer. -/
def number (input : Input) : Option (Json × Input) := do
  let (negative, start) :=
    match input with
    | '-' :: rest => (true, rest)
    | rest => (false, rest)
  let (wholeDigits, rest) ← whole start
  let (fractionDigits, rest) ← fraction rest
  let (exp, rest) ← exponent rest
  let n := digitsValue wholeDigits
  let inRange := if negative then 0 < n && n ≤ 0x8000000000000000 else n < 0x10000000000000000
  if fractionDigits.isEmpty ∧ exp.isNone ∧ inRange then
    return (.int (if negative then -(n : Int) else n), rest)
  else if isFinite (digitsValue (wholeDigits ++ fractionDigits))
      (exp.getD 0 - fractionDigits.length) then
    return (.real (String.ofList (input.take (input.length - rest.length))), rest)
  else none

/-! ## Values -/

/-- The items of an array up to its closing bracket, each read by `item`. -/
def items (item : Input → Option (Json × Input)) :
    (fuel : Nat) → Input → Option (List Json × Input)
  | 0, _ => none
  | fuel + 1, input => do
    let (value, rest) ← item (skipBlanks input)
    match skipBlanks rest with
    | ',' :: rest =>
      let (values, rest) ← items item fuel rest
      return (value :: values, rest)
    | ']' :: rest => return ([value], rest)
    | _ => none

/-- The fields of an object up to its closing brace, each value read by `item`. -/
def fields (item : Input → Option (Json × Input)) :
    (fuel : Nat) → Input → Option (List (String × Json) × Input)
  | 0, _ => none
  | fuel + 1, input =>
    match skipBlanks input with
    | '"' :: rest => do
      let (name, rest) ← string rest
      match skipBlanks rest with
      | ':' :: rest =>
        let (value, rest) ← item (skipBlanks rest)
        match skipBlanks rest with
        | ',' :: rest =>
          let (values, rest) ← fields item fuel rest
          return ((name, value) :: values, rest)
        | '\x7d' :: rest => return ([(name, value)], rest)
        | _ => none
      | _ => none
    | _ => none

/-- A value that starts at the first character; `depth` more levels may open. -/
def value (depth : Nat) (input : Input) : Option (Json × Input) :=
  match input with
  | 'n' :: _ => (keyword "null".toList input).map (Json.null, ·)
  | 't' :: _ => (keyword "true".toList input).map (Json.bool true, ·)
  | 'f' :: _ => (keyword "false".toList input).map (Json.bool false, ·)
  | '"' :: rest => (string rest).map fun (s, rest) => (.string s, rest)
  | '[' :: rest =>
    match depth with
    | 0 => none
    | depth + 1 =>
      match skipBlanks rest with
      | ']' :: rest => some (.array [], rest)
      | rest => (items (value depth) (rest.length + 1) rest).map fun (vs, rest) => (.array vs, rest)
  | '\x7b' :: rest =>
    match depth with
    | 0 => none
    | depth + 1 =>
      match skipBlanks rest with
      | '\x7d' :: rest => some (.object [], rest)
      | rest =>
        (fields (value depth) (rest.length + 1) rest).map fun (fs, rest) => (.object fs, rest)
  | _ => number input
  termination_by depth

end ChannelLedger.Json.Reader

namespace ChannelLedger.Json

/-- How deep values may nest. -/
def maxDepth : Nat := 127

/-- The value a text denotes. -/
def parse? (s : String) : Option Json := do
  let (value, rest) ← Reader.value maxDepth (Reader.skipBlanks s.toList)
  if (Reader.skipBlanks rest).isEmpty then some value else none

end ChannelLedger.Json
