import ChannelLedger.Bytes.Basic

/-!
# Reading elements

An element is an identifier, a length and a content. Certificates are written in DER, in one way only, but what
is read is everything that the basic rules allow: a type number may be spelled with more bytes than it needs, a
length may have zero bytes in front or be left open, and a string may be put together of parts.

An open length is closed by an end mark, two zero bytes, behind the last element of the content; an element in
between that is open has a mark of its own. The mark belongs to the content here, so what is inside is read the
same way in both cases, and only at the end it matters whether a mark is due.

What is inside a constructed element is a list of elements, and a type is recognised by matching that list, so
an element that is missing or left over makes the match fail. The contents of integers, object identifiers, bit
strings and truth values are checked as soon as their type is known.
-/
namespace ChannelLedger.Der

namespace Tag

def boolean : UInt8 := 0x01
def integer : UInt8 := 0x02
def bitString : UInt8 := 0x03
def octetString : UInt8 := 0x04
def null : UInt8 := 0x05
def objectIdentifier : UInt8 := 0x06
def enumerated : UInt8 := 0x0a
def utf8String : UInt8 := 0x0c
def numericString : UInt8 := 0x12
def printableString : UInt8 := 0x13
def t61String : UInt8 := 0x14
def ia5String : UInt8 := 0x16
def utcTime : UInt8 := 0x17
def generalizedTime : UInt8 := 0x18
def universalString : UInt8 := 0x1c
def bmpString : UInt8 := 0x1e
def sequence : UInt8 := 0x30
def set : UInt8 := 0x31

/-- An element with this tag consists of others. -/
def isConstructed (tag : UInt8) : Bool :=
  tag &&& 0x20 != 0

/-- Class and number of a type, as the tag of its primitive form. -/
def type (tag : UInt8) : UInt8 :=
  tag &&& 0xdf

end Tag

/-- An element of an encoding. -/
structure Element where
  /-- Class, form and number of the type. No type that is known here has a number over 30; they count as 31. -/
  tag : UInt8
  content : Bytes
  /-- The length is left open, and the content ends with an end mark. -/
  isOpen : Bool
  deriving DecidableEq, Repr

/-! ## Identifier and length -/

/-- Reads the number of a type in groups of seven bits, of which all but the last have the high bit set. The
number has to be below 2³¹. -/
def readTypeNumber : (number : Nat) → Bytes → Option (Nat × Bytes)
  | _, [] => none
  | number, b :: rest =>
    let number := number * 128 + b.toNat % 128
    if 0x80000000 ≤ number then none
    else if b < 0x80 then some (number, rest)
    else readTypeNumber number rest

/-- Reads an identifier. A type number that does not fit in the first byte follows in bytes of its own, and so
may one that would fit. -/
def readIdentifier : Bytes → Option (UInt8 × Bytes)
  | [] => none
  | tag :: rest =>
    if tag % 32 = 31 then do
      let (number, rest) ← readTypeNumber 0 rest
      return (if number < 31 then tag - 31 + UInt8.ofNat number else tag, rest)
    else some (tag, rest)

/-- Reads a length, which may be left open. The long form names the number of its bytes; of these at most eight
may follow the zeros in front, and at least one byte must come after them. -/
def readLength : Bytes → Option (Option Nat × Bytes)
  | [] => none
  | b :: rest =>
    if b < 0x80 then some (some b.toNat, rest)
    else if b = 0x80 then some (none, rest)
    else
      let count := b.toNat - 0x80
      if rest.length ≤ count then none
      else
        let digits := Bytes.trimZeros (rest.take count)
        if 8 < digits.length then none else some (some (Bytes.toNat digits), rest.drop count)

/-- Reads an identifier and a length. A content of the stated length must follow; only a constructed element may
leave the length open. -/
def readHeader (input : Bytes) : Option (UInt8 × Option Nat × Bytes) := do
  let (tag, rest) ← readIdentifier input
  match ← readLength rest with
  | (some length, rest) => if rest.length < length then none else some (tag, some length, rest)
  | (none, rest) => if Tag.isConstructed tag then some (tag, none, rest) else none

/-! ## Elements -/

/-- Drops what is left of contents that are open, `level` of them one inside the other, and their end marks. What
is inside elements of a stated length is passed over. The fuel is the length of the bytes. -/
def dropOpen : (fuel level : Nat) → Bytes → Option Bytes
  | _, 0, input => some input
  | 0, _ + 1, _ => none
  | fuel + 1, level + 1, 0 :: 0 :: rest => dropOpen fuel level rest
  | fuel + 1, level + 1, input => do
    match ← readHeader input with
    | (_, some length, rest) => dropOpen fuel (level + 1) (rest.drop length)
    | (_, none, rest) => dropOpen fuel (level + 2) rest

/-- Reads an element. -/
def readElement (input : Bytes) : Option (Element × Bytes) := do
  match ← readHeader input with
  | (tag, some length, rest) => return (⟨tag, rest.take length, false⟩, rest.drop length)
  | (tag, none, rest) =>
    let behind ← dropOpen rest.length 1 rest
    return (⟨tag, rest.take (rest.length - behind.length), true⟩, behind)

/-- Reads elements until the bytes end, with an end mark if one is due. The fuel is the length of the bytes. -/
def readElements (isOpen : Bool) : (fuel : Nat) → Bytes → Option (List Element)
  | _, [] => if isOpen then none else some []
  | 0, _ => none
  | _ + 1, 0 :: 0 :: rest => if isOpen && rest.isEmpty then some [] else none
  | fuel + 1, input => do
    let (element, rest) ← readElement input
    return element :: (← readElements isOpen fuel rest)

namespace Element

/-- The elements that a content consists of. -/
def elements? (e : Element) : Option (List Element) :=
  readElements e.isOpen e.content.length e.content

/-- The content of an element of the given type. -/
def contentOf? (tag : UInt8) (e : Element) : Option Bytes :=
  if e.tag = tag then some e.content else none

/-- The elements inside an element of the given constructed type. -/
def inside? (tag : UInt8) (e : Element) : Option (List Element) :=
  if e.tag = tag then e.elements? else none

/-- The elements of a list of the given type. It is not asked whether the list is marked as constructed. -/
def listOf? (tag : UInt8) (e : Element) : Option (List Element) :=
  if Tag.type e.tag = Tag.type tag then e.elements? else none

/-! ## Strings -/

/-- How deep the parts of a string may be nested. -/
def maxNesting : Nat := 6

/-- The bytes of a string, which may be put together of parts, of whatever types. -/
def collect : (nesting : Nat) → Element → Option Bytes
  | 0, e => if Tag.isConstructed e.tag then none else some e.content
  | nesting + 1, e =>
    if Tag.isConstructed e.tag then do
      return (← (← e.elements?).mapM (collect nesting)).flatten
    else some e.content

/-- The bytes of a string of the given type. -/
def string? (type : UInt8) (e : Element) : Option Bytes :=
  if Tag.type e.tag = type then e.collect maxNesting else none

/-! ## Contents -/

/-- An integer has at least one byte and no byte in front that only repeats its sign. -/
def isInteger (content : Bytes) : Bool :=
  match content with
  | [] => false
  | [_] => true
  | a :: b :: _ => !(a = 0 && b < 0x80) && !(a = 0xff && 0x80 ≤ b)

/-- An object identifier ends with the last byte of a number, and no number starts with a zero
group. -/
def isObjectIdentifier (content : Bytes) : Bool :=
  match content.getLast? with
  | none => false
  | some last =>
    last < 0x80 &&
      (content.zip (0 :: content)).all fun (b, before) => !(b = 0x80 && before < 0x80)

/-- A bit string starts with the number of bits that its last byte does not use. -/
def isBitString (content : Bytes) : Bool :=
  match content with
  | [] => false
  | unused :: _ => unused ≤ 7

/-- The content of an integer. -/
def integer? (e : Element) : Option Bytes :=
  (e.contentOf? Tag.integer).filter isInteger

/-- The content of an object identifier. -/
def objectIdentifier? (e : Element) : Option Bytes :=
  (e.contentOf? Tag.objectIdentifier).filter isObjectIdentifier

/-- The bytes of a bit string; the bits that are not used count as zero. -/
def bitString? (e : Element) : Option Bytes :=
  match (e.string? Tag.bitString).filter isBitString with
  | some (unused :: bytes) =>
    match bytes.getLast? with
    | none => some []
    | some last => some (bytes.dropLast ++ [(last >>> unused) <<< unused])
  | _ => none

/-- The content suits the type, as far as the type is known here. A string may be put together of parts; the
others may not. -/
def suits (type : UInt8) (content : Bytes) : Bool :=
  if type = Tag.boolean then content.length == 1
  else if type = Tag.integer ∨ type = Tag.enumerated then isInteger content
  else if type = Tag.bitString then isBitString content
  else if type = Tag.null then content.isEmpty
  else if type = Tag.objectIdentifier then isObjectIdentifier content
  else if type = Tag.bmpString then content.length % 2 == 0
  else if type = Tag.universalString then content.length % 4 == 0
  else type != Tag.type Tag.sequence && type != Tag.type Tag.set

/-- The types whose elements never consist of others. -/
def primitiveTypes : List UInt8 :=
  [Tag.boolean, Tag.integer, Tag.null, Tag.objectIdentifier, Tag.enumerated]

/-- An element of any type. What is inside sequences, sets and elements of a type that is not universal is not
looked at. -/
def isAny (e : Element) : Bool :=
  if 0x40 ≤ e.tag ∨ e.tag = Tag.sequence ∨ e.tag = Tag.set then true
  else if Tag.isConstructed e.tag ∧ Tag.type e.tag ∈ primitiveTypes then false
  else
    match e.collect maxNesting with
    | some content => suits (Tag.type e.tag) content
    | none => false

end Element

end ChannelLedger.Der
