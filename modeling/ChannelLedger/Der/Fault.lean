import ChannelLedger.Der.Reader

/-!
# Why bytes are no sequence

What is wrong with the first element of a byte string that should be a sequence, as far as its
identifier and length say. Each fault has a registered number, under which it is reported.
-/
namespace ChannelLedger.Der

inductive Fault where
  /-- There are no bytes. -/
  | empty
  /-- The identifier or the length is not complete. -/
  | header
  /-- The content reaches past the end of the bytes. -/
  | tooLong
  /-- The element, or one inside it, is of another type than expected. -/
  | type
  deriving DecidableEq, Repr

namespace Fault

/-- The registered number, in hexadecimal, with where the fault is found and what it is. -/
def message : Fault → String
  | .empty => "error:068000E0:asn1 encoding routines:asn1_item_embed_d2i:too small"
  | .header => "error:0680007B:asn1 encoding routines:ASN1_get_object:header too long"
  | .tooLong => "error:0680009B:asn1 encoding routines:ASN1_get_object:too long"
  | .type => "error:068000A8:asn1 encoding routines:asn1_check_tlen:wrong tag"

/-- The fault of a byte string that does not begin with a sequence. -/
def ofSequence (input : Bytes) : Fault :=
  if input.isEmpty then .empty
  else
    match readIdentifier input with
    | none => .header
    | some (tag, rest) =>
      match readLength rest with
      | none => .header
      | some (some length, rest) => if rest.length < length then .tooLong else .type
      | some (none, _) => if Tag.isConstructed tag then .type else .header

end Fault

end ChannelLedger.Der
